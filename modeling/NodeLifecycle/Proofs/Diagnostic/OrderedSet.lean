import Mathlib.Data.List.DropRight
import NodeLifecycle.Diagnostic.Report
import NodeLifecycle.Proofs.FirstOccurrences

/-!
# Reports as ordered sets

However a report came about, it is in the state of a new report to which everything was added that
was added since the report was last cleared.  It lists the first occurrences of these diagnostics,
and it answers every question as this list does.
-/

namespace NodeLifecycle
namespace Report

/-! ## Answers -/

/-- Adding diagnostics that are there already changes nothing, however often and in whatever order
they are added. -/
theorem extend_of_subset {report : Report} {diagnostics : List Diagnostic}
    (known : diagnostics ⊆ report.items) : report.extend diagnostics = report := by
  induction diagnostics with
  | nil => rfl
  | cons diagnostic rest ih =>
      obtain ⟨present, others⟩ := List.cons_subset.mp known
      rw [extend, List.foldl_cons, insert_of_mem present, ← extend, ih others]

/-- A report answers like an ordered set with the given elements. -/
structure AnswersAs (report : Report) (elements : List Diagnostic) : Prop where
  /-- It lists the elements. -/
  items_eq : report.items = elements
  /-- Each element is listed once. -/
  nodup : elements.Nodup
  /-- It is the report that was made from the elements, so nothing else has left a trace in it. -/
  eq_ofList : report = ofList elements
  /-- A diagnostic is new unless it is an element. -/
  isNew_iff : ∀ diagnostic, (report.push diagnostic).1 = true ↔ diagnostic ∉ elements
  /-- The elements are counted. -/
  count_eq : report.count = elements.length
  /-- The report is empty if there are no elements. -/
  isEmpty_iff : report.isEmpty = true ↔ elements = []
  /-- There are errors if an element is one. -/
  hasErrors_iff : report.hasErrors = true ↔ ∃ element ∈ elements, element.severity = .error
  /-- There are warnings if an element is one. -/
  hasWarnings_iff : report.hasWarnings = true ↔ ∃ element ∈ elements, element.severity = .warning
  /-- The elements that are warnings are counted. -/
  warningCount_eq :
    report.warningCount = elements.countP fun element => element.severity == .warning
  /-- The diagnostics about a rule are the elements about it, in their order. -/
  withRule_eq : ∀ rule, report.withRule rule = elements.filter fun element => element.rule == rule
  /-- Adding elements again changes nothing. -/
  extend_eq : ∀ again, again.Sublist elements → report.extend again = report

theorem answersAs_items (report : Report) : report.AnswersAs report.items where
  items_eq := rfl
  nodup := report.nodup_items
  eq_ofList := eq_of_items_eq (items_ofList_of_nodup report.nodup_items).symm
  isNew_iff diagnostic := by rw [push, Bool.not_eq_true', ← Bool.not_eq_true, contains_iff]
  count_eq := rfl
  isEmpty_iff := List.isEmpty_iff
  hasErrors_iff := report.errorSeen_iff
  hasWarnings_iff := by simp [hasWarnings]
  warningCount_eq := by rw [warningCount, warnings, List.countP_eq_length_filter]
  withRule_eq _ := rfl
  extend_eq _ listed := extend_of_subset listed.subset

theorem items_ofList (diagnostics : List Diagnostic) :
    (ofList diagnostics).items = diagnostics.eraseDups := by
  rw [← FirstOccurrences.foldl_addNew]
  refine (List.foldl_hom items ?_).symm
  intro report diagnostic
  rw [items_insert, FirstOccurrences.addNew]

/-! ## Histories -/

/-- What can be done to a report. -/
inductive Operation where
  /-- Add a diagnostic. -/
  | push (diagnostic : Diagnostic)
  /-- Add diagnostics one after the other. -/
  | extend (diagnostics : List Diagnostic)
  /-- Take all diagnostics out. -/
  | clear
deriving DecidableEq

namespace Operation

/-- The diagnostics that an operation adds, new or not. -/
def added : Operation → List Diagnostic
  | push diagnostic => [diagnostic]
  | extend diagnostics => diagnostics
  | clear => []

/-- What is added by the operations after the last one that clears, in order and with
repetitions. -/
def addedSinceClear (operations : List Operation) : List Diagnostic :=
  (operations.rtakeWhile fun operation => operation ≠ clear).flatMap added

/-- The report after an operation. -/
def apply (report : Report) : Operation → Report
  | push diagnostic => (report.push diagnostic).2
  | extend diagnostics => report.extend diagnostics
  | clear => report.clear

theorem addedSinceClear_concat (operations : List Operation) (operation : Operation) :
    addedSinceClear (operations ++ [operation]) =
      if operation = clear then [] else addedSinceClear operations ++ operation.added := by
  rw [addedSinceClear, List.rtakeWhile_concat, addedSinceClear]
  by_cases cleared : operation = clear <;> simp [cleared]

/-- An operation on a report that was made from a list makes it a report that is made from what the
operation leaves of the list and adds to it. -/
theorem apply_ofList (diagnostics : List Diagnostic) (operation : Operation) :
    operation.apply (ofList diagnostics) =
      ofList (if operation = clear then [] else diagnostics ++ operation.added) := by
  cases operation with
  | push diagnostic => exact (extend_append empty diagnostics [diagnostic]).symm
  | extend others => exact (extend_append empty diagnostics others).symm
  | clear => rfl

end Operation

def after (operations : List Operation) : Report :=
  operations.foldl Operation.apply empty

/-- Nothing from before the last clearing is left, and nothing added since then is lost. -/
theorem after_eq_ofList (operations : List Operation) :
    after operations = ofList (Operation.addedSinceClear operations) := by
  induction operations using List.reverseRecOn with
  | nil => rfl
  | append_singleton operations operation ih =>
      rw [after, List.foldl_concat, ← after, ih, Operation.apply_ofList,
        Operation.addedSinceClear_concat]

/-- After any operations, a report answers like the ordered set of the diagnostics that were added
since it was last cleared, each in the place where it was first added. -/
theorem answersAs_after (operations : List Operation) :
    (after operations).AnswersAs (Operation.addedSinceClear operations).eraseDups := by
  have listed : (after operations).items =
      (Operation.addedSinceClear operations).eraseDups := by
    rw [after_eq_ofList, items_ofList]
  rw [← listed]
  exact answersAs_items (after operations)

end Report
end NodeLifecycle
