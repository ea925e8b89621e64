import Std.Data.ExtHashSet
import NodeLifecycle.Diagnostic.Basic

/-!
# Reports

A report is an ordered set of diagnostics: each stands where it was first added, and adding it
again changes nothing.  Beside the list it keeps the set of what it holds, so that a diagnostic need
not be searched for, and whether an error is among it.  The three are kept in step, so a report is
determined by its list.
-/

namespace NodeLifecycle

/-- Distinct diagnostics in the order in which they were first added. -/
structure Report where
  /-- The diagnostics. -/
  items : List Diagnostic
  /-- The diagnostics as a set. -/
  seen : Std.ExtHashSet Diagnostic
  /-- Whether an error was added. -/
  errorSeen : Bool
  /-- No diagnostic is listed twice. -/
  nodup_items : items.Nodup
  /-- The set holds what is listed. -/
  mem_seen_iff : ∀ diagnostic, diagnostic ∈ seen ↔ diagnostic ∈ items
  /-- An error was added exactly if one is listed. -/
  errorSeen_iff : errorSeen = true ↔ ∃ diagnostic ∈ items, diagnostic.severity = .error

namespace Report

def empty : Report where
  items := []
  seen := ∅
  errorSeen := false
  nodup_items := List.nodup_nil
  mem_seen_iff := by simp
  errorSeen_iff := by simp

def contains (report : Report) (diagnostic : Diagnostic) : Bool :=
  report.seen.contains diagnostic

/-- Append a diagnostic that is new. -/
def append (report : Report) (diagnostic : Diagnostic) (fresh : diagnostic ∉ report.items) :
    Report where
  items := report.items ++ [diagnostic]
  seen := report.seen.insert diagnostic
  errorSeen := report.errorSeen || diagnostic.severity == .error
  nodup_items := by
    refine List.nodup_append.mpr ⟨report.nodup_items, by simp, ?_⟩
    rintro known listed other new rfl
    exact fresh (List.mem_singleton.mp new ▸ listed)
  mem_seen_iff other := by
    rw [Std.ExtHashSet.mem_insert, report.mem_seen_iff, List.mem_append, List.mem_singleton,
      beq_iff_eq, or_comm, eq_comm]
  errorSeen_iff := by
    simp [report.errorSeen_iff, or_and_right, exists_or]

/-- Add a diagnostic at the end, unless it is there already. -/
def insert (report : Report) (diagnostic : Diagnostic) : Report :=
  if known : diagnostic ∈ report.seen then
    report
  else
    report.append diagnostic fun listed => known ((report.mem_seen_iff diagnostic).mpr listed)

/-- Add a diagnostic, and say whether it is new. -/
def push (report : Report) (diagnostic : Diagnostic) : Bool × Report :=
  (!report.contains diagnostic, report.insert diagnostic)

/-- Add diagnostics one after the other. -/
def extend (report : Report) (diagnostics : List Diagnostic) : Report :=
  diagnostics.foldl insert report

def clear (_ : Report) : Report :=
  empty

/-- The report that holds the given diagnostics. -/
def ofList (diagnostics : List Diagnostic) : Report :=
  empty.extend diagnostics

def count (report : Report) : Nat :=
  report.items.length

def isEmpty (report : Report) : Bool :=
  report.items.isEmpty

def hasErrors (report : Report) : Bool :=
  report.errorSeen

def warnings (report : Report) : List Diagnostic :=
  report.items.filter fun diagnostic => diagnostic.severity == .warning

def warningCount (report : Report) : Nat :=
  report.warnings.length

def hasWarnings (report : Report) : Bool :=
  report.items.any fun diagnostic => diagnostic.severity == .warning

/-- The diagnostics about one rule. -/
def withRule (report : Report) (rule : Rule) : List Diagnostic :=
  report.items.filter fun diagnostic => diagnostic.rule == rule

/-- The lines that show the diagnostics, one each. -/
def display (report : Report) : String :=
  String.join (report.items.map fun diagnostic => diagnostic.display ++ "\n")

@[simp] theorem items_empty : empty.items = [] := rfl

@[simp] theorem contains_iff {report : Report} {diagnostic : Diagnostic} :
    report.contains diagnostic = true ↔ diagnostic ∈ report.items := by
  rw [contains, ← Std.ExtHashSet.mem_iff_contains, report.mem_seen_iff]

theorem eq_of_items_eq {left right : Report} (same : left.items = right.items) : left = right := by
  have seen_eq : left.seen = right.seen := by
    apply Std.ExtHashSet.ext_mem
    intro diagnostic
    rw [left.mem_seen_iff, right.mem_seen_iff, same]
  have errorSeen_eq : left.errorSeen = right.errorSeen := by
    rw [Bool.eq_iff_iff, left.errorSeen_iff, right.errorSeen_iff, same]
  cases left
  cases right
  congr

theorem insert_of_mem {report : Report} {diagnostic : Diagnostic}
    (present : diagnostic ∈ report.items) : report.insert diagnostic = report :=
  dif_pos ((report.mem_seen_iff diagnostic).mpr present)

theorem insert_of_not_mem {report : Report} {diagnostic : Diagnostic}
    (fresh : diagnostic ∉ report.items) :
    report.insert diagnostic = report.append diagnostic fresh :=
  dif_neg (mt (report.mem_seen_iff diagnostic).mp fresh)

theorem items_insert (report : Report) (diagnostic : Diagnostic) :
    (report.insert diagnostic).items =
      if diagnostic ∈ report.items then report.items else report.items ++ [diagnostic] := by
  split
  · rename_i present
    rw [insert_of_mem present]
  · rename_i fresh
    rw [insert_of_not_mem fresh, append]

@[simp] theorem mem_items_insert {report : Report} {diagnostic other : Diagnostic} :
    other ∈ (report.insert diagnostic).items ↔ other ∈ report.items ∨ other = diagnostic := by
  rw [items_insert]
  split
  · constructor
    · exact Or.inl
    · rintro (member | rfl) <;> assumption
  · simp

@[simp] theorem mem_items_extend {report : Report} {diagnostics : List Diagnostic}
    {other : Diagnostic} :
    other ∈ (report.extend diagnostics).items ↔ other ∈ report.items ∨ other ∈ diagnostics := by
  induction diagnostics generalizing report with
  | nil => simp [extend]
  | cons diagnostic rest ih =>
      rw [extend, List.foldl_cons, ← extend, ih, mem_items_insert, List.mem_cons, or_assoc]

@[simp] theorem mem_items_ofList {diagnostics : List Diagnostic} {diagnostic : Diagnostic} :
    diagnostic ∈ (ofList diagnostics).items ↔ diagnostic ∈ diagnostics := by
  rw [ofList, mem_items_extend, items_empty, or_iff_right List.not_mem_nil]

@[simp] theorem extend_append (report : Report) (left right : List Diagnostic) :
    report.extend (left ++ right) = (report.extend left).extend right :=
  List.foldl_append

theorem items_prefix_items_extend (report : Report) (diagnostics : List Diagnostic) :
    report.items <+: (report.extend diagnostics).items := by
  induction diagnostics generalizing report with
  | nil => exact List.prefix_rfl
  | cons diagnostic rest induction =>
      refine List.IsPrefix.trans ?_ (induction (report.insert diagnostic))
      rw [items_insert]
      split
      · exact List.prefix_rfl
      · exact List.prefix_append _ _

/-- Where nothing is repeated, nothing is dropped. -/
theorem items_extend_of_nodup {report : Report} {diagnostics : List Diagnostic}
    (distinct : (report.items ++ diagnostics).Nodup) :
    (report.extend diagnostics).items = report.items ++ diagnostics := by
  induction diagnostics generalizing report with
  | nil => exact (List.append_nil _).symm
  | cons diagnostic rest induction =>
      have fresh : diagnostic ∉ report.items := fun present =>
        (List.nodup_append.mp distinct).2.2 diagnostic present diagnostic List.mem_cons_self rfl
      have inserted : (report.insert diagnostic).items = report.items ++ [diagnostic] := by
        rw [items_insert, if_neg fresh]
      rw [List.append_cons, ← inserted] at distinct
      rw [extend, List.foldl_cons, ← extend, induction distinct, inserted, List.append_assoc,
        List.singleton_append]

theorem items_ofList_of_nodup {diagnostics : List Diagnostic} (distinct : diagnostics.Nodup) :
    (ofList diagnostics).items = diagnostics :=
  items_extend_of_nodup distinct

end Report
end NodeLifecycle
