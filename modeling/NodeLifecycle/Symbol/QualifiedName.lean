import NodeLifecycle.Symbol.Fingerprint

/-!
# Qualified names

A type is known by its simple name and the namespaces around it.  A dotted text is read as its
non-empty segments, so leading, trailing and doubled dots do not matter; writing joins the parts of
a name with single dots.  Names are equal when both parts are; the displayed text and the
fingerprint made from it may agree for different names, because parts may hold dots.
-/

namespace NodeLifecycle

/-! ## Dotted text -/

namespace Text

/-- The non-empty segments of a text between its dots. -/
def segments (text : List Char) : List (List Char) :=
  (text.splitOn '.').filter (fun segment => !segment.isEmpty)

def dottedSegments (text : String) : List String :=
  (segments text.toList).map String.ofList

/-- The segments joined by single dots. -/
def dotted (parts : List String) : String :=
  ".".intercalate parts

theorem ne_nil_of_mem_segments {text segment : List Char} (member : segment ∈ segments text) :
    segment ≠ [] := by
  simpa using (List.mem_filter.mp member).2

end Text

/-! ## Names -/

/-- A simple name inside a list of namespaces, the outermost first. -/
structure QualifiedName where
  /-- The name without its namespaces. -/
  simple : String
  /-- The enclosing namespaces; empty in the global namespace. -/
  scope : List String
deriving DecidableEq

namespace QualifiedName

/-! ## Reading -/

/-- The alias of the global namespace, which may stand in front of a dotted name. -/
def globalAlias : List Char := ['g', 'l', 'o', 'b', 'a', 'l', ':', ':']

/-- A text without one leading alias of the global namespace. -/
def withoutAlias (text : List Char) : List Char :=
  if globalAlias.isPrefixOf text then text.drop globalAlias.length else text

/-- The name whose last part is the simple one; no parts give the empty global name. -/
def ofParts (parts : List String) : QualifiedName where
  simple := parts.getLastD ""
  scope := parts.dropLast

/-- The name that a dotted text stands for. -/
def ofText (text : String) : QualifiedName :=
  ofParts ((Text.segments (withoutAlias text.toList)).map String.ofList)

def global (simple : String) : QualifiedName where
  simple := simple
  scope := []

/-! ## Writing -/

def isGlobal (name : QualifiedName) : Bool :=
  name.scope.isEmpty

def scopeText (name : QualifiedName) : String :=
  Text.dotted name.scope

/-- The dotted text of the whole name. -/
def display (name : QualifiedName) : String :=
  if name.isGlobal then name.simple else name.scopeText ++ "." ++ name.simple

/-- The displayed name behind the alias of the global namespace, as generated sources spell it. -/
def globalDisplay (name : QualifiedName) : String :=
  "global::" ++ name.display

def fingerprint (name : QualifiedName) : Fingerprint :=
  .ofText name.display

/-! ## Comparing -/

/-- Whether the name lies directly in the namespace that a dotted text stands for. -/
def livesIn (name : QualifiedName) (namespaceText : String) : Bool :=
  name.scope == Text.dottedSegments namespaceText

/-- Simple names first, then the namespaces from the outermost on. -/
def compare (left right : QualifiedName) : Ordering :=
  (Ord.compare left.simple right.simple).then
    (List.compareLex Ord.compare left.scope right.scope)

instance : Std.TransCmp compare :=
  inferInstanceAs (Std.TransCmp
    (compareLex (compareOn QualifiedName.simple) (compareOn QualifiedName.scope)))

instance : Std.LawfulEqCmp compare where
  eq_of_compare {left right} same := by
    rw [compare, Ordering.then_eq_eq] at same
    cases left
    cases right
    congr
    · exact Std.LawfulEqOrd.eq_of_compare same.1
    · exact Std.LawfulEqOrd.eq_of_compare (α := List String) same.2

theorem livesIn_iff {name : QualifiedName} {namespaceText : String} :
    name.livesIn namespaceText = true ↔ name.scope = Text.dottedSegments namespaceText := by
  simp [livesIn]

end QualifiedName
end NodeLifecycle
