import NodeLifecycle.Text.Alphabetic

/-!
# Sorting

Lists are sorted by insertion.  Elements that the order does not tell apart keep the order in which
they were, because an element goes in front of the first one that it need not come after.
Identifiers are compared character by character: symbols come before digits and digits before
letters, and the case of ASCII letters does not matter.  Identifiers that agree in this way are
ordered as plain texts, so only equal texts compare as equal.
-/

namespace NodeLifecycle

/-! ## Stable sorting -/

namespace StableSort

variable {α : Type}

/-- Put an element in front of the first one that it need not come after. -/
def insertBy (le : α → α → Bool) (element : α) : List α → List α
  | [] => [element]
  | first :: rest =>
      if le element first then element :: first :: rest else first :: insertBy le element rest

/-- The elements of a list in order. -/
def sortBy (le : α → α → Bool) : List α → List α
  | [] => []
  | first :: rest => insertBy le first (sortBy le rest)

end StableSort

/-! ## The order of identifiers -/

namespace IdentifierOrder

/-- The class of a character: symbols are 0, ASCII digits 1 and letters 2. -/
def charClass (char : Char) : Nat :=
  if char.isDigit then 1 else if Alphabetic.isAlphabetic char then 2 else 0

/-- What is compared first of a character: its class and its lower-case ASCII form. -/
def charKey (char : Char) : Nat × Char :=
  (charClass char, char.toLower)

/-- Classes first, then characters. -/
def compareKeys : Nat × Char → Nat × Char → Ordering :=
  compareLex (compareOn Prod.fst) (compareOn Prod.snd)

def keys (text : String) : List (Nat × Char) :=
  text.toList.map charKey

/-- The order of identifiers. -/
def compare (left right : String) : Ordering :=
  (List.compareLex compareKeys (keys left) (keys right)).then (Ord.compare left right)

/-- Whether the first text does not come after the second. -/
def le (left right : String) : Bool :=
  (compare left right).isLE

def sort (texts : List String) : List String :=
  StableSort.sortBy le texts

end IdentifierOrder
end NodeLifecycle
