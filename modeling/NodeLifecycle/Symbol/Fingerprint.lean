import NodeLifecycle.Text.XxHash64

/-!
# Fingerprints of types

A fingerprint is the 64-bit handle of a type.  It depends on the type's displayed name alone, so
it does not change with the order in which types are registered, and two types whose displayed
names agree share it.
-/

namespace NodeLifecycle

/-- A 64-bit handle of a type. -/
structure Fingerprint where
  /-- The handle as a word. -/
  value : UInt64
deriving DecidableEq

namespace Fingerprint

/-- Mixed into every hash, so that type handles differ from plain hashes of the same text. -/
def domainMark : UInt64 := 0x2fac10b63a6cc57c

/-- The fingerprint of the type with the given displayed name. -/
def ofText (text : String) : Fingerprint :=
  ⟨XxHash64.hash 0 text.toUTF8.data.toList ^^^ domainMark⟩

/-- The handle that stands for no type. -/
def isEmpty (fingerprint : Fingerprint) : Bool :=
  fingerprint.value == 0

/-- Handles are ordered as words. -/
def compare (left right : Fingerprint) : Ordering :=
  Ord.compare left.value right.value

/-- The sixteen hexadecimal digits, the highest first. -/
def digits (fingerprint : Fingerprint) : List Char :=
  (List.range 16).reverse.map fun place =>
    Nat.digitChar (fingerprint.value.toNat / Nat.pow 16 place % 16)

/-- The handle as it is shown: sixteen digits after `0x`. -/
def display (fingerprint : Fingerprint) : String :=
  "0x" ++ String.ofList fingerprint.digits

/-- The handle with its kind, as it appears in traces. -/
def describe (fingerprint : Fingerprint) : String :=
  "TypeHash(" ++ fingerprint.display ++ ")"

instance : Std.TransCmp compare :=
  inferInstanceAs (Std.TransCmp (compareOn Fingerprint.value))

instance : Std.LawfulEqCmp compare where
  eq_of_compare {left right} same := by
    cases left
    cases right
    exact congrArg mk (Std.LawfulEqOrd.eq_of_compare same)

@[simp] theorem length_digits (fingerprint : Fingerprint) : fingerprint.digits.length = 16 := by
  simp [digits]

end Fingerprint
end NodeLifecycle
