import Mathlib.Data.List.DropRight
import Mathlib.Data.List.Infix
import NodeLifecycle.Proofs.Symbol.WellFormedNames
import NodeLifecycle.Source.Unit
import NodeLifecycle.Text.Alphabetic

/-!
# Reading generated texts

A text is read back by cutting it into lines, looking for the first occurrence of a pattern, taking
what stands between two known texts, and taking the white space off the ends of a line.  The lines
of a generated unit are those that it was made of if none of them holds a line feed, and plain names
bring none.
-/

namespace NodeLifecycle
namespace Text

variable {pattern line rest : List Char}

/-! ## Lines -/

/-- The lines of a text.  Each ends at a line feed, and the last may end with the text. -/
def linesOf : List Char → List (List Char)
  | [] => []
  | char :: rest =>
      if char = '\n' then
        [] :: linesOf rest
      else
        match linesOf rest with
        | [] => [[char]]
        | first :: others => (char :: first) :: others

def lines (text : List Char) : List String :=
  (linesOf text).map String.ofList

theorem linesOf_append_cons (single : '\n' ∉ line) :
    linesOf (line ++ '\n' :: rest) = line :: linesOf rest := by
  induction line with
  | nil => rw [List.nil_append, linesOf, if_pos rfl]
  | cons char others ih =>
      rw [List.mem_cons, not_or] at single
      rw [List.cons_append, linesOf, if_neg (Ne.symm single.1), ih single.2]

theorem lines_flatMap_append {written : List String}
    (single : ∀ line ∈ written, '\n' ∉ line.toList) (rest : List Char) :
    lines ((written.flatMap fun line => line.toList ++ ['\n']) ++ rest) =
      written ++ lines rest := by
  induction written with
  | nil => rfl
  | cons first others ih =>
      obtain ⟨single_first, single_others⟩ := List.forall_mem_cons.mp single
      rw [lines] at ih ⊢
      rw [List.flatMap_cons, List.append_assoc, List.append_assoc, List.singleton_append,
        linesOf_append_cons single_first, List.map_cons, ih single_others, String.ofList_toList,
        List.cons_append]

/-! ## First occurrences -/

/-- A text from the first occurrence of a pattern on. -/
def from? (pattern : List Char) : List Char → Option (List Char)
  | [] => if pattern.isEmpty then some [] else none
  | char :: rest =>
      if pattern.isPrefixOf (char :: rest) then some (char :: rest) else from? pattern rest

theorem from?_append_self (nonempty : pattern ≠ []) :
    from? pattern (pattern ++ rest) = some (pattern ++ rest) := by
  cases pattern with
  | nil => contradiction
  | cons first others =>
      rw [List.cons_append, from?, if_pos]
      rw [List.isPrefixOf_iff_prefix]
      exact List.prefix_append (first :: others) rest

/-- A pattern does not begin where its first character does not stand. -/
theorem from?_append_of_not_mem {first : Char} {others margin : List Char}
    (absent : first ∉ margin) :
    from? (first :: others) (margin ++ rest) = from? (first :: others) rest := by
  induction margin with
  | nil => rfl
  | cons char margin ih =>
      rw [List.mem_cons, not_or] at absent
      rw [List.cons_append, from?, if_neg, ih absent.2]
      rw [List.isPrefixOf_iff_prefix, List.cons_prefix_cons]
      exact fun both => absent.1 both.1

/-- What does not reach over the end of a line and is not in the line comes later. -/
theorem from?_append_cons (nonempty : pattern ≠ []) (single : '\n' ∉ pattern)
    (absent : ¬pattern <:+: line) :
    from? pattern (line ++ '\n' :: rest) = from? pattern rest := by
  induction line with
  | nil =>
      rw [List.nil_append, from?, if_neg]
      intro starts
      exact nonempty (List.prefix_nil.mp
        (prefix_of_prefix_append_cons single (List.isPrefixOf_iff_prefix.mp starts)))
  | cons char others ih =>
      rw [List.infix_cons_iff, not_or] at absent
      rw [List.cons_append, from?, if_neg, ih absent.2]
      intro starts
      exact absent.1
        (prefix_of_prefix_append_cons single (List.isPrefixOf_iff_prefix.mp starts))

theorem from?_flatMap_append {written : List String} (nonempty : pattern ≠ [])
    (single : '\n' ∉ pattern) (absent : ∀ line ∈ written, ¬pattern <:+: line.toList) :
    from? pattern ((written.flatMap fun line => line.toList ++ ['\n']) ++ rest) =
      from? pattern rest := by
  induction written with
  | nil => rfl
  | cons first others ih =>
      obtain ⟨absent_first, absent_others⟩ := List.forall_mem_cons.mp absent
      rw [List.flatMap_cons, List.append_assoc, List.append_assoc, List.singleton_append,
        from?_append_cons nonempty single absent_first, ih absent_others]

/-! ## Characters of a text -/

theorem not_mem_append {char : Char} {left right : String} (absent_left : char ∉ left.toList)
    (absent_right : char ∉ right.toList) : char ∉ (left ++ right).toList := by
  rw [String.toList_append, List.mem_append, not_or]
  exact ⟨absent_left, absent_right⟩

theorem not_mem_ofList {char : Char} {letters : List Char} (absent : char ∉ letters) :
    char ∉ (String.ofList letters).toList := by
  rwa [String.toList_ofList]

theorem getLast?_append_of_eq_some {text closing : String} {last : Char}
    (ends : closing.toList.getLast? = some last) :
    (text ++ closing).toList.getLast? = some last := by
  rw [String.toList_append, List.getLast?_append, ends, Option.some_or]

/-! ## Between two texts -/

/-- What stands between an opening and a closing text, if a line consists of the three. -/
def between? (opening closing line : String) : Option String :=
  let middle := String.ofList ((line.toList.drop opening.toList.length).take
    (line.toList.length - opening.toList.length - closing.toList.length))
  if opening ++ middle ++ closing = line then some middle else none

theorem between?_eq_some_iff {opening closing line middle : String} :
    between? opening closing line = some middle ↔ opening ++ middle ++ closing = line := by
  rw [between?, Option.ite_none_right_eq_some]
  constructor
  · rintro ⟨whole, taken⟩
    rwa [Option.some.inj taken] at whole
  · rintro rfl
    have taken : String.ofList (((opening ++ middle ++ closing).toList.drop
        opening.toList.length).take ((opening ++ middle ++ closing).toList.length -
          opening.toList.length - closing.toList.length)) = middle := by
      simp [String.toList_append]
    rw [taken]
    exact ⟨rfl, rfl⟩

theorem between?_eq_none_of_getLast?_ne {opening closing line : String} {last : Char}
    (ends : closing.toList.getLast? = some last) (other : line.toList.getLast? ≠ some last) :
    between? opening closing line = none := by
  rw [Option.eq_none_iff_forall_ne_some]
  intro middle read
  apply other
  rw [← between?_eq_some_iff.mp read]
  exact getLast?_append_of_eq_some ends

theorem between?_eq_none_of_not_prefix {opening closing line : String}
    (absent : ¬opening.toList <+: line.toList) : between? opening closing line = none := by
  rw [Option.eq_none_iff_forall_ne_some]
  intro middle read
  apply absent
  rw [← between?_eq_some_iff.mp read, String.append_assoc, String.toList_append]
  exact List.prefix_append _ _

theorem between?_append_eq_none {opening closing other rest : String}
    (apart : ¬opening.toList <+: other.toList ∧ ¬other.toList <+: opening.toList) :
    between? opening closing (other ++ rest) = none := by
  apply between?_eq_none_of_not_prefix
  intro starts
  rw [String.toList_append] at starts
  obtain within | beyond := List.prefix_or_prefix_of_prefix starts (List.prefix_append _ _)
  · exact apart.1 within
  · exact apart.2 beyond

/-! ## White space -/

/-- Whether a character is white space: the Unicode property White_Space. -/
def isBlank (char : Char) : Bool :=
  Alphabetic.inRanges char.toNat
    [(0x09, 0x0D), (0x20, 0x20), (0x85, 0x85), (0xA0, 0xA0), (0x1680, 0x1680), (0x2000, 0x200A),
      (0x2028, 0x2029), (0x202F, 0x202F), (0x205F, 0x205F), (0x3000, 0x3000)]

theorem isBlank_eq_false {char : Char} (above : 0x20 < char.toNat) (below : char.toNat < 0x85) :
    isBlank char = false := by
  rw [isBlank, Alphabetic.inRanges, if_neg (by omega), Alphabetic.inRanges, if_neg (by omega),
    Alphabetic.inRanges, if_pos below, Bool.or_false, Bool.or_eq_false_iff]
  simp only [decide_eq_false_iff_not]
  omega

/-- A line without the white space at its ends. -/
def trim (line : String) : String :=
  String.ofList ((line.toList.dropWhile isBlank).rdropWhile isBlank)

theorem trim_append {margin text : String} {first last : Char}
    (blank : margin.toList.all isBlank = true)
    (begins : text.toList.head? = some first) (first_solid : isBlank first = false)
    (ends : text.toList.getLast? = some last) (last_solid : isBlank last = false) :
    trim (margin ++ text) = text := by
  have left : (margin ++ text).toList.dropWhile isBlank = text.toList := by
    rw [String.toList_append, List.dropWhile_append_of_pos (List.all_eq_true.mp blank)]
    obtain ⟨rest, text_eq⟩ := List.head?_eq_some_iff.mp begins
    rw [text_eq, List.dropWhile_cons_of_neg (by simp [first_solid])]
  have right : text.toList.rdropWhile isBlank = text.toList := by
    rw [List.rdropWhile_eq_self_iff]
    intro nonempty
    rw [List.getLast?_eq_some_getLast nonempty, Option.some.injEq] at ends
    rw [ends, last_solid]
    exact Bool.false_ne_true
  rw [trim, left, right, String.ofList_toList]

/-! ## Plain names -/

/-- Whether a character may stand in a dotted name: an ASCII letter or digit, an underscore or the
dot. -/
def isNameChar (char : Char) : Bool :=
  char.isAlphanum || char == '_' || char == '.'

theorem isBlank_eq_false_of_isNameChar {char : Char} (named : isNameChar char = true) :
    isBlank char = false := by
  delta isNameChar Char.isAlphanum Char.isAlpha Char.isUpper Char.isLower Char.isDigit at named
  simp only [Bool.or_eq_true, Bool.and_eq_true, decide_eq_true_eq, beq_iff_eq,
    UInt32.le_iff_toNat_le, ge_iff_le] at named
  obtain (((upper | lower) | digit) | rfl) | rfl := named
  · change 65 ≤ char.toNat ∧ char.toNat ≤ 90 at upper
    exact isBlank_eq_false (by omega) (by omega)
  · change 97 ≤ char.toNat ∧ char.toNat ≤ 122 at lower
    exact isBlank_eq_false (by omega) (by omega)
  · change 48 ≤ char.toNat ∧ char.toNat ≤ 57 at digit
    exact isBlank_eq_false (by omega) (by omega)
  · decide
  · decide

/-- Whether a text holds nothing but the characters of dotted names. -/
def IsPlain (text : String) : Prop :=
  ∀ char ∈ text.toList, isNameChar char = true

instance (text : String) : Decidable (IsPlain text) :=
  decidable_of_iff (text.toList.all isNameChar = true) List.all_eq_true

theorem IsPlain.not_mem {text : String} (plain : IsPlain text) {char : Char}
    (other : isNameChar char = false) : char ∉ text.toList := by
  intro inside
  rw [plain char inside] at other
  cases other

@[simp] theorem isPlain_append {left right : String} :
    IsPlain (left ++ right) ↔ IsPlain left ∧ IsPlain right := by
  simp only [IsPlain, String.toList_append, List.forall_mem_append]

theorem forall_mem_intercalate {holds : Char → Prop} {separator : String} {parts : List String}
    (between : ∀ char ∈ separator.toList, holds char)
    (inside : ∀ part ∈ parts, ∀ char ∈ part.toList, holds char) :
    ∀ char ∈ (separator.intercalate parts).toList, holds char := by
  induction parts with
  | nil => simp
  | cons first rest ih =>
      obtain ⟨inside_first, inside_rest⟩ := List.forall_mem_cons.mp inside
      cases rest with
      | nil => simpa using inside_first
      | cons second others =>
          rw [String.intercalate_cons_of_ne_nil (List.cons_ne_nil _ _), String.toList_append,
            String.toList_append, List.forall_mem_append, List.forall_mem_append]
          exact ⟨⟨inside_first, between⟩, ih inside_rest⟩

theorem isPlain_dotted {parts : List String} (plain : ∀ part ∈ parts, IsPlain part) :
    IsPlain (dotted parts) :=
  forall_mem_intercalate (by decide : IsPlain ".") plain

theorem isPlain_toString (number : Nat) : IsPlain (toString number) := by
  intro char inside
  rw [Nat.toString_eq_ofList_toDigits, String.toList_ofList] at inside
  have digit := Nat.isDigit_of_mem_toDigits (by decide) (by decide) inside
  simp [isNameChar, Char.isAlphanum, digit]

/-- The name at the front of a text. -/
def leadingName (text : String) : String :=
  String.ofList (text.toList.takeWhile isNameChar)

theorem leadingName_append {name rest : String} (plain : IsPlain name)
    (stops : rest.toList.head?.any isNameChar = false) : leadingName (name ++ rest) = name := by
  have stopped : rest.toList.takeWhile isNameChar = [] := by
    cases letters : rest.toList with
    | nil => rfl
    | cons first others =>
        rw [letters, List.head?_cons, Option.any_some] at stops
        rw [List.takeWhile_cons, if_neg (by simp [stops])]
  rw [leadingName, String.toList_append, List.takeWhile_append_of_pos plain, stopped,
    List.append_nil, String.ofList_toList]

/-! ## Numbers -/

def number? (text : String) : Option Nat :=
  let number := Nat.ofDigitChars 10 text.toList 0
  if toString number = text then some number else none

theorem number?_toString (number : Nat) : number? (toString number) = some number := by
  have read : Nat.ofDigitChars 10 (toString number).toList 0 = number := by
    rw [Nat.toString_eq_ofList_toDigits, String.toList_ofList]
    exact Nat.ofDigitChars_toDigits (by decide) (by decide)
  rw [number?, read, if_pos rfl]

end Text

theorem Literal.ofText_eq_of_isPlain {name : String} (plain : Text.IsPlain name) :
    ofText name = "\"" ++ name ++ "\"" := by
  have kept {char : Char} (named : Text.isNameChar char = true) : encodeChar char = [char] := by
    unfold encodeChar escape?
    split
    · rename_i second escaped
      split at escaped
      all_goals first | cases named | cases escaped
    · rfl
  have same : encode name.toList = name.toList := by
    rw [encode, List.flatMap_congr fun char inside => kept (plain char inside),
      List.flatMap_singleton']
  rw [← String.toList_inj, toList_ofText, same]
  simp [String.toList_append]

/-- Whether every part of a name is plain. -/
def QualifiedName.IsPlain (name : QualifiedName) : Prop :=
  ∀ part ∈ name.parts, Text.IsPlain part

instance (name : QualifiedName) : Decidable name.IsPlain :=
  inferInstanceAs (Decidable (∀ part ∈ name.parts, Text.IsPlain part))

namespace QualifiedName.IsPlain

variable {name : QualifiedName}

theorem simple (plain : name.IsPlain) : Text.IsPlain name.simple :=
  plain _ (List.mem_append_right _ List.mem_cons_self)

theorem scopeText (plain : name.IsPlain) : Text.IsPlain name.scopeText :=
  Text.isPlain_dotted fun part inside => plain part (List.mem_append_left _ inside)

theorem display (plain : name.IsPlain) : Text.IsPlain name.display := by
  rw [display_eq_dotted_parts]
  exact Text.isPlain_dotted plain

end QualifiedName.IsPlain

namespace SourceUnit

theorem toList_ofLines (lines : List String) :
    (ofLines lines).toList = lines.flatMap fun line => line.toList ++ ['\n'] := by
  rw [ofLines, String.toList_join, List.flatMap_map]
  simp [String.toList_append]

theorem lines_ofLines_append {written : List String}
    (single : ∀ line ∈ written, '\n' ∉ line.toList) (after : List String) :
    Text.lines (ofLines (written ++ after)).toList =
      written ++ Text.lines (ofLines after).toList := by
  rw [toList_ofLines, List.flatMap_append, Text.lines_flatMap_append single, toList_ofLines]

theorem lines_ofLines {written : List String} (single : ∀ line ∈ written, '\n' ∉ line.toList) :
    Text.lines (ofLines written).toList = written := by
  have read := lines_ofLines_append single []
  rw [List.append_nil] at read
  exact read.trans (List.append_nil written)

/-- A pattern is found behind the margin of the first line that holds it. -/
theorem from?_ofLines {margin pattern : String} {first : Char} {others : List Char}
    {before after : List String} (pattern_eq : pattern.toList = first :: others)
    (single : '\n' ∉ pattern.toList) (absent : ∀ line ∈ before, ¬pattern.toList <:+: line.toList)
    (margin_absent : first ∉ margin.toList) :
    Text.from? pattern.toList (ofLines (before ++ (margin ++ pattern) :: after)).toList =
      some (ofLines (pattern :: after)).toList := by
  have nonempty : pattern.toList ≠ [] := by simp [pattern_eq]
  rw [toList_ofLines, toList_ofLines, List.flatMap_append,
    Text.from?_flatMap_append nonempty single absent, List.flatMap_cons, List.flatMap_cons,
    String.toList_append, List.append_assoc, List.append_assoc, List.append_assoc, pattern_eq,
    Text.from?_append_of_not_mem margin_absent, Text.from?_append_self (List.cons_ne_nil _ _)]

end SourceUnit
end NodeLifecycle
