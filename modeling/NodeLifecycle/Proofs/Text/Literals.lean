import NodeLifecycle.Source.Unit

/-!
# Reading literals

A literal is read from its opening quote to the first quote that no backslash escapes.  The reader
accepts exactly the forms in which a text may stand between quotes, and no form is the beginning of
another one.  Writing escapes every quote, every backslash and every control character that would
end the line or the text, so a written literal is one of these forms: the closing quote is found
where it was put, whatever follows, and the text is read as it was.
-/

namespace NodeLifecycle
namespace Literal

/-- The character that an escape stands for, by the second character of the escape. -/
def unescape? : Char → Option Char
  | '"' => some '"'
  | '\\' => some '\\'
  | 'n' => some '\n'
  | 'r' => some '\r'
  | 't' => some '\t'
  | '0' => some '\x00'
  | _ => none

/-- What is written up to the closing quote, and what stands behind that quote. -/
def readInside? : List Char → Option (List Char × List Char)
  | [] => none
  | '"' :: rest => some ([], rest)
  | '\\' :: second :: rest => do
      let char ← unescape? second
      let (text, after) ← readInside? rest
      return (char :: text, after)
  | char :: rest => do
      let (text, after) ← readInside? rest
      return (char :: text, after)

/-- The text of the literal at the front, and what stands behind the literal. -/
def read? : List Char → Option (String × List Char)
  | '"' :: inside => (readInside? inside).map fun (text, after) => (String.ofList text, after)
  | _ => none

/-- What reading takes off the front of an input: everything but what it leaves. -/
def consumed? (input : List Char) : Option (List Char) :=
  (read? input).map fun (_, after) => input.take (input.length - after.length)

/-- The text that a literal stands for; there is nothing behind the literal. -/
def decode? (literal : String) : Option String :=
  (read? literal.toList).bind fun (text, after) => if after.isEmpty then some text else none

/-! ## The forms of a text -/

/-- What stands between quotes denotes a text: characters other than quotes and backslashes stand
for themselves, and escapes for the characters that they name. -/
inductive Denotes : List Char → List Char → Prop where
  | nil : Denotes [] []
  | raw {char : Char} {body text : List Char} (not_quote : char ≠ '"') (not_backslash : char ≠ '\\')
      (remaining : Denotes body text) : Denotes (char :: body) (char :: text)
  | escape {second char : Char} {body text : List Char} (named : unescape? second = some char)
      (remaining : Denotes body text) : Denotes ('\\' :: second :: body) (char :: text)

/-- A literal stands for a text: what is between its quotes denotes the text. -/
def StandsFor (literal : List Char) (text : String) : Prop :=
  ∃ body, Denotes body text.toList ∧ literal = '"' :: body ++ ['"']

section Forms

variable {body text after input literal : List Char}

theorem readInside?_append_of_denotes (denoted : Denotes body text) (after : List Char) :
    readInside? (body ++ '"' :: after) = some (text, after) := by
  induction denoted with
  | nil => rfl
  | raw not_quote not_backslash _ ih =>
      rw [List.cons_append, readInside?, ih]
      · rfl
      · exact not_quote
      · exact fun _ _ backslash _ => not_backslash backslash
  | escape named _ ih =>
      rw [List.cons_append, List.cons_append, readInside?, named, ih]
      rfl

theorem exists_denotes_of_readInside? (read : readInside? input = some (text, after)) :
    ∃ body, Denotes body text ∧ input = body ++ '"' :: after := by
  induction input using readInside?.induct generalizing text with
  | case1 => cases read
  | case2 closed =>
      cases read
      exact ⟨[], .nil, rfl⟩
  | case3 second inside ih =>
      simp only [readInside?, Option.bind_eq_bind, Option.bind_eq_some_iff] at read
      obtain ⟨char, named, ⟨tail, left⟩, inner, same⟩ := read
      cases same
      obtain ⟨body, denoted, rfl⟩ := ih inner
      exact ⟨_, denoted.escape named, rfl⟩
  | case4 char inside not_quote not_escape ih =>
      rw [readInside?] at read
      · simp only [Option.bind_eq_bind, Option.bind_eq_some_iff] at read
        obtain ⟨⟨tail, left⟩, inner, same⟩ := read
        cases same
        obtain ⟨body, denoted, rfl⟩ := ih inner
        refine ⟨_, denoted.raw not_quote ?_, rfl⟩
        -- a backslash would begin an escape, since the closing quote is still to come
        rintro rfl
        cases body <;> exact not_escape _ _ rfl rfl
      · exact not_quote
      · exact not_escape

/-- What a reader finds at the front of an input is a literal that stands for the text. -/
theorem read?_eq_some_iff {text : String} :
    read? input = some (text, after) ↔
      ∃ literal, StandsFor literal text ∧ input = literal ++ after := by
  constructor
  · intro read
    obtain ⟨inside, rfl⟩ : ∃ inside, input = '"' :: inside := by
      rw [read?.eq_def] at read
      split at read
      · exact ⟨_, rfl⟩
      · cases read
    obtain ⟨⟨letters, left⟩, inner, same⟩ := Option.map_eq_some_iff.mp read
    cases same
    obtain ⟨body, denoted, rfl⟩ := exists_denotes_of_readInside? inner
    exact ⟨'"' :: body ++ ['"'], ⟨body, by rwa [String.toList_ofList], rfl⟩, by simp⟩
  · rintro ⟨_, ⟨body, denoted, rfl⟩, rfl⟩
    rw [List.append_assoc, List.singleton_append, List.cons_append, read?,
      readInside?_append_of_denotes denoted, Option.map_some]
    exact congrArg (fun written => some (written, after)) String.ofList_toList

theorem read?_append_of_standsFor {text : String} (stands : StandsFor literal text)
    (after : List Char) : read? (literal ++ after) = some (text, after) :=
  read?_eq_some_iff.mpr ⟨literal, stands, rfl⟩

theorem consumed?_append_of_standsFor {text : String} (stands : StandsFor literal text)
    (after : List Char) : consumed? (literal ++ after) = some literal := by
  rw [consumed?, read?_append_of_standsFor stands]
  change some ((literal ++ after).take ((literal ++ after).length - after.length)) = some literal
  rw [List.length_append, Nat.add_sub_cancel, List.take_left]

/-- No literal is the beginning of another one, and none stands for two texts. -/
theorem eq_of_standsFor_append {left right : List Char} {leftText rightText : String}
    {leftAfter rightAfter : List Char} (left_stands : StandsFor left leftText)
    (right_stands : StandsFor right rightText)
    (same : left ++ leftAfter = right ++ rightAfter) : left = right ∧ leftText = rightText := by
  have left_read := read?_append_of_standsFor left_stands leftAfter
  rw [same, read?_append_of_standsFor right_stands] at left_read
  cases left_read
  exact ⟨List.append_cancel_right same, rfl⟩

end Forms

/-! ## Written literals -/

/-- The control characters that a literal does not show as they are. -/
def controls : List Char :=
  ['\n', '\r', '\t', '\x00']

variable {char second : Char}

theorem unescape?_of_escape? (escaped : escape? char = some second) :
    unescape? second = some char := by
  unfold escape? at escaped
  split at escaped
  all_goals cases escaped
  all_goals rfl

/-- A character that is not escaped neither closes a literal nor begins an escape. -/
theorem ne_of_escape?_eq_none (raw : escape? char = none) : char ≠ '"' ∧ char ≠ '\\' := by
  constructor
  · rintro rfl
    cases raw
  · rintro rfl
    cases raw

theorem not_mem_controls_of_escape? (escaped : escape? char = some second) :
    second ∉ controls := by
  unfold escape? at escaped
  split at escaped
  all_goals cases escaped
  all_goals decide

theorem not_mem_controls_of_escape?_eq_none (raw : escape? char = none) : char ∉ controls := by
  intro listed
  simp only [controls, List.mem_cons, List.not_mem_nil, or_false] at listed
  obtain rfl | rfl | rfl | rfl := listed
  all_goals cases raw

theorem not_mem_controls_of_mem_encode {text : List Char} (listed : char ∈ encode text) :
    char ∉ controls := by
  obtain ⟨source, -, written⟩ := List.mem_flatMap.mp listed
  rw [encodeChar] at written
  split at written
  · next second escaped =>
      obtain rfl | rfl : char = '\\' ∨ char = second := by simpa using written
      · decide
      · exact not_mem_controls_of_escape? escaped
  · next raw =>
      rw [List.mem_singleton.mp written]
      exact not_mem_controls_of_escape?_eq_none raw

theorem denotes_encode (text : List Char) : Denotes (encode text) text := by
  induction text with
  | nil => exact .nil
  | cons char text ih =>
      rw [encode_cons, encodeChar]
      split
      · next second escaped => exact ih.escape (unescape?_of_escape? escaped)
      · next raw =>
          obtain ⟨not_quote, not_backslash⟩ := ne_of_escape?_eq_none raw
          exact ih.raw not_quote not_backslash

theorem standsFor_ofText (text : String) : StandsFor (ofText text).toList text :=
  ⟨encode text.toList, denotes_encode text.toList, toList_ofText text⟩

@[simp] theorem decode?_ofText (text : String) : decode? (ofText text) = some text := by
  have read := read?_append_of_standsFor (standsFor_ofText text) []
  rw [List.append_nil] at read
  rw [decode?, read]
  rfl

/-- A literal holds a text, whatever follows the literal. -/
structure HoldsText (literal text : String) : Prop where
  /-- Reading gives the text and leaves what follows. -/
  read : ∀ following : String,
    read? (literal ++ following).toList = some (text, following.toList)
  /-- What reading consumes is the literal. -/
  consumed : ∀ following : String,
    consumed? (literal ++ following).toList = some literal.toList
  /-- No other literal stands at the front, and this one stands for no other text. -/
  only : ∀ (following : String) (other rest : List Char) (otherText : String),
    StandsFor other otherText → (literal ++ following).toList = other ++ rest →
      other = literal.toList ∧ otherText = text
  /-- The literal does not leave its line: it shows no control character as it is. -/
  raw : ∀ char ∈ literal.toList, char ∉ controls

/-- The literal of a text holds the text, and different texts have different literals. -/
theorem holds_text : (∀ text, HoldsText (ofText text) text) ∧ Function.Injective ofText := by
  refine ⟨fun text => ⟨?read, ?consumed, ?only, ?raw⟩, ?injective⟩
  case read =>
    intro following
    rw [String.toList_append]
    exact read?_append_of_standsFor (standsFor_ofText text) _
  case consumed =>
    intro following
    rw [String.toList_append]
    exact consumed?_append_of_standsFor (standsFor_ofText text) _
  case only =>
    intro following other rest otherText stands same
    rw [String.toList_append] at same
    exact eq_of_standsFor_append stands (standsFor_ofText text) same.symm
  case raw =>
    intro char listed
    rw [toList_ofText] at listed
    obtain rfl | encoded | rfl : char = '"' ∨ char ∈ encode text.toList ∨ char = '"' := by
      simpa using listed
    · decide
    · exact not_mem_controls_of_mem_encode encoded
    · decide
  case injective =>
    intro left right same
    have decoded := decode?_ofText left
    rw [same, decode?_ofText] at decoded
    exact (Option.some.inj decoded).symm

end Literal
end NodeLifecycle
