import Mathlib.Data.List.Basic
import Mathlib.Tactic.Common

/-!
# JSON texts

Compact JSON texts of strings, natural numbers, Boolean values and objects: a grammar that says
which text spells which value, and a reader that reads every text of the grammar back as its value,
up to white space at the end.
-/

namespace Json

/-- The values that are used here. -/
inductive Value
  | number (value : ℕ)
  | bool (value : Bool)
  | string (value : String)
  | object (fields : List (String × Value))

/-! ## The grammar -/

/-- The characters that a backslash and one letter spell. -/
def shortEscapes : List (Char × Char) :=
  [('"', '"'), ('\\', '\\'), ('/', '/'), ('\x08', 'b'), ('\x0c', 'f'), ('\n', 'n'), ('\r', 'r'),
    ('\t', 't')]

/-- Value of a hexadecimal digit. -/
def hexValue (char : Char) : Option ℕ :=
  if char.isDigit then some (char.toNat - '0'.toNat)
  else if 'a' ≤ char ∧ char ≤ 'f' then some (char.toNat - 'a'.toNat + 10)
  else if 'A' ≤ char ∧ char ≤ 'F' then some (char.toNat - 'A'.toNat + 10)
  else none

/-- Value of four hexadecimal digits. -/
def hexValue4 (a b c d : Char) : Option ℕ := do
  return (((← hexValue a) * 16 + (← hexValue b)) * 16 + (← hexValue c)) * 16 + (← hexValue d)

/-- A text that spells a character inside a string. -/
inductive CharText : Char → List Char → Prop
  | plain {char : Char} :
      32 ≤ char.toNat → char ≠ '"' → char ≠ '\\' → CharText char [char]
  | short {char letter : Char} :
      (char, letter) ∈ shortEscapes → CharText char ['\\', letter]
  | unicode {char a b c d : Char} :
      hexValue4 a b c d = some char.toNat → CharText char ['\\', 'u', a, b, c, d]

/-- A text that spells characters between quotes. -/
inductive BodyText : List Char → List Char → Prop
  | nil : BodyText [] []
  | cons {char : Char} {chars text rest : List Char} :
      CharText char text → BodyText chars rest → BodyText (char :: chars) (text ++ rest)

/-- A text that spells a string. -/
def StringText (value : String) (text : List Char) : Prop :=
  ∃ body, BodyText value.toList body ∧ text = '"' :: (body ++ ['"'])

mutual

/-- A text that spells a value. -/
inductive Spells : Value → List Char → Prop
  | number (value : ℕ) : Spells (.number value) (Nat.toDigits 10 value)
  | bool (value : Bool) : Spells (.bool value) (toString value).toList
  | string {value : String} {text : List Char} :
      StringText value text → Spells (.string value) text
  | object {fields : List (String × Value)} {text : List Char} :
      SpellsMembers fields text → Spells (.object fields) ('{' :: (text ++ ['}']))

/-- A text that spells the members of an object, of which there is at least one. -/
inductive SpellsMembers : List (String × Value) → List Char → Prop
  | last {key : String} {value : Value} {keyText text : List Char} :
      StringText key keyText → Spells value text →
        SpellsMembers [(key, value)] (keyText ++ ':' :: text)
  | cons {key : String} {value : Value} {fields : List (String × Value)}
      {keyText text rest : List Char} :
      StringText key keyText → Spells value text → SpellsMembers fields rest →
        SpellsMembers ((key, value) :: fields) (keyText ++ ':' :: (text ++ ',' :: rest))

end

/-- Characters that need no escape spell themselves. -/
theorem BodyText.literal {chars : List Char}
    (plain : ∀ char ∈ chars, 32 ≤ char.toNat ∧ char ≠ '"' ∧ char ≠ '\\') :
    BodyText chars chars := by
  induction chars with
  | nil => exact .nil
  | cons char chars ih =>
      obtain ⟨printable, not_quote, not_backslash⟩ := plain char List.mem_cons_self
      exact .cons (.plain printable not_quote not_backslash)
        (ih fun other member => plain other (List.mem_cons_of_mem _ member))

/-- A character that needs no escape. -/
def isPlain (char : Char) : Bool :=
  32 ≤ char.toNat && char ≠ '"' && char ≠ '\\'

theorem isPlain_iff {char : Char} :
    isPlain char = true ↔ 32 ≤ char.toNat ∧ char ≠ '"' ∧ char ≠ '\\' := by
  simp only [isPlain, Bool.and_eq_true, decide_eq_true_eq, and_assoc]

/-- A string that needs no escapes is spelled by itself between quotes. -/
theorem StringText.literal (value : String) (plain : value.toList.all isPlain = true) :
    StringText value ('"' :: (value.toList ++ ['"'])) :=
  ⟨value.toList, .literal fun char member =>
    isPlain_iff.mp (List.all_eq_true.mp plain char member), rfl⟩

/-! ## The reader -/

/-- Read one character inside a string. -/
def readChar : List Char → Option (Char × List Char)
  | '\\' :: 'u' :: a :: b :: c :: d :: rest =>
      (hexValue4 a b c d).map fun code => (Char.ofNat code, rest)
  | '\\' :: letter :: rest =>
      (shortEscapes.find? fun pair => pair.2 = letter).map fun pair => (pair.1, rest)
  | char :: rest => if 32 ≤ char.toNat then some (char, rest) else none
  | [] => none

/-- Read up to the closing quote, and through it. -/
def readBody : ℕ → List Char → Option (List Char × List Char)
  | 0, _ => none
  | fuel + 1, text =>
      if text.head? = some '"' then some ([], text.tail)
      else do
        let (char, rest) ← readChar text
        let (chars, rest) ← readBody fuel rest
        return (char :: chars, rest)

/-- Take a character off a text. -/
def expect (char : Char) : List Char → Option (List Char)
  | first :: rest => if first = char then some rest else none
  | [] => none

/-- Read a string. -/
def readString (text : List Char) : Option (String × List Char) := do
  let rest ← expect '"' text
  let (chars, rest) ← readBody (rest.length + 1) rest
  return (String.ofList chars, rest)

/-- Read a number. -/
def readNumber (text : List Char) : Option (Value × List Char) :=
  let digits := text.takeWhile Char.isDigit
  if digits.isEmpty then none
  else some (.number (Nat.ofDigitChars 10 digits 0), text.dropWhile Char.isDigit)

mutual

/-- Read a value. -/
def readValue : ℕ → List Char → Option (Value × List Char)
  | 0, _ => none
  | fuel + 1, text =>
      match text with
      | '{' :: rest => do
          let (fields, rest) ← readMembers fuel rest
          let rest ← expect '}' rest
          return (.object fields, rest)
      | '"' :: _ => do
          let (value, rest) ← readString text
          return (.string value, rest)
      | 't' :: 'r' :: 'u' :: 'e' :: rest => some (.bool true, rest)
      | 'f' :: 'a' :: 'l' :: 's' :: 'e' :: rest => some (.bool false, rest)
      | _ => readNumber text

/-- Read the members of an object. -/
def readMembers : ℕ → List Char → Option (List (String × Value) × List Char)
  | 0, _ => none
  | fuel + 1, text => do
      let (key, rest) ← readString text
      let rest ← expect ':' rest
      let (value, rest) ← readValue fuel rest
      match expect ',' rest with
      | some rest => do
          let (fields, rest) ← readMembers fuel rest
          return ((key, value) :: fields, rest)
      | none => return ([(key, value)], rest)

end

/-- The white space of JSON. -/
def isSpace (char : Char) : Bool :=
  char = ' ' || char = '\t' || char = '\n' || char = '\r'

/-- Read a value that is followed by white space only. -/
def read (text : List Char) : Option Value :=
  match readValue (text.length + 1) text with
  | some (value, rest) => if rest.all isSpace then some value else none
  | none => none

/-! ## Every text is read back -/

theorem readChar_charText {char : Char} {text : List Char} (spelled : CharText char text)
    (rest : List Char) : readChar (text ++ rest) = some (char, rest) := by
  cases spelled with
  | plain printable not_quote not_backslash =>
      simp only [List.cons_append, List.nil_append]
      unfold readChar
      split
      · exact absurd (List.cons.inj ‹_›).1 not_backslash
      · exact absurd (List.cons.inj ‹_›).1 not_backslash
      · obtain ⟨rfl, rfl⟩ := List.cons.inj ‹char :: rest = _›
        exact if_pos printable
      · cases ‹char :: rest = []›
  | short listed =>
      simp only [shortEscapes, List.mem_cons, Prod.mk.injEq, List.not_mem_nil, or_false] at listed
      obtain ⟨rfl, rfl⟩ | ⟨rfl, rfl⟩ | ⟨rfl, rfl⟩ | ⟨rfl, rfl⟩ | ⟨rfl, rfl⟩ | ⟨rfl, rfl⟩ |
        ⟨rfl, rfl⟩ | ⟨rfl, rfl⟩ := listed <;> rfl
  | unicode code =>
      simp only [List.cons_append, List.nil_append, readChar, code, Option.map_some,
        Char.ofNat_toNat]

/-- The text of a character is not mistaken for the closing quote. -/
theorem CharText.head {char : Char} {text : List Char} (spelled : CharText char text) :
    ∃ first rest, text = first :: rest ∧ first ≠ '"' := by
  cases spelled with
  | plain _ not_quote => exact ⟨_, _, rfl, not_quote⟩
  | short => exact ⟨_, _, rfl, by decide⟩
  | unicode => exact ⟨_, _, rfl, by decide⟩

theorem readBody_bodyText {chars body : List Char} (spelled : BodyText chars body) {fuel : ℕ}
    (enough : body.length < fuel) (rest : List Char) :
    readBody fuel (body ++ '"' :: rest) = some (chars, rest) := by
  induction spelled generalizing fuel with
  | nil =>
      obtain ⟨fuel, rfl⟩ : ∃ less, fuel = less + 1 := ⟨fuel - 1, by omega⟩
      rfl
  | @cons char chars text body head _ ih =>
      obtain ⟨fuel, rfl⟩ : ∃ less, fuel = less + 1 := ⟨fuel - 1, by omega⟩
      obtain ⟨first, tail, rfl, not_quote⟩ := head.head
      simp only [List.length_append, List.length_cons] at enough
      have open_body : ¬ ((first :: tail ++ body ++ '"' :: rest).head? = some '"') :=
        fun same => not_quote (Option.some.inj same)
      have shorter : body.length < fuel := by omega
      rw [readBody, if_neg open_body, List.append_assoc, readChar_charText head]
      simp only [Option.bind_eq_bind, Option.bind_some, ih shorter]
      rfl

theorem expect_cons (char : Char) (rest : List Char) : expect char (char :: rest) = some rest :=
  if_pos rfl

theorem readString_stringText {value : String} {text : List Char} (spelled : StringText value text)
    (rest : List Char) : readString (text ++ rest) = some (value, rest) := by
  obtain ⟨body, inside, rfl⟩ := spelled
  have opened : '"' :: (body ++ ['"']) ++ rest = '"' :: (body ++ '"' :: rest) := by simp
  rw [readString, opened, expect_cons, Option.bind_eq_bind, Option.bind_some,
    readBody_bodyText inside (by simp only [List.length_append, List.length_cons]; omega)]
  exact congrArg (fun value => some (value, rest)) String.ofList_toList

/-- A text after which a number has ended. -/
def EndsNumber (rest : List Char) : Prop :=
  ∀ char ∈ rest.head?, char.isDigit = false

theorem readNumber_toDigits (value : ℕ) {rest : List Char} (ended : EndsNumber rest) :
    readNumber (Nat.toDigits 10 value ++ rest) = some (.number value, rest) := by
  have digits : ∀ char ∈ Nat.toDigits 10 value, char.isDigit = true :=
    fun char member => Nat.isDigit_of_mem_toDigits (by decide) (by decide) member
  have stop : rest.takeWhile Char.isDigit = [] ∧ rest.dropWhile Char.isDigit = rest := by
    cases rest with
    | nil => exact ⟨rfl, rfl⟩
    | cons first rest =>
        have other := ended first rfl
        exact ⟨List.takeWhile_cons_of_neg (by simp [other]),
          List.dropWhile_cons_of_neg (by simp [other])⟩
  have run : (Nat.toDigits 10 value ++ rest).takeWhile Char.isDigit = Nat.toDigits 10 value := by
    rw [List.takeWhile_append_of_pos digits, stop.1, List.append_nil]
  have left : (Nat.toDigits 10 value ++ rest).dropWhile Char.isDigit = rest := by
    rw [List.dropWhile_append_of_pos digits, stop.2]
  have some_digit : ¬ (Nat.toDigits 10 value).isEmpty = true :=
    fun empty => Nat.toDigits_ne_nil (List.isEmpty_iff.mp empty)
  simp only [readNumber, run, left, if_neg some_digit, Nat.ofDigitChars_ten_toDigits]

/-- A number starts with a digit. -/
theorem toDigits_head (value : ℕ) :
    ∃ first rest, Nat.toDigits 10 value = first :: rest ∧ first.isDigit = true := by
  obtain ⟨first, rest, digits⟩ :=
    List.exists_cons_of_ne_nil (Nat.toDigits_ne_nil (n := value) (b := 10))
  exact ⟨first, rest, digits,
    Nat.isDigit_of_mem_toDigits (by decide) (by decide) (digits ▸ List.mem_cons_self)⟩

/-- What the reader does on a text that starts with a digit. -/
theorem readValue_digit {first : Char} (digit : first.isDigit = true) (fuel : ℕ)
    (rest : List Char) : readValue (fuel + 1) (first :: rest) = readNumber (first :: rest) := by
  unfold readValue
  split
  · rw [(List.cons.inj ‹first :: rest = _›).1] at digit
    cases digit
  · rw [(List.cons.inj ‹first :: rest = _›).1] at digit
    cases digit
  · rw [(List.cons.inj ‹first :: rest = _›).1] at digit
    cases digit
  · rw [(List.cons.inj ‹first :: rest = _›).1] at digit
    cases digit
  · rfl

theorem StringText.length_pos {value : String} {text : List Char}
    (spelled : StringText value text) : 0 < text.length := by
  obtain ⟨body, -, rfl⟩ := spelled
  exact Nat.zero_lt_succ _

theorem expect_of_head_ne {char : Char} {text : List Char} (other : text.head? ≠ some char) :
    expect char text = none := by
  cases text with
  | nil => rfl
  | cons first rest => exact if_neg fun same => other (congrArg some same)

theorem readValue_object (fuel : ℕ) (text : List Char) :
    readValue (fuel + 1) ('{' :: text) = (do
      let (fields, rest) ← readMembers fuel text
      let rest ← expect '}' rest
      return (.object fields, rest)) := rfl

/-- The reader inverts the grammar; the induction is on the nesting that the fuel allows. -/
theorem read_spelled (fuel : ℕ) :
    (∀ value text rest, Spells value text → text.length < fuel → EndsNumber rest →
        readValue fuel (text ++ rest) = some (value, rest)) ∧
      ∀ fields text rest, SpellsMembers fields text → text.length < fuel →
        EndsNumber rest → rest.head? ≠ some ',' →
        readMembers fuel (text ++ rest) = some (fields, rest) := by
  induction fuel with
  | zero => exact ⟨fun _ _ _ _ short => absurd short (Nat.not_lt_zero _),
      fun _ _ _ _ short => absurd short (Nat.not_lt_zero _)⟩
  | succ fuel ih =>
      obtain ⟨values, members⟩ := ih
      refine ⟨fun value text rest spelled short ended => ?_,
        fun fields text rest spelled short ended last => ?_⟩
      · cases spelled with
        | number value =>
            obtain ⟨first, digits, text_eq, digit⟩ := toDigits_head value
            have read := readNumber_toDigits value ended
            rw [text_eq] at read ⊢
            rw [List.cons_append] at read ⊢
            rw [readValue_digit digit, read]
        | bool value => cases value <;> rfl
        | string inside =>
            have read := readString_stringText inside rest
            obtain ⟨body, -, rfl⟩ := inside
            simp only [List.cons_append] at read ⊢
            rw [readValue]
            simp only [read]
            rfl
        | @object fields text inside =>
            rw [List.length_cons, List.length_append] at short
            have read := members fields text ('}' :: rest) inside (by omega)
              (fun char first => Option.some.inj first ▸ rfl)
              (fun same => absurd (Option.some.inj same) (by decide))
            have opened : '{' :: (text ++ ['}']) ++ rest = '{' :: (text ++ '}' :: rest) := by simp
            rw [opened, readValue_object, read]
            simp only [Option.bind_eq_bind, Option.bind_some, expect_cons]
            rfl
      · cases spelled with
        | @last key value keyText text key_spelled value_spelled =>
            rw [List.length_append, List.length_cons] at short
            have key_length := key_spelled.length_pos
            have read := values value text rest value_spelled (by omega) ended
            rw [List.append_assoc, List.cons_append, readMembers,
              readString_stringText key_spelled]
            simp only [Option.bind_eq_bind, Option.bind_some, expect_cons, read,
              expect_of_head_ne last]
            rfl
        | @cons key value fields keyText text more key_spelled value_spelled more_spelled =>
            simp only [List.length_append, List.length_cons] at short
            have key_length := key_spelled.length_pos
            have read := values value text (',' :: (more ++ rest)) value_spelled (by omega)
              (fun char first => Option.some.inj first ▸ rfl)
            have read_more := members fields more rest more_spelled (by omega) ended last
            have opened : keyText ++ ':' :: (text ++ ',' :: more) ++ rest =
                keyText ++ ':' :: (text ++ ',' :: (more ++ rest)) := by simp
            rw [opened, readMembers, readString_stringText key_spelled]
            simp only [Option.bind_eq_bind, Option.bind_some, expect_cons, read, read_more]
            rfl

/-- A text of a value, with white space after it, is read as the value. -/
theorem read_of_spells {value : Value} {text space : List Char} (spelled : Spells value text)
    (blank : ∀ char ∈ space, isSpace char = true) : read (text ++ space) = some value := by
  have ended : EndsNumber space := by
    intro char first
    have white := blank char (List.mem_of_mem_head? first)
    simp only [isSpace, Bool.or_eq_true, decide_eq_true_eq] at white
    obtain ((rfl | rfl) | rfl) | rfl := white <;> rfl
  have short : text.length < (text ++ space).length + 1 := by
    rw [List.length_append]
    omega
  rw [read, (read_spelled _).1 value text space spelled short ended]
  exact if_pos (List.all_eq_true.mpr blank)

end Json
