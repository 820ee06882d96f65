import Motonet.Foundation.Json
import Motonet.Foundation.SelfDelimiting
import Mathlib.Tactic.IntervalCases

/-!
# JSON texts of strings

How `serde_json` writes a string: quotes and backslashes are escaped, control characters are
written as a letter or as four hexadecimal digits, and everything else is copied.
-/

namespace Motonet
namespace OtaCore

open SelfDelimiting

/-- The characters that are escaped with one letter. -/
def letterEscapes : List (Char × Char) :=
  [('"', '"'), ('\\', '\\'), ('\x08', 'b'), ('\x0c', 'f'), ('\n', 'n'), ('\r', 'r'), ('\t', 't')]

/-- The text of one character inside a JSON string. -/
def escapeChar (char : Char) : List Char :=
  match letterEscapes.lookup char with
  | some letter => ['\\', letter]
  | none =>
      if char.toNat < 32 then
        ['\\', 'u', '0', '0', Nat.digitChar (char.toNat / 16), Nat.digitChar (char.toNat % 16)]
      else [char]

/-- The text between the quotes of a JSON string. -/
def escapeBody (chars : List Char) : List Char :=
  chars.flatMap escapeChar

/-- The JSON text of a string. -/
def jsonStringText (value : String) : String :=
  String.ofList ('"' :: (escapeBody value.toList ++ ['"']))

example : jsonStringText "a\"\\\n\x01" = "\"a\\\"\\\\\\n\\u0001\"" := by decide

/-- Value of a lower-case hexadecimal digit. -/
def lowerHexValue (char : Char) : ℕ :=
  if char.isDigit then char.toNat - '0'.toNat else char.toNat - 'a'.toNat + 10

/-- Read one character back from the front of a string body. -/
def unescapeHead : List Char → Option (Char × List Char)
  | [] => none
  | '\\' :: 'u' :: _ :: _ :: high :: low :: rest =>
      some (Char.ofNat (lowerHexValue high * 16 + lowerHexValue low), rest)
  | '\\' :: letter :: rest =>
      (letterEscapes.find? fun pair => pair.2 = letter).map fun pair => (pair.1, rest)
  | char :: rest => some (char, rest)

/-- A character outside the control range is copied unless it is a quote or a backslash. -/
theorem escapeChar_of_le {char : Char} (printable : 32 ≤ char.toNat)
    (not_quote : char ≠ '"') (not_backslash : char ≠ '\\') : escapeChar char = [char] := by
  have other (control : Char) (below : control.toNat < 32) : (char == control) = false := by
    rw [beq_eq_false_iff_ne]
    rintro rfl
    omega
  have unlisted : letterEscapes.lookup char = none := by
    simp only [letterEscapes, List.lookup_cons, List.lookup_nil, other '\x08' (by decide),
      other '\x0c' (by decide), other '\n' (by decide), other '\r' (by decide),
      other '\t' (by decide),
      beq_eq_false_iff_ne.mpr not_quote, beq_eq_false_iff_ne.mpr not_backslash]
  simp only [escapeChar, unlisted, if_neg (Nat.not_lt.mpr printable)]

/-- A control character is the one that its code names. -/
private theorem control_cases {motive : Char → Prop} (char : Char)
    (each : ∀ code < 32, motive (Char.ofNat code)) (control : char.toNat < 32) : motive char := by
  rw [← Char.ofNat_toNat char]
  exact each char.toNat control

/-- The text of a character is read back as that character, whatever follows it. -/
theorem unescapeHead_escapeChar (char : Char) (rest : List Char) :
    unescapeHead (escapeChar char ++ rest) = some (char, rest) := by
  by_cases control : char.toNat < 32
  · refine control_cases (motive := fun char => unescapeHead (escapeChar char ++ rest) =
      some (char, rest)) char ?_ control
    intro code bound
    interval_cases code <;> rfl
  by_cases quote : char = '"'
  · subst quote
    rfl
  by_cases backslash : char = '\\'
  · subst backslash
    rfl
  rw [escapeChar_of_le (by omega) quote backslash]
  simp only [List.cons_append, List.nil_append]
  unfold unescapeHead
  split <;> simp_all

/-- The text of a string determines the string. -/
theorem escapeBody_injective : Function.Injective escapeBody := by
  intro left
  induction left with
  | nil =>
      intro right same
      cases right with
      | nil => rfl
      | cons char right =>
          have read := unescapeHead_escapeChar char (escapeBody right)
          rw [show escapeChar char ++ escapeBody right = escapeBody [] from same.symm] at read
          cases read
  | cons char left ih =>
      intro right same
      cases right with
      | nil =>
          have read := unescapeHead_escapeChar char (escapeBody left)
          rw [show escapeChar char ++ escapeBody left = escapeBody [] from same] at read
          cases read
      | cons other right =>
          have read := unescapeHead_escapeChar char (escapeBody left)
          rw [show escapeChar char ++ escapeBody left = escapeChar other ++ escapeBody right from
            same, unescapeHead_escapeChar] at read
          obtain ⟨head_eq, tail_eq⟩ := Prod.mk.inj (Option.some.inj read)
          rw [head_eq, ih tail_eq.symm]

/-- The text of a character is a JSON text of it. -/
theorem charText_escapeChar (char : Char) : Json.CharText char (escapeChar char) := by
  by_cases control : char.toNat < 32
  · refine control_cases (motive := fun char => Json.CharText char (escapeChar char)) char ?_
      control
    intro code bound
    interval_cases code <;> first
      | exact .short (by decide)
      | exact .unicode (by decide)
  by_cases quote : char = '"'
  · subst quote
    exact .short (by decide)
  by_cases backslash : char = '\\'
  · subst backslash
    exact .short (by decide)
  rw [escapeChar_of_le (by omega) quote backslash]
  exact .plain (by omega) quote backslash

/-- The JSON text of a string is one in the sense of the grammar. -/
theorem stringText_jsonStringText (value : String) :
    Json.StringText value (jsonStringText value).toList := by
  refine ⟨escapeBody value.toList, ?_, String.toList_ofList⟩
  induction value.toList with
  | nil => exact .nil
  | cons char chars ih => exact .cons (charText_escapeChar char) ih

/-- The text of one character extends a quotable text. -/
private theorem quotable_escapeChar (char : Char) {rest : List Char}
    (body : Quotable '"' '\\' rest) : Quotable '"' '\\' (escapeChar char ++ rest) := by
  by_cases control : char.toNat < 32
  · refine control_cases (motive := fun char => Quotable '"' '\\' (escapeChar char ++ rest)) char
      ?_ control
    intro code bound
    have letter (letter : Char) : Quotable '"' '\\' ('\\' :: letter :: rest) := .escaped body
    have digits (high low : Char) (high_plain : high ≠ '"' ∧ high ≠ '\\')
        (low_plain : low ≠ '"' ∧ low ≠ '\\') :
        Quotable '"' '\\' ('\\' :: 'u' :: '0' :: '0' :: high :: low :: rest) :=
      .escaped (.plain (by decide) (by decide) (.plain (by decide) (by decide)
        (.plain high_plain.1 high_plain.2 (.plain low_plain.1 low_plain.2 body))))
    interval_cases code <;> first
      | exact letter _
      | exact digits _ _ (by decide) (by decide)
  by_cases quote : char = '"'
  · subst quote
    exact .escaped body
  by_cases backslash : char = '\\'
  · subst backslash
    exact .escaped body
  rw [escapeChar_of_le (by omega) quote backslash]
  exact .plain quote backslash body

/-- The text between the quotes holds no unescaped quote. -/
theorem quotable_escapeBody (chars : List Char) : Quotable '"' '\\' (escapeBody chars) := by
  induction chars with
  | nil => exact .nil
  | cons char chars ih => exact quotable_escapeChar char ih

end OtaCore
end Motonet
