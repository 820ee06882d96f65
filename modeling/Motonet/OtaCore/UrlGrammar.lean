import Mathlib.Data.List.Induction
import Motonet.Foundation.Fallible
import Motonet.Foundation.Separated
import Motonet.OtaCore.Policy

/-!
# The grammar of download URLs

What the cascade of checks in the URL policy accepts, as a grammar.
-/

namespace Motonet
namespace OtaCore

/-! ## The grammar -/

/-- The number that decimal digits spell. -/
def decimal (digits : List Char) : ℕ := Nat.ofDigitChars 10 digits 0

/-- A nonempty run of digits that spells a port. -/
structure IsPort (port : List Char) : Prop where
  nonempty : port ≠ []
  digits : ∀ char ∈ port, char.isDigit = true
  positive : 1 ≤ decimal port
  bounded : decimal port ≤ 65535

/-- One to three digits that spell a byte. -/
structure IsOctet (octet : List Char) : Prop where
  nonempty : octet ≠ []
  short : octet.length ≤ 3
  digits : ∀ char ∈ octet, char.isDigit = true
  bounded : decimal octet ≤ 255

/-- Up to 63 letters, digits and hyphens, with no hyphen at either end. -/
structure IsLabel (label : List Char) : Prop where
  nonempty : label ≠ []
  short : label.length ≤ 63
  chars : ∀ char ∈ label, char.isAlphanum = true ∨ char = '-'
  first : label.head? ≠ some '-'
  last : label.getLast? ≠ some '-'

/-- Parts with dots between them. -/
def dotted (parts : List (List Char)) : List Char := ['.'].intercalate parts

/-- Labels with dots between them, at most 253 characters. -/
def IsHostName (host : List Char) : Prop :=
  host.length ≤ 253 ∧ ∃ labels, labels ≠ [] ∧ (∀ label ∈ labels, IsLabel label) ∧
    host = dotted labels

/-- A URL of the local profile: its four octets, its port and its path. -/
structure IsLocalUrl (octets : List (List Char)) (port path : List Char) (url : String) :
    Prop where
  four : octets.length = 4
  are_octets : ∀ octet ∈ octets, IsOctet octet
  is_port : IsPort port
  nonempty : path ≠ []
  no_query : '?' ∉ path
  no_fragment : '#' ∉ path
  spelled : url.toList = "http://".toList ++ (dotted octets ++ ':' :: port ++ '/' :: path)

/-- The part of a URL before the path. -/
def authority (host : List Char) : Option (List Char) → List Char
  | none => host
  | some port => host ++ ':' :: port

/-- A URL of the release profile: its host, its port if it has one, and what comes after. -/
structure IsHttpsUrl (host : List Char) (port : Option (List Char)) (rest : List Char)
    (url : String) : Prop where
  is_host : IsHostName host
  is_port : ∀ digits ∈ port, IsPort digits
  nonempty : rest ≠ []
  has_path : rest.head? ≠ some '?'
  no_fragment : '#' ∉ rest
  spelled : url.toList = "https://".toList ++ (authority host port ++ '/' :: rest)

/-! ## Texts in parts -/

theorem splitOnce_eq_some_iff {separator : Char} {text before after : List Char} :
    splitOnce separator text = some (before, after) ↔
      text = before ++ separator :: after ∧ separator ∉ before := by
  induction text generalizing before with
  | nil => simp [splitOnce]
  | cons char chars ih =>
      rw [splitOnce]
      split_ifs with found
      · rw [Option.some.injEq, Prod.mk.injEq]
        constructor
        · rintro ⟨rfl, rfl⟩
          exact ⟨by rw [found, List.nil_append], List.not_mem_nil⟩
        · rintro ⟨same, clean⟩
          cases before with
          | nil => exact ⟨rfl, (List.cons.inj same).2⟩
          | cons first before =>
              obtain ⟨rfl, -⟩ := List.cons.inj same
              exact absurd (found ▸ List.mem_cons_self) clean
      · simp only [Option.map_eq_some_iff, Prod.exists, Prod.mk.injEq]
        constructor
        · rintro ⟨front, back, parts, rfl, rfl⟩
          obtain ⟨rfl, clean⟩ := ih.mp parts
          exact ⟨rfl, List.not_mem_cons_of_ne_of_not_mem (Ne.symm found) clean⟩
        · rintro ⟨same, clean⟩
          cases before with
          | nil => exact absurd (List.cons.inj same).1 found
          | cons first before =>
              obtain ⟨rfl, rest⟩ := List.cons.inj same
              exact ⟨before, after, ih.mpr ⟨rest, fun member =>
                clean (List.mem_cons_of_mem _ member)⟩, rfl, rfl⟩

theorem rsplitOnce_eq_some_iff {separator : Char} {text before after : List Char} :
    rsplitOnce separator text = some (before, after) ↔
      text = before ++ separator :: after ∧ separator ∉ after := by
  simp only [rsplitOnce, Option.map_eq_some_iff, Prod.exists, Prod.mk.injEq,
    splitOnce_eq_some_iff]
  constructor
  · rintro ⟨back, front, ⟨same, clean⟩, rfl, rfl⟩
    refine ⟨?_, fun member => clean (List.mem_reverse.mp member)⟩
    rw [← List.reverse_reverse text, same]
    simp
  · rintro ⟨rfl, clean⟩
    exact ⟨after.reverse, before.reverse, ⟨by simp, fun member =>
      clean (List.mem_reverse.mp member)⟩, by simp, by simp⟩

theorem rsplitOnce_eq_none {separator : Char} {text : List Char} (absent : separator ∉ text) :
    rsplitOnce separator text = none := by
  cases parts : rsplitOnce separator text with
  | none => rfl
  | some pair =>
      obtain ⟨rfl, -⟩ := rsplitOnce_eq_some_iff.mp (parts : _ = some (pair.1, pair.2))
      exact absurd (List.mem_append_right _ List.mem_cons_self) absent

theorem byteLen_eq_length {text : List Char} (ascii : ∀ char ∈ text, char.val ≤ 127) :
    byteLen text = text.length := by
  induction text with
  | nil => rfl
  | cons char chars ih =>
      have one : char.utf8Size = 1 := if_pos (ascii char List.mem_cons_self)
      have rest := ih fun char member => ascii char (List.mem_cons_of_mem _ member)
      rw [byteLen_cons, one, rest, List.length_cons, Nat.add_comm]

theorem val_le_of_isDigit {char : Char} (digit : char.isDigit = true) : char.val ≤ 127 := by
  simp only [Char.isDigit, Bool.and_eq_true, decide_eq_true_eq] at digit
  exact UInt32.le_trans digit.2 (by decide)

theorem val_le_of_isAlphanum {char : Char} (alphanum : char.isAlphanum = true) :
    char.val ≤ 127 := by
  obtain alpha | digit := Bool.or_eq_true_iff.mp alphanum
  · obtain upper | lower := Bool.or_eq_true_iff.mp alpha
    · exact UInt32.le_trans (of_decide_eq_true upper).2 (by decide)
    · have bound := (Bool.and_eq_true_iff.mp lower).2
      exact UInt32.le_trans (of_decide_eq_true bound) (by decide)
  · exact val_le_of_isDigit digit

theorem val_le_of_host_char {char : Char}
    (allowed : char.isAlphanum = true ∨ char = '.' ∨ char = '-') : char.val ≤ 127 := by
  obtain alphanum | rfl | rfl := allowed
  · exact val_le_of_isAlphanum alphanum
  · decide
  · decide

/-! ## Numbers -/

theorem decimal_append (front : List Char) (char : Char) :
    decimal (front ++ [char]) = 10 * decimal front + digitValue char := by
  rw [decimal, decimal, Nat.ofDigitChars, Nat.ofDigitChars, List.foldl_append]
  rfl

theorem octetValue_eq_decimal (octet : List Char) : octetValue octet = decimal octet := by
  induction octet using List.reverseRecOn with
  | nil => rfl
  | append_singleton front char ih =>
      rw [decimal_append, ← ih, octetValue, List.foldl_append, Nat.mul_comm]
      rfl

/-- The loop of `valid_port` goes on while the number fits. -/
theorem portValue_append (value : ℕ) (front : List Char) (char : Char) :
    portValue value (front ++ [char]) = (portValue value front).bind fun value =>
      if value * 10 + digitValue char > 65535 then none
      else some (value * 10 + digitValue char) := by
  induction front generalizing value with
  | nil =>
      rw [List.nil_append, portValue, portValue]
      rfl
  | cons first front ih =>
      rw [List.cons_append, portValue, portValue]
      split
      · rfl
      · exact ih _

/-- The loop ends with the number if that is a port, and gives up otherwise. -/
theorem portValue_eq (port : List Char) :
    portValue 0 port = if decimal port ≤ 65535 then some (decimal port) else none := by
  induction port using List.reverseRecOn with
  | nil => rfl
  | append_singleton front char ih =>
      rw [portValue_append, ih, decimal_append, Nat.mul_comm 10]
      by_cases small : decimal front ≤ 65535
      · rw [if_pos small]
        by_cases fits : decimal front * 10 + digitValue char ≤ 65535
        · rw [if_pos fits]
          exact if_neg (Nat.not_lt.mpr fits)
        · rw [if_neg fits]
          exact if_pos (Nat.not_le.mp fits)
      · rw [if_neg small, if_neg (by omega)]
        rfl

theorem validPort_iff {port : List Char} : validPort port = true ↔ IsPort port := by
  unfold validPort
  split_ifs with malformed
  · refine ⟨fun never => never.elim, fun valid => ?_⟩
    have digits := List.all_eq_true.mpr valid.digits
    simp [digits, valid.nonempty] at malformed
  · simp only [Bool.or_eq_true, List.isEmpty_iff, Bool.not_eq_true', not_or,
      Bool.not_eq_false] at malformed
    rw [portValue_eq]
    have whole : IsPort port ↔ 1 ≤ decimal port ∧ decimal port ≤ 65535 :=
      ⟨fun valid => ⟨valid.positive, valid.bounded⟩, fun range =>
        ⟨malformed.1, List.all_eq_true.mp malformed.2, range.1, range.2⟩⟩
    rw [whole]
    split_ifs with small
    · simp only [decide_eq_true_eq, ne_eq]
      omega
    · simp only [false_iff]
      omega

/-! ## Arithmetic of the digit loops -/

/-- A number of a given width with one more digit, and nothing where the arithmetic would leave
the width. -/
def checkedDigit (width value : ℕ) (char : Char) : Option ℕ :=
  if '0'.toNat ≤ char.toNat ∧ value * 10 + digitValue char < 2 ^ width then
    some (value * 10 + digitValue char)
  else none

/-- The loop of `valid_port` on `u32`. -/
def portValueChecked : ℕ → List Char → Option (Option ℕ)
  | value, [] => some (some value)
  | value, char :: chars => do
      let value ← checkedDigit 32 value char
      if value > 65535 then some none else portValueChecked value chars

/-- `valid_port` with checked arithmetic. -/
def validPortChecked (port : List Char) : Option Bool :=
  if port.isEmpty || !port.all Char.isDigit then some false
  else
    (portValueChecked 0 port).map fun value =>
      match value with
      | none => false
      | some value => value ≠ 0

/-- The loop over the digits of an octet on `u16`. -/
def octetValueChecked (octet : List Char) : Option ℕ :=
  octet.foldlM (checkedDigit 16) 0

/-- `validate_ipv4_host` with checked arithmetic. -/
def validateIpv4HostChecked (host : List Char) : ExceptT OtaUrlPolicyError Option Unit := do
  if host.isEmpty || (host.splitOn '.').length ≠ 4 then throw .hostMustBeIpv4
  for octet in host.splitOn '.' do
    if octet.isEmpty || byteLen octet > 3 || !octet.all Char.isDigit then throw .hostMustBeIpv4
    let value ← ExceptT.lift (octetValueChecked octet)
    if value > 255 then throw .hostMustBeIpv4

theorem digitValue_le {char : Char} (digit : char.isDigit = true) : digitValue char ≤ 9 := by
  simp only [Char.isDigit, Bool.and_eq_true, decide_eq_true_eq] at digit
  have high : char.toNat ≤ '9'.toNat := digit.2
  exact Nat.sub_le_of_le_add high

theorem checkedDigit_eq {width value : ℕ} {char : Char} (digit : char.isDigit = true)
    (room : value * 10 + 9 < 2 ^ width) :
    checkedDigit width value char = some (value * 10 + digitValue char) := by
  have small := digitValue_le digit
  simp only [Char.isDigit, Bool.and_eq_true, decide_eq_true_eq] at digit
  have low : '0'.toNat ≤ char.toNat := digit.1
  exact if_pos ⟨low, Nat.lt_of_le_of_lt (Nat.add_le_add_left small _) room⟩

/-- The loop of `valid_port` stays within `u32` on digits. -/
theorem portValueChecked_eq {port : List Char} (digits : ∀ char ∈ port, char.isDigit = true)
    {value : ℕ} (small : value ≤ 65535) :
    portValueChecked value port = some (portValue value port) := by
  induction port generalizing value with
  | nil => rfl
  | cons char chars ih =>
      rw [portValueChecked, portValue, checkedDigit_eq (digits char List.mem_cons_self) (by omega),
        Option.bind_eq_bind, Option.bind_some]
      split_ifs with large
      · rfl
      · exact ih (fun char member => digits char (List.mem_cons_of_mem _ member)) (by omega)

/-- No port makes `valid_port` overflow. -/
theorem validPortChecked_eq (port : List Char) : validPortChecked port = some (validPort port) := by
  unfold validPortChecked validPort
  split_ifs with malformed
  · rfl
  · simp only [Bool.or_eq_true, Bool.not_eq_true', not_or, Bool.not_eq_false] at malformed
    have value := portValueChecked_eq (List.all_eq_true.mp malformed.2) (Nat.zero_le _)
    exact (congrArg (Option.map _) value).trans rfl

theorem foldlM_checkedDigit {octet : List Char} (digits : ∀ char ∈ octet, char.isDigit = true)
    {value read : ℕ} (small : value < 10 ^ read) (short : read + octet.length ≤ 4) :
    octet.foldlM (checkedDigit 16) value =
      some (octet.foldl (fun value char => value * 10 + digitValue char) value) := by
  induction octet generalizing value read with
  | nil => rfl
  | cons char chars ih =>
      rw [List.length_cons] at short
      have digit := digits char List.mem_cons_self
      have room : value * 10 + 9 < 10 ^ (read + 1) := by
        rw [Nat.pow_succ]
        omega
      have bounded : 10 ^ (read + 1) ≤ 10 ^ 4 := Nat.pow_le_pow_right (by decide) (by omega)
      rw [List.foldlM_cons, List.foldl_cons, checkedDigit_eq digit (by omega),
        Option.bind_eq_bind, Option.bind_some]
      refine ih (fun char member => digits char (List.mem_cons_of_mem _ member)) ?_
        (by omega : read + 1 + chars.length ≤ 4)
      exact Nat.lt_of_le_of_lt (Nat.add_le_add_left (digitValue_le digit) _) room

/-- Three digits stay within `u16`. -/
theorem octetValueChecked_eq {octet : List Char} (digits : ∀ char ∈ octet, char.isDigit = true)
    (short : octet.length ≤ 3) : octetValueChecked octet = some (octetValue octet) :=
  foldlM_checkedDigit digits (by decide : 0 < 10 ^ 0) (by omega)

/-- A loop in which no iteration overflows does not overflow. -/
theorem forIn_checked {ε α : Type} {items : List α}
    {checked : α → ExceptT ε Option (ForInStep PUnit)} {plain : α → Except ε (ForInStep PUnit)}
    (same : ∀ item, checked item = ExceptT.mk (some (plain item))) :
    (forIn items PUnit.unit fun item _ => checked item) =
      ExceptT.mk (some (forIn items PUnit.unit fun item _ => plain item)) := by
  induction items with
  | nil => rfl
  | cons item items ih =>
      rw [List.forIn_cons, List.forIn_cons, same]
      cases plain item with
      | error => rfl
      | ok step =>
          cases step with
          | done => rfl
          | yield => exact ih

/-- No host makes `validate_ipv4_host` overflow. -/
theorem validateIpv4HostChecked_eq (host : List Char) :
    validateIpv4HostChecked host = ExceptT.mk (some (validateIpv4Host host)) := by
  unfold validateIpv4HostChecked validateIpv4Host
  dsimp only
  split_ifs with malformed
  · rfl
  · rw [forIn_checked]
    · rw [bind_pure_unit, bind_pure_unit]
    · intro octet
      by_cases malformed_octet :
          (octet.isEmpty || decide (byteLen octet > 3) || !octet.all Char.isDigit) = true
      · rw [if_pos malformed_octet, if_pos malformed_octet]
        rfl
      · rw [if_neg malformed_octet, if_neg malformed_octet]
        simp only [Bool.or_eq_true, not_or, decide_eq_true_eq, Bool.not_eq_true',
          Bool.not_eq_false, List.all_eq_true, Nat.not_lt] at malformed_octet
        obtain ⟨⟨-, short⟩, digits⟩ := malformed_octet
        rw [byteLen_eq_length fun char member => val_le_of_isDigit (digits char member)] at short
        rw [octetValueChecked_eq digits short]
        split_ifs with large
        · exact if_pos large
        · exact if_neg large

/-! ## Hosts -/

/-- What hosts and ports are made of. -/
def IsAuthorityChar (char : Char) : Prop :=
  char.isAlphanum = true ∨ char = '.' ∨ char = '-' ∨ char = ':'

/-- The delimiters of a URL do not occur in hosts and ports. -/
theorem not_mem_of_authority {text : List Char} (plain : ∀ char ∈ text, IsAuthorityChar char)
    {delimiter : Char} (reserved : delimiter ∈ ['#', '?', '/', '@']) : delimiter ∉ text := by
  intro member
  have allowed := plain delimiter member
  simp only [List.mem_cons, List.not_mem_nil, or_false] at reserved
  obtain rfl | rfl | rfl | rfl := reserved <;>
    exact absurd allowed (by unfold IsAuthorityChar; decide)

theorem isAlphanum_of_isDigit {char : Char} (digit : char.isDigit = true) :
    char.isAlphanum = true := by
  rw [Char.isAlphanum, digit, Bool.or_true]

theorem not_mem_of_digits {text : List Char} (digits : ∀ char ∈ text, char.isDigit = true)
    {delimiter : Char} (other : delimiter.isDigit = false) : delimiter ∉ text := by
  intro member
  rw [digits delimiter member] at other
  cases other

theorem octet_checks_iff {octet : List Char} :
    (¬ (octet.isEmpty || decide (byteLen octet > 3) || !octet.all Char.isDigit) = true ∧
      ¬ octetValue octet > 255) ↔ IsOctet octet := by
  simp only [Bool.or_eq_true, not_or, List.isEmpty_iff, decide_eq_true_eq, Bool.not_eq_true',
    Bool.not_eq_false, List.all_eq_true, Nat.not_lt, octetValue_eq_decimal]
  constructor
  · rintro ⟨⟨⟨nonempty, short⟩, digits⟩, bounded⟩
    rw [byteLen_eq_length fun char member => val_le_of_isDigit (digits char member)] at short
    exact ⟨nonempty, short, digits, bounded⟩
  · intro octet
    refine ⟨⟨⟨octet.nonempty, ?_⟩, octet.digits⟩, octet.bounded⟩
    rw [byteLen_eq_length fun char member => val_le_of_isDigit (octet.digits char member)]
    exact octet.short

/-- A host has the octets that it is made of as its parts. -/
theorem splitOn_dotted {octets : List (List Char)} (four : octets.length = 4)
    (valid : ∀ octet ∈ octets, IsOctet octet) : (dotted octets).splitOn '.' = octets := by
  refine (Separated.splitOn_eq_iff ?_).mpr ⟨rfl, fun octet member =>
    not_mem_of_digits (valid octet member).digits rfl⟩
  rintro rfl
  cases four

theorem dotted_ne_nil {parts : List (List Char)} (some_part : parts ≠ [])
    (nonempty : [] ∉ parts) : dotted parts ≠ [] := by
  intro empty
  cases parts with
  | nil => exact some_part rfl
  | cons part parts =>
      cases parts with
      | nil =>
          rw [dotted, List.intercalate_singleton] at empty
          exact nonempty (empty ▸ List.mem_cons_self)
      | cons next parts =>
          rw [dotted, List.intercalate_cons_cons] at empty
          simp at empty

theorem dotted_octets_ne_nil {octets : List (List Char)} (four : octets.length = 4)
    (valid : ∀ octet ∈ octets, IsOctet octet) : dotted octets ≠ [] := by
  refine dotted_ne_nil ?_ fun member => (valid [] member).nonempty rfl
  rintro rfl
  cases four

/-- The host of the local profile is made of four octets. -/
theorem validateIpv4Host_iff {host : List Char} :
    validateIpv4Host host = .ok () ↔
      ∃ octets, octets.length = 4 ∧ (∀ octet ∈ octets, IsOctet octet) ∧ host = dotted octets := by
  unfold validateIpv4Host
  dsimp only
  rw [Except.guard_eq_ok_iff, bind_pure_unit, Except.forIn_eq_ok_iff]
  · simp only [Except.guard_eq_ok_iff, pure, Except.pure, and_true, octet_checks_iff]
    simp only [Bool.or_eq_true, not_or, List.isEmpty_iff, decide_eq_true_eq, not_not]
    constructor
    · rintro ⟨⟨-, four⟩, valid⟩
      exact ⟨host.splitOn '.', four, valid, (List.intercalate_splitOn '.').symm⟩
    · rintro ⟨octets, four, valid, rfl⟩
      rw [splitOn_dotted four valid]
      exact ⟨⟨dotted_octets_ne_nil four valid, four⟩, valid⟩
  · intro octet step passed
    simp only [Except.guard_eq_ok_iff] at passed
    exact (Except.ok.inj passed.2.2).symm

theorem label_checks_iff {label : List Char}
    (chars : ∀ char ∈ label, char.isAlphanum = true ∨ char = '-') :
    ¬ (label.isEmpty || decide (byteLen label > 63) || decide (label.head? = some '-') ||
      decide (label.getLast? = some '-')) = true ↔ IsLabel label := by
  have ascii : ∀ char ∈ label, char.val ≤ 127 := fun char member =>
    val_le_of_host_char ((chars char member).imp_right .inr)
  simp only [Bool.or_eq_true, not_or, List.isEmpty_iff, decide_eq_true_eq, Nat.not_lt,
    byteLen_eq_length ascii]
  constructor
  · rintro ⟨⟨⟨nonempty, short⟩, first⟩, last⟩
    exact ⟨nonempty, short, chars, first, last⟩
  · intro label
    exact ⟨⟨⟨label.nonempty, label.short⟩, label.first⟩, label.last⟩

theorem not_dot_mem_of_isLabel {label : List Char} (valid : IsLabel label) : '.' ∉ label :=
  fun member => absurd (valid.chars '.' member) (by decide)

/-- A host name is made of letters, digits, hyphens and dots. -/
theorem IsHostName.chars {host : List Char} (valid : IsHostName host) :
    ∀ char ∈ host, char.isAlphanum = true ∨ char = '.' ∨ char = '-' := by
  obtain ⟨-, labels, -, valid, rfl⟩ := valid
  intro char member
  obtain dot | ⟨label, among, inside⟩ := Separated.mem_intercalate member
  · exact .inr (.inl dot)
  · exact ((valid label among).chars char inside).imp_right .inr

/-- The host of the release profile is a host name. -/
theorem validateHttpsHost_iff {host : List Char} :
    validateHttpsHost host = .ok () ↔ IsHostName host := by
  unfold validateHttpsHost
  dsimp only
  rw [Except.guard_eq_ok_iff, bind_pure_unit, Except.forIn_eq_ok_iff]
  · simp only [Except.guard_eq_ok_iff, pure, Except.pure, and_true]
    constructor
    · rintro ⟨passed, labels⟩
      simp only [Bool.or_eq_true, not_or, List.isEmpty_iff, decide_eq_true_eq, Nat.not_lt,
        Bool.not_eq_true', Bool.not_eq_false, List.all_eq_true] at passed
      obtain ⟨⟨⟨⟨-, short⟩, -⟩, -⟩, chars⟩ := passed
      rw [byteLen_eq_length fun char member =>
        val_le_of_host_char (or_assoc.mp (chars char member))] at short
      refine ⟨short, host.splitOn '.', List.splitOn_ne_nil _ _, fun label among => ?_,
        (List.intercalate_splitOn '.').symm⟩
      obtain ⟨no_dot, inside⟩ := Separated.mem_of_mem_splitOn among
      refine (label_checks_iff fun char member => ?_).mp (labels label among)
      obtain (alphanum | rfl) | hyphen := chars char (inside char member)
      · exact .inl alphanum
      · exact absurd member no_dot
      · exact .inr hyphen
    · intro valid
      have chars := valid.chars
      obtain ⟨short, labels, some_label, valid, rfl⟩ := valid
      have parts : (dotted labels).splitOn '.' = labels :=
        (Separated.splitOn_eq_iff some_label).mpr
          ⟨rfl, fun label among => not_dot_mem_of_isLabel (valid label among)⟩
      have nonempty : [] ∉ labels := fun member => (valid [] member).nonempty rfl
      refine ⟨?_, fun label among => ?_⟩
      · simp only [Bool.or_eq_true, not_or, List.isEmpty_iff, decide_eq_true_eq, Nat.not_lt,
          Bool.not_eq_true', Bool.not_eq_false, List.all_eq_true]
        refine ⟨⟨⟨⟨dotted_ne_nil some_label nonempty, ?_⟩, fun first => nonempty ?_⟩,
          fun last => nonempty ?_⟩, fun char member => or_assoc.mpr (chars char member)⟩
        · rw [byteLen_eq_length fun char member => val_le_of_host_char (chars char member)]
          exact short
        · exact parts ▸ Separated.nil_mem_splitOn (.inl first)
        · exact parts ▸ Separated.nil_mem_splitOn (.inr last)
      · rw [parts] at among
        exact (label_checks_iff (valid label among).chars).mpr (valid label among)
  · intro octet step passed
    simp only [Except.guard_eq_ok_iff] at passed
    exact (Except.ok.inj passed.2).symm

/-! ## URLs -/

theorem isAuthorityChar_of_digit {text : List Char}
    (digits : ∀ char ∈ text, char.isDigit = true) : ∀ char ∈ text, IsAuthorityChar char :=
  fun char member => .inl (isAlphanum_of_isDigit (digits char member))

theorem isAuthorityChar_with_port {host port : List Char}
    (host_chars : ∀ char ∈ host, IsAuthorityChar char)
    (digits : ∀ char ∈ port, char.isDigit = true) :
    ∀ char ∈ host ++ ':' :: port, IsAuthorityChar char := by
  intro char member
  obtain in_host | later := List.mem_append.mp member
  · exact host_chars char in_host
  · obtain rfl | in_port := List.mem_cons.mp later
    · exact .inr (.inr (.inr rfl))
    · exact isAuthorityChar_of_digit digits char in_port

theorem isAuthorityChar_dotted {octets : List (List Char)}
    (valid : ∀ octet ∈ octets, IsOctet octet) : ∀ char ∈ dotted octets, IsAuthorityChar char := by
  intro char member
  obtain dot | ⟨octet, among, inside⟩ := Separated.mem_intercalate member
  · exact .inr (.inl dot)
  · exact isAuthorityChar_of_digit (valid octet among).digits char inside

theorem not_mem_of_path {front path : List Char} {delimiter : Char} (absent : delimiter ∉ front)
    (other : delimiter ≠ '/') (absent_path : delimiter ∉ path) :
    delimiter ∉ front ++ '/' :: path := by
  rw [List.mem_append, List.mem_cons]
  exact not_or.mpr ⟨absent, not_or.mpr ⟨other, absent_path⟩⟩

/-- The local profile behind its scheme. -/
theorem validateLocalHttpUrl_iff {rest : List Char} :
    validateLocalHttpUrl rest = .ok () ↔
      ∃ octets port path, octets.length = 4 ∧ (∀ octet ∈ octets, IsOctet octet) ∧ IsPort port ∧
        path ≠ [] ∧ '?' ∉ path ∧ '#' ∉ path ∧
        rest = dotted octets ++ ':' :: port ++ '/' :: path := by
  unfold validateLocalHttpUrl
  dsimp only
  rw [Except.guard_eq_ok_iff, Except.guard_eq_ok_iff]
  simp only [List.contains_iff_mem]
  constructor
  · rintro ⟨no_fragment, no_query, accepted⟩
    split at accepted
    · cases accepted
    rename_i authority path parts
    obtain ⟨rfl, -⟩ := splitOnce_eq_some_iff.mp parts
    rw [Except.guard_eq_ok_iff, Except.guard_eq_ok_iff] at accepted
    obtain ⟨-, nonempty, accepted⟩ := accepted
    split at accepted
    · cases accepted
    rename_i host port parts
    obtain ⟨rfl, -⟩ := rsplitOnce_eq_some_iff.mp parts
    rw [Except.guard_eq_ok_iff, validateIpv4Host_iff] at accepted
    obtain ⟨port_accepted, octets, four, valid, rfl⟩ := accepted
    simp only [Bool.not_eq_true', Bool.not_eq_false, validPort_iff] at port_accepted
    exact ⟨octets, port, path, four, valid, port_accepted,
      fun empty => nonempty (List.isEmpty_iff.mpr empty),
      fun member => no_query (by simp [member]), fun member => no_fragment (by simp [member]), rfl⟩
  · rintro ⟨octets, port, path, four, valid, is_port, nonempty, no_query, no_fragment, rfl⟩
    have plain := isAuthorityChar_with_port (isAuthorityChar_dotted valid) is_port.digits
    have absent {delimiter : Char} (reserved : delimiter ∈ ['#', '?', '/', '@']) :=
      not_mem_of_authority plain reserved
    have parts : splitOnce '/' (dotted octets ++ ':' :: port ++ '/' :: path) =
        some (dotted octets ++ ':' :: port, path) :=
      splitOnce_eq_some_iff.mpr ⟨rfl, absent (by decide)⟩
    have host_and_port : rsplitOnce ':' (dotted octets ++ ':' :: port) =
        some (dotted octets, port) :=
      rsplitOnce_eq_some_iff.mpr ⟨rfl, not_mem_of_digits is_port.digits rfl⟩
    refine ⟨not_mem_of_path (absent (by decide)) (by decide) no_fragment,
      not_mem_of_path (absent (by decide)) (by decide) no_query, ?_⟩
    simp only [parts, host_and_port]
    rw [Except.guard_eq_ok_iff, Except.guard_eq_ok_iff, Except.guard_eq_ok_iff,
      validateIpv4Host_iff, validPort_iff.mpr is_port]
    exact ⟨absent (by decide), fun empty => nonempty (List.isEmpty_iff.mp empty),
      Bool.false_ne_true, octets, four, valid, rfl⟩

theorem IsHostName.not_colon_mem {host : List Char} (valid : IsHostName host) : ':' ∉ host :=
  fun member => absurd (valid.chars ':' member) (by decide)

theorem IsHostName.isAuthorityChar {host : List Char} (valid : IsHostName host) :
    ∀ char ∈ host, IsAuthorityChar char :=
  fun char member => (valid.chars char member).imp_right (Or.imp_right .inl)

theorem isAuthorityChar_authority {host : List Char} {port : Option (List Char)}
    (is_host : IsHostName host) (is_port : ∀ digits ∈ port, IsPort digits) :
    ∀ char ∈ authority host port, IsAuthorityChar char := by
  cases port with
  | none => exact is_host.isAuthorityChar
  | some port =>
      exact isAuthorityChar_with_port is_host.isAuthorityChar (is_port port rfl).digits

/-- The release profile behind its scheme. -/
theorem validateHttpsUrl_iff {text : List Char} :
    validateHttpsUrl text = .ok () ↔
      ∃ host port rest, IsHostName host ∧ (∀ digits ∈ port, IsPort digits) ∧ rest ≠ [] ∧
        rest.head? ≠ some '?' ∧ '#' ∉ rest ∧ text = authority host port ++ '/' :: rest := by
  unfold validateHttpsUrl
  dsimp only
  rw [Except.guard_eq_ok_iff]
  simp only [List.contains_iff_mem]
  constructor
  · rintro ⟨no_fragment, accepted⟩
    split at accepted
    · cases accepted
    rename_i front rest parts
    obtain ⟨rfl, -⟩ := splitOnce_eq_some_iff.mp parts
    rw [Except.guard_eq_ok_iff, Except.guard_eq_ok_iff, Except.guard_eq_ok_iff,
      validateHttpsHost_iff] at accepted
    obtain ⟨-, has_path, port_accepted, is_host⟩ := accepted
    simp only [Bool.or_eq_true, List.isEmpty_iff, decide_eq_true_eq, not_or] at has_path
    have no_fragment_rest : '#' ∉ rest := fun member => no_fragment (by simp [member])
    suffices ∃ host port, IsHostName host ∧ (∀ digits ∈ port, IsPort digits) ∧
        front = authority host port by
      obtain ⟨host, port, host_name, ports, rfl⟩ := this
      exact ⟨host, port, rest, host_name, ports, has_path.1, has_path.2, no_fragment_rest, rfl⟩
    cases last_colon : rsplitOnce ':' front with
    | none =>
        simp only [last_colon] at is_host
        exact ⟨front, none, is_host, nofun, rfl⟩
    | some pair =>
        obtain ⟨host, port⟩ := pair
        obtain ⟨rfl, -⟩ := rsplitOnce_eq_some_iff.mp last_colon
        simp only [last_colon] at is_host port_accepted
        split_ifs at is_host port_accepted with digits
        · simp only [Option.any_some, Bool.not_eq_true', Bool.not_eq_false,
            validPort_iff] at port_accepted
          exact ⟨host, some port, is_host, fun _ same => Option.some.inj same ▸ port_accepted, rfl⟩
        -- A colon that no port follows is part of the host, where none may be.
        · exact absurd (List.mem_append_right _ List.mem_cons_self) is_host.not_colon_mem
  · rintro ⟨host, port, rest, is_host, is_port, nonempty, has_path, no_fragment, rfl⟩
    have plain := isAuthorityChar_authority is_host is_port
    have absent {delimiter : Char} (reserved : delimiter ∈ ['#', '?', '/', '@']) :=
      not_mem_of_authority plain reserved
    have parts : splitOnce '/' (authority host port ++ '/' :: rest) =
        some (authority host port, rest) :=
      splitOnce_eq_some_iff.mpr ⟨rfl, absent (by decide)⟩
    refine ⟨not_mem_of_path (absent (by decide)) (by decide) no_fragment, ?_⟩
    simp only [parts]
    rw [Except.guard_eq_ok_iff, Except.guard_eq_ok_iff, Except.guard_eq_ok_iff,
      validateHttpsHost_iff]
    refine ⟨absent (by decide), by simp [nonempty, has_path], ?_⟩
    cases port with
    | none =>
        simp only [authority, rsplitOnce_eq_none is_host.not_colon_mem]
        exact ⟨Bool.false_ne_true, is_host⟩
    | some port =>
        have is_port := is_port port rfl
        have last_colon : rsplitOnce ':' (authority host (some port)) = some (host, port) :=
          rsplitOnce_eq_some_iff.mpr ⟨rfl, not_mem_of_digits is_port.digits rfl⟩
        simp only [last_colon, if_pos (List.all_eq_true.mpr is_port.digits), Option.any_some,
          validPort_iff.mpr is_port]
        exact ⟨Bool.false_ne_true, is_host⟩

theorem dropPrefix_eq_some_iff {text scheme rest : List Char} :
    text.dropPrefix? scheme = some rest ↔ text = scheme ++ rest := by
  simp [List.dropPrefix?_eq_some_iff]

theorem schemes_differ (left right : List Char) :
    "http://".toList ++ left ≠ "https://".toList ++ right := by
  intro same
  have fifth := congrArg (fun text => text[4]?) same
  exact absurd fifth (by simp)

/-- The policy accepts the URLs of the grammar and no others. -/
theorem validateOtaUrlPolicy_iff {url : String} :
    validateOtaUrlPolicy url = .ok () ↔
      (∃ octets port path, IsLocalUrl octets port path url) ∨
        ∃ host port rest, IsHttpsUrl host port rest url := by
  unfold validateOtaUrlPolicy
  cases local_scheme : url.toList.dropPrefix? "http://".toList with
  | some rest =>
      have text := dropPrefix_eq_some_iff.mp local_scheme
      rw [validateLocalHttpUrl_iff]
      constructor
      · rintro ⟨octets, port, path, four, valid, is_port, nonempty, no_query, no_fragment, rfl⟩
        exact .inl ⟨octets, port, path, four, valid, is_port, nonempty, no_query, no_fragment, text⟩
      · rintro (⟨octets, port, path, local_url⟩ | ⟨host, port, path, https_url⟩)
        · exact ⟨octets, port, path, local_url.four, local_url.are_octets, local_url.is_port,
            local_url.nonempty, local_url.no_query, local_url.no_fragment,
            List.append_cancel_left (text.symm.trans local_url.spelled)⟩
        · exact absurd (text.symm.trans https_url.spelled) (schemes_differ _ _)
  | none =>
      have not_local {octets port path} : ¬ IsLocalUrl octets port path url := by
        intro local_url
        rw [dropPrefix_eq_some_iff.mpr local_url.spelled] at local_scheme
        cases local_scheme
      cases https_scheme : url.toList.dropPrefix? "https://".toList with
      | some rest =>
          have text := dropPrefix_eq_some_iff.mp https_scheme
          rw [validateHttpsUrl_iff]
          constructor
          · rintro ⟨host, port, rest, is_host, is_port, nonempty, has_path, no_fragment, rfl⟩
            exact .inr ⟨host, port, rest, is_host, is_port, nonempty, has_path, no_fragment, text⟩
          · rintro (⟨octets, port, path, local_url⟩ | ⟨host, port, rest, https_url⟩)
            · exact absurd local_url not_local
            · exact ⟨host, port, rest, https_url.is_host, https_url.is_port, https_url.nonempty,
                https_url.has_path, https_url.no_fragment,
                List.append_cancel_left (text.symm.trans https_url.spelled)⟩
      | none =>
          refine ⟨nofun, ?_⟩
          rintro (⟨octets, port, path, local_url⟩ | ⟨host, port, rest, https_url⟩)
          · exact absurd local_url not_local
          · rw [dropPrefix_eq_some_iff.mpr https_url.spelled] at https_scheme
            cases https_scheme

end OtaCore
end Motonet
