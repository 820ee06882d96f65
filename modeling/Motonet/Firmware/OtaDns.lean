import Mathlib.Data.Vector.Basic
import Motonet.OtaCore.UrlGrammar

/-!
# Name resolution of downloads

The resolver that the HTTP client of a download is given: IPv4 literals are parsed here, only other
hosts are looked up.
-/

namespace Motonet
namespace Firmware

open OtaCore

/-- The octets of an IPv4 address. -/
abbrev Ipv4Addr := List.Vector UInt8 4

/-- An address that a name resolves to. -/
inductive IpAddr
  | v4 (octets : Ipv4Addr)
  | v6 (octets : List.Vector UInt8 16)
  deriving DecidableEq

/-- The kind of address that a client asks for. -/
inductive AddrType
  | ipv4
  | ipv6
  | either
  deriving DecidableEq, Repr

/-- Why a name has no address. -/
inductive OtaDnsError
  | lookup
  deriving DecidableEq, Repr

/-- One part of `parse_ipv4_literal`. -/
def parseOctet (part : List Char) : Option UInt8 :=
  if part.isEmpty || byteLen part > 3 || !part.all Char.isDigit then none
  else if octetValue part < 256 then some (UInt8.ofNat (octetValue part))
  else none

/-- Parse a dotted quad into its octets. -/
def parseIpv4Literal (host : List Char) : Option Ipv4Addr :=
  if host.isEmpty || (host.splitOn '.').length ≠ 4 then none
  else
    -- The four parts have the indices 0 to 3.
    (host.splitOn '.').zipIdx.foldlM
      (fun octets part => (parseOctet part.1).map
        (octets.set ⟨part.2 % 4, Nat.mod_lt _ (Nat.zero_lt_succ 3)⟩))
      (List.Vector.replicate 4 0)

/-- Find the address of a host; the state is the hosts that were looked up. -/
def getHostByName (lookup : List Char → AddrType → Option IpAddr) (host : List Char)
    (addrType : AddrType) : Fallible OtaDnsError (List (List Char)) IpAddr :=
  match parseIpv4Literal host with
  | some address => pure (.v4 address)
  | none => do
      Fallible.update fun asked => ((), asked ++ [host])
      match lookup host addrType with
      | some address => pure address
      | none => throw .lookup

/-- A part is parsed if it is an octet, and then as the number that it spells. -/
theorem parseOctet_eq_some_iff {part : List Char} {value : UInt8} :
    parseOctet part = some value ↔ IsOctet part ∧ value.toNat = decimal part := by
  rw [← octet_checks_iff, parseOctet, ← octetValue_eq_decimal]
  split_ifs with malformed small
  · simp [malformed]
  · rw [Option.some.injEq]
    constructor
    · rintro rfl
      exact ⟨⟨malformed, by omega⟩, UInt8.toNat_ofNat_of_lt' small⟩
    · rintro ⟨-, same⟩
      rw [← same, UInt8.ofNat_toNat]
  · simp only [false_iff]
    omega

theorem parse_four {first second third fourth : List Char} :
    [first, second, third, fourth].zipIdx.foldlM
        (fun (octets : Ipv4Addr) part =>
          (parseOctet part.1).map (octets.set ⟨part.2 % 4, Nat.mod_lt _ (Nat.zero_lt_succ 3)⟩))
        (List.Vector.replicate 4 0) =
      (parseOctet first).bind fun a => (parseOctet second).bind fun b =>
        (parseOctet third).bind fun c => (parseOctet fourth).map fun d => ⟨[a, b, c, d], rfl⟩ := by
  simp only [List.zipIdx_cons, List.zipIdx_nil, List.foldlM_cons, List.foldlM_nil]
  cases parseOctet first <;> cases parseOctet second <;> cases parseOctet third <;>
    cases parseOctet fourth <;> rfl

theorem exists_parseOctet {part : List Char} (octet : IsOctet part) :
    ∃ value, parseOctet part = some value ∧ value.toNat = decimal part := by
  have fits : decimal part < 256 := Nat.lt_succ_of_le octet.bounded
  have value : (UInt8.ofNat (decimal part)).toNat = decimal part := UInt8.toNat_ofNat_of_lt' fits
  exact ⟨_, parseOctet_eq_some_iff.mpr ⟨octet, value⟩, value⟩

/-- The host of a local URL is parsed as its four octets. -/
theorem parseIpv4Literal_dotted {octets : List (List Char)} (four : octets.length = 4)
    (valid : ∀ octet ∈ octets, IsOctet octet) :
    ∃ address, parseIpv4Literal (dotted octets) = some address ∧
      address.toList.map UInt8.toNat = octets.map decimal := by
  have nonempty : ¬ ((dotted octets).isEmpty ||
      decide (((dotted octets).splitOn '.').length ≠ 4)) = true := by
    simp [splitOn_dotted four valid, four, dotted_octets_ne_nil four valid]
  rw [parseIpv4Literal, if_neg nonempty, splitOn_dotted four valid]
  match octets, four with
  | [first, second, third, fourth], _ =>
      simp only [List.forall_mem_cons] at valid
      obtain ⟨is_first, is_second, is_third, is_fourth, -⟩ := valid
      obtain ⟨a, parsed_a, value_a⟩ := exists_parseOctet is_first
      obtain ⟨b, parsed_b, value_b⟩ := exists_parseOctet is_second
      obtain ⟨c, parsed_c, value_c⟩ := exists_parseOctet is_third
      obtain ⟨d, parsed_d, value_d⟩ := exists_parseOctet is_fourth
      refine ⟨⟨[a, b, c, d], rfl⟩, ?_, ?_⟩
      · rw [parse_four, parsed_a, parsed_b, parsed_c, parsed_d]
        rfl
      · simp [List.Vector.toList, value_a, value_b, value_c, value_d]

/-- The two parsers of dotted quads accept the same hosts. -/
theorem parseIpv4Literal_isSome_iff {host : List Char} :
    (parseIpv4Literal host).isSome = true ↔ validateIpv4Host host = .ok () := by
  rw [validateIpv4Host_iff]
  constructor
  · intro parsed
    unfold parseIpv4Literal at parsed
    split_ifs at parsed with malformed
    · cases parsed
    · simp only [Bool.or_eq_true, not_or, decide_eq_true_eq, not_not] at malformed
      refine ⟨host.splitOn '.', malformed.2, ?_, (List.intercalate_splitOn '.').symm⟩
      match host.splitOn '.', malformed.2, parsed with
      | [first, second, third, fourth], _, parsed =>
          rw [parse_four] at parsed
          obtain ⟨address, parsed⟩ := Option.isSome_iff_exists.mp parsed
          simp only [Option.bind_eq_some_iff] at parsed
          obtain ⟨a, is_first, b, is_second, c, is_third, whole⟩ := parsed
          obtain ⟨d, is_fourth, -⟩ := Option.map_eq_some_iff.mp whole
          simp only [List.forall_mem_cons]
          exact ⟨(parseOctet_eq_some_iff.mp is_first).1, (parseOctet_eq_some_iff.mp is_second).1,
            (parseOctet_eq_some_iff.mp is_third).1, (parseOctet_eq_some_iff.mp is_fourth).1, nofun⟩
  · rintro ⟨octets, four, valid, rfl⟩
    obtain ⟨address, parsed, -⟩ := parseIpv4Literal_dotted four valid
    rw [parsed, Option.isSome_some]

/-- A host that is parsed here is not looked up. -/
theorem getHostByName_literal {host : List Char} {address : Ipv4Addr}
    (parsed : parseIpv4Literal host = some address) (lookup : List Char → AddrType → Option IpAddr)
    (addrType : AddrType) (asked : List (List Char)) :
    Fallible.exec (getHostByName lookup host addrType) asked = (.ok (.v4 address), asked) := by
  rw [getHostByName, parsed]
  rfl

/-- The policy accepts exactly the URLs of its grammar, its arithmetic does not overflow, and the
host of an accepted local URL is the address of its four octets without a lookup. -/
theorem url_policy_exact (url : String) :
    (validateOtaUrlPolicy url = .ok () ↔
      (∃ octets port path, IsLocalUrl octets port path url) ∨
        ∃ host port rest, IsHttpsUrl host port rest url) ∧
      (∀ port, validPortChecked port = some (validPort port)) ∧
      (∀ host, validateIpv4HostChecked host = ExceptT.mk (some (validateIpv4Host host))) ∧
      ∀ octets port path, IsLocalUrl octets port path url →
        ∃ address, parseIpv4Literal (dotted octets) = some address ∧
          address.toList.map UInt8.toNat = octets.map decimal ∧
          ∀ lookup addrType asked,
            Fallible.exec (getHostByName lookup (dotted octets) addrType) asked =
              (.ok (.v4 address), asked) := by
  refine ⟨validateOtaUrlPolicy_iff, validPortChecked_eq, validateIpv4HostChecked_eq, ?_⟩
  intro octets port path local_url
  obtain ⟨address, parsed, value⟩ :=
    parseIpv4Literal_dotted local_url.four local_url.are_octets
  exact ⟨address, parsed, value, getHostByName_literal parsed⟩

end Firmware
end Motonet
