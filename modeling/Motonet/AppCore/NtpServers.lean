import Mathlib.Data.List.DropRight
import Mathlib.Data.Vector.Basic
import Mathlib.Tactic.SplitIfs
import Motonet.Foundation.Distinct

/-!
# NTP servers

The list of NTP servers is parsed from a configuration string into an array with room for four
addresses.  A fallback list is used if the string has no address at all.
-/

namespace Motonet
namespace AppCore
namespace NtpServers

/-! ## Texts and addresses of the standard library -/

/-- The octets of an IPv4 address. -/
abbrev Ipv4Addr := List.Vector UInt8 4

/-- `Ipv4Addr::UNSPECIFIED`. -/
def unspecified : Ipv4Addr := List.Vector.replicate 4 0

/-- Unicode's `White_Space`. -/
def isWhiteSpace (char : Char) : Bool :=
  let code := char.toNat
  (9 ≤ code && code ≤ 13) || code == 32 || code == 0x85 || code == 0xa0 || code == 0x1680 ||
    (0x2000 ≤ code && code ≤ 0x200a) || code == 0x2028 || code == 0x2029 || code == 0x202f ||
    code == 0x205f || code == 0x3000

/-- `str::trim`. -/
def trim (text : List Char) : List Char :=
  (text.dropWhile isWhiteSpace).rdropWhile isWhiteSpace

/-- A decimal octet of up to three digits, without a zero in front. -/
def parseOctet (text : List Char) : Option UInt8 :=
  if text.isEmpty || 3 < text.length || !text.all Char.isDigit ||
      (text.head? == some '0' && text.length != 1) then none
  else
    let value := text.foldl (fun value char => value * 10 + (char.toNat - '0'.toNat)) 0
    if value < 256 then some (UInt8.ofNat value) else none

/-- `Ipv4Addr::from_str`. -/
def parseIpv4Addr (text : List Char) : Option Ipv4Addr :=
  match text.splitOn '.' with
  | [first, second, third, fourth] => do
      let first ← parseOctet first
      let second ← parseOctet second
      let third ← parseOctet third
      let fourth ← parseOctet fourth
      return first ::ᵥ second ::ᵥ third ::ᵥ fourth ::ᵥ List.Vector.nil
  | _ => none

/-! ## The list of servers -/

def maxNtpServers : ℕ := 4

/-- An array of addresses of which the first `len` are in use. -/
structure NtpServerList where
  servers : List.Vector Ipv4Addr maxNtpServers
  len : ℕ
  len_le : len ≤ maxNtpServers

namespace NtpServerList

def asSlice (list : NtpServerList) : List Ipv4Addr :=
  list.servers.toList.take list.len

def empty : NtpServerList where
  servers := List.Vector.replicate maxNtpServers unspecified
  len := 0
  len_le := Nat.zero_le _

/-- Use the next place. -/
def push (list : NtpServerList) (addr : Ipv4Addr) (room : list.len < maxNtpServers) :
    NtpServerList where
  servers := list.servers.set ⟨list.len, room⟩ addr
  len := list.len + 1
  len_le := room

end NtpServerList

/-- The loop over the fields of the configuration, which ends when there is no room. -/
def addConfigured (parse : List Char → Option Ipv4Addr) :
    List (List Char) → NtpServerList → NtpServerList
  | [], list => list
  | candidate :: candidates, list =>
      if full : list.len = maxNtpServers then list
      else
        match parse (trim candidate) with
        | none => addConfigured parse candidates list
        | some addr =>
            if addr ∈ list.asSlice then addConfigured parse candidates list
            else addConfigured parse candidates
              (list.push addr (Nat.lt_of_le_of_ne list.len_le full))

/-- The loop over the fallback list, which skips the addresses for which there is no room. -/
def addFallback : List Ipv4Addr → NtpServerList → NtpServerList
  | [], list => list
  | addr :: addrs, list =>
      if skipped : list.len = maxNtpServers ∨ addr ∈ list.asSlice then addFallback addrs list
      else addFallback addrs
        (list.push addr (Nat.lt_of_le_of_ne list.len_le fun full => skipped (Or.inl full)))

/-- `parse_ntp_server_list`, with the parser of an address. -/
def parseNtpServerList (parse : List Char → Option Ipv4Addr) (raw : String)
    (fallback : List Ipv4Addr) : NtpServerList :=
  let list := addConfigured parse (raw.toList.splitOn ',') .empty
  if list.len = 0 then addFallback fallback list else list

/-- The addresses that a configuration names. -/
def configuredAddrs (parse : List Char → Option Ipv4Addr) (raw : String) : List Ipv4Addr :=
  (raw.toList.splitOn ',').filterMap fun field => parse (trim field)

/-! ## What is kept -/

namespace NtpServerList

theorem length_asSlice (list : NtpServerList) : list.asSlice.length = list.len := by
  rw [asSlice, List.length_take, List.Vector.toList_length]
  exact Nat.min_eq_left list.len_le

theorem asSlice_empty : empty.asSlice = [] := rfl

theorem asSlice_push (list : NtpServerList) (addr : Ipv4Addr)
    (room : list.len < maxNtpServers) :
    (list.push addr room).asSlice = list.asSlice ++ [addr] := by
  have within : list.len < list.servers.toList.length := by
    rw [List.Vector.toList_length]
    exact room
  change (list.servers.set ⟨list.len, room⟩ addr).toList.take (list.len + 1) = _
  rw [List.Vector.toList_set, List.take_add_one, List.take_set_of_le (Nat.le_refl _),
    List.getElem?_set_self within]
  rfl

theorem asSlice_eq_nil_iff {list : NtpServerList} : list.asSlice = [] ↔ list.len = 0 := by
  rw [← list.length_asSlice, List.length_eq_zero_iff]

end NtpServerList

open NtpServerList Distinct

/-- The loop over the fields offers the addresses that they name. -/
theorem asSlice_addConfigured (parse : List Char → Option Ipv4Addr)
    (candidates : List (List Char)) (list : NtpServerList) :
    (addConfigured parse candidates list).asSlice =
      (candidates.filterMap fun field => parse (trim field)).foldl (offer maxNtpServers)
        list.asSlice := by
  induction candidates generalizing list with
  | nil => rfl
  | cons candidate candidates ih =>
      rw [addConfigured]
      split_ifs with full
      · rw [foldl_offer_of_full (list.length_asSlice.trans full)]
      · have not_full : list.asSlice.length ≠ maxNtpServers := by rwa [list.length_asSlice]
        cases parsed : parse (trim candidate) with
        | none =>
            simp only [List.filterMap_cons, parsed]
            exact ih list
        | some addr =>
            simp only [List.filterMap_cons, parsed, List.foldl_cons, offer]
            by_cases known : addr ∈ list.asSlice
            · rw [if_pos known, if_pos (Or.inr known)]
              exact ih list
            · rw [if_neg known, if_neg (not_or.mpr ⟨not_full, known⟩), ← asSlice_push]
              exact ih _

/-- The loop over the fallback list offers its addresses. -/
theorem asSlice_addFallback (addrs : List Ipv4Addr) (list : NtpServerList) :
    (addFallback addrs list).asSlice =
      addrs.foldl (offer maxNtpServers) list.asSlice := by
  induction addrs generalizing list with
  | nil => rfl
  | cons addr addrs ih =>
      rw [addFallback, List.foldl_cons, offer, list.length_asSlice]
      split_ifs with skipped
      · exact ih list
      · rw [ih, asSlice_push]

theorem asSlice_parseNtpServerList (parse : List Char → Option Ipv4Addr) (raw : String)
    (fallback : List Ipv4Addr) :
    (parseNtpServerList parse raw fallback).asSlice =
      (if configuredAddrs parse raw = [] then fallback
        else configuredAddrs parse raw).eraseDups.take maxNtpServers := by
  have configured :
      (addConfigured parse (raw.toList.splitOn ',') .empty).asSlice =
        (configuredAddrs parse raw).eraseDups.take maxNtpServers := by
    rw [asSlice_addConfigured, asSlice_empty, foldl_offer_eq]
    rfl
  have none_iff : (addConfigured parse (raw.toList.splitOn ',') .empty).len = 0 ↔
      configuredAddrs parse raw = [] := by
    rw [← asSlice_eq_nil_iff, configured, take_eraseDups_eq_nil_iff (by decide)]
  unfold parseNtpServerList
  by_cases none : configuredAddrs parse raw = []
  · have unused := none_iff.mpr none
    have kept := asSlice_eq_nil_iff.mpr unused
    simp only [unused, if_pos none, if_true]
    rw [asSlice_addFallback, kept, foldl_offer_eq]
  · simp only [mt none_iff.mp none, if_neg none, if_false]
    exact configured

/-- The list holds the first distinct addresses of the configuration, or of the fallback if the
configuration names none; it has no duplicates, and is empty only if neither has an address. -/
theorem parsed_servers_distinct (parse : List Char → Option Ipv4Addr) (raw : String)
    (fallback : List Ipv4Addr) :
    (parseNtpServerList parse raw fallback).asSlice =
        (if configuredAddrs parse raw = [] then fallback
          else configuredAddrs parse raw).eraseDups.take maxNtpServers ∧
      (parseNtpServerList parse raw fallback).asSlice.Nodup ∧
      ((parseNtpServerList parse raw fallback).asSlice = [] ↔
        configuredAddrs parse raw = [] ∧ fallback = []) := by
  rw [asSlice_parseNtpServerList]
  refine ⟨rfl, (nodup_eraseDups _).sublist (List.take_sublist _ _), ?_⟩
  rw [take_eraseDups_eq_nil_iff (by decide)]
  split_ifs with none
  · simp [none]
  · simp [none]

example : (parseNtpServerList parseIpv4Addr "216.239.35.0, 300.1.1.1,,216.239.35.0,216.239.35.4"
    []).asSlice.map List.Vector.toList = [[216, 239, 35, 0], [216, 239, 35, 4]] := by
  decide

end NtpServers
end AppCore
end Motonet
