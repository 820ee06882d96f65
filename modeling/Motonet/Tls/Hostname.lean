import Motonet.Foundation.Separated
import Mathlib.Data.List.Count

/-!
# Host names

Which names of a certificate are good for a host, as the byte loops of `pki.rs` decide it, and the
same in labels: a name covers itself, and a name `*.parent` covers the hosts right below a parent of
two labels or more.
-/

namespace Motonet
namespace Tls

def dot : UInt8 := 46

def star : UInt8 := 42

/-- Letters, digits, `-` and `.`. -/
def isHostByte (byte : UInt8) : Bool :=
  (97 ≤ byte && byte ≤ 122) || (65 ≤ byte && byte ≤ 90) || (48 ≤ byte && byte ≤ 57) ||
    byte == 45 || byte == dot

/-- In a certificate there may be a `*` as well. -/
def isNameByte (byte : UInt8) : Bool := isHostByte byte || byte == star

def toAsciiLowercase (byte : UInt8) : UInt8 :=
  if 65 ≤ byte ∧ byte ≤ 90 then byte + 32 else byte

/-- The loops that compare two texts byte by byte. -/
def eqIgnoreCase (left right : List UInt8) : Bool :=
  left.length == right.length &&
    (left.zip right).all fun pair => toAsciiLowercase pair.1 == toAsciiLowercase pair.2

/-- `tls_hostname_match_impl`. -/
def tlsHostnameMatchImpl (cn host : List UInt8) : Bool :=
  if !cn.all isNameByte then false
  else if !host.all isHostByte then false
  else
    let cnLabels := cn.count dot + 1
    let hostLabels := host.count dot + 1
    let stars := cn.count star
    if stars = 0 then eqIgnoreCase cn host
    else if stars ≠ 1 then false
    else if !(([star, dot] : List UInt8).isPrefixOf cn) then false
    else if cnLabels < 3 then false
    else if cnLabels ≠ hostLabels then false
    else
      match host.idxOf? dot with
      | none => false
      | some dotIdx => eqIgnoreCase (cn.drop 2) (host.drop (dotIdx + 1))

/-- The names in a certificate. -/
structure CertificateNames where
  commonName : Option (List UInt8)
  sanDnsNames : List (List UInt8)
  deriving DecidableEq

/-- `tls_hostname_match`.  The common name counts whether there are other names or not. -/
def tlsHostnameMatch (names : CertificateNames) (hostname : Option (List UInt8)) : Bool :=
  match hostname with
  | none => names.commonName.isNone && names.sanDnsNames.isEmpty
  | some hostname =>
      if names.sanDnsNames.any fun san => tlsHostnameMatchImpl san hostname then true
      else
        match names.commonName with
        | some cn => tlsHostnameMatchImpl cn hostname
        | none => false

/-! ## Labels -/

def lower (text : List UInt8) : List UInt8 := text.map toAsciiLowercase

/-- The labels of a name, in lower case. -/
def labels (name : List UInt8) : List (List UInt8) := (lower name).splitOn dot

/-- A name in labels covers a host in labels. -/
inductive Covers : List (List UInt8) → List (List UInt8) → Prop
  | same (labels : List (List UInt8)) : Covers labels labels
  | wildcard {parent : List (List UInt8)} (label : List UInt8) (long : 2 ≤ parent.length) :
      Covers ([star] :: parent) (label :: parent)

/-- A name in a certificate is good for a host. -/
structure GoodFor (name host : List UInt8) : Prop where
  name_bytes : ∀ byte ∈ name, isNameByte byte = true
  host_bytes : ∀ byte ∈ host, isHostByte byte = true
  covers : Covers (labels name) (labels host)

private theorem toNat_toAsciiLowercase (byte : UInt8) : (toAsciiLowercase byte).toNat =
    if 65 ≤ byte.toNat ∧ byte.toNat ≤ 90 then byte.toNat + 32 else byte.toNat := by
  unfold toAsciiLowercase
  simp only [UInt8.le_iff_toNat_le, UInt8.toNat_ofNat]
  split
  · rw [UInt8.toNat_add]
    simp only [UInt8.toNat_ofNat]
    omega
  · rfl

/-- Only a dot is a dot in lower case. -/
theorem toAsciiLowercase_eq_dot_iff {byte : UInt8} : toAsciiLowercase byte = dot ↔ byte = dot := by
  rw [← UInt8.toNat_inj, ← UInt8.toNat_inj, toNat_toAsciiLowercase]
  have value : dot.toNat = 46 := rfl
  split <;> omega

theorem toAsciiLowercase_eq_star_iff {byte : UInt8} :
    toAsciiLowercase byte = star ↔ byte = star := by
  rw [← UInt8.toNat_inj, ← UInt8.toNat_inj, toNat_toAsciiLowercase]
  have value : star.toNat = 42 := rfl
  split <;> omega

theorem eqIgnoreCase_iff {left right : List UInt8} :
    eqIgnoreCase left right = true ↔ lower left = lower right := by
  induction left generalizing right with
  | nil => cases right <;> simp [eqIgnoreCase, lower]
  | cons first left ih =>
      cases right with
      | nil => simp [eqIgnoreCase, lower]
      | cons second right =>
          have rest := @ih right
          simp only [eqIgnoreCase, lower, List.length_cons, List.zip_cons_cons, List.all_cons,
            List.map_cons, List.cons.injEq, Bool.and_eq_true, beq_iff_eq, Nat.add_right_cancel_iff]
            at rest ⊢
          rw [← rest]
          tauto

theorem count_lower_dot (text : List UInt8) : (lower text).count dot = text.count dot := by
  induction text with
  | nil => rfl
  | cons byte text ih =>
      rw [lower, List.map_cons, List.count_cons, List.count_cons, ← lower, ih]
      simp only [beq_iff_eq, toAsciiLowercase_eq_dot_iff]

theorem count_lower_star (text : List UInt8) : (lower text).count star = text.count star := by
  induction text with
  | nil => rfl
  | cons byte text ih =>
      rw [lower, List.map_cons, List.count_cons, List.count_cons, ← lower, ih]
      simp only [beq_iff_eq, toAsciiLowercase_eq_star_iff]

/-- There is one label more than dots. -/
theorem length_labels (name : List UInt8) : (labels name).length = name.count dot + 1 := by
  rw [labels, Separated.length_splitOn, count_lower_dot]

/-- Names have the same labels if they are the same up to case. -/
theorem labels_inj {left right : List UInt8} : labels left = labels right ↔
    lower left = lower right := by
  constructor
  · intro same
    have joined := congrArg (List.intercalate [dot]) same
    rwa [labels, labels, List.intercalate_splitOn, List.intercalate_splitOn] at joined
  · exact fun same => by rw [labels, labels, same]

/-- The labels of a name are the front up to its first dot and the labels behind it. -/
theorem labels_append_dot {front : List UInt8} (clean : dot ∉ front) (rest : List UInt8) :
    labels (front ++ dot :: rest) = lower front :: labels rest := by
  have clean : dot ∉ lower front := by
    intro member
    obtain ⟨byte, inside, same⟩ := List.mem_map.mp member
    exact clean (toAsciiLowercase_eq_dot_iff.mp same ▸ inside)
  have lowered : toAsciiLowercase dot = dot := rfl
  rw [labels, lower, List.map_append, List.map_cons, lowered, ← lower, ← lower,
    List.splitOn_append_cons_self_of_not_mem clean, labels]

/-- A host has no star in its labels. -/
theorem count_star_eq_zero {host : List UInt8} (valid : ∀ byte ∈ host, isHostByte byte = true) :
    host.count star = 0 := by
  rw [List.count_eq_zero]
  intro member
  exact absurd (valid star member) (by decide)

theorem idxOf?_dot {front : List UInt8} (clean : dot ∉ front) (rest : List UInt8) :
    (front ++ dot :: rest).idxOf? dot = some front.length := by
  induction front with
  | nil => simp [List.idxOf?_cons]
  | cons byte front ih =>
      have distinct : byte ≠ dot := fun same => clean (same ▸ List.mem_cons_self)
      have clean : dot ∉ front := fun member => clean (List.mem_cons_of_mem _ member)
      rw [List.cons_append, List.idxOf?_cons, ih clean]
      simp [distinct]

/-- A name with a star that the loops accept. -/
theorem exists_of_wildcard {name host : List UInt8} (front : [star, dot].isPrefixOf name = true)
    (found : (match host.idxOf? dot with
      | none => false
      | some dotIdx => eqIgnoreCase (name.drop 2) (host.drop (dotIdx + 1))) = true) :
    ∃ suffix label rest, name = star :: dot :: suffix ∧ host = label ++ dot :: rest ∧
      dot ∉ label ∧ lower suffix = lower rest := by
  obtain ⟨suffix, rfl⟩ := List.isPrefixOf_iff_prefix.mp front
  by_cases member : dot ∈ host
  · obtain ⟨label, rest, rfl, clean⟩ := List.eq_append_cons_of_mem member
    rw [idxOf?_dot clean] at found
    refine ⟨suffix, label, rest, rfl, rfl, clean, ?_⟩
    have same := eqIgnoreCase_iff.mp found
    have behind : (label ++ dot :: rest).drop (label.length + 1) = rest := by
      rw [← List.drop_drop, List.drop_left, List.drop_succ_cons, List.drop_zero]
    rwa [behind] at same
  · rw [List.idxOf?_eq_none_iff.mpr member] at found
    cases found

/-- A name with several labels goes up to its first dot, and on behind it. -/
theorem exists_of_labels_cons {name label : List UInt8} {parent : List (List UInt8)}
    (split : labels name = label :: parent) (several : 0 < parent.length) :
    ∃ front rest, name = front ++ dot :: rest ∧ dot ∉ front ∧ lower front = label ∧
      labels rest = parent := by
  have length := length_labels name
  rw [split, List.length_cons] at length
  have member : dot ∈ name := List.count_pos_iff.mp (by omega)
  obtain ⟨front, rest, rfl, clean⟩ := List.eq_append_cons_of_mem member
  rw [labels_append_dot clean] at split
  exact ⟨front, rest, rfl, clean, (List.cons.inj split).1, (List.cons.inj split).2⟩

/-- Only a star is a star in lower case. -/
theorem eq_star_of_lower {text : List UInt8} (lowered : lower text = [star]) : text = [star] := by
  obtain ⟨byte, rfl, same⟩ := List.map_eq_singleton_iff.mp lowered
  rw [toAsciiLowercase_eq_star_iff.mp same]

/-- The byte loops find that a name is good for a host exactly if it covers the host in labels. -/
theorem tlsHostnameMatchImpl_iff {name host : List UInt8} :
    tlsHostnameMatchImpl name host = true ↔ GoodFor name host := by
  constructor
  · intro accepted
    dsimp only [tlsHostnameMatchImpl] at accepted
    split_ifs at accepted with bad_name bad_host plain many front short lengths
    · have name_bytes : ∀ byte ∈ name, isNameByte byte = true := by simpa using bad_name
      have host_bytes : ∀ byte ∈ host, isHostByte byte = true := by simpa using bad_host
      refine ⟨name_bytes, host_bytes, ?_⟩
      rw [labels_inj.mpr (eqIgnoreCase_iff.mp accepted)]
      exact .same _
    · have name_bytes : ∀ byte ∈ name, isNameByte byte = true := by simpa using bad_name
      have host_bytes : ∀ byte ∈ host, isHostByte byte = true := by simpa using bad_host
      have front : [star, dot].isPrefixOf name = true := by simpa using front
      obtain ⟨suffix, label, rest, rfl, rfl, clean, same⟩ := exists_of_wildcard front accepted
      refine ⟨name_bytes, host_bytes, ?_⟩
      have star_clean : dot ∉ [star] := by decide
      have starred : labels (star :: dot :: suffix) = [star] :: labels suffix :=
        labels_append_dot star_clean suffix
      have long : 2 ≤ (labels suffix).length := by
        have length := length_labels (star :: dot :: suffix)
        rw [starred, List.length_cons] at length
        omega
      rw [starred, labels_append_dot clean, ← labels_inj.mpr same]
      exact .wildcard _ long
  · rintro ⟨name_bytes, host_bytes, covers⟩
    have name_good : ¬ (!name.all isNameByte) = true := by simpa using name_bytes
    have host_good : ¬ (!host.all isHostByte) = true := by simpa using host_bytes
    have unstarred := count_star_eq_zero host_bytes
    generalize name_labels : labels name = left, host_labels : labels host = right at covers
    dsimp only [tlsHostnameMatchImpl]
    rw [if_neg name_good, if_neg host_good]
    cases covers with
    | same =>
        have same := labels_inj.mp (name_labels.trans host_labels.symm)
        have plain : name.count star = 0 := by
          rw [← count_lower_star, same, count_lower_star, unstarred]
        rw [if_pos plain]
        exact eqIgnoreCase_iff.mpr same
    | @wildcard parent label long =>
        obtain ⟨front, suffix, rfl, -, starred, suffix_labels⟩ :=
          exists_of_labels_cons name_labels (by omega)
        obtain rfl := eq_star_of_lower starred
        obtain ⟨front, rest, rfl, clean, -, rest_labels⟩ :=
          exists_of_labels_cons host_labels (by omega)
        have same := labels_inj.mp (suffix_labels.trans rest_labels.symm)
        have rest_unstarred : rest.count star = 0 := by
          rw [List.count_append, List.count_cons] at unstarred
          omega
        have once : ([star] ++ dot :: suffix).count star = 1 := by
          have plain : suffix.count star = 0 := by
            rw [← count_lower_star, same, count_lower_star, rest_unstarred]
          have distinct : (dot == star) = false := by decide
          rw [List.count_append, List.count_cons (l := suffix), plain, distinct]
          decide
        have name_length := length_labels ([star] ++ dot :: suffix)
        have host_length := length_labels (front ++ dot :: rest)
        rw [name_labels, List.length_cons] at name_length
        rw [host_labels, List.length_cons] at host_length
        have behind : (front ++ dot :: rest).drop (front.length + 1) = rest := by
          rw [← List.drop_drop, List.drop_left, List.drop_succ_cons, List.drop_zero]
        rw [if_neg (by omega), if_neg (by omega), if_neg (by simp), if_neg (by omega),
          if_neg (by omega), idxOf?_dot clean]
        dsimp only
        rw [behind]
        exact eqIgnoreCase_iff.mpr same

/-- A certificate is for a host if one of its names is good for the host, be it an alternative name
or the common name; without a host it must not have any. -/
theorem tlsHostnameMatch_iff {names : CertificateNames} {hostname : Option (List UInt8)} :
    tlsHostnameMatch names hostname = true ↔
      match hostname with
      | none => names = ⟨none, []⟩
      | some hostname => ∃ name, (name ∈ names.sanDnsNames ∨ names.commonName = some name) ∧
          GoodFor name hostname := by
  obtain ⟨commonName, sanDnsNames⟩ := names
  cases hostname with
  | none => simp [tlsHostnameMatch]
  | some hostname =>
      have alternatives : (sanDnsNames.any fun san => tlsHostnameMatchImpl san hostname) = true ↔
          ∃ name ∈ sanDnsNames, GoodFor name hostname := by
        simp only [List.any_eq_true, tlsHostnameMatchImpl_iff]
      dsimp only [tlsHostnameMatch]
      split_ifs with found
      · obtain ⟨name, member, good⟩ := alternatives.mp found
        exact iff_of_true rfl ⟨name, .inl member, good⟩
      · have none_found : ∀ name ∈ sanDnsNames, ¬ GoodFor name hostname :=
          fun name member good => found (alternatives.mpr ⟨name, member, good⟩)
        cases commonName with
        | none =>
            refine iff_of_false Bool.false_ne_true ?_
            rintro ⟨name, member | impossible, good⟩
            · exact none_found name member good
            · cases impossible
        | some cn =>
            rw [tlsHostnameMatchImpl_iff]
            constructor
            · exact fun good => ⟨cn, .inr rfl, good⟩
            · rintro ⟨name, member | same, good⟩
              · exact absurd good (none_found name member)
              · cases same
                exact good

end Tls
end Motonet
