import Skan.Target.Lists

/-!
# Expansion is a bounded union

What `TargetEngine::resolve` makes of a list of literals, blocks and ranges. The loops of
`TargetResolver::expand` keep one invariant, `Expansion.Sound`: the addresses so far are pairwise
distinct, at most `max_targets`, and remembered. `Yields` is the specification every part of the
expansion meets: it ends soundly with exactly the given addresses, or fails and there are more than
`max_targets` of them. So a failure of an early budget check is a failure of the union
(`Yields.mono_error`).

One kind of item is outside of this: a range of IPv6 addresses over a boundary of 2^64 fails however
small it is (`TargetItem.Crosses`).
-/

namespace Skan.Target

open Skan.Core Skan.Core.IpAddress

variable {limits : TargetLimits} {state : Expansion} {a : IpAddress} {lo n : ℕ}

/-- The addresses of the targets so far. -/
def Expansion.addresses (state : Expansion) : Set IpAddress :=
  {address | address ∈ state.expanded.map ResolvedTarget.ipAddress}

/-- The invariant of the loops of `expand`. -/
structure Expansion.Sound (limits : TargetLimits) (state : Expansion) : Prop where
  seen_eq : state.seen = (state.expanded.map ResolvedTarget.ipAddress).reverse
  nodup : (state.expanded.map ResolvedTarget.ipAddress).Nodup
  length_le : state.expanded.length ≤ limits.maxTargets

/-- `result` is a sound state with exactly `addresses`, or a failure because these are too many. -/
def Yields {ε : Type*} (limits : TargetLimits) (result : Except ε Expansion)
    (addresses : Set IpAddress) : Prop :=
  match result with
  | .ok state => state.Sound limits ∧ state.addresses = addresses
  | .error _ => (limits.maxTargets : ℕ∞) < addresses.encard

theorem Expansion.Sound.encard_addresses (h : state.Sound limits) :
    state.addresses.encard = state.expanded.length := by
  have hfinset : state.addresses =
      ((state.expanded.map ResolvedTarget.ipAddress).toFinset : Set IpAddress) := by
    ext address
    simp [Expansion.addresses]
  rw [hfinset, Set.encard_coe_eq_coe_finsetCard, List.toFinset_card_of_nodup h.nodup,
    List.length_map]

theorem Expansion.sound_empty (limits : TargetLimits) : Expansion.Sound limits {} where
  seen_eq := rfl
  nodup := List.nodup_nil
  length_le := Nat.zero_le _

theorem Expansion.addresses_empty : Expansion.addresses {} = ∅ := by
  ext address
  simp [Expansion.addresses]

/-! ### Appending -/

theorem append_yields (hs : state.Sound limits) {address : IpAddress} (hvalid : address.valid)
    (hostname : Option Text) :
    Yields limits (append limits state address hostname) (insert address state.addresses) := by
  have hseen : address ∈ state.seen ↔ address ∈ state.addresses := by
    rw [hs.seen_eq, List.mem_reverse]
    rfl
  have hlength : state.seen.length = state.expanded.length := by
    rw [hs.seen_eq, List.length_reverse, List.length_map]
  rw [append, hvalid]
  by_cases hmem : address ∈ state.addresses
  · rw [if_pos (by simp [hseen.mpr hmem])]
    exact ⟨hs, (Set.insert_eq_of_mem hmem).symm⟩
  · have hnew : address ∉ state.seen := fun h ↦ hmem (hseen.mp h)
    rw [if_neg (by simp [hnew]), hlength]
    split
    · next hfull =>
      show (limits.maxTargets : ℕ∞) < _
      rw [Set.encard_insert_of_notMem hmem, hs.encard_addresses]
      exact_mod_cast hfull
    · next hroom =>
      refine ⟨⟨?_, ?_, ?_⟩, ?_⟩
      · simp [hs.seen_eq]
      · rw [List.map_append, List.nodup_append]
        refine ⟨hs.nodup, by simp, ?_⟩
        rintro a ha b hb rfl
        obtain rfl : a = address := by simpa using hb
        exact hmem ha
      · rw [List.length_append, List.length_singleton]
        omega
      · ext a
        simp [Expansion.addresses, or_comm]

theorem Yields.mono_error {ε : Type*} {error : ε} {few many : Set IpAddress}
    (h : Yields limits (Except.error error) few) (hsub : few ⊆ many) :
    Yields limits (Except.error error : Except ε Expansion) many :=
  lt_of_lt_of_le h (Set.encard_le_encard hsub)

theorem appendAll_yields (hostname : Option Text) {addresses : List IpAddress}
    (hvalid : ∀ address ∈ addresses, address.valid) (hs : state.Sound limits) :
    Yields limits (appendAll limits hostname state addresses)
      (state.addresses ∪ {address | address ∈ addresses}) := by
  induction addresses generalizing state with
  | nil => exact ⟨hs, by simp⟩
  | cons address addresses ih =>
    obtain ⟨hhead, htail⟩ := List.forall_mem_cons.mp hvalid
    have happend := append_yields hs hhead hostname
    have hunion : state.addresses ∪ {a | a ∈ address :: addresses} =
        insert address state.addresses ∪ {a | a ∈ addresses} := by
      ext a
      simp only [Set.mem_union, Set.mem_ofPred_eq, List.mem_cons, Set.mem_insert_iff]
      tauto
    rw [hunion, appendAll]
    cases hresult : append limits state address hostname with
    | error error =>
      rw [hresult] at happend
      exact lt_of_lt_of_le happend (Set.encard_le_encard Set.subset_union_left)
    | ok state' =>
      rw [hresult] at happend
      rw [← happend.2]
      exact ih htail happend.1

/-- The budget check and the loop over a segment. -/
theorem segment_yields (ha : a.Canonical) (hfits : lo + n ≤ 2 ^ a.width) {offset : ℕ → IpAddress}
    (hoffset : ∀ i < n, offset i = a.withNumber (lo + i)) (hs : state.Sound limits)
    (failure : TargetFailure) :
    Yields limits
      (if n > limits.maxTargets then .error failure
        else appendAll limits none state ((List.range n).map offset))
      (state.addresses ∪ a.segment lo n) := by
  split
  · next hmany =>
    have hcount : Yields limits (Except.error failure : Except _ Expansion) (a.segment lo n) := by
      show (limits.maxTargets : ℕ∞) < _
      rw [encard_segment ha hfits]
      exact_mod_cast hmany
    exact hcount.mono_error Set.subset_union_right
  · have hset : {address | address ∈ (List.range n).map offset} = a.segment lo n := by
      ext c
      rw [mem_segment_iff ha hfits]
      simp only [Set.mem_ofPred_eq, List.mem_map, List.mem_range]
      refine exists_congr fun i ↦ and_congr_right fun hi ↦ ?_
      rw [hoffset i hi]
    rw [← hset]
    refine appendAll_yields none (fun address hmem ↦ ?_) hs
    obtain ⟨i, hi, rfl⟩ := List.mem_map.mp hmem
    rw [hoffset i (List.mem_range.mp hi)]
    exact (canonical_withNumber ha _).valid

/-! ### The IPv4 branch -/

/-- The loop of the IPv4 branch goes through offsets of the first address. -/
theorem fromIpv4_add_ofNat (w first : UInt32) (offset : ℕ) :
    fromIpv4 (first + UInt32.ofNat offset) =
      (fromIpv4 w).withNumber (first.toNat + offset) := by
  rw [withNumber_fromIpv4, UInt32.ofNat_add, UInt32.ofNat_toNat]

theorem width_fromIpv4 (w : UInt32) : (fromIpv4 w).width = 32 := rfl

/-- The IPv4 branch covers the segment of its first address and its count. -/
theorem expandIpv4_yields {specification : TargetSpec} (w : UInt32)
    (hfirst : (ipv4First specification).toNat = lo) (hcount : (ipv4Count specification).toNat = n)
    (hfits : lo + n ≤ 2 ^ 32) (hs : state.Sound limits) :
    Yields limits (expandIpv4 limits specification state)
      (state.addresses ∪ (fromIpv4 w).segment lo n) := by
  rw [expandIpv4, hcount, ← hfirst]
  refine segment_yields (canonical_fromIpv4 w) (hfirst ▸ hfits) (fun i _ ↦ ?_) hs _
  exact fromIpv4_add_ofNat w _ i

/-! ### The IPv6 branch -/

theorem expandOffsets_yields (specification : TargetSpec) (first : IpAddress) (ha : a.isIpv6)
    (hfirst : first.isIpv6) (hscope : first.scope = a.scope) (count : UInt64)
    (hfits : first.number % 2 ^ 64 + count.toNat ≤ 2 ^ 64) (hs : state.Sound limits) :
    Yields limits (expandOffsets limits specification state first count)
      (state.addresses ∪ a.segment first.number count.toNat) := by
  have hwidth : first.number + count.toNat ≤ 2 ^ a.width := by
    have hlt := first.number_lt
    rw [width_of_isIpv6 hfirst] at hlt
    rw [width_of_isIpv6 ha]
    omega
  rw [expandOffsets]
  refine segment_yields (.inl ha) hwidth (fun i hi ↦ ?_) hs _
  have hfamily : first.family = a.family :=
    (of_decide_eq_true hfirst).trans (of_decide_eq_true ha).symm
  rw [addIpv6Offset_eq_withNumber hfirst (by omega), withNumber_of_isIpv6 hfirst,
    withNumber_of_isIpv6 ha, hfamily, hscope]

/-- A multiple of `2 ^ h` has room for an offset below `2 ^ h` in the low eight bytes. -/
theorem mod_add_le_of_multiple {q h : ℕ} (hh : h < 64) :
    q * 2 ^ h % 2 ^ 64 + 2 ^ h ≤ 2 ^ 64 := by
  have hpow : 2 ^ 64 = 2 ^ (64 - h) * 2 ^ h := by rw [← pow_add, Nat.sub_add_cancel hh.le]
  rw [hpow, Nat.mul_mod_mul_right]
  have hlt : q % 2 ^ (64 - h) + 1 ≤ 2 ^ (64 - h) := Nat.mod_lt q (by positivity)
  calc q % 2 ^ (64 - h) * 2 ^ h + 2 ^ h = (q % 2 ^ (64 - h) + 1) * 2 ^ h := by ring
    _ ≤ 2 ^ (64 - h) * 2 ^ h := Nat.mul_le_mul_right _ hlt

/-- What exceeds 2^64 addresses exceeds every valid limit. -/
theorem lt_encard_segment (hvalid : limits.valid) (ha : a.Canonical)
    (hfits : lo + n ≤ 2 ^ a.width) (hn : 2 ^ 64 ≤ n) :
    (limits.maxTargets : ℕ∞) < (a.segment lo n).encard := by
  simp only [TargetLimits.valid, Bool.and_eq_true, decide_eq_true_eq] at hvalid
  have hmaximum : maximumTargets < 2 ^ 64 := by decide
  rw [encard_segment ha hfits]
  have hlt : limits.maxTargets < n := by omega
  exact_mod_cast hlt

/-! ### One specification -/

variable (resolver : HostnameResolver) (specification : TargetSpec) {state : Expansion}

theorem ipv4_yields (hkind : specification.kind = .ipv4) (hs : state.Sound limits) :
    Yields limits (expandOne limits resolver specification state)
      (state.addresses ∪ {.fromIpv4 specification.firstAddress}) := by
  have hsingle : {fromIpv4 specification.firstAddress} =
      (fromIpv4 specification.firstAddress).segment
        specification.firstAddress.toNat 1 := by
    have h := segment_one (canonical_fromIpv4 specification.firstAddress)
    rwa [number_fromIpv4, eq_comm] at h
  rw [hsingle, expandOne, hkind]
  refine expandIpv4_yields _ ?_ ?_ specification.firstAddress.toNat_lt hs
  · rw [ipv4First, hkind]
  · rw [ipv4Count, hkind]
    rfl

/-- A block fits its address family. -/
theorem block_fits {w p : ℕ} (hn : n < 2 ^ w) (hp : p ≤ w) :
    n / 2 ^ (w - p) * 2 ^ (w - p) + 2 ^ (w - p) ≤ 2 ^ w := by
  have hpow : 2 ^ w = 2 ^ p * 2 ^ (w - p) := by rw [← pow_add, Nat.add_sub_cancel' hp]
  have hquot : n / 2 ^ (w - p) < 2 ^ p := by
    rw [Nat.div_lt_iff_lt_mul (by positivity), ← hpow]
    exact hn
  calc n / 2 ^ (w - p) * 2 ^ (w - p) + 2 ^ (w - p)
      = (n / 2 ^ (w - p) + 1) * 2 ^ (w - p) := by ring
    _ ≤ 2 ^ p * 2 ^ (w - p) := Nat.mul_le_mul_right _ hquot
    _ = 2 ^ w := hpow.symm

theorem ipv4Cidr_yields (hkind : specification.kind = .ipv4Cidr)
    (hp : specification.prefixLength.toNat ≤ 32) (hs : state.Sound limits) :
    Yields limits (expandOne limits resolver specification state)
      (state.addresses ∪ (fromIpv4 specification.firstAddress).block
        specification.prefixLength.toNat) := by
  rw [block_eq_segment, expandOne, hkind, width_fromIpv4, number_fromIpv4]
  refine expandIpv4_yields _ ?_ ?_ (block_fits specification.firstAddress.toNat_lt hp) hs
  · rw [ipv4First, hkind]
    exact toNat_and_ipv4Mask _ hp
  · have hbits : (ipv4HostBits specification).toUInt64.toNat =
        32 - specification.prefixLength.toNat := by
      rw [UInt32.toNat_toUInt64, toNat_ipv4HostBits hp]
    rw [ipv4Count, hkind, ← hbits]
    exact toNat_one_shiftLeft (by omega)

theorem ipv4Range_yields (hkind : specification.kind = .ipv4Range)
    (hle : specification.firstAddress.toNat ≤ specification.lastAddress.toNat)
    (hs : state.Sound limits) :
    Yields limits (expandOne limits resolver specification state)
      (state.addresses ∪ (fromIpv4 specification.firstAddress).interval
        (.fromIpv4 specification.lastAddress)) := by
  have hlast := specification.lastAddress.toNat_lt
  rw [interval_eq_segment (by simpa using hle), expandOne, hkind,
    number_fromIpv4, number_fromIpv4]
  refine expandIpv4_yields _ ?_ ?_ (by omega) hs
  · rw [ipv4First, hkind]
  · rw [ipv4Count, hkind, UInt64.toNat_add, UInt64.toNat_sub, UInt32.toNat_toUInt64,
      UInt32.toNat_toUInt64, UInt64.toNat_one]
    omega

theorem ipv6_yields (hkind : specification.kind = .ipv6) (hsix : specification.firstIp.isIpv6)
    (hs : state.Sound limits) :
    Yields limits (expandOne limits resolver specification state)
      (state.addresses ∪ {specification.firstIp}) := by
  rw [← segment_one (.inl hsix), expandOne, hkind, expandIpv6, hsix, hkind]
  exact expandOffsets_yields _ _ hsix hsix rfl 1 (by rw [UInt64.toNat_one]; omega) hs

theorem ipv6Cidr_yields (hvalid : limits.valid) (hkind : specification.kind = .ipv6Cidr)
    (hsix : specification.firstIp.isIpv6) (hp : specification.prefixLength.toNat ≤ 128)
    (hs : state.Sound limits) :
    Yields limits (expandOne limits resolver specification state)
      (state.addresses ∪ specification.firstIp.block specification.prefixLength.toNat) := by
  have hfits := block_fits specification.firstIp.number_lt
    ((width_of_isIpv6 hsix).symm ▸ hp)
  have hbits : (128 - specification.prefixLength.toUInt32).toNat =
      128 - specification.prefixLength.toNat :=
    UInt32.toNat_sub_of_le 128 _ (UInt32.le_iff_toNat_le.mpr
      (show specification.prefixLength.toUInt32.toNat ≤ 128 by simpa using hp))
  rw [block_eq_segment, expandOne, hkind]
  dsimp only
  rw [expandIpv6, hsix, hkind, if_neg (by decide)]
  dsimp only
  rw [width_of_isIpv6 hsix] at hfits ⊢
  split
  · next hhost =>
    -- 2^64 or more addresses
    have hhost' : 64 ≤ 128 - specification.prefixLength.toNat := by
      rw [← hbits]
      exact UInt32.le_iff_toNat_le.mp hhost
    have hmany : Yields limits (Except.error (exhausted (literal
        "IPv6 CIDR expansion exceeds --max-targets: " ++ specification.original)) :
          Except _ Expansion) _ :=
      lt_encard_segment hvalid (.inl hsix)
        (by rw [width_of_isIpv6 hsix]; exact hfits)
        (Nat.pow_le_pow_right (by norm_num) hhost')
    exact hmany.mono_error Set.subset_union_right
  · next hhost =>
    have hhost' : 128 - specification.prefixLength.toNat < 64 := by
      rw [← hbits]
      exact Nat.not_le.mp fun h ↦ hhost (UInt32.le_iff_toNat_le.mpr h)
    have hnumber := number_maskIpv6 hsix hp
    have hcount : (1 <<< (128 - specification.prefixLength.toUInt32).toUInt64 : UInt64).toNat =
        2 ^ (128 - specification.prefixLength.toNat) := by
      rw [toNat_one_shiftLeft, UInt32.toNat_toUInt64, hbits]
      rwa [UInt32.toNat_toUInt64, hbits]
    have hyields := expandOffsets_yields specification
      (maskIpv6 specification.firstIp specification.prefixLength) hsix hsix rfl
      (1 <<< (128 - specification.prefixLength.toUInt32).toUInt64)
      (by rw [hnumber, hcount]; exact mod_add_le_of_multiple hhost') hs
    rwa [hnumber, hcount] at hyields

/-- The ends of an IPv6 range are in one block of 2^64 addresses. -/
def InOneBlock (first last : IpAddress) : Prop :=
  first.number / 2 ^ 64 = last.number / 2 ^ 64

theorem ipv6Range_yields (hvalid : limits.valid) (hkind : specification.kind = .ipv6Range)
    (hfirst : specification.firstIp.isIpv6) (hlast : specification.lastIp.isIpv6)
    (hle : specification.firstIp.number ≤ specification.lastIp.number)
    (hblock : InOneBlock specification.firstIp specification.lastIp) (hs : state.Sound limits) :
    Yields limits (expandOne limits resolver specification state)
      (state.addresses ∪ specification.firstIp.interval specification.lastIp) := by
  have hlastLt := specification.lastIp.number_lt
  rw [width_of_isIpv6 hlast] at hlastLt
  have hwidth : specification.firstIp.number +
      (specification.lastIp.number - specification.firstIp.number + 1) ≤
        2 ^ specification.firstIp.width := by
    rw [width_of_isIpv6 hfirst]
    omega
  rw [interval_eq_segment hle, expandOne, hkind]
  dsimp only
  rw [expandIpv6, hfirst, hkind, if_neg (by decide)]
  dsimp only
  rw [ipv6RangeCount_eq hfirst hlast hle]
  by_cases hroom : specification.lastIp.number - specification.firstIp.number + 1 < 2 ^ 64
  · have hcount := UInt64.toNat_ofNat_of_lt' hroom
    have hmod : specification.firstIp.number % 2 ^ 64 +
        (specification.lastIp.number - specification.firstIp.number + 1) ≤ 2 ^ 64 := by
      rw [InOneBlock] at hblock
      omega
    have hyields := expandOffsets_yields specification _ hfirst hfirst rfl
      (UInt64.ofNat (specification.lastIp.number - specification.firstIp.number + 1))
      (hcount.symm ▸ hmod) hs
    rw [if_pos ⟨hblock, hroom⟩]
    rwa [hcount] at hyields
  · rw [if_neg fun h ↦ hroom h.2]
    have hmany : Yields limits (Except.error (exhausted (literal
        "IPv6 range is too large to expand safely: " ++ specification.original)) :
          Except _ Expansion) _ :=
      lt_encard_segment hvalid (.inl hfirst) hwidth (Nat.not_lt.mp hroom)
    exact hmany.mono_error Set.subset_union_right

/-- A range over a boundary of 2^64 fails. -/
theorem ipv6Range_error (hkind : specification.kind = .ipv6Range)
    (hfirst : specification.firstIp.isIpv6) (hlast : specification.lastIp.isIpv6)
    (hle : specification.firstIp.number ≤ specification.lastIp.number)
    (hblock : ¬ InOneBlock specification.firstIp specification.lastIp) :
    expandOne limits resolver specification state = .error (exhausted
      (literal "IPv6 range is too large to expand safely: " ++ specification.original)) := by
  rw [expandOne, hkind]
  dsimp only
  rw [expandIpv6, hfirst, hkind, if_neg (by decide)]
  dsimp only
  rw [ipv6RangeCount_eq hfirst hlast hle, if_neg fun h ↦ hblock h.1]

/-! ### One item -/

variable {inet : Inet}

theorem toNat_ofNat_length {p : ℕ} (hp : p ≤ 128) : (UInt8.ofNat p).toNat = p :=
  UInt8.toNat_ofNat_of_lt' (show p < 2 ^ 8 by omega)

theorem isIpv6_congr {b : IpAddress} (h : a.family = b.family) : a.isIpv6 = b.isIpv6 := by
  rw [isIpv6, isIpv6, h]

theorem isIpv4_congr {b : IpAddress} (h : a.family = b.family) : a.isIpv4 = b.isIpv4 := by
  rw [isIpv4, isIpv4, h]

theorem take_eight_eq_iff {first last : IpAddress} (hfirst : first.isIpv6) (hlast : last.isIpv6) :
    first.bytes.toList.take 8 = last.bytes.toList.take 8 ↔ InOneBlock first last := by
  rw [InOneBlock, number_of_isIpv6 hfirst, number_of_isIpv6 hlast,
    ← value_take_eight, ← value_take_eight]
  exact ⟨congrArg BigEndian.value, BigEndian.value_injective (by simp)⟩

section

variable (form : PresentationForm inet)

include form

/-- A literal, by the address it denotes. -/
theorem literal_yields (a : AddressText inet) (hs : state.Sound limits) :
    Yields limits (expandOne limits resolver (TargetItem.literal a).spec state)
      (state.addresses ∪ {a.address}) := by
  generalize hspec : (TargetItem.literal a).spec = specification
  rw [TargetItem.spec] at hspec
  cases hfour : a.address.isIpv4 with
  | true =>
    rw [hfour, if_pos rfl] at hspec
    have hyields := ipv4_yields resolver specification (by rw [← hspec]) hs
    subst hspec
    dsimp only at hyields
    rwa [← (a.isAddressText.of_isIpv4 hfour).2] at hyields
  | false =>
    rw [hfour, if_neg Bool.false_ne_true] at hspec
    subst hspec
    exact ipv6_yields resolver _ rfl (a.isAddressText.of_not_isIpv4 form hfour).1 hs

/-- A block, by the address and the prefix it is written with. -/
theorem cidr_yields (hvalid : limits.valid) (a : AddressText inet) {prefixText : Text}
    (hne : prefixText ≠ []) (hdigits : prefixText.all isDigit)
    (hwidth : decimalValue prefixText ≤ a.address.width) (hs : state.Sound limits) :
    Yields limits
      (expandOne limits resolver (TargetItem.cidr a prefixText hne hdigits hwidth).spec state)
      (state.addresses ∪ a.address.block (decimalValue prefixText)) := by
  have hbound : a.address.width ≤ 128 := by
    rw [width]
    split <;> omega
  have hbits := toNat_ofNat_length (hwidth.trans hbound)
  generalize hspec : (TargetItem.cidr a prefixText hne hdigits hwidth).spec = specification
  rw [TargetItem.spec] at hspec
  cases hfour : a.address.isIpv4 with
  | true =>
    have hwidth' : a.address.width = 32 := by rw [width, hfour, if_pos rfl]
    rw [hfour, if_pos rfl] at hspec
    have hyields := ipv4Cidr_yields resolver specification (by rw [← hspec])
      (by rw [← hspec]; exact hbits.trans_le (hwidth' ▸ hwidth)) hs
    subst hspec
    dsimp only at hyields
    rwa [← (a.isAddressText.of_isIpv4 hfour).2, hbits] at hyields
  | false =>
    have hsix := (a.isAddressText.of_not_isIpv4 form hfour).1
    rw [hfour, if_neg Bool.false_ne_true] at hspec
    have hyields := ipv6Cidr_yields resolver specification hvalid (by rw [← hspec])
      (by rw [← hspec]; exact hsix)
      (by rw [← hspec]; exact hbits.trans_le (hwidth.trans hbound)) hs
    subst hspec
    dsimp only at hyields
    rwa [hbits] at hyields

/-- A range that stays in one block of 2^64 addresses, by its ends. -/
theorem range_yields (hvalid : limits.valid) (first last : AddressText inet) {before after : Text}
    (hblank : before.all isBlank ∧ after.all isBlank)
    (hfamily : first.address.family = last.address.family)
    (hscope : first.address.scope = last.address.scope)
    (hle : first.address.number ≤ last.address.number)
    (hcrosses : ¬ (TargetItem.range first last before after hblank hfamily hscope hle).Crosses)
    (hs : state.Sound limits) :
    Yields limits
      (expandOne limits resolver
        (TargetItem.range first last before after hblank hfamily hscope hle).spec state)
      (state.addresses ∪ first.address.interval last.address) := by
  generalize hspec :
    (TargetItem.range first last before after hblank hfamily hscope hle).spec = specification
  rw [TargetItem.spec] at hspec
  cases hfour : first.address.isIpv4 with
  | true =>
    have hfirst := (first.isAddressText.of_isIpv4 hfour).2
    have hlast := (last.isAddressText.of_isIpv4 (isIpv4_congr hfamily ▸ hfour)).2
    rw [hfour, if_pos rfl] at hspec
    have hle' : first.address.ipv4Word.toNat ≤ last.address.ipv4Word.toNat := by
      rwa [hfirst, hlast, number_fromIpv4, number_fromIpv4] at hle
    have hyields := ipv4Range_yields resolver specification (by rw [← hspec])
      (by rw [← hspec]; exact hle') hs
    subst hspec
    dsimp only at hyields
    rwa [← hfirst, ← hlast] at hyields
  | false =>
    have hfirst := (first.isAddressText.of_not_isIpv4 form hfour).1
    have hlast : last.address.isIpv6 := isIpv6_congr hfamily ▸ hfirst
    have hblock : InOneBlock first.address last.address := by
      rw [← take_eight_eq_iff hfirst hlast]
      by_contra hne
      exact hcrosses ⟨hfirst, hne⟩
    rw [hfour, if_neg Bool.false_ne_true] at hspec
    subst hspec
    exact ipv6Range_yields resolver _ hvalid rfl hfirst hlast hle hblock hs

/-- An item that is no range over a boundary yields its addresses. -/
theorem item_yields (hvalid : limits.valid) (item : TargetItem inet) (hcrosses : ¬ item.Crosses)
    (hs : state.Sound limits) :
    Yields limits (expandOne limits resolver item.spec state)
      (state.addresses ∪ item.addresses) := by
  cases item with
  | literal a => exact literal_yields resolver form a hs
  | cidr a prefixText hne hdigits hwidth =>
    exact cidr_yields resolver form hvalid a hne hdigits hwidth hs
  | range first last before after hblank hfamily hscope hle =>
    exact range_yields resolver form hvalid first last hblank hfamily hscope hle hcrosses hs

end

theorem item_error (item : TargetItem inet) (hcrosses : item.Crosses) :
    ∃ failure, expandOne limits resolver item.spec state = .error failure := by
  cases item with
  | literal a => exact hcrosses.elim
  | cidr => exact hcrosses.elim
  | range first last before after hblank hfamily hscope hle =>
    obtain ⟨hfirst, hne⟩ := hcrosses
    have hlast : last.address.isIpv6 := isIpv6_congr hfamily ▸ hfirst
    rw [TargetItem.spec, isIpv4_eq_false_of_isIpv6 hfirst, if_neg Bool.false_ne_true]
    exact ⟨_, ipv6Range_error resolver _ rfl hfirst hlast hle fun hblock ↦
      hne ((take_eight_eq_iff hfirst hlast).mpr hblock)⟩

/-! ### A list of items -/

/-- The loop of `expand`: without ranges over a boundary it yields the union. -/
theorem expandAll_yields (form : PresentationForm inet) (hvalid : limits.valid)
    {entries : List (ListedItem inet)} (hcrosses : ∀ entry ∈ entries, ¬ entry.item.Crosses)
    (hs : state.Sound limits) :
    Yields limits (expandAll limits resolver (entries.map fun entry ↦ entry.item.spec) state)
      (state.addresses ∪ denoted entries) := by
  induction entries generalizing state with
  | nil => exact ⟨hs, by simp [denoted]⟩
  | cons entry entries ih =>
    obtain ⟨hhead, htail⟩ := List.forall_mem_cons.mp hcrosses
    have hunion : state.addresses ∪ denoted (entry :: entries) =
        (state.addresses ∪ entry.item.addresses) ∪ denoted entries := by
      ext a
      simp only [denoted, Set.mem_union, Set.mem_ofPred_eq, List.mem_cons, exists_eq_or_imp]
      tauto
    have hitem := item_yields resolver form hvalid entry.item hhead hs
    rw [hunion, List.map_cons, expandAll]
    cases hresult : expandOne limits resolver entry.item.spec state with
    | error failure =>
      rw [hresult] at hitem
      exact lt_of_lt_of_le hitem (Set.encard_le_encard Set.subset_union_left)
    | ok state' =>
      rw [hresult] at hitem
      rw [← hitem.2]
      exact ih htail hitem.1

theorem expandAll_error {entries : List (ListedItem inet)}
    (hcrosses : ∃ entry ∈ entries, entry.item.Crosses) :
    ∃ failure, expandAll limits resolver (entries.map fun entry ↦ entry.item.spec) state =
      .error failure := by
  induction entries generalizing state with
  | nil => simp at hcrosses
  | cons entry entries ih =>
    rw [List.map_cons, expandAll]
    cases hresult : expandOne limits resolver entry.item.spec state with
    | error failure => exact ⟨failure, rfl⟩
    | ok state' =>
      refine ih ((List.exists_mem_cons_iff _ _ _).mp hcrosses |>.resolve_left fun hhead ↦ ?_)
      obtain ⟨failure, herror⟩ := item_error resolver entry.item hhead
      exact absurd (hresult.symm.trans herror) (by simp)

end Skan.Target
