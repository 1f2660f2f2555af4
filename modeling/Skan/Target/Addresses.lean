import Mathlib.Data.Set.Card
import Skan.Target.Resolver

/-!
# Addresses as numbers

An address of `width` bits has a `number`; `withNumber` puts another one in its place, keeping
family and scope. Over these the address arithmetic of the resolver is arithmetic: `maskIpv6` rounds
down to a multiple of a power of two (`number_maskIpv6`), `addIpv6Offset` adds
(`addIpv6Offset_eq_withNumber`), and `ipv6RangeCount` counts (`ipv6RangeCount_eq`), each as long as
the low eight bytes do not overflow.

A set of consecutive addresses is a `segment`; it has as many elements as numbers
(`encard_segment`), and a loop over the offsets of a base goes through one (`mem_segment_iff`).
-/

namespace Skan.Core.IpAddress

open BigEndian

variable {a b : IpAddress} {n : ℕ}

/-- The number of bits of an address. -/
def width (a : IpAddress) : ℕ := if a.isIpv4 then 32 else 128

def number (a : IpAddress) : ℕ := if a.isIpv4 then a.ipv4Word.toNat else value a.bytes.toList

/-- Addresses whose identity is their family, their number and their scope: an IPv4 address has no
scope and nothing behind its four bytes. -/
def Canonical (a : IpAddress) : Prop := a.isIpv6 ∨ a = fromIpv4 a.ipv4Word

/-- The sixteen bytes of a number. -/
def bytesOfNumber (n : ℕ) : Bytes16 := ⟨(ofValue 16 n).toArray, by simp⟩

/-- The address of the family and scope of `a` with number `n`. -/
def withNumber (a : IpAddress) (n : ℕ) : IpAddress :=
  if a.isIpv4 then fromIpv4 (UInt32.ofNat n) else { a with bytes := bytesOfNumber n }

theorem value_bytesOfNumber (h : n < 2 ^ 128) : value (bytesOfNumber n).toList = n := by
  have hfits : n < 256 ^ 16 := by omega
  simpa [bytesOfNumber] using value_ofValue hfits

theorem value_toList_lt (bytes : Bytes16) : value bytes.toList < 2 ^ 128 := by
  have hlt := value_lt bytes.toList
  rw [Vector.length_toList] at hlt
  omega

theorem bytesOfNumber_value (bytes : Bytes16) : bytesOfNumber (value bytes.toList) = bytes := by
  apply Vector.toList_inj.mp
  apply value_injective (by simp)
  exact value_bytesOfNumber (value_toList_lt bytes)

theorem number_lt (a : IpAddress) : a.number < 2 ^ a.width := by
  rw [number, width]
  split
  · exact a.ipv4Word.toNat_lt
  · exact value_toList_lt a.bytes

@[simp] theorem number_fromIpv4 (w : UInt32) : (fromIpv4 w).number = w.toNat := by
  rw [number, fromIpv4_isIpv4, if_pos rfl, ipv4Word_fromIpv4]

theorem isIpv4_eq_false_of_isIpv6 (h : a.isIpv6) : a.isIpv4 = false := by
  have hfamily : a.family = .ipv6 := of_decide_eq_true h
  simp [isIpv4, hfamily]

theorem number_of_isIpv6 (h : a.isIpv6) : a.number = value a.bytes.toList := by
  rw [number, isIpv4_eq_false_of_isIpv6 h, if_neg Bool.false_ne_true]

theorem width_of_isIpv6 (h : a.isIpv6) : a.width = 128 := by
  rw [width, isIpv4_eq_false_of_isIpv6 h, if_neg Bool.false_ne_true]

theorem withNumber_fromIpv4 (w : UInt32) (n : ℕ) :
    (fromIpv4 w).withNumber n = fromIpv4 (UInt32.ofNat n) := by
  rw [withNumber, fromIpv4_isIpv4, if_pos rfl]

theorem withNumber_of_isIpv6 (h : a.isIpv6) (n : ℕ) :
    a.withNumber n = { a with bytes := bytesOfNumber n } := by
  rw [withNumber, isIpv4_eq_false_of_isIpv6 h, if_neg Bool.false_ne_true]

theorem canonical_fromIpv4 (w : UInt32) : (fromIpv4 w).Canonical :=
  .inr (by rw [ipv4Word_fromIpv4])

theorem Canonical.valid (h : a.Canonical) : a.valid := by
  rcases h with h | h
  · simp [IpAddress.valid, h]
  · rw [h]
    rfl

/-! ### Replacing the number -/

theorem isIpv6_withBytes (h : a.isIpv6) (bytes : Bytes16) :
    ({ a with bytes } : IpAddress).isIpv6 := by
  rw [isIpv6] at h ⊢
  exact h

section

variable (h : a.Canonical)

include h

theorem canonical_withNumber (n : ℕ) : (a.withNumber n).Canonical := by
  rcases h with h | h
  · rw [withNumber_of_isIpv6 h]
    exact .inl (isIpv6_withBytes h _)
  · rw [h, withNumber_fromIpv4]
    exact canonical_fromIpv4 _

theorem family_withNumber (n : ℕ) : (a.withNumber n).family = a.family := by
  rcases h with h | h
  · rw [withNumber_of_isIpv6 h]
  · rw [h, withNumber_fromIpv4]
    rfl

theorem scope_withNumber (n : ℕ) : (a.withNumber n).scope = a.scope := by
  rcases h with h | h
  · rw [withNumber_of_isIpv6 h]
  · rw [h, withNumber_fromIpv4]
    rfl

theorem number_withNumber (hn : n < 2 ^ a.width) : (a.withNumber n).number = n := by
  rcases h with h | h
  · rw [width_of_isIpv6 h] at hn
    have hnumber := number_of_isIpv6 (isIpv6_withBytes h (bytesOfNumber n))
    rw [withNumber_of_isIpv6 h, hnumber, value_bytesOfNumber hn]
  · rw [h, withNumber_fromIpv4, number_fromIpv4]
    rw [h] at hn
    exact UInt32.toNat_ofNat_of_lt' hn

end

/-- A canonical address is determined by family, scope and number. -/
theorem Canonical.eq_withNumber (ha : a.Canonical) (hb : b.Canonical)
    (hfamily : b.family = a.family) (hscope : b.scope = a.scope) : b = a.withNumber b.number := by
  rcases ha with ha | ha
  · have hb₆ : b.isIpv6 := by
      rw [isIpv6, hfamily]
      exact ha
    rw [withNumber_of_isIpv6 ha, number_of_isIpv6 hb₆, bytesOfNumber_value, ← hfamily, ← hscope]
  · have hb₄ : b.isIpv6 = false := by
      rw [isIpv6, hfamily, ha]
      rfl
    have hcanonical : b = fromIpv4 b.ipv4Word := by
      rcases hb with hb | hb
      · rw [hb₄] at hb
        exact absurd hb Bool.false_ne_true
      · exact hb
    rw [ha, withNumber_fromIpv4, hcanonical, number_fromIpv4, UInt32.ofNat_toNat]

/-! ### Segments -/

/-- The addresses of the family and scope of `a` with one of the `n` numbers from `lo` on. -/
def segment (a : IpAddress) (lo n : ℕ) : Set IpAddress :=
  {c | c.Canonical ∧ c.family = a.family ∧ c.scope = a.scope ∧ lo ≤ c.number ∧ c.number < lo + n}

/-- A segment is gone through by offsets from its first number. -/
theorem mem_segment_iff (ha : a.Canonical) {lo : ℕ} (hfits : lo + n ≤ 2 ^ a.width) {c : IpAddress} :
    c ∈ a.segment lo n ↔ ∃ i < n, a.withNumber (lo + i) = c := by
  constructor
  · rintro ⟨hc, hfamily, hscope, hlo, hhi⟩
    refine ⟨c.number - lo, by omega, ?_⟩
    rw [Nat.add_sub_of_le hlo]
    exact (ha.eq_withNumber hc hfamily hscope).symm
  · rintro ⟨i, hi, rfl⟩
    have hnumber := number_withNumber ha (show lo + i < 2 ^ a.width by omega)
    refine ⟨canonical_withNumber ha _, family_withNumber ha _, scope_withNumber ha _, ?_, ?_⟩
    · omega
    · omega

theorem segment_one (ha : a.Canonical) : a.segment a.number 1 = {a} := by
  have hself : a.withNumber a.number = a := (ha.eq_withNumber ha rfl rfl).symm
  ext c
  rw [mem_segment_iff ha a.number_lt]
  simp [hself, eq_comm]

/-- A segment has as many addresses as numbers. -/
theorem encard_segment (ha : a.Canonical) {lo : ℕ} (hfits : lo + n ≤ 2 ^ a.width) :
    (a.segment lo n).encard = n := by
  have himage : a.segment lo n = (fun i ↦ a.withNumber (lo + i)) '' (Finset.range n : Set ℕ) := by
    ext c
    rw [mem_segment_iff ha hfits]
    simp
  have hinj : Set.InjOn (fun i ↦ a.withNumber (lo + i)) (Finset.range n : Set ℕ) := by
    intro i hi j hj hij
    have hi' : i < n := by simpa using hi
    have hj' : j < n := by simpa using hj
    have hnumbers := congrArg number hij
    simp only at hnumbers
    rw [number_withNumber ha (by omega), number_withNumber ha (by omega)] at hnumbers
    omega
  rw [himage, hinj.encard_image, Set.encard_coe_eq_coe_finsetCard, Finset.card_range]

/-! ### The order of addresses -/

/-- The bytes `operator<` compares. -/
def keyBytes (a : IpAddress) : List UInt8 := a.bytes.toList.take (if a.isIpv4 then 4 else 16)

theorem value_keyBytes (a : IpAddress) : value a.keyBytes = a.number := by
  rw [keyBytes, number]
  split
  · rw [ipv4Word, toNat_u32OfBytes]
    have hfour : a.bytes.toList.take 4 = [a.bytes[0], a.bytes[1], a.bytes[2], a.bytes[3]] := by
      apply List.ext_getElem (by simp)
      intro i hi hi'
      have hlt : i < 4 := by simpa using hi'
      interval_cases i <;> simp
    rw [hfour, value_cons, value_cons, value_cons, value_singleton]
    simp only [List.length_cons, List.length_nil]
    ring
  · rw [List.take_of_length_le (by simp)]

theorem length_keyBytes (h : a.family = b.family) : a.keyBytes.length = b.keyBytes.length := by
  simp [keyBytes, isIpv4, h]

/-- Between addresses of one family and scope, the order is the order of the numbers. -/
theorem lt_iff_number_lt (hfamily : a.family = b.family) (hscope : a.scope = b.scope) :
    a.lt b = true ↔ a.number < b.number := by
  have hlength := length_keyBytes hfamily
  have hfour : a.isIpv4 = b.isIpv4 := by rw [isIpv4, isIpv4, hfamily]
  have hb : b.bytes.toList.take (if a.isIpv4 then 4 else 16) = b.keyBytes := by rw [hfour, keyBytes]
  rw [lt, if_neg (not_not_intro hfamily)]
  dsimp only
  rw [hb, ← keyBytes, ← value_keyBytes a, ← value_keyBytes b, ← lt_iff_value_lt hlength]
  by_cases hkeys : a.keyBytes = b.keyBytes
  · -- equal bytes leave the scopes, which agree
    have hirrefl (bytes : List UInt8) : ¬ bytes < bytes := fun hlt ↦
      absurd ((lt_iff_value_lt rfl).mp hlt) (Nat.lt_irrefl _)
    rw [if_neg (not_not_intro hkeys), hscope, hkeys]
    cases b.scope <;> simp [hirrefl]
  · rw [if_pos hkeys, decide_eq_true_iff]

end Skan.Core.IpAddress

namespace Skan.Target

open Skan.Core BigEndian

variable {k : ℕ}

/-! ### Adding an offset -/

/-- The sum of a byte and the low byte of an offset, as a byte and a carry. -/
theorem addOffset_carry (b : UInt8) (offset : UInt64) {sum : UInt16}
    (hsum : sum = b.toUInt16 + (offset &&& 0xFF).toUInt16) :
    (sum &&& 0xFF).toUInt8.toNat + 256 * (offset >>> 8 + (sum >>> 8).toUInt64).toNat =
      b.toNat + offset.toNat := by
  have hb : b.toNat < 256 := b.toNat_lt
  have hoffset : offset.toNat < 2 ^ 64 := offset.toNat_lt
  have hlow : (offset &&& 0xFF).toUInt16.toNat = offset.toNat % 256 := by
    have hand : (offset &&& 0xFF).toNat = offset.toNat % 256 :=
      Nat.and_two_pow_sub_one_eq_mod offset.toNat 8
    rw [UInt64.toNat_toUInt16, hand]
    omega
  have hsumNat : sum.toNat = b.toNat + offset.toNat % 256 := by
    rw [hsum, UInt16.toNat_add, hlow, UInt8.toNat_toUInt16]
    omega
  have hbyte : (sum &&& 0xFF).toUInt8.toNat = sum.toNat % 256 := by
    have hand : (sum &&& 0xFF).toNat = sum.toNat % 256 :=
      Nat.and_two_pow_sub_one_eq_mod sum.toNat 8
    rw [UInt16.toNat_toUInt8, hand]
    omega
  have hcarry : (offset >>> 8 + (sum >>> 8).toUInt64).toNat =
      offset.toNat / 256 + sum.toNat / 256 := by
    have hsize : sum.toNat < 65536 := sum.toNat_lt
    rw [UInt64.toNat_add, UInt16.toNat_toUInt64, UInt64.toNat_shiftRight, UInt16.toNat_shiftRight]
    simp only [UInt64.reduceToNat, UInt16.reduceToNat, Nat.reduceMod, Nat.shiftRight_eq_div_pow]
    omega
  rw [hbyte, hcarry, hsumNat]
  omega

/-- One round moves an amount between the number and the remaining offset: with the offset at the
weight of its byte, the total stays. -/
theorem value_addOffsetStep (state : Bytes16 × UInt64) (index : Fin 16) :
    value (addOffsetStep state index).1.toList +
        256 ^ (15 - index.val) * (256 * (addOffsetStep state index).2.toNat) =
      value state.1.toList + 256 ^ (15 - index.val) * state.2.toNat := by
  have hindex : index.val < state.1.toList.length := by simp
  generalize hsum : state.1[index].toUInt16 + (state.2 &&& 0xFF).toUInt16 = sum
  have hstep : addOffsetStep state index =
      (state.1.set index (sum &&& 0xFF).toUInt8, state.2 >>> 8 + (sum >>> 8).toUInt64) := by
    rw [addOffsetStep, hsum]
  have hset := value_set hindex (sum &&& 0xFF).toUInt8
  have hcarry := congrArg (256 ^ (15 - index.val) * ·) (addOffset_carry _ _ hsum.symm)
  rw [Vector.length_toList, Vector.getElem_toList] at hset
  rw [hstep, Vector.toList_set]
  simp only [Fin.getElem_fin] at hcarry ⊢
  nlinarith only [hset, hcarry]

theorem take_addOffsetStep (state : Bytes16 × UInt64) {index : Fin 16} (h : 8 ≤ index.val) :
    (addOffsetStep state index).1.toList.take 8 = state.1.toList.take 8 := by
  rw [addOffsetStep, Vector.toList_set, List.take_set_of_le h]

/-- The number of the last eight bytes. -/
theorem value_drop_eight (bytes : Bytes16) :
    value (bytes.toList.drop 8) = value bytes.toList % 2 ^ 64 := by
  have hlow := value_lt (bytes.toList.drop 8)
  have hsplit := value_append (bytes.toList.take 8) (bytes.toList.drop 8)
  have hlength : (bytes.toList.drop 8).length = 8 := by simp
  rw [List.take_append_drop] at hsplit
  rw [hlength] at hlow hsplit
  omega

/-- The number of the first eight bytes. -/
theorem value_take_eight (bytes : Bytes16) :
    value (bytes.toList.take 8) = value bytes.toList / 2 ^ 64 := by
  have hlow := value_lt (bytes.toList.drop 8)
  have hsplit := value_append (bytes.toList.take 8) (bytes.toList.drop 8)
  have hlength : (bytes.toList.drop 8).length = 8 := by simp
  rw [List.take_append_drop] at hsplit
  rw [hlength] at hlow hsplit
  omega

/-- Eight rounds: what the low eight bytes cannot take is the rest of the offset. -/
theorem value_foldl_addOffsetStep (state : Bytes16 × UInt64) :
    let result := ([15, 14, 13, 12, 11, 10, 9, 8] : List (Fin 16)).foldl addOffsetStep state
    value result.1.toList + 2 ^ 64 * result.2.toNat =
        value state.1.toList + state.2.toNat ∧
      result.1.toList.take 8 = state.1.toList.take 8 := by
  simp only [List.foldl_cons, List.foldl_nil]
  constructor
  · -- the weight of each byte is 256 times that of the next one, so the sums chain
    have h₁ := value_addOffsetStep state 15
    generalize addOffsetStep state 15 = s₁ at h₁ ⊢
    have h₂ := value_addOffsetStep s₁ 14
    generalize addOffsetStep s₁ 14 = s₂ at h₂ ⊢
    have h₃ := value_addOffsetStep s₂ 13
    generalize addOffsetStep s₂ 13 = s₃ at h₃ ⊢
    have h₄ := value_addOffsetStep s₃ 12
    generalize addOffsetStep s₃ 12 = s₄ at h₄ ⊢
    have h₅ := value_addOffsetStep s₄ 11
    generalize addOffsetStep s₄ 11 = s₅ at h₅ ⊢
    have h₆ := value_addOffsetStep s₅ 10
    generalize addOffsetStep s₅ 10 = s₆ at h₆ ⊢
    have h₇ := value_addOffsetStep s₆ 9
    generalize addOffsetStep s₆ 9 = s₇ at h₇ ⊢
    have h₈ := value_addOffsetStep s₇ 8
    norm_num at h₁ h₂ h₃ h₄ h₅ h₆ h₇ h₈ ⊢
    omega
  · rw [take_addOffsetStep _ (by decide), take_addOffsetStep _ (by decide),
      take_addOffsetStep _ (by decide), take_addOffsetStep _ (by decide),
      take_addOffsetStep _ (by decide), take_addOffsetStep _ (by decide),
      take_addOffsetStep _ (by decide), take_addOffsetStep _ (by decide)]

/-- `add_ipv6_offset` adds, as long as the low eight bytes take the sum. -/
theorem addIpv6Offset_eq_withNumber {a : IpAddress} (h : a.isIpv6) {offset : ℕ}
    (hfits : a.number % 2 ^ 64 + offset < 2 ^ 64) :
    addIpv6Offset a (UInt64.ofNat offset) = a.withNumber (a.number + offset) := by
  have hoffset : (UInt64.ofNat offset).toNat = offset :=
    UInt64.toNat_ofNat_of_lt' (show offset < 2 ^ 64 by omega)
  have hnumber := IpAddress.number_of_isIpv6 h
  obtain ⟨hsum, hhigh⟩ := value_foldl_addOffsetStep (a.bytes, UInt64.ofNat offset)
  rw [addIpv6Offset, IpAddress.withNumber_of_isIpv6 h]
  generalize ([15, 14, 13, 12, 11, 10, 9, 8] : List (Fin 16)).foldl addOffsetStep
    (a.bytes, UInt64.ofNat offset) = result at hsum hhigh ⊢
  have hquot : value result.1.toList / 2 ^ 64 = a.number / 2 ^ 64 := by
    rw [← value_take_eight, hhigh, value_take_eight, hnumber]
  have htotal : value result.1.toList + 2 ^ 64 * result.2.toNat = a.number + offset := by
    rw [hsum, hoffset, hnumber]
  -- the high bytes are unchanged, so nothing is left of the offset
  have hvalue : a.number + offset = value result.1.toList := by omega
  rw [hvalue, IpAddress.bytesOfNumber_value]

/-! ### Counting a range -/

theorem toNat_lowWord (bytes : Bytes16) : (lowWord bytes).toNat = value bytes.toList % 2 ^ 64 := by
  rw [lowWord, toNat_foldl_shiftLeft_or (by simp), value_drop_eight]

/-- `ipv6_range_count` of ends in order: the count, where both lie in one block of 2^64 addresses
and do not fill it. -/
theorem ipv6RangeCount_eq {first last : IpAddress} (hfirst : first.isIpv6) (hlast : last.isIpv6)
    (hle : first.number ≤ last.number) :
    ipv6RangeCount first last =
      if first.number / 2 ^ 64 = last.number / 2 ^ 64 ∧ last.number - first.number + 1 < 2 ^ 64 then
        some (UInt64.ofNat (last.number - first.number + 1))
      else none := by
  have hhigh : first.bytes.toList.take 8 = last.bytes.toList.take 8 ↔
      first.number / 2 ^ 64 = last.number / 2 ^ 64 := by
    rw [IpAddress.number_of_isIpv6 hfirst, IpAddress.number_of_isIpv6 hlast, ← value_take_eight,
      ← value_take_eight]
    exact ⟨congrArg value, value_injective (by simp)⟩
  have hlowFirst := toNat_lowWord first.bytes
  have hlowLast := toNat_lowWord last.bytes
  rw [← IpAddress.number_of_isIpv6 hfirst] at hlowFirst
  rw [← IpAddress.number_of_isIpv6 hlast] at hlowLast
  rw [ipv6RangeCount, hfirst, hlast]
  by_cases hblock : first.number / 2 ^ 64 = last.number / 2 ^ 64
  · have hdifference : (lowWord last.bytes - lowWord first.bytes).toNat =
        last.number - first.number := by
      rw [UInt64.toNat_sub, hlowFirst, hlowLast]
      omega
    have hfull : lowWord last.bytes - lowWord first.bytes = 0xFFFFFFFFFFFFFFFF ↔
        ¬ last.number - first.number + 1 < 2 ^ 64 := by
      rw [← UInt64.toNat_inj, hdifference,
        show (0xFFFFFFFFFFFFFFFF : UInt64).toNat = 2 ^ 64 - 1 by rfl]
      omega
    rw [if_neg (by simp [hhigh.mpr hblock])]
    dsimp only
    by_cases hroom : last.number - first.number + 1 < 2 ^ 64
    · rw [if_neg (fun h ↦ hfull.mp h hroom), if_pos ⟨hblock, hroom⟩]
      refine congrArg some (UInt64.toNat_inj.mp ?_)
      rw [UInt64.toNat_add, hdifference, UInt64.toNat_ofNat_of_lt' hroom]
      exact Nat.mod_eq_of_lt hroom
    · rw [if_pos (hfull.mpr hroom), if_neg fun h ↦ hroom h.2]
  · rw [if_pos (by simpa using fun h ↦ hblock (hhigh.mp h)), if_neg fun h ↦ hblock h.1]

/-! ### Masking -/

/-- The mask of the byte a prefix ends in rounds that byte down. -/
theorem toNat_and_mask (b : UInt8) {r : UInt8} (hr : r.toNat < 8) (hne : r ≠ 0) :
    (b &&& 0xFF <<< (8 - r)).toNat = b.toNat / 2 ^ (8 - r.toNat) * 2 ^ (8 - r.toNat) := by
  have hshift : (8 - r).toNat = 8 - r.toNat :=
    UInt8.toNat_sub_of_le 8 r (UInt8.le_iff_toNat_le.mpr (show r.toNat ≤ 8 by omega))
  have hpos : r.toNat ≠ 0 := fun h ↦ hne (UInt8.toNat_inj.mp h)
  rw [UInt8.toNat_and, UInt8.toNat_shiftLeft, hshift,
    Nat.mod_eq_of_lt (show 8 - r.toNat < 8 by omega)]
  exact and_mask_eq b.toNat_lt

/-- Rounding a numeral down at a byte and the top bits of the next one. -/
theorem roundDown_split {high b rest weight m : ℕ} (hk : k * m = 256) (hpos : 0 < k)
    (hrest : rest < weight) :
    (high * (256 * weight) + (b * weight + rest)) / (k * weight) * (k * weight) =
      high * (256 * weight) + b / k * k * weight := by
  have hweight : 0 < weight := by omega
  have hquot : (high * (256 * weight) + (b * weight + rest)) / (k * weight) = high * m + b / k :=
    calc (high * (256 * weight) + (b * weight + rest)) / (k * weight)
        = (rest + weight * (high * 256 + b)) / weight / k := by
          rw [Nat.div_div_eq_div_mul]
          congr 1 <;> ring
      _ = (b + k * (high * m)) / k := by
          rw [Nat.add_mul_div_left _ _ hweight, Nat.div_eq_of_lt hrest, ← hk]
          congr 1
          ring
      _ = high * m + b / k := by
          rw [Nat.add_mul_div_left _ _ hpos]
          ring
  rw [hquot, ← hk]
  ring

theorem toList_clearBytes (bytes : Bytes16) (hk : k ≤ 16) :
    (clearBytes bytes k).toList = bytes.toList.take k ++ List.replicate (16 - k) 0 := by
  rw [clearBytes]
  apply List.ext_getElem
  · simp
    omega
  intro i hi hi'
  rw [Vector.getElem_toList, Vector.getElem_ofFn]
  by_cases h : k ≤ i
  · rw [if_pos h, List.getElem_append_right (by simpa using Or.inl h), List.getElem_replicate]
  · rw [if_neg h, List.getElem_append_left (by simp at hi ⊢; omega), List.getElem_take,
      Vector.getElem_toList]
    rfl

theorem value_clearBytes (bytes : Bytes16) (hk : k ≤ 16) :
    value (clearBytes bytes k).toList = value (bytes.toList.take k) * 256 ^ (16 - k) := by
  rw [toList_clearBytes bytes hk, value_append, value_replicate_zero, List.length_replicate,
    Nat.add_zero]

/-- A numeral cut in front of the byte at `k`. -/
theorem value_split (bytes : Bytes16) (k : ℕ) :
    value bytes.toList =
      value (bytes.toList.take k) * 256 ^ (16 - k) + value (bytes.toList.drop k) := by
  conv_lhs => rw [← List.take_append_drop k bytes.toList, value_append, List.length_drop,
    Vector.length_toList]

theorem value_drop_lt (bytes : Bytes16) (k : ℕ) :
    value (bytes.toList.drop k) < 256 ^ (16 - k) := by
  have hlt := value_lt (bytes.toList.drop k)
  rwa [List.length_drop, Vector.length_toList] at hlt

/-- The prefix ends between two bytes. -/
theorem value_maskBytes_zero (bytes : Bytes16) {full : ℕ} (hfull : full ≤ 16) :
    value (maskBytes bytes full 0).toList =
      value bytes.toList / 256 ^ (16 - full) * 256 ^ (16 - full) := by
  rw [maskBytes, dif_neg (by simp), if_pos rfl, Nat.add_zero, value_clearBytes bytes hfull,
    value_split bytes full, Nat.add_comm, Nat.add_mul_div_right _ _ (by positivity),
    Nat.div_eq_of_lt (value_drop_lt bytes full), Nat.zero_add]

/-- The prefix ends inside the byte at `full`. -/
theorem value_maskBytes (bytes : Bytes16) {full : ℕ} {remainder : UInt8} (hfull : full < 16)
    (hr : remainder.toNat < 8) (hne : remainder ≠ 0) :
    value (maskBytes bytes full remainder).toList =
      value bytes.toList / (2 ^ (8 - remainder.toNat) * 256 ^ (15 - full)) *
        (2 ^ (8 - remainder.toNat) * 256 ^ (15 - full)) := by
  have hlength : full < bytes.toList.length := by simpa using hfull
  have hbehind : 16 - (full + 1) = 15 - full := by omega
  have hweight : 256 ^ (16 - full) = 256 * 256 ^ (15 - full) := by
    rw [← pow_succ']
    congr 1
    omega
  have hsplit : value bytes.toList = value (bytes.toList.take full) * (256 * 256 ^ (15 - full)) +
      (bytes[full].toNat * 256 ^ (15 - full) + value (bytes.toList.drop (full + 1))) := by
    rw [value_split bytes full, List.drop_eq_getElem_cons hlength, value_cons, List.length_drop,
      Vector.length_toList, Vector.getElem_toList, hweight, hbehind]
  have hcleared : value (clearBytes bytes (full + 1)).toList =
      value (bytes.toList.take full) * (256 * 256 ^ (15 - full)) +
        bytes[full].toNat * 256 ^ (15 - full) := by
    rw [value_clearBytes bytes hfull, List.take_succ_eq_append_getElem hlength, value_append,
      value_singleton, Vector.getElem_toList, List.length_singleton, hbehind]
    ring
  have hbyte : (clearBytes bytes (full + 1))[full] = bytes[full] := by
    rw [clearBytes, Vector.getElem_ofFn, if_neg (by simp)]
    rfl
  generalize hclear : clearBytes bytes (full + 1) = cleared at hcleared hbyte
  have hindex : full < cleared.toList.length := by simpa using hfull
  have hset := value_set hindex (bytes[full] &&& 0xFF <<< (8 - remainder))
  rw [Vector.getElem_toList, hbyte, Vector.length_toList, Nat.sub_right_comm,
    Nat.sub_sub, hbehind, toNat_and_mask _ hr hne, hcleared] at hset
  have hrest : value (bytes.toList.drop (full + 1)) < 256 ^ (15 - full) :=
    hbehind ▸ value_drop_lt bytes (full + 1)
  have hpow : 2 ^ (8 - remainder.toNat) * 2 ^ remainder.toNat = 256 := by
    rw [← pow_add, Nat.sub_add_cancel (by omega)]
    rfl
  rw [maskBytes, dif_pos ⟨hne, hfull⟩, if_neg hne, hclear, Vector.toList_set, hbyte, hsplit,
    roundDown_split hpow (by positivity) hrest]
  exact Nat.add_right_cancel (hset.trans (Nat.add_right_comm _ _ _))

/-- `mask_ipv6` clears the bits behind the prefix. -/
theorem number_maskIpv6 {a : IpAddress} (h : a.isIpv6) {prefixLength : UInt8}
    (hp : prefixLength.toNat ≤ 128) :
    (maskIpv6 a prefixLength).number =
      a.number / 2 ^ (128 - prefixLength.toNat) * 2 ^ (128 - prefixLength.toNat) := by
  have hmasked : (maskIpv6 a prefixLength).isIpv6 := h
  have hfull : (prefixLength / 8).toNat = prefixLength.toNat / 8 := by simp
  have hremainder : (prefixLength % 8).toNat = prefixLength.toNat % 8 := by simp
  rw [IpAddress.number_of_isIpv6 h, IpAddress.number_of_isIpv6 hmasked, maskIpv6]
  by_cases hzero : prefixLength % 8 = 0
  · have hmod : prefixLength.toNat % 8 = 0 := by rw [← hremainder, hzero, UInt8.toNat_zero]
    have hpow : 256 ^ (16 - prefixLength.toNat / 8) = 2 ^ (128 - prefixLength.toNat) := by
      rw [show (256 : ℕ) = 2 ^ 8 by rfl, ← pow_mul]
      congr 1
      omega
    rw [hzero, hfull, value_maskBytes_zero _ (by omega), hpow]
  · have hpos : (prefixLength % 8).toNat ≠ 0 := fun h ↦ hzero (UInt8.toNat_inj.mp h)
    have hpow : 2 ^ (8 - (prefixLength % 8).toNat) * 256 ^ (15 - prefixLength.toNat / 8) =
        2 ^ (128 - prefixLength.toNat) := by
      rw [show (256 : ℕ) = 2 ^ 8 by rfl, ← pow_mul, ← pow_add]
      congr 1
      omega
    rw [hfull, value_maskBytes _ (by omega) (by omega) hzero, hpow]

theorem toNat_ipv4HostBits {specification : TargetSpec}
    (hp : specification.prefixLength.toNat ≤ 32) :
    (ipv4HostBits specification).toNat = 32 - specification.prefixLength.toNat :=
  UInt32.toNat_sub_of_le 32 _ (UInt32.le_iff_toNat_le.mpr
    (show specification.prefixLength.toUInt32.toNat ≤ 32 by simpa using hp))

/-- The mask of an IPv4 block rounds an address down. -/
theorem toNat_and_ipv4Mask (w : UInt32) {specification : TargetSpec}
    (hp : specification.prefixLength.toNat ≤ 32) :
    (w &&& ipv4Mask specification).toNat =
      w.toNat / 2 ^ (32 - specification.prefixLength.toNat) *
        2 ^ (32 - specification.prefixLength.toNat) := by
  have hw : w.toNat < 2 ^ 32 := w.toNat_lt
  have hshift := toNat_ipv4HostBits hp
  rw [ipv4Mask]
  by_cases hzero : specification.prefixLength = 0
  · rw [if_pos hzero, hzero, UInt8.toNat_zero, UInt32.and_zero, UInt32.toNat_zero, Nat.sub_zero,
      Nat.div_eq_of_lt hw, Nat.zero_mul]
  · have hpos : specification.prefixLength.toNat ≠ 0 := fun h ↦ hzero (UInt8.toNat_inj.mp h)
    rw [if_neg hzero, UInt32.toNat_and, UInt32.toNat_shiftLeft, hshift,
      Nat.mod_eq_of_lt (show 32 - specification.prefixLength.toNat < 32 by omega)]
    exact and_mask_eq hw

/-- `std::uint64_t{1} << host_bits`. -/
theorem toNat_one_shiftLeft {h : UInt64} (hh : h.toNat < 64) :
    (1 <<< h : UInt64).toNat = 2 ^ h.toNat := by
  rw [UInt64.toNat_shiftLeft, Nat.mod_eq_of_lt hh, UInt64.toNat_one, Nat.one_shiftLeft]
  exact Nat.mod_eq_of_lt (Nat.pow_lt_pow_right (by norm_num) hh)

end Skan.Target
