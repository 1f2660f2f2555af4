import Mathlib.Data.Nat.Digits.Lemmas
import Skan.Library.BigEndian

/-!
# Byte strings as numbers

`value` reads a byte string of any length as a number, most significant byte first: digits in base
256. On strings of one length it is injective, its order is the lexicographic one, and every number
that fits is the value of a string (`ofValue`).

`value_set` says what overwriting one byte does, without subtraction; it is the step of a
ripple-carry addition. -/

namespace BigEndian

variable {bytes others : List UInt8}

/-- The number with base-256 digits `bytes`, most significant first. -/
def value (bytes : List UInt8) : ℕ := Nat.ofDigits 256 (bytes.reverse.map UInt8.toNat)

@[simp] theorem value_nil : value [] = 0 := rfl

theorem value_append (front back : List UInt8) :
    value (front ++ back) = value front * 256 ^ back.length + value back := by
  rw [value, List.reverse_append, List.map_append, Nat.ofDigits_append, List.length_map,
    List.length_reverse]
  change value back + 256 ^ back.length * value front = _
  ring

theorem value_singleton (b : UInt8) : value [b] = b.toNat := Nat.ofDigits_singleton

theorem value_cons (b : UInt8) (bytes : List UInt8) :
    value (b :: bytes) = b.toNat * 256 ^ bytes.length + value bytes := by
  rw [← value_singleton, ← value_append, List.singleton_append]

theorem value_lt (bytes : List UInt8) : value bytes < 256 ^ bytes.length := by
  have hdigits : ∀ d ∈ bytes.reverse.map UInt8.toNat, d < 256 := by
    intro d hd
    obtain ⟨b, -, rfl⟩ := List.mem_map.mp hd
    exact b.toNat_lt
  have hlt := Nat.ofDigits_lt_base_pow_length (by norm_num) hdigits
  rwa [List.length_map, List.length_reverse] at hlt

@[simp] theorem value_replicate_zero (k : ℕ) : value (List.replicate k 0) = 0 := by
  rw [value, List.reverse_replicate, List.map_replicate]
  exact Nat.ofDigits_replicate_zero

section

variable (hlength : bytes.length = others.length)

include hlength

/-- The head of a numeral decides its order; only between equal heads does the rest. -/
theorem value_cons_lt_cons {b c : UInt8} :
    value (b :: bytes) < value (c :: others) ↔ b < c ∨ b = c ∧ value bytes < value others := by
  have hb := value_lt bytes
  have hc := value_lt others
  rw [value_cons, value_cons, hlength, UInt8.lt_iff_toNat_lt, ← UInt8.toNat_inj]
  rw [hlength] at hb
  generalize 256 ^ others.length = weight at hb hc
  rcases Nat.lt_trichotomy b.toNat c.toNat with hlt | heq | hgt
  · have hmul : (b.toNat + 1) * weight ≤ c.toNat * weight := Nat.mul_le_mul_right _ hlt
    simp only [hlt, true_or, iff_true]
    nlinarith only [hmul, hb]
  · simp [heq]
  · have hmul : (c.toNat + 1) * weight ≤ b.toNat * weight := Nat.mul_le_mul_right _ hgt
    have hnot : ¬ b.toNat < c.toNat := Nat.lt_asymm hgt
    have hne : b.toNat ≠ c.toNat := Nat.ne_of_gt hgt
    simp only [hnot, hne, false_and, or_self, iff_false, Nat.not_lt]
    nlinarith only [hmul, hc]

/-- On strings of one length the lexicographic order is the order of the numbers. -/
theorem lt_iff_value_lt : bytes < others ↔ value bytes < value others := by
  induction bytes generalizing others with
  | nil =>
    obtain rfl := List.length_eq_zero_iff.mp hlength.symm
    simp
  | cons b bytes ih =>
    obtain - | ⟨c, others⟩ := others
    · simp at hlength
    have htail : bytes.length = others.length := by simpa using hlength
    rw [List.cons_lt_cons_iff, value_cons_lt_cons htail, ih htail]

theorem value_injective (h : value bytes = value others) : bytes = others := by
  induction bytes generalizing others with
  | nil => exact (List.length_eq_zero_iff.mp hlength.symm).symm
  | cons b bytes ih =>
    obtain - | ⟨c, others⟩ := others
    · simp at hlength
    have htail : bytes.length = others.length := by simpa using hlength
    -- neither numeral is below the other, so neither head is, and the heads agree
    have hle : ¬ value (b :: bytes) < value (c :: others) := by omega
    have hge : ¬ value (c :: others) < value (b :: bytes) := by omega
    rw [value_cons_lt_cons htail, UInt8.lt_iff_toNat_lt, ← UInt8.toNat_inj] at hle
    rw [value_cons_lt_cons htail.symm, UInt8.lt_iff_toNat_lt, ← UInt8.toNat_inj] at hge
    have hhead : b.toNat = c.toNat := by omega
    have hrest : value bytes = value others := by omega
    rw [UInt8.toNat_inj.mp hhead, ih htail hrest]

end

/-- Overwriting the byte at `i` moves the number by the difference of the bytes at its weight. -/
theorem value_set {i : ℕ} (hi : i < bytes.length) (b : UInt8) :
    value (bytes.set i b) + bytes[i].toNat * 256 ^ (bytes.length - 1 - i) =
      value bytes + b.toNat * 256 ^ (bytes.length - 1 - i) := by
  have hweight : (bytes.drop (i + 1)).length = bytes.length - 1 - i := by
    rw [List.length_drop]
    omega
  rw [List.set_eq_take_append_cons_drop, if_pos hi, value_append, value_cons, ← hweight]
  have hsplit : value bytes = value (bytes.take i) * 256 ^ ((bytes.drop (i + 1)).length + 1) +
      (bytes[i].toNat * 256 ^ (bytes.drop (i + 1)).length + value (bytes.drop (i + 1))) := by
    rw [← value_cons, ← List.length_cons, ← value_append, ← List.drop_eq_getElem_cons hi,
      List.take_append_drop]
  rw [hsplit, List.length_cons]
  ring

/-! ### The bytes of a number -/

/-- The last `k` base-256 digits of `n`, most significant first. -/
def ofValue : ℕ → ℕ → List UInt8
  | 0, _ => []
  | k + 1, n => ofValue k (n / 256) ++ [UInt8.ofNat n]

@[simp] theorem length_ofValue (k n : ℕ) : (ofValue k n).length = k := by
  induction k generalizing n with
  | zero => rfl
  | succ k ih => rw [ofValue, List.length_append, ih, List.length_singleton]

theorem value_ofValue {k n : ℕ} (h : n < 256 ^ k) : value (ofValue k n) = n := by
  induction k generalizing n with
  | zero => simp_all [ofValue]
  | succ k ih =>
    have hquot : n / 256 < 256 ^ k := by
      rw [pow_succ] at h
      omega
    rw [ofValue, value_append, ih hquot, value_singleton, List.length_singleton, pow_one,
      UInt8.toNat_ofNat']
    omega

/-! ### Accumulating a word -/

/-- Shifting a word by a byte and joining the next one is appending a digit, while it fits. -/
theorem toNat_shiftLeft_or {low : UInt64} {b : UInt8} (h : low.toNat < 2 ^ 56) :
    (low <<< 8 ||| b.toUInt64).toNat = low.toNat * 256 + b.toNat := by
  have hb : b.toNat < 2 ^ 8 := b.toNat_lt
  have hshift : (low <<< 8).toNat = low.toNat <<< 8 := by
    simp [Nat.shiftLeft_eq]
    omega
  rw [UInt64.toNat_or, hshift, UInt8.toNat_toUInt64, ← Nat.shiftLeft_add_eq_or_of_lt hb,
    Nat.shiftLeft_eq]

/-- Reading up to eight bytes into a 64-bit word. -/
theorem toNat_foldl_shiftLeft_or (h : bytes.length ≤ 8) :
    (bytes.foldl (fun (low : UInt64) b ↦ low <<< 8 ||| b.toUInt64) 0).toNat = value bytes := by
  induction bytes using List.reverseRecOn with
  | nil => rfl
  | append_singleton bytes b ih =>
    rw [List.length_append, List.length_singleton] at h
    have hread := ih (by omega)
    have hfits : value bytes < 2 ^ 56 :=
      calc value bytes < 256 ^ bytes.length := value_lt bytes
        _ ≤ 256 ^ 7 := Nat.pow_le_pow_right (by norm_num) (by omega)
        _ = 2 ^ 56 := by norm_num
    rw [List.foldl_append, List.foldl_cons, List.foldl_nil, toNat_shiftLeft_or (by omega), hread,
      value_append, value_singleton, List.length_singleton, pow_one]

/-! ### Masks -/

/-- The mask with `h` cleared low bits, cut to `k` bits, rounds down to a multiple of `2 ^ h`. -/
theorem and_mask_eq {k h n : ℕ} (hn : n < 2 ^ k) :
    n &&& (2 ^ k - 1) <<< h % 2 ^ k = n / 2 ^ h * 2 ^ h := by
  apply Nat.eq_of_testBit_eq
  intro i
  rw [Nat.testBit_and, Nat.testBit_mod_two_pow, Nat.testBit_shiftLeft, Nat.testBit_two_pow_sub_one,
    Nat.testBit_mul_two_pow, Nat.testBit_div_two_pow]
  by_cases hi : h ≤ i
  · by_cases hk : i < k
    · simp [hi, hk, show i - h < k by omega]
    · have hbit : n.testBit i = false :=
        Nat.testBit_lt_two_pow (hn.trans_le (Nat.pow_le_pow_right (by norm_num) (by omega)))
      simp [hi, hk, hbit]
  · simp [hi]

end BigEndian
