import Mathlib.Algebra.GroupWithZero.Nat
import Mathlib.Data.List.GetD

/-!
# Big-endian words in byte strings

Splitting 16- and 32-bit words into bytes, most significant first, and reading them back, at the
head of a byte string or at an offset. A read past the end sees zero bytes; a reader that must not
do so checks the length first.

`u16OfBytes_split` and `u32OfBytes_split` are the round trips a codec uses field by field; the
`toNat` lemmas give the same words as numbers, for checksum arithmetic.
-/

namespace BigEndian

variable {n i : ℕ} {a b : List UInt8}

/-- The word with high byte `hi` and low byte `lo`. -/
def u16OfBytes (hi lo : UInt8) : UInt16 := (hi.toUInt16 <<< 8) ||| lo.toUInt16

/-- The word with bytes `b₃ b₂ b₁ b₀`, most significant first. -/
def u32OfBytes (b₃ b₂ b₁ b₀ : UInt8) : UInt32 :=
  (b₃.toUInt32 <<< 24) ||| (b₂.toUInt32 <<< 16) ||| (b₁.toUInt32 <<< 8) ||| b₀.toUInt32

/-- The two bytes of a word, most significant first. -/
def u16Bytes (w : UInt16) : List UInt8 := [(w >>> 8).toUInt8, w.toUInt8]

/-- The four bytes of a word, most significant first. -/
def u32Bytes (w : UInt32) : List UInt8 :=
  [(w >>> 24).toUInt8, (w >>> 16).toUInt8, (w >>> 8).toUInt8, w.toUInt8]

def readU16 (data : List UInt8) (offset : ℕ) : UInt16 :=
  u16OfBytes (data.getD offset 0) (data.getD (offset + 1) 0)

def readU32 (data : List UInt8) (offset : ℕ) : UInt32 :=
  u32OfBytes (data.getD offset 0) (data.getD (offset + 1) 0) (data.getD (offset + 2) 0)
    (data.getD (offset + 3) 0)

/-- A field of `n` bytes. -/
def readVector (n : ℕ) (data : List UInt8) (offset : ℕ) : Vector UInt8 n :=
  Vector.ofFn fun i ↦ data.getD (offset + i) 0

@[simp] theorem length_u16Bytes (w : UInt16) : (u16Bytes w).length = 2 := rfl
@[simp] theorem length_u32Bytes (w : UInt32) : (u32Bytes w).length = 4 := rfl

/-! ### Joined words as numbers -/

/-- The first byte counts 256 times. -/
theorem toNat_u16OfBytes (hi lo : UInt8) :
    (u16OfBytes hi lo).toNat = hi.toNat * 256 + lo.toNat := by
  have hlo : lo.toNat < 2 ^ 8 := lo.toNat_lt
  have hhi : hi.toNat < 2 ^ 8 := hi.toNat_lt
  have hshift : (hi.toUInt16 <<< 8).toNat = hi.toNat <<< 8 := by
    simp [Nat.shiftLeft_eq]
    omega
  rw [u16OfBytes, UInt16.toNat_or, hshift, UInt8.toNat_toUInt16,
    ← Nat.shiftLeft_add_eq_or_of_lt hlo, Nat.shiftLeft_eq]

/-- The four bytes are the digits to base 256. -/
theorem toNat_u32OfBytes (b₃ b₂ b₁ b₀ : UInt8) :
    (u32OfBytes b₃ b₂ b₁ b₀).toNat =
      b₃.toNat * 2 ^ 24 + b₂.toNat * 2 ^ 16 + b₁.toNat * 2 ^ 8 + b₀.toNat := by
  have h₃ : b₃.toNat < 2 ^ 8 := b₃.toNat_lt
  have h₂ : b₂.toNat < 2 ^ 8 := b₂.toNat_lt
  have h₁ : b₁.toNat < 2 ^ 8 := b₁.toNat_lt
  have h₀ : b₀.toNat < 2 ^ 8 := b₀.toNat_lt
  have hs₃ : (b₃.toUInt32 <<< 24).toNat = b₃.toNat <<< 24 := by
    simp [Nat.shiftLeft_eq]
    omega
  have hs₂ : (b₂.toUInt32 <<< 16).toNat = b₂.toNat <<< 16 := by
    simp [Nat.shiftLeft_eq]
    omega
  have hs₁ : (b₁.toUInt32 <<< 8).toNat = b₁.toNat <<< 8 := by
    simp [Nat.shiftLeft_eq]
    omega
  -- the disjunctions are sums: each shifted byte clears the bits of the ones below it
  rw [u32OfBytes, UInt32.toNat_or, UInt32.toNat_or, UInt32.toNat_or, hs₃, hs₂, hs₁,
    UInt8.toNat_toUInt32, Nat.or_assoc, Nat.or_assoc, ← Nat.shiftLeft_add_eq_or_of_lt h₀,
    ← Nat.shiftLeft_add_eq_or_of_lt (i := 16), ← Nat.shiftLeft_add_eq_or_of_lt (i := 24)]
  all_goals simp only [Nat.shiftLeft_eq]
  all_goals omega

/-! ### Round trips -/

/-- The two bytes of a word make the word. -/
@[simp] theorem u16OfBytes_split (w : UInt16) : u16OfBytes (w >>> 8).toUInt8 w.toUInt8 = w := by
  have hw : w.toNat < 2 ^ 16 := w.toNat_lt
  apply UInt16.toNat_inj.mp
  rw [toNat_u16OfBytes]
  simp [Nat.shiftRight_eq_div_pow]
  omega

/-- The four bytes of a word make the word. -/
@[simp] theorem u32OfBytes_split (w : UInt32) :
    u32OfBytes (w >>> 24).toUInt8 (w >>> 16).toUInt8 (w >>> 8).toUInt8 w.toUInt8 = w := by
  have hw : w.toNat < 2 ^ 32 := w.toNat_lt
  apply UInt32.toNat_inj.mp
  rw [toNat_u32OfBytes]
  simp [Nat.shiftRight_eq_div_pow]
  omega

/-! ### Reading at an offset -/

/-- A field behind `front` is read at its distance from there. -/
theorem readU16_append_right (front back : List UInt8) (offset : ℕ) :
    readU16 (front ++ back) (front.length + offset) = readU16 back offset := by
  unfold readU16
  rw [List.getD_append_right _ _ _ _ (by omega), List.getD_append_right _ _ _ _ (by omega)]
  congr 2 <;> omega

/-- What was written is read back. -/
theorem readVector_append (front : List UInt8) (v : Vector UInt8 n) (back : List UInt8) :
    readVector n (front ++ (v.toList ++ back)) front.length = v := by
  refine Vector.ext fun i hi ↦ ?_
  have hlength : i < v.toList.length := by rwa [Vector.length_toList]
  rw [readVector, Vector.getElem_ofFn, List.getD_append_right _ _ _ _ (Nat.le_add_right _ _),
    Nat.add_sub_cancel_left, List.getD_append _ _ _ _ hlength, List.getD_eq_getElem _ _ hlength]
  exact Vector.getElem_toList _

/-! ### Byte strings that agree where they are read -/

/-- Only the two bytes of the field are read. -/
theorem readU16_congr (h : ∀ j, i ≤ j → j < i + 2 → a.getD j 0 = b.getD j 0) :
    readU16 a i = readU16 b i := by
  rw [readU16, readU16, h i (by omega) (by omega), h (i + 1) (by omega) (by omega)]

/-- Only the four bytes of the field are read. -/
theorem readU32_congr (h : ∀ j, i ≤ j → j < i + 4 → a.getD j 0 = b.getD j 0) :
    readU32 a i = readU32 b i := by
  rw [readU32, readU32, h i (by omega) (by omega), h (i + 1) (by omega) (by omega),
    h (i + 2) (by omega) (by omega), h (i + 3) (by omega) (by omega)]

/-- Only the bytes of the field are read. -/
theorem readVector_congr (h : ∀ j, i ≤ j → j < i + n → a.getD j 0 = b.getD j 0) :
      readVector n a i = readVector n b i := by
  refine Vector.ext fun k hk ↦ ?_
  rw [readVector, readVector, Vector.getElem_ofFn, Vector.getElem_ofFn]
  exact h (i + k) (by omega) (by omega)

theorem getD_drop (l : List UInt8) (n i : ℕ) : (l.drop n).getD i 0 = l.getD (n + i) 0 := by
  rw [List.getD_eq_getElem?_getD, List.getD_eq_getElem?_getD, List.getElem?_drop]

theorem getD_take {l : List UInt8} (h : i < n) : (l.take n).getD i 0 = l.getD i 0 := by
  rw [List.getD_eq_getElem?_getD, List.getD_eq_getElem?_getD, List.getElem?_take_of_lt h]

/-! ### Nibbles -/

/-- The low half of a byte. -/
theorem toNat_and_15 (b : UInt8) : (b &&& 0x0F).toNat = b.toNat % 16 := by
  rw [UInt8.toNat_and]
  exact Nat.and_two_pow_sub_one_eq_mod _ 4

/-- The high half of a byte. -/
theorem toNat_shiftRight_4 (b : UInt8) : (b >>> 4).toNat = b.toNat / 16 := by
  simp [Nat.shiftRight_eq_div_pow]

/-- A byte assembled from the low nibble of one byte and another nibble. -/
theorem toNat_nibbles (hi : UInt8) {lo : UInt8} (hlo : lo.toNat < 16) :
    (hi <<< 4 ||| lo).toNat = hi.toNat % 16 * 16 + lo.toNat := by
  have hshift : (hi <<< 4).toNat = (hi.toNat % 16) <<< 4 := by
    simp [Nat.shiftLeft_eq]
    omega
  rw [UInt8.toNat_or, hshift, ← Nat.shiftLeft_add_eq_or_of_lt hlo, Nat.shiftLeft_eq]

end BigEndian
