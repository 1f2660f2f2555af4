import Mathlib.Algebra.BigOperators.Group.List.Basic
import Mathlib.Algebra.GroupWithZero.Nat

/-!
# Sums with end-around carry

Adding 16-bit words with the carry folded back in, the arithmetic of the internet checksum. One step
is `fold`; a whole sum depends on the total only (`foldl_fold`), and is its representative modulo
65535 between 1 and 65535, or zero for the total zero (`norm`).

`norm_add_complement` is what a checksum is for: a sum to which the complement of the rest has been
added has all its bits set.

`checksum` is the internet checksum of RFC 1071, defined on byte strings: pair the bytes, add with
end-around carry, complement. It is the form an implementation is compared with.
-/

namespace OnesComplement

/-- Add a word to a 16-bit sum and fold the carry back in. -/
def fold (s w : ℕ) : ℕ := (s + w) % 65536 + (s + w) / 65536

/-- The folded sum of words with the given total. -/
def norm (total : ℕ) : ℕ := if total = 0 then 0 else (total - 1) % 65535 + 1

@[simp] theorem norm_zero : norm 0 = 0 := rfl

theorem norm_le (total : ℕ) : norm total ≤ 65535 := by
  unfold norm
  split <;> omega

theorem fold_eq_norm {s w : ℕ} (hs : s ≤ 65535) (hw : w ≤ 65535) : fold s w = norm (s + w) := by
  unfold fold norm
  split <;> omega

theorem norm_norm_add (total w : ℕ) : norm (norm total + w) = norm (total + w) := by
  unfold norm
  split_ifs <;> omega

/-- **A folded sum is a function of the total.** -/
theorem foldl_fold {words : List ℕ} (hwords : ∀ w ∈ words, w ≤ 65535) (total : ℕ) :
    words.foldl fold (norm total) = norm (total + words.sum) := by
  induction words generalizing total with
  | nil => rfl
  | cons w words ih =>
    have hw : w ≤ 65535 := hwords w List.mem_cons_self
    rw [List.foldl_cons, fold_eq_norm (norm_le total) hw, norm_norm_add,
      ih (fun v hv ↦ hwords v (List.mem_cons_of_mem _ hv)), List.sum_cons, Nat.add_assoc]

/-- All bits are set in the sum of something and its complement. -/
theorem norm_add_complement (total : ℕ) : norm (total + (65535 - norm total)) = 65535 := by
  unfold norm
  split_ifs <;> omega

/-- The same when a zero complement is written as 65535, the other zero. -/
theorem norm_add_complement' (total : ℕ) (h : 65535 - norm total = 0) :
    norm (total + 65535) = 65535 := by
  unfold norm at h ⊢
  split_ifs at h ⊢ <;> omega

/-! ### The internet checksum -/

/-- The 16-bit words of a byte string of even length, most significant byte first. -/
def words : List UInt8 → List ℕ
  | hi :: lo :: bytes => (hi.toNat * 256 + lo.toNat) :: words bytes
  | _ => []

/-- A byte string of odd length is padded with a zero byte. -/
def padded (bytes : List UInt8) : List UInt8 :=
  if bytes.length % 2 = 0 then bytes else bytes ++ [0]

/-- The checksum of RFC 1071: the complement of the one's-complement sum of the words. -/
def checksum (bytes : List UInt8) : ℕ := 65535 - (words (padded bytes)).foldl fold 0

theorem words_le (bytes : List UInt8) : ∀ w ∈ words bytes, w ≤ 65535 := by
  induction bytes using words.induct with
  | case1 hi lo bytes ih =>
    intro w hw
    have hhi : hi.toNat < 256 := hi.toNat_lt
    have hlo : lo.toNat < 256 := lo.toNat_lt
    rw [words, List.mem_cons] at hw
    rcases hw with rfl | hw
    · omega
    · exact ih w hw
  | case2 bytes hshort =>
    intro w hw
    rcases bytes with - | ⟨hi, - | ⟨lo, bytes⟩⟩
    · exact absurd hw List.not_mem_nil
    · exact absurd hw List.not_mem_nil
    · exact absurd rfl (hshort hi lo bytes)

/-- **A checksum is a function of the total of its words.** -/
theorem checksum_eq (bytes : List UInt8) :
    checksum bytes = 65535 - norm (words (padded bytes)).sum := by
  have hfold := foldl_fold (words_le (padded bytes)) 0
  rw [norm_zero, Nat.zero_add] at hfold
  rw [checksum, hfold]

end OnesComplement
