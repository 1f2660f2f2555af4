import Skan.Core.Types
import Skan.Library.OnesComplement

/-!
# The internet checksum

`src/packet/checksum.cpp`: the checksum of a byte string, and of a transport segment together with
the pseudo-header of its IPv4 or IPv6 packet.

## Filling and verifying

A serializer computes the checksum with the checksum field zero and then writes it into the field; a
parser computes it over the field as received and expects zero. `internet_fill` and `pseudo_fill`
say that the second undoes the first, wherever the field is, so long as it is aligned. They rest on
`Skan.Library.OnesComplement`: the accumulator of the source never carries out of sixteen bits
(`addWord_le`), so it is the folded sum of that library. -/

namespace Skan.Packet

open Skan.Core BigEndian OnesComplement

namespace Checksum

/-- The 16-bit words of a byte string; a last odd byte is a high byte. -/
def words : List UInt8 → List UInt16
  | [] => []
  | [hi] => [u16OfBytes hi 0]
  | hi :: lo :: bytes => u16OfBytes hi lo :: words bytes

/-- `add_word`. -/
def addWord (sum : UInt32) (word : UInt16) : UInt32 :=
  let sum := sum + word.toUInt32;
  (sum &&& 0xFFFF : UInt32) + (sum >>> 16)

def sumWords (words : List UInt16) : UInt32 := words.foldl addWord 0

/-- The loop that folds what is above sixteen bits. No sum of `add_word` has anything there, and a
32-bit word is folded after two rounds. -/
def foldCarries : ℕ → UInt32 → UInt32
  | 0, sum => sum
  | rounds + 1, sum =>
    if sum >>> 16 ≠ 0 then foldCarries rounds ((sum &&& 0xFFFF : UInt32) + (sum >>> 16)) else sum

/-- The complement of a sum. -/
def complement (sum : UInt32) : UInt16 := (~~~(foldCarries 2 sum) &&& 0xFFFF).toUInt16

/-- `internet`. -/
def internet (bytes : List UInt8) : UInt16 := complement (sumWords (words bytes))

/-- `ipv4_pseudo_header`. -/
def ipv4PseudoHeader (source destination : UInt32) (protocol : UInt8) (transport : List UInt8) :
    UInt16 :=
  if transport.length > 65535 then 0
  else
    complement (sumWords ([(source >>> 16).toUInt16, (source &&& 0xFFFF).toUInt16,
      (destination >>> 16).toUInt16, (destination &&& 0xFFFF).toUInt16, protocol.toUInt16,
      UInt16.ofNat transport.length] ++ words transport))

/-- The words of the two addresses, alternating. -/
def addressWords (source destination : Bytes16) : List UInt16 :=
  (List.range 8).flatMap fun i ↦
    [readU16 source.toList (2 * i), readU16 destination.toList (2 * i)]

/-- `ipv6_pseudo_header`. -/
def ipv6PseudoHeader (source destination : Bytes16) (nextHeader : UInt8) (transport : List UInt8) :
    UInt16 :=
  if transport.length > 0xFFFFFFFF then 0
  else
    complement (sumWords (addressWords source destination ++
      [UInt16.ofNat (transport.length >>> 16), UInt16.ofNat transport.length,
        nextHeader.toUInt16] ++
      words transport))

/-- A checksum that must not read as absent: zero is written as its other representation. -/
def nonzero (checksum : UInt16) : UInt16 := if checksum = 0 then 0xFFFF else checksum

/-! ### Sums as numbers -/

/-- The total of the words of a byte string. -/
def total (bytes : List UInt8) : ℕ := ((words bytes).map UInt16.toNat).sum

theorem toNat_addWord {sum : UInt32} (hsum : sum.toNat ≤ 65535) (word : UInt16) :
    (addWord sum word).toNat = fold sum.toNat word.toNat := by
  have hword : word.toNat < 2 ^ 16 := word.toNat_lt
  have hadd : (sum + word.toUInt32).toNat = sum.toNat + word.toNat := by
    rw [UInt32.toNat_add, UInt16.toNat_toUInt32]
    omega
  have hmask : ((sum + word.toUInt32) &&& 0xFFFF : UInt32).toNat =
      (sum.toNat + word.toNat) % 65536 := by
    rw [UInt32.toNat_and, hadd]
    exact Nat.and_two_pow_sub_one_eq_mod _ 16
  have hshift : ((sum + word.toUInt32) >>> 16).toNat = (sum.toNat + word.toNat) / 65536 := by
    rw [UInt32.toNat_shiftRight, hadd]
    simp [Nat.shiftRight_eq_div_pow]
  rw [addWord, UInt32.toNat_add, hmask, hshift, fold]
  omega

/-- **The accumulator is the folded sum**, so it stays within sixteen bits. -/
theorem toNat_sumWords (ws : List UInt16) :
    (sumWords ws).toNat = OnesComplement.norm (ws.map UInt16.toNat).sum := by
  have hle : ∀ w ∈ ws.map UInt16.toNat, w ≤ 65535 := by
    intro w hw
    obtain ⟨v, -, rfl⟩ := List.mem_map.mp hw
    have hv : v.toNat < 2 ^ 16 := v.toNat_lt
    omega
  have hfold := foldl_fold hle 0
  rw [norm_zero, Nat.zero_add] at hfold
  rw [← hfold]
  -- both sums are built word by word from a sum that has not carried
  have hstep : ∀ (ws : List UInt16) (sum : UInt32), sum.toNat ≤ 65535 →
      (ws.foldl addWord sum).toNat = (ws.map UInt16.toNat).foldl fold sum.toNat := by
    intro ws
    induction ws with
    | nil => exact fun _ _ ↦ rfl
    | cons w ws ih =>
      intro sum hsum
      have hw : w.toNat < 2 ^ 16 := w.toNat_lt
      have hnext : (addWord sum w).toNat ≤ 65535 := by
        rw [toNat_addWord hsum, fold_eq_norm hsum (by omega)]
        exact norm_le _
      rw [List.foldl_cons, ih _ hnext, toNat_addWord hsum, List.map_cons, List.foldl_cons]
  exact hstep ws 0 (by decide)

theorem toNat_complement {sum : UInt32} (hsum : sum.toNat ≤ 65535) :
    (complement sum).toNat = 65535 - sum.toNat := by
  have hshift : sum >>> 16 = 0 := by
    apply UInt32.toNat_inj.mp
    rw [UInt32.toNat_shiftRight]
    simp [Nat.shiftRight_eq_div_pow]
    omega
  have hfold : foldCarries 2 sum = sum := by
    rw [foldCarries, if_neg (by rw [hshift]; decide)]
  rw [complement, hfold, UInt32.toNat_toUInt16, UInt32.toNat_and, UInt32.toNat_not]
  have hmask : (4294967296 - 1 - sum.toNat) &&& 65535 = (4294967296 - 1 - sum.toNat) % 2 ^ 16 :=
    Nat.and_two_pow_sub_one_eq_mod _ 16
  simp only [UInt32.size, UInt32.reduceToNat]
  rw [hmask]
  omega

theorem toNat_complement_sumWords (ws : List UInt16) :
    (complement (sumWords ws)).toNat = 65535 - OnesComplement.norm (ws.map UInt16.toNat).sum := by
  have hle := norm_le (ws.map UInt16.toNat).sum
  rw [toNat_complement (by rw [toNat_sumWords]; exact hle), toNat_sumWords]

/-! ### Filling and verifying -/

/-- Words of a string cut at an even offset. -/
theorem words_append {front : List UInt8} (heven : front.length % 2 = 0) (back : List UInt8) :
    words (front ++ back) = words front ++ words back := by
  induction front using words.induct with
  | case1 => rfl
  | case2 hi => simp at heven
  | case3 hi lo bytes ih =>
    have hrest : bytes.length % 2 = 0 := by
      simp only [List.length_cons] at heven
      omega
    rw [List.cons_append, List.cons_append, words, ih hrest, words, List.cons_append]

theorem words_u16Bytes (w : UInt16) : words (u16Bytes w) = [w] := by
  rw [u16Bytes, words, words, u16OfBytes_split]

variable {front back : List UInt8} (heven : front.length % 2 = 0)

include heven

/-- The total with a checksum field in it. -/
theorem sum_field (header : List UInt16) (c : UInt16) :
    ((header ++ words (front ++ u16Bytes c ++ back)).map UInt16.toNat).sum =
      ((header ++ words (front ++ u16Bytes 0 ++ back)).map UInt16.toNat).sum + c.toNat := by
  have hfield : ∀ c : UInt16, words (front ++ u16Bytes c ++ back) =
      words front ++ (c :: words back) := by
    intro c
    have hmiddle : (front ++ u16Bytes c).length % 2 = 0 := by
      rw [List.length_append, length_u16Bytes]
      omega
    rw [words_append hmiddle, words_append heven, words_u16Bytes, List.append_assoc]
    rfl
  rw [hfield, hfield]
  simp only [List.map_append, List.map_cons, List.sum_append, List.sum_cons, UInt16.toNat_zero]
  omega

/-- **A filled checksum verifies.** -/
theorem complement_fill (header : List UInt16) :
    complement (sumWords (header ++ words (front ++ u16Bytes
      (complement (sumWords (header ++ words (front ++ u16Bytes 0 ++ back)))) ++ back))) = 0 := by
  apply UInt16.toNat_inj.mp
  rw [toNat_complement_sumWords, sum_field heven, toNat_complement_sumWords,
    norm_add_complement]
  rfl

/-- The same when a zero checksum is written as its other representation. -/
theorem complement_fill_nonzero (header : List UInt16) :
    complement (sumWords (header ++ words (front ++ u16Bytes
      (nonzero (complement (sumWords (header ++ words (front ++ u16Bytes 0 ++ back))))) ++
      back))) = 0 := by
  unfold nonzero
  split_ifs with hzero
  · have hnorm := congrArg UInt16.toNat hzero
    rw [toNat_complement_sumWords] at hnorm
    apply UInt16.toNat_inj.mp
    rw [toNat_complement_sumWords, sum_field heven]
    show 65535 - OnesComplement.norm (_ + 65535) = 0
    rw [norm_add_complement' _ hnorm]
  · exact complement_fill heven header

theorem internet_fill :
    internet (front ++ u16Bytes (internet (front ++ u16Bytes 0 ++ back)) ++ back) = 0 :=
  complement_fill heven []

theorem ipv4PseudoHeader_fill (source destination : UInt32) (protocol : UInt8)
    (hlength : front.length + 2 + back.length ≤ 65535) :
    ipv4PseudoHeader source destination protocol (front ++ u16Bytes
      (nonzero (ipv4PseudoHeader source destination protocol (front ++ u16Bytes 0 ++ back))) ++
      back) = 0 := by
  have hlen : ∀ c : UInt16,
      (front ++ u16Bytes c ++ back).length = front.length + 2 + back.length := fun c ↦ by
    rw [List.length_append, List.length_append, length_u16Bytes]
  unfold ipv4PseudoHeader
  rw [hlen, hlen, if_neg (by omega), if_neg (by omega)]
  exact complement_fill_nonzero heven _

theorem ipv6PseudoHeader_fill (source destination : Bytes16) (nextHeader : UInt8) :
    ipv6PseudoHeader source destination nextHeader (front ++ u16Bytes
      (nonzero (ipv6PseudoHeader source destination nextHeader (front ++ u16Bytes 0 ++ back))) ++
      back) = 0 := by
  have hlen : ∀ c : UInt16,
      (front ++ u16Bytes c ++ back).length = front.length + 2 + back.length := fun c ↦ by
    rw [List.length_append, List.length_append, length_u16Bytes]
  unfold ipv6PseudoHeader
  rw [hlen, hlen]
  split_ifs
  · rfl
  · exact complement_fill_nonzero heven _

end Checksum

end Skan.Packet
