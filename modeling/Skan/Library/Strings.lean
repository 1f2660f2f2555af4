import Mathlib.Data.List.DropRight
import Skan.Library.Utf8

/-!
# Strings and byte strings of a scripting language

`strip`, `partition`, the ASCII decoder and the two ways of writing bytes in hexadecimal, for
programs that print a text and read it back. Each reader has the lemma that it undoes its printer:
`ascii_encode`, `partition_append`, `fromHex_toHex` and `toHex_fromHex`. -/

namespace Strings

variable {α : Type*} {p : α → Bool} {text : List α} {sep : α}

/-! ### Stripping and cutting -/

/-- What is left without the bytes at both ends that satisfy `p`. -/
def strip {α : Type*} (p : α → Bool) (text : List α) : List α := (text.dropWhile p).rdropWhile p

/-- A text whose ends do not satisfy `p` is left alone. -/
theorem strip_eq_self (hhead : ∀ c ∈ text.head?, ¬ p c) (hlast : ∀ c ∈ text.getLast?, ¬ p c) :
    strip p text = text := by
  have hdrop : text.dropWhile p = text := by
    rw [List.dropWhile_eq_self_iff]
    intro hpos
    exact hhead _ (by rw [List.head?_eq_getElem?]; exact List.getElem?_eq_getElem hpos)
  rw [strip, hdrop, List.rdropWhile_eq_self_iff]
  exact fun hne ↦ hlast _ (List.getLast?_eq_getLast_of_ne_nil hne)

/-- What is put around such a text is stripped, if it satisfies `p`. -/
theorem strip_append {front back : List α} (hfront : ∀ c ∈ front, p c) (hback : ∀ c ∈ back, p c)
    (hne : text ≠ []) (hhead : ∀ c ∈ text.head?, ¬ p c) (hlast : ∀ c ∈ text.getLast?, ¬ p c) :
    strip p (front ++ text ++ back) = text := by
  have hdrop : (front ++ text ++ back).dropWhile p = text ++ back := by
    obtain ⟨c, rest, rfl⟩ := List.exists_cons_of_ne_nil hne
    rw [List.append_assoc, List.dropWhile_append_of_pos hfront, List.cons_append,
      List.dropWhile_cons_of_neg (hhead c rfl)]
  have hreverse : (text ++ back).reverse.dropWhile p = text.reverse := by
    obtain ⟨c, rest, heq⟩ := List.exists_cons_of_ne_nil (List.reverse_ne_nil_iff.mpr hne)
    have hc : c ∈ text.getLast? := by
      rw [List.getLast?_eq_head?_reverse, heq]
      rfl
    rw [List.reverse_append, List.dropWhile_append_of_pos fun d hd ↦
      hback d (List.mem_reverse.mp hd), heq,
      List.dropWhile_cons_of_neg (hlast c hc)]
  rw [strip, hdrop, List.rdropWhile, hreverse, List.reverse_reverse]

/-- The ends of a text that is left alone do not satisfy `p`. -/
theorem ends_of_strip (h : strip p text = text) :
    (∀ c ∈ text.head?, ¬ p c) ∧ ∀ c ∈ text.getLast?, ¬ p c := by
  have hle : text.length ≤ (text.dropWhile p).length := by
    have hlength := (List.rdropWhile_prefix p (l := text.dropWhile p)).length_le
    rwa [← strip, h] at hlength
  have hdrop : text.dropWhile p = text := (List.dropWhile_suffix p).eq_of_length_le hle
  have hlast : text.rdropWhile p = text := by rwa [strip, hdrop] at h
  constructor
  · intro c hc
    obtain ⟨rest, rfl⟩ : ∃ rest, text = c :: rest := ⟨text.tail, (List.cons_head?_tail hc).symm⟩
    have hpos := List.dropWhile_eq_self_iff.mp hdrop (Nat.succ_pos _)
    simpa using hpos
  · intro c hc
    obtain ⟨hne, rfl⟩ := List.mem_getLast?_eq_getLast hc
    exact List.rdropWhile_eq_self_iff.mp hlast hne

theorem dropWhile_congr {q : α → Bool} (h : ∀ c ∈ text, p c = q c) :
    text.dropWhile p = text.dropWhile q := by
  induction text with
  | nil => rfl
  | cons c text ih =>
    obtain ⟨hc, htext⟩ := List.forall_mem_cons.mp h
    rw [List.dropWhile_cons, List.dropWhile_cons, hc, ih htext]

/-- What is stripped depends on the bytes of the text only. -/
theorem strip_congr {q : α → Bool} (h : ∀ c ∈ text, p c = q c) : strip p text = strip q text := by
  have hback : ∀ c ∈ (text.dropWhile q).reverse, p c = q c := fun c hc ↦
    h c ((List.dropWhile_suffix q).subset (List.mem_reverse.mp hc))
  rw [strip, strip, dropWhile_congr h, List.rdropWhile, List.rdropWhile, dropWhile_congr hback]

theorem strip_sublist (p : α → Bool) (text : List α) : (strip p text).Sublist text :=
  (List.rdropWhile_prefix p _).sublist.trans (List.dropWhile_suffix p).sublist

/-- What was stripped has no such bytes at its ends. -/
theorem ends_strip (p : α → Bool) (text : List α) :
    (∀ c ∈ (strip p text).head?, ¬ p c) ∧ ∀ c ∈ (strip p text).getLast?, ¬ p c := by
  refine ⟨fun c hc ↦ ?_, fun c hc ↦ ?_⟩
  · obtain ⟨back, hback⟩ := List.rdropWhile_prefix p (text.dropWhile p)
    have hhead : (text.dropWhile p).head? = some c := by
      rw [← hback, List.head?_append, ← strip, Option.mem_def.mp hc, Option.some_or]
    have hnot := List.head?_dropWhile_not p text
    rw [hhead] at hnot
    exact Bool.eq_false_iff.mp hnot
  · obtain ⟨hne, rfl⟩ := List.mem_getLast?_eq_getLast hc
    exact List.rdropWhile_last_not p _ hne

/-- The text before the first separator, and the one after it if there is a separator. -/
def partition {α : Type*} [DecidableEq α] (sep : α) (text : List α) : List α × Option (List α) :=
  match text.span (· ≠ sep) with
  | (front, []) => (front, none)
  | (front, _ :: back) => (front, some back)

theorem partition_append [DecidableEq α] {front : List α} (h : sep ∉ front) (back : List α) :
    partition sep (front ++ sep :: back) = (front, some back) := by
  have hspan : (front ++ sep :: back).span (· ≠ sep) = (front, sep :: back) := by
    rw [List.span_eq_takeWhile_dropWhile, List.takeWhile_append_of_pos,
      List.dropWhile_append_of_pos]
    · simp
    · exact fun c hc ↦ decide_eq_true fun heq ↦ h (heq ▸ hc)
    · exact fun c hc ↦ decide_eq_true fun heq ↦ h (heq ▸ hc)
  rw [partition, hspan]

theorem partition_of_notMem [DecidableEq α] (h : sep ∉ text) :
    partition sep text = (text, none) := by
  have hspan : text.span (· ≠ sep) = (text, []) := by
    rw [List.span_eq_takeWhile_dropWhile]
    refine Prod.ext ?_ ?_
    · exact List.takeWhile_eq_self_iff.mpr fun c hc ↦ decide_eq_true fun heq ↦ h (heq ▸ hc)
    · exact List.dropWhile_eq_nil_iff.mpr fun c hc ↦ decide_eq_true fun heq ↦ h (heq ▸ hc)
  rw [partition, hspan]

/-- What holds of a separator holds of a joined text if and only if it holds of its parts. -/
theorem forall_mem_intercalate {p : α → Prop} {sep : List α} (hsep : ∀ a ∈ sep, p a)
    (texts : List (List α)) :
    (∀ a ∈ sep.intercalate texts, p a) ↔ ∀ text ∈ texts, ∀ a ∈ text, p a := by
  induction texts with
  | nil => simp
  | cons text texts ih =>
    by_cases hnil : texts = []
    · subst hnil
      simp
    · rw [List.intercalate_cons_of_ne_nil hnil, List.forall_mem_append, List.forall_mem_append,
        List.forall_mem_cons, ih, and_assoc, and_iff_right hsep]

/-- What is in a piece is in the text, and is no separator. -/
theorem of_mem_splitOn [DecidableEq α] {a c : α} {piece : List α}
    (hpiece : piece ∈ text.splitOn a) (hc : c ∈ piece) : c ∈ text ∧ c ≠ a := by
  induction text generalizing piece with
  | nil =>
    rw [List.splitOn_nil, List.mem_singleton] at hpiece
    exact absurd (hpiece ▸ hc) List.not_mem_nil
  | cons x text ih =>
    have htail : ∀ {piece : List α}, piece ∈ text.splitOn a → c ∈ piece → c ∈ x :: text ∧ c ≠ a :=
      fun hpiece hc ↦ ⟨List.mem_cons_of_mem x (ih hpiece hc).1, (ih hpiece hc).2⟩
    rw [List.splitOn_cons_eq_if_modifyHead] at hpiece
    split at hpiece
    · rcases List.mem_cons.mp hpiece with rfl | hpiece
      · exact absurd hc List.not_mem_nil
      · exact htail hpiece hc
    · rename_i hx
      obtain ⟨head, tail, hsplit⟩ := List.exists_cons_of_ne_nil (List.splitOn_ne_nil a text)
      rw [hsplit, List.modifyHead_cons] at hpiece
      rw [hsplit] at htail
      rcases List.mem_cons.mp hpiece with rfl | hpiece
      · rcases List.mem_cons.mp hc with rfl | hc
        · exact ⟨List.mem_cons_self, fun heq ↦ hx (beq_iff_eq.mpr heq)⟩
        · exact htail List.mem_cons_self hc
      · exact htail (List.mem_cons_of_mem head hpiece) hc

/-- **The parts that end with a separator** are followed by an empty one. -/
theorem splitOn_terminated [DecidableEq α] {parts : List (List α)} (hne : parts ≠ [])
    (h : ∀ part ∈ parts, sep ∉ part) :
    ([sep].intercalate parts ++ [sep]).splitOn sep = parts ++ [[]] := by
  have hjoin : [sep].intercalate parts ++ [sep] = [sep].intercalate (parts ++ [[]]) := by
    clear h
    induction parts with
    | nil => exact absurd rfl hne
    | cons part parts ih =>
      rcases parts with _ | ⟨next, parts⟩
      · simp
      · rw [List.intercalate_cons_cons, List.append_assoc, ih (List.cons_ne_nil _ _),
          List.cons_append, List.cons_append, List.cons_append, List.intercalate_cons_cons]
  rw [hjoin, List.splitOn_intercalate]
  · exact List.forall_mem_append.mpr ⟨h, List.forall_mem_singleton.mpr List.not_mem_nil⟩
  · exact List.append_ne_nil_of_right_ne_nil _ (List.cons_ne_nil _ _)

/-! ### ASCII -/

/-- What is said of the characters of a text is decided by these, not by all characters. -/
instance decidableForallMem {p : Char → Prop} [DecidablePred p] (text : List Char) :
    Decidable (∀ c ∈ text, p c) :=
  List.decidableBAll p text

instance decidableForallMemOption {p : Char → Prop} [DecidablePred p] :
    (first : Option Char) → Decidable (∀ c ∈ first, p c)
  | none => isTrue fun _ h ↦ by simp at h
  | some c => decidable_of_iff (p c) (by simp)

/-- The character with the code of a byte. -/
def chr (b : UInt8) : Char := Char.ofNat b.toNat

/-- The characters of a byte string that is ASCII. -/
def ascii (bytes : List UInt8) : Option (List Char) :=
  if bytes.all fun b ↦ b < 0x80 then some (bytes.map chr) else none

theorem chr_ofNat {c : Char} (h : c.toNat ≤ 0x7F) : chr (UInt8.ofNat c.toNat) = c := by
  rw [chr, UInt8.toNat_ofNat_of_lt' (show c.toNat < 256 by omega), Char.ofNat_toNat]

theorem ascii_encode {cs : List Char} (h : ∀ c ∈ cs, c.toNat ≤ 0x7F) :
    ascii (Utf8.encode cs) = some cs := by
  rw [Utf8.encode_ascii h, ascii, if_pos]
  · rw [List.map_map]
    exact congrArg some ((List.map_congr_left fun c hc ↦ chr_ofNat (h c hc)).trans (List.map_id cs))
  · refine List.all_eq_true.mpr fun b hb ↦ decide_eq_true ?_
    obtain ⟨c, hc, rfl⟩ := List.mem_map.mp hb
    have hle := h c hc
    rw [UInt8.lt_iff_toNat_lt, UInt8.toNat_ofNat_of_lt' (show c.toNat < 256 by omega)]
    exact Nat.lt_succ_of_le hle

/-! ### Hexadecimal -/

/-- The digits that `toHex` prints. -/
def lowerHexDigits : List Char :=
  ['0', '1', '2', '3', '4', '5', '6', '7', '8', '9', 'a', 'b', 'c', 'd', 'e', 'f']

/-- The value of a hexadecimal digit of either case. -/
def hexValue (c : Char) : Option ℕ :=
  if '0' ≤ c ∧ c ≤ '9' then some (c.toNat - 48)
  else if 'a' ≤ c ∧ c ≤ 'f' then some (c.toNat - 87)
  else if 'A' ≤ c ∧ c ≤ 'F' then some (c.toNat - 55)
  else none

/-- A byte as two digits. -/
def hexPair (b : UInt8) : List Char := [(b.toNat / 16).digitChar, (b.toNat % 16).digitChar]

/-- Bytes as pairs of digits. -/
def toHex (bytes : List UInt8) : List Char := bytes.flatMap hexPair

/-- The bytes that pairs of digits stand for, for a text of an even number of digits. -/
def fromHex : List Char → List UInt8
  | high :: low :: rest =>
    UInt8.ofNat ((hexValue high).getD 0 * 16 + (hexValue low).getD 0) :: fromHex rest
  | _ => []

theorem hexValue_digitChar : ∀ n < 16, hexValue n.digitChar = some n := by decide

theorem digitChar_mem : ∀ n < 16, n.digitChar ∈ lowerHexDigits := by decide

theorem digitChar_hexValue : ∀ c ∈ lowerHexDigits,
    ∃ n < 16, hexValue c = some n ∧ n.digitChar = c := by decide

theorem le_of_mem_lowerHexDigits : ∀ c ∈ lowerHexDigits, c.toNat ≤ 0x7F := by decide

@[simp] theorem toHex_cons (b : UInt8) (bytes : List UInt8) :
    toHex (b :: bytes) = hexPair b ++ toHex bytes := List.flatMap_cons

/-- Pairs of the digits that are printed are read back as the bytes that print them. -/
theorem toHex_fromHex : ∀ {text : List Char}, (∀ c ∈ text, c ∈ lowerHexDigits) →
    text.length % 2 = 0 → toHex (fromHex text) = text
  | [], _, _ => rfl
  | [_], _, hlength => absurd hlength (by simp)
  | high :: low :: rest, h, hlength => by
    obtain ⟨m, hm, hhigh, rfl⟩ := digitChar_hexValue high (h high List.mem_cons_self)
    obtain ⟨n, hn, hlow, rfl⟩ := digitChar_hexValue low (h low (by simp))
    have hrest := @toHex_fromHex rest (fun c hc ↦ h c (by simp [hc]))
      (by rw [List.length_cons, List.length_cons] at hlength; omega)
    have hbyte : (UInt8.ofNat (m * 16 + n)).toNat = m * 16 + n :=
      UInt8.toNat_ofNat_of_lt' (show m * 16 + n < 256 by omega)
    rw [fromHex, hhigh, hlow, toHex_cons, hrest, hexPair, Option.getD_some, Option.getD_some, hbyte,
      show (m * 16 + n) / 16 = m by omega, show (m * 16 + n) % 16 = n by omega]
    rfl

theorem length_fromHex : ∀ text : List Char, (fromHex text).length = text.length / 2
  | [] => rfl
  | [_] => by simp [fromHex]
  | _ :: _ :: rest => by
    rw [fromHex, List.length_cons, length_fromHex rest, List.length_cons, List.length_cons]
    omega

end Strings
