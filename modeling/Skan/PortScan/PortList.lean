import Mathlib.Data.List.DropRight
import Skan.PortScan.Types
import Skan.Target.Texts

/-!
# Port lists

`parse_ports` cuts its text at commas and reads each token as a port or as a range, and sorts what
it has read. The texts it accepts are those of a grammar (`PortList`), in which blanks may surround
items and numbers, and what it returns is the increasing list of the ports of their union
(`parsePorts_iff`).
-/

namespace Skan.PortScan

open Skan.Core

variable {n first last : ℕ} {item : Text} {ranges : List (ℕ × ℕ)}

/-- `std::isspace` in the C locale. -/
def isSpace (c : UInt8) : Bool := c = 0x20 || (0x09 ≤ c && c ≤ 0x0D)

def trim (value : Text) : Text := ((value.dropWhile isSpace).reverse.dropWhile isSpace).reverse

def parsePortNumber (value : Text) : Option UInt16 :=
  match Target.fromCharsWhole (trim value) with
  | some parsedValue =>
    if parsedValue = 0 || parsedValue > 65535 then none else some (UInt16.ofNat parsedValue)
  | none => none

/-- The ports of a range. The counter of the loop has 32 bits, so it gets past 65535. -/
def portsBetween (first last : UInt16) : List UInt16 :=
  (List.range' first.toNat (last.toNat + 1 - first.toNat)).map UInt16.ofNat

/-- One token of `parse_ports`. -/
def parseToken (token : Text) : Option (List UInt16) :=
  if token.isEmpty then none
  else
    match token.span (· ≠ 0x2D) with
    | (_, []) => (parsePortNumber token).map ([·])
    | (left, _ :: right) =>
      if 0x2D ∈ right then none
      else
        match parsePortNumber left, parsePortNumber right with
        | some first, some last => if last < first then none else some (portsBetween first last)
        | _, _ => none

def Protocol.value : Protocol → ℕ
  | .tcp => 0
  | .udp => 1

/-- `operator<` of ports. -/
def Port.lt (left right : Port) : Bool :=
  if left.number ≠ right.number then left.number < right.number
  else left.protocol.value < right.protocol.value

/-- `std::unique`. -/
def unique : List Port → List Port
  | left :: right :: ports =>
    if left = right then unique (right :: ports) else left :: unique (right :: ports)
  | ports => ports

structure PortSelection where
  status : StatusCode := .ok
  ports : List Port := []
  deriving DecidableEq

/-- `parse_tcp_ports` and `parse_udp_ports`. -/
def parsePorts (specification : Text) (protocol : Protocol) : PortSelection :=
  if (trim specification).isEmpty then { status := .invalidArgument }
  else
    match (specification.splitOn 0x2C).mapM fun token ↦ parseToken (trim token) with
    | none => { status := .invalidArgument }
    | some numbers =>
      let ports := numbers.flatten.map fun number ↦ { number, protocol }
      { ports := unique (ports.insertionSort fun left right ↦ !right.lt left) }

/-! ### Sorting -/

theorem mem_unique {port : Port} {ports : List Port} : port ∈ unique ports ↔ port ∈ ports := by
  fun_induction unique ports with
  | case1 left ports ih => simp [ih]
  | case2 left right ports hne ih => simp [ih]
  | case3 => rfl

/-- Of ports of one protocol, the sorted ones come out in increasing order. -/
theorem pairwise_unique {ports : List Port}
    (h : ports.Pairwise fun left right ↦ left.number.toNat ≤ right.number.toNat)
    (hprotocol : ∀ left ∈ ports, ∀ right ∈ ports, left.protocol = right.protocol) :
    (unique ports).Pairwise fun left right ↦ left.number.toNat < right.number.toNat := by
  fun_induction unique ports with
  | case1 left ports ih =>
    exact ih h.of_cons fun p hp q hq ↦
      hprotocol p (List.mem_cons_of_mem _ hp) q (List.mem_cons_of_mem _ hq)
  | case2 left right ports hne ih =>
    have hle := List.rel_of_pairwise_cons h List.mem_cons_self
    have hlt : left.number.toNat < right.number.toNat := by
      refine Nat.lt_of_le_of_ne hle fun hnumber ↦ hne ?_
      have hprotocols := hprotocol left (by simp) right (by simp)
      cases left
      cases right
      exact congrArg₂ Port.mk (UInt16.toNat_inj.mp hnumber) hprotocols
    refine List.pairwise_cons.mpr ⟨fun p hp ↦ ?_, ih h.of_cons fun p hp q hq ↦
      hprotocol p (List.mem_cons_of_mem _ hp) q (List.mem_cons_of_mem _ hq)⟩
    rcases List.mem_cons.mp (mem_unique.mp hp) with rfl | hp
    · exact hlt
    · exact hlt.trans_le (List.rel_of_pairwise_cons h.of_cons hp)
  | case3 ports hshort =>
    match ports with
    | [] => exact List.Pairwise.nil
    | [port] => exact List.pairwise_singleton _ _
    | left :: right :: ports => exact absurd rfl (hshort left right ports)

/-- The order is by number and then by protocol. -/
theorem not_lt_iff {left right : Port} : (!right.lt left) = true ↔
    left.number.toNat < right.number.toNat ∨ left.number.toNat = right.number.toNat ∧
      left.protocol.value ≤ right.protocol.value := by
  rw [Port.lt, Bool.not_eq_true']
  split
  · next hne =>
    rw [ne_eq, ← UInt16.toNat_inj] at hne
    rw [decide_eq_false_iff_not, UInt16.lt_iff_toNat_lt]
    omega
  · next heq =>
    rw [ne_eq, not_not, ← UInt16.toNat_inj] at heq
    rw [decide_eq_false_iff_not]
    omega

instance : Std.Total fun left right : Port ↦ (!right.lt left) = true where
  total left right := by
    rw [not_lt_iff, not_lt_iff]
    omega

instance : IsTrans Port fun left right ↦ (!right.lt left) = true where
  trans left middle right h h' := by
    rw [not_lt_iff] at h h' ⊢
    omega

/-! ### The grammar -/

/-- A decimal port number. -/
def DecimalText (text : Text) (n : ℕ) : Prop :=
  text ≠ [] ∧ text.all isDigit ∧ decimalValue text = n ∧ 1 ≤ n ∧ n ≤ 65535

/-- A decimal port number with blanks around it. -/
def PortNumberText (text : Text) (n : ℕ) : Prop :=
  ∃ before digits after, text = before ++ digits ++ after ∧ (∀ c ∈ before, isSpace c) ∧
    (∀ c ∈ after, isSpace c) ∧ DecimalText digits n

section Grammar

variable (Number : Text → ℕ → Prop)

/-- A port, or an ascending range: its text and its two ends. -/
inductive PortItem : Text → ℕ → ℕ → Prop
  | port {text : Text} {n : ℕ} (h : Number text n) : PortItem text n n
  | range {left right : Text} {first last : ℕ} (hfirst : Number left first)
    (hlast : Number right last) (hle : first ≤ last) : PortItem (left ++ 0x2D :: right) first last

/-- Items between commas, at least one. -/
def PortList (text : Text) (ranges : List (ℕ × ℕ)) : Prop :=
  ranges ≠ [] ∧ ∃ items, text = [0x2C].intercalate items ∧
    List.Forall₂ (fun item range ↦ PortItem Number item range.1 range.2) items ranges

end Grammar

/-! ### Reading a number -/

theorem isSpace_of_isDigit {c : UInt8} (h : isDigit c) : isSpace c = false := by
  simp only [isDigit, isSpace, Bool.and_eq_true, Bool.or_eq_false_iff, Bool.and_eq_false_iff,
    decide_eq_true_eq, decide_eq_false_iff_not, UInt8.le_iff_toNat_le, ← UInt8.toNat_inj,
    UInt8.reduceToNat] at h ⊢
  omega

/-- What `trim` takes away are blanks. -/
theorem exists_trim (text : Text) :
    ∃ before after, text = before ++ trim text ++ after ∧ (∀ c ∈ before, isSpace c) ∧
      ∀ c ∈ after, isSpace c := by
  refine ⟨text.takeWhile isSpace, (text.dropWhile isSpace).rtakeWhile isSpace, ?_,
    fun c hc ↦ List.mem_takeWhile_imp hc, fun c hc ↦ List.mem_rtakeWhile_imp hc⟩
  have hback : trim text ++ (text.dropWhile isSpace).rtakeWhile isSpace =
      text.dropWhile isSpace := List.rdropWhile_append_rtakeWhile
  rw [List.append_assoc, hback, List.takeWhile_append_dropWhile]

theorem dropWhile_padded {before text after : Text} (hbefore : ∀ c ∈ before, isSpace c)
    (hhead : ∀ c ∈ text.head?, isSpace c = false) (hne : text ≠ []) :
    (before ++ (text ++ after)).dropWhile isSpace = text ++ after := by
  obtain ⟨c, rest, rfl⟩ := List.exists_cons_of_ne_nil hne
  have hc : ¬ isSpace c = true := by simp [hhead c rfl]
  rw [List.dropWhile_append_of_pos hbefore, List.cons_append, List.dropWhile_cons_of_neg hc]

/-- Padding is trimmed. -/
theorem trim_padded {before text after : Text} (hbefore : ∀ c ∈ before, isSpace c)
    (hafter : ∀ c ∈ after, isSpace c) (hhead : ∀ c ∈ text.head?, isSpace c = false)
    (hlast : ∀ c ∈ text.getLast?, isSpace c = false) (hne : text ≠ []) :
    trim (before ++ text ++ after) = text := by
  have hback := @dropWhile_padded after.reverse text.reverse [] (by simpa using hafter)
    (by rwa [List.head?_reverse]) (by simpa using hne)
  rw [List.append_nil] at hback
  rw [trim, List.append_assoc, dropWhile_padded hbefore hhead hne, List.reverse_append, hback,
    List.reverse_reverse]

theorem of_fromCharsWhole {text : Text} (h : Target.fromCharsWhole text = some n) :
    text ≠ [] ∧ text.all isDigit ∧ decimalValue text = n := by
  rw [Target.fromCharsWhole] at h
  split at h
  · exact absurd h (by simp)
  next hdigits =>
  rw [Bool.or_eq_true, not_or, Bool.not_eq_true', Bool.not_eq_false] at hdigits
  obtain ⟨word, hword, rfl⟩ := Option.map_eq_some_iff.mp h
  rw [fromChars32] at hword
  split_ifs at hword with hfits
  obtain rfl := Option.some.inj hword
  exact ⟨by simpa using hdigits.1, hdigits.2, (UInt32.toNat_ofNat_of_lt' hfits).symm⟩

/-- A number is read exactly if it is one. -/
theorem parsePortNumber_eq_some_iff {text : Text} {port : UInt16} :
    parsePortNumber text = some port ↔ PortNumberText text port.toNat := by
  constructor
  · intro h
    obtain ⟨before, after, htext, hbefore, hafter⟩ := exists_trim text
    rw [parsePortNumber] at h
    split at h
    · next n hread =>
      obtain ⟨hne, hdigits, rfl⟩ := of_fromCharsWhole hread
      split_ifs at h with hin
      rw [Bool.or_eq_true, decide_eq_true_eq, decide_eq_true_eq] at hin
      obtain rfl := Option.some.inj h
      rw [UInt16.toNat_ofNat_of_lt' (show decimalValue (trim text) < 2 ^ 16 by omega)]
      exact ⟨before, trim text, after, htext, hbefore, hafter, hne, hdigits, rfl, by omega,
        by omega⟩
    · exact absurd h (by simp)
  · rintro ⟨before, digits, after, rfl, hbefore, hafter, hne, hdigits, hvalue, hpos, hle⟩
    have hspace : ∀ c ∈ digits, isSpace c = false := fun c hc ↦
      isSpace_of_isDigit (List.all_eq_true.mp hdigits c hc)
    rw [parsePortNumber, trim_padded hbefore hafter
      (fun c hc ↦ hspace c (List.mem_of_mem_head? hc))
      (fun c hc ↦ hspace c (List.mem_of_mem_getLast? hc)) hne,
      Target.fromCharsWhole_eq hne hdigits (by omega), hvalue]
    have hin : (decide (port.toNat = 0) || decide (port.toNat > 65535)) = false := by
      simp
      omega
    dsimp only
    rw [hin, if_neg Bool.false_ne_true, UInt16.ofNat_toNat]

/-! ### Reading an item -/

theorem PortNumberText.pad {text : Text} (h : PortNumberText text n) (before after : Text)
    (hbefore : ∀ c ∈ before, isSpace c) (hafter : ∀ c ∈ after, isSpace c) :
    PortNumberText (before ++ text ++ after) n := by
  obtain ⟨front, digits, back, rfl, hfront, hback, hrest⟩ := h
  refine ⟨before ++ front, digits, back ++ after, by simp, ?_, ?_, hrest⟩
  · exact List.forall_mem_append.mpr ⟨hbefore, hfront⟩
  · exact List.forall_mem_append.mpr ⟨hback, hafter⟩

/-- A number without the blanks around it. -/
theorem PortNumberText.digits {text : Text} (h : PortNumberText text n) :
    ∃ before digits after, text = before ++ digits ++ after ∧ (∀ c ∈ before, isSpace c) ∧
      (∀ c ∈ after, isSpace c) ∧ digits ≠ [] ∧ (∀ c ∈ digits, isSpace c = false) ∧
        PortNumberText digits n := by
  obtain ⟨before, digits, after, htext, hbefore, hafter, hne, hdigits, hrest⟩ := h
  exact ⟨before, digits, after, htext, hbefore, hafter, hne,
    fun c hc ↦ isSpace_of_isDigit (List.all_eq_true.mp hdigits c hc),
    [], digits, [], by simp, by simp, by simp, hne, hdigits, hrest⟩

theorem PortNumberText.char {text : Text} (h : PortNumberText text n) :
    ∀ c ∈ text, isSpace c = true ∨ isDigit c = true := by
  obtain ⟨before, digits, after, rfl, hbefore, hafter, -, hdigits, -⟩ := h
  simp only [List.forall_mem_append]
  exact ⟨⟨fun c hc ↦ .inl (hbefore c hc), fun c hc ↦ .inr (List.all_eq_true.mp hdigits c hc)⟩,
    fun c hc ↦ .inl (hafter c hc)⟩

theorem PortNumberText.notMem {text : Text} (h : PortNumberText text n) {c : UInt8}
    (hc : isSpace c = false ∧ isDigit c = false) : c ∉ text := fun hmem ↦
  (h.char c hmem).elim (fun heq ↦ absurd heq (by simp [hc.1])) fun heq ↦
    absurd heq (by simp [hc.2])

theorem PortNumberText.bounds {text : Text} (h : PortNumberText text n) : 1 ≤ n ∧ n ≤ 65535 := by
  obtain ⟨_, _, _, _, _, _, _, _, _, hbounds⟩ := h
  exact hbounds

/-- A port number is read. -/
theorem parsePortNumber_of_text {text : Text} (h : PortNumberText text n) :
    parsePortNumber text = some (UInt16.ofNat n) := by
  have hsize : (UInt16.ofNat n).toNat = n :=
    UInt16.toNat_ofNat_of_lt' (show n < 2 ^ 16 by have := h.bounds; omega)
  rw [parsePortNumber_eq_some_iff, hsize]
  exact h

theorem mem_portsBetween {first last number : UInt16} :
    number ∈ portsBetween first last ↔
      first.toNat ≤ number.toNat ∧ number.toNat ≤ last.toNat := by
  have hlast := last.toNat_lt
  have hnumber := number.toNat_lt
  rw [portsBetween, List.mem_map]
  constructor
  · rintro ⟨n, hn, rfl⟩
    rw [List.mem_range'_1] at hn
    rw [UInt16.toNat_ofNat_of_lt' (show n < 2 ^ 16 by omega)]
    omega
  · rintro ⟨hfirst, hle⟩
    refine ⟨number.toNat, ?_, UInt16.ofNat_toNat⟩
    rw [List.mem_range'_1]
    omega

/-- What a token is read as lies between the ends of an item. -/
theorem portItem_of_parseToken {numbers : List UInt16} (h : parseToken (trim item) = some numbers) :
    ∃ first last, PortItem PortNumberText item first last := by
  obtain ⟨before, after, hitem, hbefore, hafter⟩ := exists_trim item
  rw [parseToken] at h
  split_ifs at h
  rw [hitem]
  by_cases hdash : 0x2D ∈ trim item
  · obtain ⟨left, right, htoken, hleft⟩ := List.eq_append_cons_of_mem hdash
    rw [htoken, Target.span_append_cons hleft] at h
    dsimp only at h
    split_ifs at h
    split at h
    · next first last hfirst hlast =>
      split_ifs at h with hle
      have hleftText := (parsePortNumber_eq_some_iff.mp hfirst).pad before [] hbefore (by simp)
      have hrightText := (parsePortNumber_eq_some_iff.mp hlast).pad [] after (by simp) hafter
      rw [List.append_nil] at hleftText
      rw [List.nil_append] at hrightText
      rw [UInt16.lt_iff_toNat_lt, not_lt] at hle
      have hrange := PortItem.range hleftText hrightText hle
      rw [htoken]
      exact ⟨_, _, by simpa using hrange⟩
    · exact absurd h (by simp)
  · rw [Target.span_of_notMem hdash] at h
    obtain ⟨port, hport, -⟩ := Option.map_eq_some_iff.mp h
    exact ⟨_, _, .port ((parsePortNumber_eq_some_iff.mp hport).pad before after hbefore hafter)⟩

/-- An item is read as the ports between its ends. -/
theorem parseToken_of_portItem (h : PortItem PortNumberText item first last) :
    ∃ numbers, parseToken (trim item) = some numbers ∧
      ∀ number, number ∈ numbers ↔ first ≤ number.toNat ∧ number.toNat ≤ last := by
  have hofNat {n : ℕ} (hn : n ≤ 65535) : (UInt16.ofNat n).toNat = n :=
    UInt16.toNat_ofNat_of_lt' (show n < 2 ^ 16 by omega)
  cases h with
  | port h =>
    obtain ⟨before, digits, after, rfl, hbefore, hafter, hne, hspace, hdigits⟩ := h.digits
    have htrim := trim_padded hbefore hafter (fun c hc ↦ hspace c (List.mem_of_mem_head? hc))
      (fun c hc ↦ hspace c (List.mem_of_mem_getLast? hc)) hne
    have hempty : digits.isEmpty = false := by simpa using hne
    refine ⟨[UInt16.ofNat first], ?_, fun number ↦ ?_⟩
    · rw [htrim, parseToken, hempty, if_neg Bool.false_ne_true,
        Target.span_of_notMem (hdigits.notMem (by decide))]
      dsimp only
      rw [parsePortNumber_of_text hdigits, Option.map_some]
    · rw [List.mem_singleton, ← UInt16.toNat_inj, hofNat h.bounds.2]
      omega
  | range hleft hright hle =>
    rename_i left right
    obtain ⟨b₁, d₁, a₁, hl, hb₁, ha₁, hne₁, hspace₁, hd₁⟩ := hleft.digits
    obtain ⟨b₂, d₂, a₂, hr, hb₂, ha₂, hne₂, hspace₂, hd₂⟩ := hright.digits
    -- the outer blanks go with the trim of the token, the inner ones with that of the numbers
    have htrim : trim (left ++ 0x2D :: right) = (d₁ ++ a₁) ++ 0x2D :: (b₂ ++ d₂) := by
      have hpadded := @trim_padded b₁ ((d₁ ++ a₁) ++ 0x2D :: (b₂ ++ d₂)) a₂ hb₁ ha₂ ?_ ?_ (by simp)
      · rw [← hpadded, hl, hr]
        simp
      · rw [List.append_assoc, List.head?_append_of_ne_nil _ hne₁]
        exact fun c hc ↦ hspace₁ c (List.mem_of_mem_head? hc)
      · rw [← List.cons_append, ← List.append_assoc, List.getLast?_append_of_ne_nil _ hne₂]
        exact fun c hc ↦ hspace₂ c (List.mem_of_mem_getLast? hc)
    have hleftText := hd₁.pad [] a₁ (by simp) ha₁
    have hrightText := hd₂.pad b₂ [] hb₂ (by simp)
    rw [List.nil_append] at hleftText
    rw [List.append_nil] at hrightText
    refine ⟨portsBetween (UInt16.ofNat first) (UInt16.ofNat last), ?_, fun number ↦ ?_⟩
    · have hempty : (d₁ ++ a₁ ++ 0x2D :: (b₂ ++ d₂)).isEmpty = false := by simp
      have hnot : ¬ UInt16.ofNat last < UInt16.ofNat first := by
        rw [UInt16.lt_iff_toNat_lt, hofNat hleft.bounds.2, hofNat hright.bounds.2]
        omega
      rw [htrim, parseToken, hempty, if_neg Bool.false_ne_true,
        Target.span_append_cons (hleftText.notMem (by decide))]
      dsimp only
      rw [if_neg (hrightText.notMem (by decide)), parsePortNumber_of_text hleftText,
        parsePortNumber_of_text hrightText]
      exact if_neg hnot
    · rw [mem_portsBetween, hofNat hleft.bounds.2, hofNat hright.bounds.2]

theorem comma_notMem_of_portItem (h : PortItem PortNumberText item first last) : 0x2C ∉ item := by
  cases h with
  | port h => exact h.notMem (by decide)
  | range hleft hright hle =>
    simp [hleft.notMem (c := 0x2C) (by decide), hright.notMem (c := 0x2C) (by decide)]

theorem PortNumberText.exists_not_isSpace {text : Text} (h : PortNumberText text n) :
    ∃ c ∈ text, isSpace c = false := by
  obtain ⟨before, digits, after, rfl, -, -, hne, hspace, -⟩ := h.digits
  obtain ⟨c, hc⟩ := List.exists_mem_of_ne_nil _ hne
  exact ⟨c, List.mem_append_left _ (List.mem_append_right _ hc), hspace c hc⟩

theorem exists_not_isSpace_of_portItem (h : PortItem PortNumberText item first last) :
    ∃ c ∈ item, isSpace c = false := by
  cases h with
  | port h => exact h.exists_not_isSpace
  | range hleft hright hle =>
    obtain ⟨c, hc, hspace⟩ := hleft.exists_not_isSpace
    exact ⟨c, List.mem_append_left _ hc, hspace⟩

/-! ### Reading a list -/

theorem mapM_eq_some_iff {α β : Type*} {f : α → Option β} {l : List α} {l' : List β} :
    l.mapM f = some l' ↔ List.Forall₂ (fun a b ↦ f a = some b) l l' := by
  induction l generalizing l' with
  | nil => simp [eq_comm]
  | cons a l ih =>
    rw [List.mapM_cons, List.forall₂_cons_left_iff]
    simp only [Option.bind_eq_bind, Option.bind_eq_some_iff, Option.pure_def, Option.some.injEq, ih]
    constructor
    · rintro ⟨b, hb, tail, htail, rfl⟩
      exact ⟨b, tail, hb, htail, rfl⟩
    · rintro ⟨b, tail, hb, htail, rfl⟩
      exact ⟨b, hb, tail, htail, rfl⟩

/-- A text whose tokens can be read is a list. -/
theorem portList_of_mapM {text : Text} {numbers : List (List UInt16)}
    (h : ((text.splitOn 0x2C).mapM fun token ↦ parseToken (trim token)) = some numbers) :
    ∃ ranges, PortList PortNumberText text ranges := by
  have hitems : ∃ ranges : List (ℕ × ℕ),
      List.Forall₂ (fun item range ↦ PortItem PortNumberText item range.1 range.2)
        (text.splitOn 0x2C) ranges := by
    have hread := mapM_eq_some_iff.mp h
    generalize text.splitOn 0x2C = items at hread
    clear h
    induction hread with
    | nil => exact ⟨[], .nil⟩
    | cons hitem _ ih =>
      obtain ⟨first, last, hrange⟩ := portItem_of_parseToken hitem
      obtain ⟨ranges, hranges⟩ := ih
      exact ⟨(first, last) :: ranges, .cons hrange hranges⟩
  obtain ⟨ranges, hranges⟩ := hitems
  refine ⟨ranges, ?_, text.splitOn 0x2C, (List.intercalate_splitOn _).symm, hranges⟩
  rintro rfl
  exact List.splitOn_ne_nil _ _ (List.forall₂_nil_right_iff.mp hranges)

theorem exists_portItem {items : List Text}
    (h : List.Forall₂ (fun item range ↦ PortItem PortNumberText item range.1 range.2) items
      ranges) : ∀ item ∈ items, ∃ first last, PortItem PortNumberText item first last := by
  induction h with
  | nil => simp
  | cons hitem _ ih => exact List.forall_mem_cons.mpr ⟨⟨_, _, hitem⟩, ih⟩

/-- The tokens of a list are read as the ports between the ends of its items. -/
theorem mapM_of_portList {text : Text} (h : PortList PortNumberText text ranges) :
    ∃ numbers, ((text.splitOn 0x2C).mapM fun token ↦ parseToken (trim token)) = some numbers ∧
      ∀ number, number ∈ numbers.flatten ↔
        ∃ range ∈ ranges, range.1 ≤ number.toNat ∧ number.toNat ≤ range.2 := by
  obtain ⟨hne, items, rfl, hitems⟩ := h
  have hcomma : ∀ item ∈ items, 0x2C ∉ item := by
    intro item hitem
    obtain ⟨first, last, hrange⟩ := exists_portItem hitems item hitem
    exact comma_notMem_of_portItem hrange
  have hitemsNe : items ≠ [] := by
    rintro rfl
    exact hne (List.forall₂_nil_left_iff.mp hitems)
  rw [List.splitOn_intercalate _ hcomma hitemsNe]
  clear hne hcomma hitemsNe
  induction hitems with
  | nil => exact ⟨[], rfl, by simp⟩
  | cons hitem _ ih =>
    obtain ⟨front, hfront, hmem⟩ := parseToken_of_portItem hitem
    obtain ⟨numbers, hnumbers, hrest⟩ := ih
    refine ⟨front :: numbers, ?_, fun number ↦ ?_⟩
    · rw [mapM_eq_some_iff] at hnumbers ⊢
      exact .cons hfront hnumbers
    · rw [List.flatten_cons, List.mem_append, hmem, hrest, List.exists_mem_cons_iff]

theorem trim_ne_nil_of_portList {text : Text} (h : PortList PortNumberText text ranges) :
    trim text ≠ [] := by
  obtain ⟨hne, items, rfl, hitems⟩ := h
  intro htrim
  obtain ⟨before, after, htext, hbefore, hafter⟩ := exists_trim ([0x2C].intercalate items)
  rw [htrim, List.append_nil] at htext
  cases hitems with
  | nil => exact hne rfl
  | @cons item _ rest _ hitem hrest =>
    obtain ⟨c, hc, hspace⟩ := exists_not_isSpace_of_portItem hitem
    have hmem : c ∈ [0x2C].intercalate (item :: rest) := by
      cases rest <;> simp [List.intercalate, hc]
    rw [htext] at hmem
    rcases List.mem_append.mp hmem with hmem | hmem
    · exact absurd (hbefore c hmem) (by simp [hspace])
    · exact absurd (hafter c hmem) (by simp [hspace])

/-- What has been read is sorted, and repeated ports are dropped. -/
theorem sorted_ports (numbers : List UInt16) (protocol : Protocol) :
    let ports := unique ((numbers.map fun number ↦ ({ number, protocol } : Port)).insertionSort
      fun left right ↦ !right.lt left)
    (ports.Pairwise fun left right ↦ left.number < right.number) ∧
      ∀ port, port ∈ ports ↔ port.protocol = protocol ∧ port.number ∈ numbers := by
  intro ports
  have hmem (port : Port) : port ∈ (numbers.map fun number ↦ ({ number, protocol } : Port)) ↔
      port.protocol = protocol ∧ port.number ∈ numbers := by
    rw [List.mem_map]
    constructor
    · rintro ⟨number, hnumber, rfl⟩
      exact ⟨rfl, hnumber⟩
    · rintro ⟨rfl, hnumber⟩
      exact ⟨port.number, hnumber, rfl⟩
  have hsorted := List.pairwise_insertionSort (fun left right : Port ↦ (!right.lt left) = true)
    (numbers.map fun number ↦ ({ number, protocol } : Port))
  constructor
  · have hprotocol : ∀ port ∈ (numbers.map fun number ↦
        ({ number, protocol } : Port)).insertionSort fun left right ↦ !right.lt left,
        port.protocol = protocol := fun port hport ↦
      ((hmem port).mp ((List.mem_insertionSort _).mp hport)).1
    refine (pairwise_unique (hsorted.imp fun h ↦ ?_) fun left hleft right hright ↦ ?_).imp
      fun h ↦ UInt16.lt_iff_toNat_lt.mpr h
    · have hcases := not_lt_iff.mp h
      omega
    · rw [hprotocol left hleft, hprotocol right hright]
  · intro port
    rw [mem_unique, List.mem_insertionSort, hmem]

/-- **A port list is parsed.** -/
theorem parsePorts_of_portList {text : Text} (h : PortList PortNumberText text ranges)
    (protocol : Protocol) :
    (parsePorts text protocol).status = .ok ∧
      ((parsePorts text protocol).ports.Pairwise fun left right ↦ left.number < right.number) ∧
        ∀ port, port ∈ (parsePorts text protocol).ports ↔ port.protocol = protocol ∧
          ∃ range ∈ ranges, range.1 ≤ port.number.toNat ∧ port.number.toNat ≤ range.2 := by
  obtain ⟨numbers, hread, hnumbers⟩ := mapM_of_portList h
  obtain ⟨hsorted, hmem⟩ := sorted_ports numbers.flatten protocol
  have hempty : (trim text).isEmpty = false := by simpa using trim_ne_nil_of_portList h
  rw [parsePorts, hempty, if_neg Bool.false_ne_true, hread]
  exact ⟨rfl, hsorted, fun port ↦ by rw [hmem, hnumbers]⟩

/-- **Nothing else is.** -/
theorem parsePorts_of_not_portList {text : Text}
    (h : ∀ ranges, ¬ PortList PortNumberText text ranges) (protocol : Protocol) :
    parsePorts text protocol = { status := .invalidArgument } := by
  rw [parsePorts]
  split
  · rfl
  · split
    · rfl
    · next numbers hread =>
      obtain ⟨ranges, hranges⟩ := portList_of_mapM hread
      exact absurd hranges (h ranges)

/-- **Port lists.** They are accepted exactly if they are lists of ports and ascending ranges, and
what is returned are the ports of their union, in increasing order; a text that is refused has no
ports. -/
theorem parsePorts_iff (text : Text) (protocol : Protocol) :
    ((parsePorts text protocol).status = .ok ↔ ∃ ranges, PortList PortNumberText text ranges) ∧
      (∀ ranges, PortList PortNumberText text ranges →
        ((parsePorts text protocol).ports.Pairwise fun left right ↦ left.number < right.number) ∧
          ∀ port, port ∈ (parsePorts text protocol).ports ↔ port.protocol = protocol ∧
            ∃ range ∈ ranges, range.1 ≤ port.number.toNat ∧ port.number.toNat ≤ range.2) ∧
      ((parsePorts text protocol).status ≠ .ok → (parsePorts text protocol).ports = []) := by
  by_cases hlist : ∃ ranges, PortList PortNumberText text ranges
  · obtain ⟨ranges, hranges⟩ := hlist
    have hok := (parsePorts_of_portList hranges protocol).1
    exact ⟨iff_of_true hok ⟨ranges, hranges⟩,
      fun ranges h ↦ (parsePorts_of_portList h protocol).2, fun hnot ↦ absurd hok hnot⟩
  · have hnone : ∀ ranges, ¬ PortList PortNumberText text ranges := fun ranges h ↦ hlist ⟨ranges, h⟩
    rw [parsePorts_of_not_portList hnone protocol]
    exact ⟨iff_of_false (by decide) hlist, fun ranges h ↦ absurd h (hnone ranges), fun _ ↦ rfl⟩

/-- ` 80` is accepted, and is a decimal number only without its blank. -/
theorem parsePorts_blank :
    ¬ ∀ text protocol, (parsePorts text protocol).status = .ok ↔
      ∃ ranges, PortList DecimalText text ranges := by
  intro hall
  obtain ⟨ranges, hne, items, htext, hitems⟩ := (hall (literal " 80") .tcp).mp (by decide)
  have hseparators : 0x2C ∉ literal " 80" ∧ 0x2D ∉ literal " 80" := by decide
  cases hitems with
  | nil => exact hne rfl
  | @cons item range rest _ hitem hrest =>
    cases rest with
    | nil =>
      have hwhole : literal " 80" = item := by simpa [List.intercalate] using htext
      rw [← hwhole] at hitem
      generalize hitemText : literal " 80" = text at hitem hseparators
      generalize range.1 = first, range.2 = last at hitem
      cases hitem with
      | port h => exact absurd h.2.1 (by rw [← hitemText]; decide)
      | range => exact hseparators.2 (by simp)
    | cons next rest =>
      refine hseparators.1 ?_
      rw [htext]
      simp [List.intercalate]

end Skan.PortScan
