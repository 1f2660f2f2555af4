import Mathlib.Data.List.TakeWhile
import Skan.Target.Addresses

/-!
# The texts of addresses

What the parser of specifications does with text: blanks around an input and around its tokens
(`map_trim_splitOn_trim`, `trim_padded`), and the texts that denote an address (`IsAddressText`),
which the two parsers of addresses agree on.

`IsAddressText` rests on the C library: a strict dotted quad, or what `inet_pton` accepts for IPv6,
of which only the alphabet is assumed (`PresentationForm`). `parse_ipv4` of the target engine is
lenient where `inet_pton` is strict; `parseIpv4_of_inetPton4` shows that it reads no strict dotted
quad differently.
-/

namespace Skan.Target

open Skan.Core

variable {c a x : UInt8} {text : Text} {address : IpAddress} {word : UInt32} {bytes : Bytes16}

/-! ### Trimming and splitting -/

theorem trim_cons (hc : isBlank c) (text : Text) : trim (c :: text) = trim text := by
  rw [trim, List.dropWhile_cons_of_pos hc, trim]

theorem trim_concat (hc : isBlank c) (text : Text) : trim (text ++ [c]) = trim text := by
  rw [trim, trim, List.dropWhile_append]
  split
  · next h =>
    have hempty : text.dropWhile isBlank = [] := List.isEmpty_iff.mp h
    rw [hempty, List.dropWhile_cons_of_pos hc]
    rfl
  · rw [List.reverse_append, List.reverse_singleton, List.singleton_append,
      List.dropWhile_cons_of_pos hc]

/-- Splitting, seen through a function that ignores what is added in front of a piece. -/
theorem map_splitOn_cons {β : Type*} {f : Text → β} (hx : x ≠ a)
    (hf : ∀ text, f (x :: text) = f text) (text : Text) :
    ((x :: text).splitOn a).map f = (text.splitOn a).map f := by
  rw [List.splitOn_cons_eq_if_modifyHead, if_neg (by simpa using hx)]
  obtain ⟨head, tail, hsplit⟩ := List.exists_cons_of_ne_nil (List.splitOn_ne_nil a text)
  rw [hsplit, List.modifyHead_cons, List.map_cons, List.map_cons, hf]

/-- Splitting, seen through a function that ignores what is added at the end of a piece. -/
theorem map_splitOn_concat {β : Type*} {f : Text → β} (hx : x ≠ a)
    (hf : ∀ text, f (text ++ [x]) = f text) (text : Text) :
    ((text ++ [x]).splitOn a).map f = (text.splitOn a).map f := by
  induction text generalizing f with
  | nil =>
    have hsingle : [x].splitOn a = [[x]] := List.splitOn_eq_singleton (by simpa using hx.symm)
    have hnil := hf []
    rw [List.nil_append] at hnil ⊢
    rw [hsingle, List.splitOn_nil, List.map_singleton, List.map_singleton, hnil]
  | cons y text ih =>
    rw [List.cons_append, List.splitOn_cons_eq_if_modifyHead, List.splitOn_cons_eq_if_modifyHead]
    by_cases hy : (y == a) = true
    · rw [if_pos hy, if_pos hy, List.map_cons, List.map_cons, ih hf]
    · -- the first piece grows by `y`, the others are those of the tail
      rw [if_neg hy, if_neg hy]
      have htail := ih hf
      have hhead := ih (f := fun piece ↦ f (y :: piece)) fun piece ↦ hf (y :: piece)
      obtain ⟨h₁, t₁, hsplit₁⟩ :=
        List.exists_cons_of_ne_nil (List.splitOn_ne_nil a (text ++ [x]))
      obtain ⟨h₂, t₂, hsplit₂⟩ := List.exists_cons_of_ne_nil (List.splitOn_ne_nil a text)
      rw [hsplit₁, hsplit₂, List.map_cons, List.map_cons] at htail hhead
      rw [hsplit₁, hsplit₂, List.modifyHead_cons, List.modifyHead_cons, List.map_cons,
        List.map_cons, (List.cons.inj hhead).1, (List.cons.inj htail).2]

theorem comma_not_blank (hc : isBlank c) : c ≠ 0x2C := by
  rintro rfl
  exact absurd hc (by decide)

/-- Blanks around the whole input are blanks around its tokens. -/
theorem map_trim_splitOn_trim (text : Text) :
    ((trim text).splitOn 0x2C).map trim = (text.splitOn 0x2C).map trim := by
  have hfront (text : Text) :
      ((text.dropWhile isBlank).splitOn 0x2C).map trim = (text.splitOn 0x2C).map trim := by
    induction text with
    | nil => rfl
    | cons c text ih =>
      by_cases hc : isBlank c = true
      · rw [List.dropWhile_cons_of_pos hc, ih, map_splitOn_cons (comma_not_blank hc) (trim_cons hc)]
      · rw [List.dropWhile_cons_of_neg hc]
  have hback (text : Text) :
      ((text.reverse.dropWhile isBlank).reverse.splitOn 0x2C).map trim =
        (text.splitOn 0x2C).map trim := by
    induction text using List.reverseRecOn with
    | nil => rfl
    | append_singleton text c ih =>
      rw [List.reverse_append, List.reverse_singleton, List.singleton_append]
      by_cases hc : isBlank c = true
      · rw [List.dropWhile_cons_of_pos hc, ih,
          map_splitOn_concat (comma_not_blank hc) (trim_concat hc)]
      · rw [List.dropWhile_cons_of_neg hc, List.reverse_cons, List.reverse_reverse]
  rw [trim, hback, hfront]

theorem dropWhile_isBlank_eq_self (h : ∀ c ∈ text.head?, isBlank c = false) :
    text.dropWhile isBlank = text := by
  cases text with
  | nil => rfl
  | cons c text => exact List.dropWhile_cons_of_neg (by simp [h c rfl])

/-- Blanks around a text that neither starts nor ends with one. -/
theorem trim_padded {before after : Text} (hbefore : before.all isBlank)
    (hafter : after.all isBlank) (hhead : ∀ c ∈ text.head?, isBlank c = false)
    (hlast : ∀ c ∈ text.getLast?, isBlank c = false) : trim (before ++ text ++ after) = text := by
  have hinner : trim text = text := by
    rw [trim, dropWhile_isBlank_eq_self hhead, dropWhile_isBlank_eq_self, List.reverse_reverse]
    rwa [List.head?_reverse]
  have hpre (before : Text) (hbefore : before.all isBlank) (text : Text) :
      trim (before ++ text) = trim text := by
    induction before with
    | nil => rfl
    | cons c before ih =>
      rw [List.all_cons, Bool.and_eq_true] at hbefore
      rw [List.cons_append, trim_cons hbefore.1, ih hbefore.2]
  have hpost (after : Text) (hafter : after.all isBlank) (text : Text) :
      trim (text ++ after) = trim text := by
    induction after using List.reverseRecOn with
    | nil => rw [List.append_nil]
    | append_singleton after c ih =>
      rw [List.all_append, Bool.and_eq_true] at hafter
      rw [← List.append_assoc, trim_concat (by simpa using hafter.2), ih hafter.1]
  rw [hpost after hafter, hpre before hbefore, hinner]

/-! ### Address texts -/

variable (inet : Inet)

/-- The characters of an IPv6 address in presentation form. -/
def isPresentation (c : UInt8) : Bool :=
  isDigit c || (0x61 ≤ c && c ≤ 0x66) || (0x41 ≤ c && c ≤ 0x46) || c = 0x3A || c = 0x2E

/-- What `inet_pton(AF_INET6, …)` accepts: hexadecimal digits, colons and dots, with a colon. -/
structure PresentationForm : Prop where
  isPresentation_of_pton6 : ∀ text bytes, inet.pton6 text = some bytes →
    ∀ c ∈ text, isPresentation c
  colon_mem_of_pton6 : ∀ text bytes, inet.pton6 text = some bytes → 0x3A ∈ text

/-- A text that denotes one address: a dotted quad, or a presentation form, with or without a
zone. -/
inductive IsAddressText : Text → IpAddress → Prop
  | ipv4 {text : Text} {word : UInt32} (h : inetPton4 text = some word) :
    IsAddressText text (.fromIpv4 word)
  | ipv6 {text : Text} {bytes : Bytes16} (h : inet.pton6 text = some bytes) :
    IsAddressText text (.fromIpv6 bytes)
  | zoned {text zone : Text} {bytes : Bytes16} (h : inet.pton6 text = some bytes)
    (htoken : validScopeToken zone) (hnumeric : validNumericScope zone) :
    IsAddressText (text ++ 0x25 :: zone) { IpAddress.fromIpv6 bytes with scope := some zone }

/-- An address together with a text for it. -/
structure AddressText where
  text : Text
  address : IpAddress
  isAddressText : IsAddressText inet text address

variable {inet}

theorem isDigit_or_dot_of_inetPton4 (h : inetPton4 text = some word) :
    ∀ c ∈ text, isDigit c = true ∨ c = 0x2E := by
  intro c hc
  by_contra hnot
  obtain ⟨hdigit, hdot⟩ := not_or.mp hnot
  rw [inetPton4_eq_none hc (by simpa using hdigit) hdot] at h
  exact absurd h (by simp)

/-- Zones and presentation forms: printable, and none of the separators of a list. -/
def isTokenChar (c : UInt8) : Bool := 0x21 ≤ c && c ≤ 0x7E && c ≠ 0x2C && c ≠ 0x2F

theorem isTokenChar_of_isDigit_or_dot (h : isDigit c = true ∨ c = 0x2E) :
    isTokenChar c = true ∧ c ≠ 0x2D ∧ c ≠ 0x25 ∧ c ≠ 0x3A := by
  simp only [isTokenChar, isDigit, Bool.and_eq_true, decide_eq_true_eq, UInt8.le_iff_toNat_le,
    ne_eq, ← UInt8.toNat_inj, UInt8.reduceToNat] at h ⊢
  omega

theorem isTokenChar_of_isPresentation (h : isPresentation c = true) :
    isTokenChar c = true ∧ c ≠ 0x2D ∧ c ≠ 0x25 ∧ c ≠ 0 := by
  simp only [isTokenChar, isPresentation, isDigit, Bool.and_eq_true, Bool.or_eq_true,
    decide_eq_true_eq, UInt8.le_iff_toNat_le, ne_eq, ← UInt8.toNat_inj, UInt8.reduceToNat] at h ⊢
  omega

theorem isBlank_of_isTokenChar (h : isTokenChar c = true) :
    isBlank c = false ∧ c ≠ 0x2C ∧ c ≠ 0x2F := by
  simp only [isTokenChar, isBlank, Bool.and_eq_true, Bool.or_eq_false_iff, decide_eq_true_eq,
    decide_eq_false_iff_not, UInt8.le_iff_toNat_le, ne_eq, ← UInt8.toNat_inj,
    UInt8.reduceToNat] at h ⊢
  omega

theorem isTokenChar_of_validScopeToken {zone : Text} (h : validScopeToken zone = true) :
    ∀ c ∈ zone, isTokenChar c = true ∧ c ≠ 0x25 := by
  intro c hc
  rw [validScopeToken, Bool.and_eq_true, Bool.and_eq_true] at h
  have hall := List.all_eq_true.mp h.2 c hc
  simp only [Bool.and_eq_true, decide_eq_true_eq] at hall
  simp only [isTokenChar, Bool.and_eq_true, decide_eq_true_eq]
  tauto

/-- Searching a character that does not occur. -/
theorem span_of_notMem (h : x ∉ text) : text.span (· ≠ x) = (text, []) := by
  have hall : ∀ c ∈ text, (decide (c ≠ x)) = true := fun c hc ↦
    decide_eq_true fun heq ↦ h (heq ▸ hc)
  rw [List.span_eq_takeWhile_dropWhile, List.takeWhile_eq_self_iff.mpr hall,
    List.dropWhile_eq_nil_iff.mpr hall]

/-- Searching a character finds the first one. -/
theorem span_append_cons (h : x ∉ text) (rest : Text) :
    (text ++ x :: rest).span (· ≠ x) = (text, x :: rest) := by
  have hall : ∀ c ∈ text, (decide (c ≠ x)) = true := fun c hc ↦
    decide_eq_true fun heq ↦ h (heq ▸ hc)
  rw [List.span_eq_takeWhile_dropWhile, List.takeWhile_append_of_pos hall,
    List.dropWhile_append_of_pos hall, List.takeWhile_cons_of_neg (by simp),
    List.dropWhile_cons_of_neg (by simp), List.append_nil]

theorem cStr_eq_self (h : 0 ∉ text) : cStr text = text := by
  rw [cStr]
  exact List.takeWhile_eq_self_iff.mpr fun c hc ↦ decide_eq_true fun heq ↦ h (heq ▸ hc)

section

variable (form : PresentationForm inet) (h : inet.pton6 text = some bytes)

include form h

theorem PresentationForm.separators : 0x25 ∉ text ∧ 0x2D ∉ text ∧ 0 ∉ text := by
  have hchar (c : UInt8) (hc : c ∈ text) :=
    isTokenChar_of_isPresentation (form.isPresentation_of_pton6 text bytes h c hc)
  exact ⟨fun hc ↦ (hchar _ hc).2.2.1 rfl, fun hc ↦ (hchar _ hc).2.1 rfl,
    fun hc ↦ (hchar _ hc).2.2.2 rfl⟩

theorem PresentationForm.ne_nil : text ≠ [] :=
  List.ne_nil_of_mem (form.colon_mem_of_pton6 text bytes h)

theorem PresentationForm.inetPton4_eq_none : inetPton4 text = none :=
  Core.inetPton4_eq_none (c := 0x3A) (form.colon_mem_of_pton6 text bytes h) (by decide) (by decide)

end

theorem ne_nil_of_inetPton4 (h : inetPton4 text = some word) : text ≠ [] := by
  rintro rfl
  simp [inetPton4, inetPton4Loop] at h

section

variable (form : PresentationForm inet) (h : IsAddressText inet text address)

include form h

/-- The parser of addresses reads every address text. -/
theorem IsAddressText.parseIpAddress_eq : parseIpAddress inet text = some address := by
  cases h with
  | ipv4 h =>
    rename_i word
    have hchar (c : UInt8) (hc : c ∈ text) :=
      isTokenChar_of_isDigit_or_dot (isDigit_or_dot_of_inetPton4 h c hc)
    have hpercent : 0x25 ∉ text := fun hc ↦ (hchar _ hc).2.2.1 rfl
    have hnul : 0 ∉ text := fun hc ↦ absurd (hchar _ hc).1 (by decide)
    rw [parseIpAddress, span_of_notMem hpercent]
    simp [ne_nil_of_inetPton4 h, cStr_eq_self hnul, h]
  | ipv6 h =>
    obtain ⟨hpercent, -, hnul⟩ := form.separators h
    rw [parseIpAddress, span_of_notMem hpercent]
    simp [form.ne_nil h, cStr_eq_self hnul, h, form.inetPton4_eq_none h]
  | zoned h htoken hnumeric =>
    rename_i address zone bytes
    obtain ⟨hpercent, -, hnul⟩ := form.separators h
    have hzone : 0x25 ∉ zone := fun hc ↦ (isTokenChar_of_validScopeToken htoken _ hc).2 rfl
    rw [parseIpAddress, span_append_cons hpercent]
    simp [form.ne_nil h, cStr_eq_self hnul, h, hzone, htoken, hnumeric]

theorem IsAddressText.ne_nil : text ≠ [] := by
  cases h with
  | ipv4 h => exact ne_nil_of_inetPton4 h
  | ipv6 h => exact form.ne_nil h
  | zoned h => simp

theorem IsAddressText.isTokenChar : ∀ c ∈ text, isTokenChar c := by
  intro c hc
  cases h with
  | ipv4 h => exact (isTokenChar_of_isDigit_or_dot (isDigit_or_dot_of_inetPton4 h c hc)).1
  | ipv6 h =>
    exact (isTokenChar_of_isPresentation (form.isPresentation_of_pton6 _ _ h c hc)).1
  | zoned h htoken hnumeric =>
    rcases List.mem_append.mp hc with hc | hc
    · exact (isTokenChar_of_isPresentation (form.isPresentation_of_pton6 _ _ h c hc)).1
    · rcases List.mem_cons.mp hc with rfl | hc
      · decide
      · exact (isTokenChar_of_validScopeToken htoken c hc).1

/-- A dash in an address text is a dash in its zone. -/
theorem IsAddressText.dash_notMem (hzone : ∀ zone ∈ address.scope, 0x2D ∉ zone) : 0x2D ∉ text := by
  cases h with
  | ipv4 h =>
    exact fun hc ↦ (isTokenChar_of_isDigit_or_dot (isDigit_or_dot_of_inetPton4 h _ hc)).2.1 rfl
  | ipv6 h => exact (form.separators h).2.1
  | zoned h htoken hnumeric =>
    intro hc
    rcases List.mem_append.mp hc with hc | hc
    · exact (form.separators h).2.1 hc
    · rcases List.mem_cons.mp hc with heq | hc
      · exact absurd heq (by decide)
      · exact hzone _ rfl hc

end

theorem IsAddressText.canonical (h : IsAddressText inet text address) : address.Canonical := by
  cases h with
  | ipv4 h => exact IpAddress.canonical_fromIpv4 _
  | ipv6 h => exact .inl rfl
  | zoned h => exact .inl rfl

/-! ### Digit strings -/

theorem decimalValue_concat (text : Text) (c : UInt8) :
    decimalValue (text ++ [c]) = decimalValue text * 10 + (c.toNat - 0x30) := by
  rw [decimalValue, List.foldl_append]
  rfl

theorem fromCharsWhole_eq (hne : text ≠ []) (hdigits : text.all isDigit)
    (hfits : decimalValue text < 2 ^ 32) : fromCharsWhole text = some (decimalValue text) := by
  have hempty : text.isEmpty = false := by simpa using hne
  rw [fromCharsWhole, hempty, hdigits, if_neg (by decide), fromChars32, if_pos hfits,
    Option.map_some, UInt32.toNat_ofNat_of_lt' hfits]

/-- A component of a strict dotted quad. -/
structure OctetText (text : Text) : Prop where
  ne_nil : text ≠ []
  isDigit : text.all isDigit
  length_le : text.length ≤ 3
  value_le : decimalValue text ≤ 255

/-- `parse_ipv4`, which is lenient about leading zeros, reads such a component. -/
theorem OctetText.parseOctet_eq (h : OctetText text) :
    parseOctet text = some (UInt32.ofNat (decimalValue text)) := by
  have hempty : text.isEmpty = false := by simpa using h.ne_nil
  have hvalue := h.value_le
  have hread := fromCharsWhole_eq h.ne_nil h.isDigit (by omega)
  rw [parseOctet, hempty, hread, if_neg (by simpa using h.length_le)]
  exact if_neg (Nat.not_lt.mpr hvalue)

/-- A component `inet_pton` may be in the middle of: it has no leading zero. -/
structure PartialOctet (text : Text) : Prop extends OctetText text where
  le_value : decimalValue text ≠ 0 → 10 ^ (text.length - 1) ≤ decimalValue text

/-- Reading one more digit. -/
theorem PartialOctet.concat (hc : Core.isDigit c)
    (h : text = [] ∨ PartialOctet text ∧ decimalValue text ≠ 0)
    (hvalue : decimalValue text * 10 + (c.toNat - 0x30) ≤ 255) : PartialOctet (text ++ [c]) := by
  have hlength : text.length ≤ 2 ∧ (decimalValue (text ++ [c]) ≠ 0 →
      10 ^ text.length ≤ decimalValue (text ++ [c])) := by
    rw [decimalValue_concat]
    rcases h with rfl | ⟨h, hne⟩
    · simp
      omega
    · have hle := h.le_value hne
      have hpos : text.length ≠ 0 := by simpa using h.ne_nil
      have hpow : 10 ^ text.length = 10 ^ (text.length - 1) * 10 := by
        rw [← pow_succ, Nat.sub_add_cancel (by omega)]
      have hsmall : 10 ^ text.length < 10 ^ 3 := by omega
      have hlt := (Nat.pow_lt_pow_iff_right (by norm_num : 1 < 10)).mp hsmall
      exact ⟨by omega, fun _ ↦ by omega⟩
  refine ⟨⟨by simp, ?_, ?_, ?_⟩, ?_⟩
  · rw [List.all_append, Bool.and_eq_true]
    refine ⟨?_, by simpa using hc⟩
    rcases h with rfl | ⟨h, -⟩
    · rfl
    · exact h.isDigit
  · rw [List.length_append, List.length_singleton]
    omega
  · rwa [decimalValue_concat]
  · rw [List.length_append, List.length_singleton, Nat.add_sub_cancel]
    exact hlength.2

/-- The loop of `inet_pton` reads component by component: the one it is in has begun with `read`,
and what it returns are the values of all components. -/
theorem components_of_inetPton4Loop {octets : List ℕ} (read : Text) {result : List ℕ}
    (hoctets : octets.length ≤ 3) (hread : read = [] ∨ PartialOctet read)
    (h : inetPton4Loop octets (decimalValue read) (!read.isEmpty) text = some result) :
    ∃ first rest, text.splitOn 0x2E = first :: rest ∧
      (∀ component ∈ (read ++ first) :: rest, OctetText component) ∧
      result = octets.reverse ++ ((read ++ first) :: rest).map decimalValue := by
  induction text generalizing octets read with
  | nil =>
    rw [inetPton4Loop] at h
    split at h
    · exact absurd h (by simp)
    · next hcount =>
      have hne : read ≠ [] := by
        rintro rfl
        simp at hcount
        omega
      have hoctet : OctetText read := (hread.resolve_left hne).toOctetText
      refine ⟨[], [], List.splitOn_nil _, ?_, ?_⟩
      · simpa using hoctet
      · simpa using (Option.some.inj h).symm
  | cons c text ih =>
    rw [inetPton4Loop] at h
    split at h
    · next hdigit =>
      split at h
      · exact absurd h (by simp)
      next hlead =>
      split at h
      · exact absurd h (by simp)
      next hvalue =>
      split at h
      · exact absurd h (by simp)
      have hdot : (c == 0x2E) = false := by
        refine beq_false_of_ne ?_
        rintro rfl
        exact absurd hdigit (by decide)
      have hpartial : PartialOctet (read ++ [c]) := by
        refine PartialOctet.concat hdigit ?_ (Nat.not_lt.mp hvalue)
        rcases hread with hnil | hread
        · exact .inl hnil
        · refine .inr ⟨hread, fun hzero ↦ hlead ?_⟩
          simp [hzero, hread.ne_nil]
      rw [← decimalValue_concat, show true = !(read ++ [c]).isEmpty by simp] at h
      obtain ⟨first, rest, hsplit, hall, hresult⟩ := ih _ hoctets (.inr hpartial) h
      refine ⟨c :: first, rest, ?_, ?_, ?_⟩
      · rw [List.splitOn_cons_eq_if_modifyHead, hdot, hsplit]
        rfl
      · simpa using hall
      · simpa using hresult
    · split at h
      · next hdot =>
        split at h
        · exact absurd h (by simp)
        next hroom =>
        rw [Bool.and_eq_true, decide_eq_true_eq] at hdot
        have hne : read ≠ [] := by simpa using hdot.2
        have hoctet : OctetText read := (hread.resolve_left hne).toOctetText
        have hlength : (decimalValue read :: octets).length ≤ 3 := by
          rw [List.length_cons]
          omega
        obtain ⟨first, rest, hsplit, hall, hresult⟩ := ih [] hlength (.inl rfl) h
        refine ⟨[], first :: rest, ?_, ?_, ?_⟩
        · rw [hdot.1, List.splitOn_cons_eq_if_modifyHead, if_pos (by decide), hsplit]
        · rw [List.append_nil]
          exact List.forall_mem_cons.mpr ⟨hoctet, hall⟩
        · simpa using hresult
      · exact absurd h (by simp)

theorem toNat_shiftLeft_or_octet (word : UInt32) {n : ℕ} (hword : word.toNat < 2 ^ 24)
    (hn : n ≤ 255) : (word <<< 8 ||| UInt32.ofNat n).toNat = word.toNat * 256 + n := by
  have hshift : (word <<< 8).toNat = word.toNat <<< 8 := by
    simp [Nat.shiftLeft_eq]
    omega
  have hsmall : (UInt32.ofNat n).toNat = n :=
    UInt32.toNat_ofNat_of_lt' (show n < 2 ^ 32 by omega)
  rw [UInt32.toNat_or, hshift, hsmall, ← Nat.shiftLeft_add_eq_or_of_lt (show n < 2 ^ 8 by omega),
    Nat.shiftLeft_eq]

/-- Joining four octets one after the other is joining them at once. -/
theorem joinOctets_eq {a b c d : ℕ} (ha : a ≤ 255) (hb : b ≤ 255) (hc : c ≤ 255) (hd : d ≤ 255) :
    ((UInt32.ofNat a <<< 8 ||| UInt32.ofNat b) <<< 8 ||| UInt32.ofNat c) <<< 8 ||| UInt32.ofNat d =
      BigEndian.u32OfBytes (UInt8.ofNat a) (UInt8.ofNat b) (UInt8.ofNat c) (UInt8.ofNat d) := by
  have hsmall : (UInt32.ofNat a).toNat = a :=
    UInt32.toNat_ofNat_of_lt' (show a < 2 ^ 32 by omega)
  have h₁ := toNat_shiftLeft_or_octet (UInt32.ofNat a) (by omega) hb
  have h₂ := toNat_shiftLeft_or_octet (UInt32.ofNat a <<< 8 ||| UInt32.ofNat b) (by omega) hc
  have h₃ := toNat_shiftLeft_or_octet
    ((UInt32.ofNat a <<< 8 ||| UInt32.ofNat b) <<< 8 ||| UInt32.ofNat c) (by omega) hd
  apply UInt32.toNat_inj.mp
  rw [h₃, h₂, h₁, hsmall, BigEndian.toNat_u32OfBytes]
  simp only [UInt8.toNat_ofNat']
  omega

/-- What `inet_pton(AF_INET, …)` accepts, `parse_ipv4` reads as the same word. -/
theorem parseIpv4_of_inetPton4 (h : inetPton4 text = some word) : parseIpv4 text = some word := by
  rw [inetPton4] at h
  split at h
  · next a b c d hloop =>
    obtain ⟨first, rest, hsplit, hall, hresult⟩ :=
      components_of_inetPton4Loop [] (by simp) (.inl rfl) hloop
    rw [List.nil_append] at hall hresult
    rw [List.reverse_nil, List.nil_append] at hresult
    have hparsed : (text.splitOn 0x2E).map parseOctet =
        [a, b, c, d].map fun n ↦ some (UInt32.ofNat n) := by
      rw [hsplit, hresult, List.map_map]
      exact List.map_congr_left fun component hc ↦ (hall component hc).parseOctet_eq
    have hvalue (n : ℕ) (hn : n ∈ [a, b, c, d]) : n ≤ 255 := by
      rw [hresult] at hn
      obtain ⟨component, hc, rfl⟩ := List.mem_map.mp hn
      exact (hall component hc).value_le
    rw [parseIpv4, hparsed]
    simp only [List.map_cons, List.map_nil]
    rw [joinOctets_eq (hvalue a (by simp)) (hvalue b (by simp)) (hvalue c (by simp))
      (hvalue d (by simp))]
    exact h
  · exact absurd h (by simp)

/-- A character other than the separator is in one of the pieces. -/
theorem exists_mem_splitOn (hne : c ≠ a) (hc : c ∈ text) : ∃ piece ∈ text.splitOn a, c ∈ piece := by
  induction text with
  | nil => simp at hc
  | cons x text ih =>
    rw [List.splitOn_cons_eq_if_modifyHead]
    obtain ⟨head, tail, hsplit⟩ := List.exists_cons_of_ne_nil (List.splitOn_ne_nil a text)
    rw [hsplit] at ih ⊢
    split
    · next hx =>
      have hxa : x = a := by simpa using hx
      have hmem : c ∈ text := (List.mem_cons.mp hc).resolve_left fun h ↦ hne (h.trans hxa)
      obtain ⟨piece, hpiece, hcp⟩ := ih hmem
      exact ⟨piece, List.mem_cons_of_mem _ hpiece, hcp⟩
    · rw [List.modifyHead_cons]
      rcases List.mem_cons.mp hc with rfl | hmem
      · exact ⟨c :: head, by simp, by simp⟩
      · obtain ⟨piece, hpiece, hcp⟩ := ih hmem
        rcases List.mem_cons.mp hpiece with rfl | htail
        · exact ⟨x :: piece, by simp, List.mem_cons_of_mem _ hcp⟩
        · exact ⟨piece, List.mem_cons_of_mem _ htail, hcp⟩

theorem parseOctet_eq_none (hc : c ∈ text) (hdigit : isDigit c = false) :
    parseOctet text = none := by
  have hall : text.all isDigit = false := by
    rw [List.all_eq_false]
    exact ⟨c, hc, by simp [hdigit]⟩
  rw [parseOctet, fromCharsWhole, hall]
  simp

/-- A text with a character that is neither a digit nor a dot is none for `parse_ipv4`. -/
theorem parseIpv4_eq_none (hc : c ∈ text) (hdigit : isDigit c = false) (hdot : c ≠ 0x2E) :
    parseIpv4 text = none := by
  obtain ⟨piece, hpiece, hcp⟩ := exists_mem_splitOn hdot hc
  have hnone : none ∈ (text.splitOn 0x2E).map parseOctet :=
    List.mem_map.mpr ⟨piece, hpiece, parseOctet_eq_none hcp hdigit⟩
  rw [parseIpv4]
  split
  · next h =>
    rw [h] at hnone
    simp at hnone
  · rfl

theorem looksLikeIpv4_eq_false (hc : c ∈ text) (hdigit : isDigit c = false) (hdot : c ≠ 0x2E) :
    looksLikeIpv4 text = false := by
  have hall : (text.all fun c ↦ c = 0x2E || isDigit c) = false := by
    rw [List.all_eq_false]
    exact ⟨c, hc, by simp [hdigit, hdot]⟩
  rw [looksLikeIpv4, hall, Bool.false_and, Bool.false_and]

end Skan.Target
