import Skan.Detect.ProtocolParsers
import Skan.Detect.TlsReader

/-!
# Elements of DER, and a reader without faults

`der_next` reads exactly the elements that lie within its input: a tag, a definite length of at most
eight length bytes and as many bytes as that says (`ElementAt`, `ensures_derNext`).

Nothing of what is built on it comes to a fault (`ensures_parseTlsMetadata` and the theorems before
it): no byte outside of the input is accessed, and every loop ends.

## Why the lengths do not overflow

A length in the long form is given up as soon as it exceeds a 256th of the input, before the next
byte is taken in, so what it comes to fits into 64 bits, and a length that the input has room for is
never given up (`ensures_derLength`). An element takes at least two bytes, so the loops over
elements, over the extensions and names of a hello, and over records and messages all advance.
-/

namespace Skan.Detect.Tls

open Skan.Core Loops

variable {bytes rest input encoded tbs : Text} {offset length : ℕ} {b : UInt8}

/-! ### Words and accesses -/

theorem add64_of_lt {a b : ℕ} (h : a + b < 2 ^ 64) : add64 a b = a + b := Nat.mod_eq_of_lt h

theorem sub64_of_le {a b : ℕ} (h : b ≤ a) (ha : a < 2 ^ 64) : sub64 a b = a - b := by
  unfold sub64
  omega

section

variable (h : bytes.drop offset = b :: rest)

include h

theorem length_of_drop : offset < bytes.length := by
  have hlength := congrArg List.length h
  rw [List.length_drop, List.length_cons] at hlength
  omega

theorem drop_succ_of_drop : bytes.drop (offset + 1) = rest := by
  rw [← List.tail_drop, h, List.tail_cons]

theorem byteAt_of_drop : byteAt bytes offset = .ok b := by
  have hget : bytes[offset]? = some b := by
    rw [← List.head?_drop, h, List.head?_cons]
  unfold byteAt
  rw [hget]
  rfl

end

theorem ensures_byteAt (h : offset < bytes.length) : Ensures (byteAt bytes offset) fun _ ↦ True :=
  ⟨bytes[offset], byteAt_of_drop (List.drop_eq_getElem_cons h), trivial⟩

theorem ensures_subspan (h : offset + length ≤ bytes.length) :
    Ensures (subspan bytes offset length) fun part ↦
      part = (bytes.drop offset).take length ∧ part.length = length := by
  refine ⟨(bytes.drop offset).take length, if_pos h, rfl, ?_⟩
  rw [List.length_take, List.length_drop]
  omega

theorem ensures_readU16 (h : offset + 1 < bytes.length) (hsize : bytes.length < 2 ^ 63) :
    Ensures (readU16 bytes offset) (· < 65536) := by
  unfold readU16
  refine (ensures_byteAt (Nat.lt_of_succ_lt h)).bind fun high _ ↦ ?_
  rw [add64_of_lt (by omega)]
  refine (ensures_byteAt h).bind fun low _ ↦ ensures_pure ?_
  have hhigh := high.toNat_lt
  have hlow := low.toNat_lt
  omega

theorem ensures_readU24 (h : offset + 2 < bytes.length) (hsize : bytes.length < 2 ^ 63) :
    Ensures (readU24 bytes offset) (· < 16777216) := by
  unfold readU24
  refine (ensures_byteAt (by omega)).bind fun high _ ↦ ?_
  rw [add64_of_lt (by omega), add64_of_lt (by omega)]
  refine (ensures_byteAt (by omega)).bind fun middle _ ↦ ?_
  refine (ensures_byteAt h).bind fun low _ ↦ ensures_pure ?_
  have hhigh := high.toNat_lt
  have hmiddle := middle.toNat_lt
  have hlow := low.toNat_lt
  omega

/-! ### Elements -/

/-- The bytes of a definite length: one below 128, or the number of the length bytes, of which there
are at most eight, and these. -/
inductive DefiniteLength : Text → ℕ → Prop where
  | short {b : UInt8} : b < 0x80 → DefiniteLength [b] b.toNat
  | long {bytes : Text} : 1 ≤ bytes.length → bytes.length ≤ 8 →
    DefiniteLength (UInt8.ofNat (0x80 + bytes.length) :: bytes) (BigEndian.value bytes)

theorem DefiniteLength.length_pos {lengthBytes : Text} (h : DefiniteLength lengthBytes length) :
    0 < lengthBytes.length := by
  cases h <;> exact Nat.zero_lt_succ _

/-- At the offset there is an element, all of it within the input, and the next offset is past
it. -/
def ElementAt (input : Text) (offset : ℕ) (element : DerValue) (next : ℕ) : Prop :=
  ∃ lengthBytes rest, DefiniteLength lengthBytes element.value.length ∧
    input.drop offset = element.tag :: (lengthBytes ++ (element.value ++ rest)) ∧
    next = offset + (1 + lengthBytes.length + element.value.length)

/-- The length bytes are read as the number they are, unless it is larger than the input. -/
theorem ensures_derLength {digits : Text} (hsize : input.length < 2 ^ 63)
    (h : input.drop offset = digits ++ rest) :
    let total := length * 256 ^ digits.length + BigEndian.value digits
    Ensures (derLength input digits.length offset length) fun found ↦
      (∀ next value, found = some (next, value) → next = offset + digits.length ∧ value = total) ∧
      (total ≤ input.length → found.isSome = true) := by
  induction digits generalizing offset length with
  | nil =>
    refine ensures_pure ⟨?_, fun _ ↦ rfl⟩
    intro next value hfound
    cases hfound
    exact ⟨rfl, by simp⟩
  | cons byte digits ih =>
    intro total
    have htotal : total = (length * 256 + byte.toNat) * 256 ^ digits.length +
        BigEndian.value digits := by
      show length * 256 ^ (digits.length + 1) + BigEndian.value (byte :: digits) = _
      rw [BigEndian.value_cons]
      ring
    have hlt : offset < input.length := length_of_drop h
    unfold derLength
    refine ensures_ite (fun hgiven ↦ ensures_pure ⟨nofun, fun hle ↦ ?_⟩) fun hroom ↦ ?_
    · -- given up: what has been read times 256 exceeds the input, and the rest only adds to it
      have hpow : 1 ≤ 256 ^ digits.length := Nat.one_le_pow _ _ (by decide)
      have hmul : (length * 256 + byte.toNat) * 1 ≤
          (length * 256 + byte.toNat) * 256 ^ digits.length := Nat.mul_le_mul_left _ hpow
      omega
    · have hbyte := byte.toNat_lt
      have hword : length * 256 % 2 ^ 64 + byte.toNat = length * 256 + byte.toNat := by omega
      have hnext : input.drop (offset + 1) = digits ++ rest := drop_succ_of_drop h
      rw [byteAt_of_drop h, add64_of_lt (by omega)]
      show Ensures (derLength input digits.length (offset + 1) _) _
      rw [hword]
      refine (ih hnext).mono fun found hfound ↦ ⟨?_, fun hle ↦ hfound.2 (htotal ▸ hle)⟩
      intro next value heq
      obtain ⟨rfl, rfl⟩ := hfound.1 next value heq
      exact ⟨by rw [List.length_cons]; omega, htotal.symm⟩

theorem and_high_eq_zero (b : UInt8) : b &&& 0x80 = 0 ↔ b < 0x80 :=
  forall_byte (p := fun b ↦ b &&& 0x80 = 0 ↔ b < 0x80) (by decide +kernel) b

theorem toNat_and_low (b : UInt8) : (b &&& 0x7F).toNat = b.toNat % 128 :=
  forall_byte (p := fun b ↦ (b &&& 0x7F).toNat = b.toNat % 128) (by decide +kernel) b

/-- The first byte of a length in the long form. -/
theorem toNat_long {count : ℕ} (h : count ≤ 8) :
    (UInt8.ofNat (0x80 + count)).toNat = 0x80 + count :=
  UInt8.toNat_ofNat_of_lt' (show 0x80 + count < 256 by omega)

/-- A text begins with one definite length at most. -/
theorem DefiniteLength.unique {lengthBytes lengthBytes' rest' : Text} {length' : ℕ}
    (h : DefiniteLength lengthBytes length) (h' : DefiniteLength lengthBytes' length')
    (heq : lengthBytes ++ rest = lengthBytes' ++ rest') :
    lengthBytes = lengthBytes' ∧ length = length' := by
  have hne : ∀ {b : UInt8} {count : ℕ}, b < 0x80 → count ≤ 8 → b ≠ UInt8.ofNat (0x80 + count) := by
    rintro b count hb hcount rfl
    rw [UInt8.lt_iff_toNat_lt, toNat_long hcount] at hb
    exact absurd hb (Nat.not_lt.mpr (Nat.le_add_right _ _))
  cases h with
  | @short b hb =>
    cases h' with
    | @short b' hb' =>
      obtain ⟨rfl, -⟩ := List.cons.inj heq
      exact ⟨rfl, rfl⟩
    | @long bytes' _ height' => exact absurd (List.cons.inj heq).1 (hne hb height')
  | @long bytes _ height =>
    cases h' with
    | @short b' hb' => exact absurd (List.cons.inj heq).1.symm (hne hb' height)
    | @long bytes' _ height' =>
      obtain ⟨hfirst, hrest⟩ := List.cons.inj heq
      have hcount : bytes.length = bytes'.length := by
        rw [← UInt8.toNat_inj, toNat_long height, toNat_long height'] at hfirst
        exact Nat.add_left_cancel hfirst
      obtain ⟨rfl, -⟩ := List.append_inj hrest hcount
      exact ⟨rfl, rfl⟩

/-- Of a definite length the reader gets the number, if the input has room for as much. -/
theorem ensures_announcedLength {first : UInt8} (hsize : input.length < 2 ^ 63)
    (h : input.drop offset = rest) (hle : offset ≤ input.length) :
    Ensures (announcedLength input offset first) fun announced ↦
      (∀ next length, announced = some (next, length) → ∃ lengthBytes rest',
        DefiniteLength lengthBytes length ∧ first :: rest = lengthBytes ++ rest' ∧
        next + 1 = offset + lengthBytes.length) ∧
      ∀ lengthBytes rest' length, DefiniteLength lengthBytes length →
        first :: rest = lengthBytes ++ rest' → length ≤ input.length →
        announced.isSome = true := by
  have hfirst := first.toNat_lt
  have hrest : rest.length = input.length - offset := by rw [← h, List.length_drop]
  unfold announcedLength
  simp only [toNat_and_low]
  refine ensures_ite (fun hshort ↦ ensures_pure ⟨?_, fun _ _ _ _ _ _ ↦ rfl⟩) fun hlong ↦ ?_
  · intro next length heq
    cases heq
    exact ⟨[first], rest, .short ((and_high_eq_zero first).mp hshort), rfl, rfl⟩
  have hhigh : ¬ first < 0x80 := mt (and_high_eq_zero first).mpr hlong
  -- the length bytes are as many as the first byte says, and there
  have hlengthBytes : ∀ lengthBytes rest' length, DefiniteLength lengthBytes length →
      first :: rest = lengthBytes ++ rest' → ∃ bytes, lengthBytes = first :: bytes ∧
        rest = bytes ++ rest' ∧ length = BigEndian.value bytes ∧ 1 ≤ bytes.length ∧
        bytes.length ≤ 8 ∧ first.toNat % 128 = bytes.length := by
    intro lengthBytes rest' length hdefinite heq
    cases hdefinite with
    | @short b hb =>
      obtain ⟨rfl, -⟩ := List.cons.inj heq
      exact absurd hb hhigh
    | @long bytes hone height =>
      obtain ⟨rfl, hrest⟩ := List.cons.inj heq
      refine ⟨bytes, rfl, hrest, rfl, hone, height, ?_⟩
      rw [toNat_long height]
      omega
  refine ensures_ite (fun hbad ↦ ensures_pure ⟨nofun, ?_⟩) fun hgood ↦ ?_
  · intro lengthBytes rest' length hdefinite heq _
    obtain ⟨bytes, -, hbytes, -, hone, height, hcount⟩ :=
      hlengthBytes lengthBytes rest' length hdefinite heq
    have hroom : bytes.length ≤ rest.length := by
      rw [hbytes, List.length_append]
      omega
    rw [hcount, add64_of_lt (by omega)] at hbad
    simp only [Bool.or_eq_true, decide_eq_true_eq] at hbad
    omega
  · simp only [Bool.or_eq_true, decide_eq_true_eq, not_or] at hgood
    rw [add64_of_lt (by omega)] at hgood
    have hcount : (rest.take (first.toNat % 128)).length = first.toNat % 128 := by
      rw [List.length_take]
      omega
    have hsplit : input.drop offset =
        rest.take (first.toNat % 128) ++ rest.drop (first.toNat % 128) := by
      rw [h, List.take_append_drop]
    have hread : Ensures (derLength input _ offset 0) _ := ensures_derLength hsize hsplit
    rw [hcount, Nat.zero_mul, Nat.zero_add] at hread
    refine hread.mono fun announced hannounced ↦ ⟨?_, ?_⟩
    · intro next length heq
      obtain ⟨rfl, rfl⟩ := hannounced.1 next length heq
      have hfirst : first = UInt8.ofNat (0x80 + (rest.take (first.toNat % 128)).length) := by
        rw [← UInt8.toNat_inj, hcount, toNat_long (by omega)]
        have hge : 128 ≤ first.toNat := UInt8.le_iff_toNat_le.mp (UInt8.not_lt.mp hhigh)
        omega
      refine ⟨first :: rest.take (first.toNat % 128), rest.drop (first.toNat % 128), ?_, ?_, ?_⟩
      · have hdefinite := @DefiniteLength.long (rest.take (first.toNat % 128)) (by omega) (by omega)
        rwa [← hfirst] at hdefinite
      · rw [List.cons_append, List.take_append_drop]
      · rw [List.length_cons, hcount]
        omega
    · intro lengthBytes rest' length hdefinite heq hfits
      obtain ⟨bytes, -, hbytes, rfl, -, -, hlength⟩ :=
        hlengthBytes lengthBytes rest' length hdefinite heq
      refine hannounced.2 ?_
      rw [hlength, hbytes, List.take_left]
      exact hfits

/-- **`der_next` reads exactly the elements within its input**, and at an offset within the input it
does nothing else. -/
theorem ensures_derNext (hsize : input.length < 2 ^ 63) (hle : offset ≤ input.length) :
    Ensures (derNext input offset) fun found ↦
      ∀ element next, found = some (element, next) ↔ ElementAt input offset element next := by
  unfold derNext
  rw [add64_of_lt (by omega)]
  refine ensures_ite (fun hshort ↦ ensures_pure fun element next ↦ ?_) fun hroom ↦ ?_
  · -- no room for a tag and a length
    refine ⟨nofun, ?_⟩
    rintro ⟨lengthBytes, rest, hdefinite, hdrop, -⟩
    have hlength := congrArg List.length hdrop
    have hpos := hdefinite.length_pos
    simp only [List.length_drop, List.length_cons, List.length_append] at hlength
    omega
  obtain ⟨tag, rest, hdrop⟩ : ∃ tag rest, input.drop offset = tag :: rest :=
    ⟨_, _, List.drop_eq_getElem_cons (show offset < input.length by omega)⟩
  have hrest : input.drop (offset + 1) = rest := drop_succ_of_drop hdrop
  obtain ⟨first, rest, hdrop₁⟩ : ∃ first later, input.drop (offset + 1) = first :: later :=
    ⟨_, _, List.drop_eq_getElem_cons (show offset + 1 < input.length by omega)⟩
  have hdrop₂ : input.drop (offset + 1 + 1) = rest := drop_succ_of_drop hdrop₁
  rw [hdrop₁] at hrest
  subst hrest
  rw [byteAt_of_drop hdrop, add64_of_lt (by omega)]
  show Ensures (byteAt input (offset + 1) >>= _) _
  rw [byteAt_of_drop hdrop₁, add64_of_lt (by omega)]
  show Ensures (announcedLength input (offset + 1 + 1) first >>= _) _
  refine (ensures_announcedLength hsize hdrop₂ (by omega)).bind fun announced hannounced ↦ ?_
  have helement : ∀ element next, ElementAt input offset element next ↔
      element.tag = tag ∧ ∃ lengthBytes rest', DefiniteLength lengthBytes element.value.length ∧
        first :: rest = lengthBytes ++ (element.value ++ rest') ∧
        next = offset + (1 + lengthBytes.length + element.value.length) := by
    intro element next
    unfold ElementAt
    rw [hdrop]
    constructor
    · rintro ⟨lengthBytes, rest', hdefinite, heq, hnext⟩
      obtain ⟨htag, heq⟩ := List.cons.inj heq
      exact ⟨htag.symm, lengthBytes, rest', hdefinite, heq, hnext⟩
    · rintro ⟨rfl, lengthBytes, rest', hdefinite, heq, hnext⟩
      exact ⟨lengthBytes, rest', hdefinite, by rw [heq], hnext⟩
  have hlengths := congrArg List.length hdrop₁
  rw [List.length_drop] at hlengths
  cases announced with
  | none =>
    refine ensures_pure fun element next ↦ ⟨nofun, fun hat ↦ ?_⟩
    obtain ⟨-, lengthBytes, rest', hdefinite, heq, -⟩ := (helement element next).mp hat
    have hfits : element.value.length ≤ input.length := by
      have hlength := congrArg List.length (hdrop.trans (congrArg (tag :: ·) heq))
      simp only [List.length_drop, List.length_cons, List.length_append] at hlength
      omega
    exact nomatch hannounced.2 lengthBytes _ _ hdefinite heq hfits
  | some announced =>
    obtain ⟨start, length⟩ := announced
    obtain ⟨lengthBytes, later, hdefinite, heq, hstart⟩ := hannounced.1 start length rfl
    have hstart' : start = offset + (1 + lengthBytes.length) := by omega
    have hlater : input.drop start = later := by
      rw [hstart', ← List.drop_drop, hdrop, heq, Nat.add_comm, List.drop_succ_cons, List.drop_left]
    have hin : start ≤ input.length := by
      rw [heq, List.length_append] at hlengths
      omega
    have hlength : later.length = input.length - start := by rw [← hlater, List.length_drop]
    -- an element at the offset has this length, and its value comes next
    have hvalue : ∀ element next, ElementAt input offset element next → element.tag = tag ∧
        element.value.length = length ∧ element.value <+: later ∧ next = start + length := by
      intro element next hat
      obtain ⟨htag, lengthBytes', rest', hdefinite', heq', hnext⟩ := (helement element next).mp hat
      obtain ⟨rfl, hsame⟩ := hdefinite.unique hdefinite' (heq.symm.trans heq')
      have happend : later = element.value ++ rest' :=
        List.append_cancel_left (heq.symm.trans heq')
      refine ⟨htag, hsame.symm, happend ▸ List.prefix_append _ _, ?_⟩
      omega
    show Ensures (if sub64 input.length start < length then _ else _) _
    rw [sub64_of_le hin (by omega)]
    refine ensures_ite (fun hshort ↦ ensures_pure fun element next ↦ ⟨nofun, fun hat ↦ ?_⟩)
      fun hroom ↦ ?_
    · obtain ⟨-, hsame, hprefix, -⟩ := hvalue element next hat
      have hfits := hprefix.length_le
      omega
    · refine (ensures_subspan (by omega)).bind fun value hpart ↦ ensures_pure fun element next ↦ ?_
      obtain ⟨hpart, hpartLength⟩ := hpart
      rw [hlater] at hpart
      rw [add64_of_lt (by omega)]
      constructor
      · intro heq'
        cases heq'
        refine (helement _ _).mpr ⟨rfl, lengthBytes, later.drop length, ?_, ?_, ?_⟩
        · rw [hpartLength]
          exact hdefinite
        · rw [heq, hpart, List.take_append_drop]
        · rw [hpartLength]
          omega
      · intro hat
        obtain ⟨rfl, rfl, hprefix, rfl⟩ := hvalue element next hat
        rw [hpart, ← List.prefix_iff_eq_take.mp hprefix]

/-- Outside of the input it finds nothing. -/
theorem derNext_of_lt (hlt : input.length < offset) (found : DerValue × ℕ) :
    derNext input offset ≠ .ok (some found) := by
  unfold derNext
  intro h
  by_cases hwrap : offset + 2 < 2 ^ 64
  · rw [add64_of_lt hwrap, if_pos (by omega)] at h
    exact nomatch h
  · -- the check is passed, and the tag is not there
    have hnone : byteAt input offset = .error .outOfRange := by
      unfold byteAt
      rw [List.getElem?_eq_none hlt.le]
      rfl
    rw [hnone] at h
    split_ifs at h
    · exact nomatch h
    · exact nomatch h

theorem derNext_eq_some_iff {element : DerValue} {next : ℕ} (hsize : input.length < 2 ^ 63) :
    derNext input offset = .ok (some (element, next)) ↔ ElementAt input offset element next := by
  by_cases hle : offset ≤ input.length
  · obtain ⟨found, hfound, hiff⟩ := ensures_derNext hsize hle
    rw [hfound, ← hiff element next, Except.ok.injEq]
  · refine ⟨fun h ↦ absurd h (derNext_of_lt (Nat.not_le.mp hle) _), ?_⟩
    rintro ⟨lengthBytes, rest, -, hdrop, -⟩
    exact absurd (length_of_drop hdrop) (by omega)

/-! ### Nothing faults -/

/-- What a reader of one element leaves to the rest of the program. -/
def Advances (input : Text) (offset : ℕ) (found : Option (DerValue × ℕ)) : Prop :=
  ∀ element next, found = some (element, next) →
    offset < next ∧ next ≤ input.length ∧ element.value.length < 2 ^ 63

section

variable (hsize : input.length < 2 ^ 63)

include hsize

theorem ElementAt.advances {next : ℕ} {element : DerValue}
    (h : ElementAt input offset element next) :
    offset < next ∧ next ≤ input.length ∧ element.value.length < 2 ^ 63 := by
  obtain ⟨lengthBytes, rest, -, hdrop, rfl⟩ := h
  have hlength := congrArg List.length hdrop
  simp only [List.length_drop, List.length_cons, List.length_append] at hlength
  omega

theorem derNext_advances (hle : offset ≤ input.length) :
    Ensures (derNext input offset) (Advances input offset) :=
  (ensures_derNext hsize hle).mono fun _ hfound element next heq ↦
    ((hfound element next).mp heq).advances hsize

theorem derExpect_advances {tag : UInt8} (hle : offset ≤ input.length) :
    Ensures (derExpect tag input offset) (Advances input offset) := by
  refine (derNext_advances hsize hle).bind fun found hfound ↦ ensures_pure ?_
  intro element next heq
  exact hfound element next (Option.filter_eq_some_iff.mp heq).1

end

/-- The computation comes to some result. -/
abbrev Ends {α : Type} (x : Reads α) : Prop := Ensures x fun _ ↦ True

theorem ends_pure {α : Type} (a : α) : Ends (pure a) := ensures_pure trivial

section Rules

variable {α τ : Type} {p : α → Prop} {input : Text} {size offset : ℕ}

/-- An element is read, and what comes next ensures the same either way. -/
theorem ensures_of_advances {x : Reads (Option (DerValue × ℕ))}
    {f : Option (DerValue × ℕ) → Reads α} (hx : Ensures x (Advances input offset))
    (hnone : Ensures (f none) p)
    (hsome : ∀ element next, offset < next → next ≤ input.length →
      element.value.length < 2 ^ 63 → Ensures (f (some (element, next))) p) :
    Ensures (x >>= f) p := by
  refine hx.bind fun found hfound ↦ ?_
  cases found with
  | none => exact hnone
  | some found =>
    obtain ⟨hlt, hle, hvalue⟩ := hfound found.1 found.2 rfl
    exact hsome found.1 found.2 hlt hle hvalue

/-- A round of a loop leaves it, or goes on at a later offset within the input. -/
def Moves (size offset : ℕ) : (ℕ × τ) ⊕ α → Prop
  | .inl (next, _) => offset < next ∧ next ≤ size
  | .inr _ => True

/-- A loop whose rounds all move on ends. -/
theorem ends_loop {step : ℕ × τ → Reads ((ℕ × τ) ⊕ α)}
    (hstep : ∀ offset s, offset ≤ size → Ensures (step (offset, s)) (Moves size offset)) {s : τ}
    (hoffset : offset ≤ size) : Ends (loop .endless step (size + 1) (offset, s)) := by
  refine loop_ensures (fun state ↦ state.1 ≤ size) (fun state ↦ size - state.1) ?_ hoffset ?_
  · rintro ⟨offset, s⟩ hle
    refine (hstep offset s hle).mono fun next hnext ↦ ?_
    cases next with
    | inl next =>
      obtain ⟨hlt, hnext⟩ : offset < next.1 ∧ next.1 ≤ size := hnext
      exact ⟨hnext, show size - next.1 < size - offset by omega⟩
    | inr a => trivial
  · exact Nat.lt_succ_of_le (Nat.sub_le _ _)

end Rules

theorem ends_oidText {oid : Text} (hsize : oid.length < 2 ^ 63) : Ends (oidText oid) := by
  unfold oidText
  refine ensures_ite (fun _ ↦ ends_pure []) fun hne ↦ ?_
  have hpos := List.length_pos_iff.mpr hne
  refine (ensures_byteAt hpos).bind fun first _ ↦ ends_loop ?_ hpos
  rintro index ⟨component, output⟩ -
  refine ensures_ite (fun _ ↦ ensures_pure trivial) fun hlt ↦ ?_
  refine ensures_ite (fun _ ↦ ensures_pure trivial) fun _ ↦ ?_
  refine (ensures_byteAt (Nat.not_le.mp hlt)).bind fun byte _ ↦ ?_
  rw [add64_of_lt (by omega)]
  refine ensures_ite (fun _ ↦ ensures_pure ?_) fun _ ↦ ensures_pure ?_
  · exact ⟨Nat.lt_succ_self _, Nat.not_le.mp hlt⟩
  · exact ⟨Nat.lt_succ_self _, Nat.not_le.mp hlt⟩

theorem ends_asn1Text {value : DerValue} (hsize : value.value.length < 2 ^ 63) :
    Ends (asn1Text value) := by
  unfold asn1Text
  refine ensures_ite (fun _ ↦ ends_pure []) fun _ ↦ ?_
  refine ensures_ite (fun _ ↦ ends_loop ?_ (Nat.zero_le _)) fun _ ↦ ?_
  · intro index output hle
    unfold bmpStep
    dsimp only
    rw [add64_of_lt (by omega)]
    refine ensures_ite (fun _ ↦ ensures_pure trivial) fun hlt ↦ ?_
    rw [Nat.not_le] at hlt
    refine (ensures_byteAt (Nat.lt_of_succ_lt hlt)).bind fun high _ ↦ ?_
    refine (ensures_byteAt hlt).bind fun low _ ↦ ?_
    refine ensures_ite (fun _ ↦ ensures_pure trivial) fun _ ↦ ensures_pure ?_
    rw [add64_of_lt (by omega)]
    exact ⟨Nat.lt_add_of_pos_right (by decide), hlt⟩
  · exact ensures_ite (fun _ ↦ ends_pure _) fun _ ↦ ends_pure []

/-- The loop over the attributes ends. -/
theorem ends_parseName (hsize : encoded.length < 2 ^ 63) : Ends (parseName encoded) := by
  unfold parseName
  refine ensures_of_advances (derExpect_advances hsize (Nat.zero_le _)) (ends_pure []) ?_
  intro sequence offset _ _ hsequence
  refine ensures_ite (fun _ ↦ ends_pure []) fun _ ↦ ends_loop ?_ (Nat.zero_le _)
  intro setOffset output hle
  refine ensures_ite (fun _ ↦ ensures_pure trivial) fun _ ↦ ?_
  refine ensures_of_advances (derExpect_advances hsequence hle) (ensures_pure trivial) ?_
  intro set next hlt hnext hset
  refine ensures_of_advances (derExpect_advances hset (Nat.zero_le _)) (ensures_pure trivial) ?_
  intro pair _ _ _ hpair
  refine ensures_of_advances (derExpect_advances hpair (Nat.zero_le _)) (ensures_pure trivial) ?_
  intro oid attributeOffset _ hattribute hoid
  refine ensures_of_advances (derNext_advances hpair hattribute) (ensures_pure trivial) ?_
  intro text _ _ _ htext
  refine (ends_oidText hoid).bind fun name _ ↦ ?_
  refine (ends_asn1Text htext).bind fun decoded _ ↦ ?_
  -- whatever the output is, the next set is further on
  have hmoves : ∀ output : Text, Moves (α := Text) sequence.value.length setOffset
    (.inl (next, output)) := fun _ ↦ ⟨hlt, hnext⟩
  cases attributeLabel name with
  | none => exact ensures_pure (hmoves output)
  | some label =>
    refine ensures_ite (fun _ ↦ ensures_pure (hmoves _)) fun _ ↦ ?_
    exact ensures_ite (fun _ ↦ ensures_pure trivial) fun _ ↦ ensures_pure (hmoves _)

/-! ### Certificates -/

theorem ends_parseSanExtension (hsize : encoded.length < 2 ^ 63) (metadata : TlsMetadata) :
    Ends (parseSanExtension encoded metadata) := by
  unfold parseSanExtension
  refine ensures_of_advances (derExpect_advances hsize (Nat.zero_le _)) (ends_pure metadata) ?_
  intro names _ _ _ hnames
  refine ends_loop ?_ (Nat.zero_le _)
  intro nameOffset metadata hle
  refine ensures_ite (fun _ ↦ ensures_pure trivial) fun _ ↦ ?_
  refine ensures_of_advances (derNext_advances hnames hle) (ensures_pure trivial) ?_
  intro name next hlt hnext _
  exact ensures_ite (fun _ ↦ ensures_pure ⟨hlt, hnext⟩) fun _ ↦ ensures_pure ⟨hlt, hnext⟩

theorem ensures_extensionValue {extension : Text} {fieldOffset : ℕ}
    (hsize : extension.length < 2 ^ 63) (hle : fieldOffset ≤ extension.length) :
    Ensures (extensionValue extension fieldOffset) fun found ↦
      ∀ value, found = some value → value.value.length < 2 ^ 63 := by
  unfold extensionValue
  refine ensures_of_advances (derNext_advances hsize hle) (ensures_pure nofun) ?_
  intro value next _ hnext hvalue
  refine ensures_ite (fun _ ↦ ?_) fun _ ↦ ensures_pure ?_
  · refine ensures_of_advances (derNext_advances hsize hnext) (ensures_pure nofun) ?_
    intro value _ _ _ hvalue
    refine ensures_pure ?_
    rintro _ ⟨⟩
    exact hvalue
  · rintro _ ⟨⟩
    exact hvalue

theorem ends_parseExtension {extension : Text} (hsize : extension.length < 2 ^ 63)
    (metadata : TlsMetadata) : Ends (parseExtension extension metadata) := by
  unfold parseExtension
  refine ensures_of_advances (derExpect_advances hsize (Nat.zero_le _)) (ends_pure metadata) ?_
  intro oid fieldOffset _ hle hoid
  refine (ensures_extensionValue hsize hle).bind fun value hvalue ↦ ?_
  cases value with
  | none => exact ends_pure metadata
  | some value =>
    refine (ends_oidText hoid).bind fun name _ ↦ ?_
    refine ensures_ite (fun _ ↦ ?_) fun _ ↦ ends_pure metadata
    exact ends_parseSanExtension (hvalue value rfl) metadata

theorem ends_parseExtensions (hsize : encoded.length < 2 ^ 63) (metadata : TlsMetadata) :
    Ends (parseExtensions encoded metadata) := by
  unfold parseExtensions
  refine ensures_of_advances (derExpect_advances hsize (Nat.zero_le _)) (ends_pure metadata) ?_
  intro sequence _ _ _ hsequence
  refine ends_loop ?_ (Nat.zero_le _)
  intro offset metadata hle
  refine ensures_ite (fun _ ↦ ensures_pure trivial) fun _ ↦ ?_
  refine ensures_of_advances (derExpect_advances hsequence hle) (ensures_pure trivial) ?_
  intro extension next hlt hnext hextension
  exact (ends_parseExtension hextension metadata).bind fun _ _ ↦ ensures_pure ⟨hlt, hnext⟩

theorem ends_parseValidity {validity : Text} (hsize : validity.length < 2 ^ 63)
    (metadata : TlsMetadata) : Ends (parseValidity validity metadata) := by
  unfold parseValidity
  refine ensures_of_advances (derNext_advances hsize (Nat.zero_le _)) (ends_pure metadata) ?_
  intro notBefore validityOffset _ hle hbefore
  refine ensures_of_advances (derNext_advances hsize hle) (ends_pure metadata) ?_
  intro notAfter _ _ _ hafter
  refine (ends_asn1Text hbefore).bind fun _ _ ↦ ?_
  exact (ends_asn1Text hafter).bind fun _ _ ↦ ends_pure _

section

variable (hsize : tbs.length < 2 ^ 63)

include hsize

theorem ensures_serialNumber :
    Ensures (serialNumber tbs) fun found ↦ ∀ offset, found = some offset → offset ≤ tbs.length := by
  unfold serialNumber
  refine ensures_of_advances (derNext_advances hsize (Nat.zero_le _)) (ensures_pure nofun) ?_
  intro field next _ hnext _
  refine ensures_ite (fun _ ↦ ?_) fun _ ↦ ensures_pure ?_
  · refine ensures_of_advances (derNext_advances hsize hnext) (ensures_pure nofun) ?_
    intro _ later _ hlater _
    refine ensures_pure ?_
    rintro _ ⟨⟩
    exact hlater
  · rintro _ ⟨⟩
    exact hnext

/-- A name stands between two offsets. -/
theorem ensures_between {start : ℕ} (hlt : start < offset) (hle : offset ≤ tbs.length) :
    Ensures (subspan tbs start (sub64 offset start)) (·.length < 2 ^ 63) := by
  rw [sub64_of_le hlt.le (by omega)]
  refine (ensures_subspan (by omega)).mono fun part hpart ↦ ?_
  have hlength := hpart.2
  omega

/-- Every field is read within the input. -/
theorem ends_parseTbs (metadata : TlsMetadata) : Ends (parseTbs tbs metadata) := by
  unfold parseTbs
  refine (ensures_serialNumber hsize).bind fun offset hoffset ↦ ?_
  cases offset with
  | none => exact ends_pure metadata
  | some offset =>
  refine ensures_of_advances (derNext_advances hsize (hoffset offset rfl)) (ends_pure metadata) ?_
  intro _ issuerStart _ hissuerStart _
  refine ensures_of_advances (derExpect_advances hsize hissuerStart) (ends_pure metadata) ?_
  intro _ offset hlt hle _
  refine (ensures_between hsize hlt hle).bind fun issuer hissuer ↦ ?_
  refine (ends_parseName hissuer).bind fun name _ ↦ ?_
  refine ensures_of_advances (derExpect_advances hsize hle) (ends_pure _) ?_
  intro validity subjectStart _ hsubjectStart hvalidity
  refine (ends_parseValidity hvalidity _).bind fun metadata _ ↦ ?_
  refine ensures_of_advances (derExpect_advances hsize hsubjectStart) (ends_pure metadata) ?_
  intro _ offset hlt hle _
  refine (ensures_between hsize hlt hle).bind fun subject hsubject ↦ ?_
  refine (ends_parseName hsubject).bind fun name _ ↦ ?_
  refine ensures_of_advances (derExpect_advances hsize hle) (ends_pure _) ?_
  intro _ offset _ hle _
  refine ends_loop ?_ hle
  intro offset metadata hle
  refine ensures_ite (fun _ ↦ ensures_pure trivial) fun _ ↦ ?_
  refine ensures_of_advances (derNext_advances hsize hle) (ensures_pure trivial) ?_
  intro field next hlt hnext hfield
  refine ensures_ite (fun _ ↦ ?_) fun _ ↦ ensures_pure ⟨hlt, hnext⟩
  exact (ends_parseExtensions hfield metadata).bind fun _ _ ↦ ensures_pure trivial

end

theorem ends_parseCertificate {der : Text} (hsize : der.length < 2 ^ 63) (metadata : TlsMetadata) :
    Ends (parseCertificate der metadata) := by
  unfold parseCertificate
  refine ensures_ite (fun _ ↦ ends_pure metadata) fun _ ↦ ?_
  refine ensures_of_advances (derExpect_advances hsize (Nat.zero_le _)) (ends_pure metadata) ?_
  intro certificate _ _ _ hcertificate
  refine ensures_of_advances (derExpect_advances hcertificate (Nat.zero_le _))
    (ends_pure metadata) ?_
  intro tbs _ _ _ htbs
  exact ends_parseTbs htbs metadata

/-! ### Handshakes -/

theorem ends_helloExtension {value : Text} (hsize : value.length < 2 ^ 63) (type : ℕ)
    (metadata : TlsMetadata) : Ends (helloExtension type value metadata) := by
  unfold helloExtension
  refine ensures_ite (fun hversion ↦ ?_) fun _ ↦ ensures_ite (fun halpn ↦ ?_) fun _ ↦ ends_pure _
  · simp only [Bool.and_eq_true, decide_eq_true_eq] at hversion
    refine (ensures_readU16 ?_ hsize).bind fun _ _ ↦ ends_pure _
    rw [hversion.2]
    decide
  · simp only [Bool.and_eq_true, decide_eq_true_eq] at halpn
    refine ends_loop ?_ (Nat.le_of_succ_le halpn.2)
    intro alpnOffset metadata hle
    refine ensures_ite (fun _ ↦ ensures_pure trivial) fun hmore ↦ ?_
    simp only [Bool.or_eq_true, decide_eq_true_eq, not_or, Nat.not_le] at hmore
    refine (ensures_byteAt hmore.1).bind fun nameLength _ ↦ ?_
    dsimp only
    rw [add64_of_lt (by omega), sub64_of_le hmore.1 (by omega)]
    refine ensures_ite (fun _ ↦ ensures_pure trivial) fun hname ↦ ?_
    simp only [Bool.or_eq_true, decide_eq_true_eq, not_or, Nat.not_lt] at hname
    refine (ensures_subspan (by omega)).bind fun name _ ↦ ?_
    rw [add64_of_lt (by omega)]
    exact ensures_pure ⟨by omega, by omega⟩

/-- An extension is passed over. -/
theorem helloStep_moves {hello : Text} {last : ℕ} (hsize : hello.length < 2 ^ 63)
    (hlast : last ≤ hello.length) (hle : offset ≤ hello.length) (metadata : TlsMetadata) :
    Ensures (helloStep hello last (offset, metadata)) (Moves hello.length offset) := by
  unfold helloStep
  dsimp only
  rw [add64_of_lt (by omega), add64_of_lt (by omega)]
  refine ensures_ite (fun _ ↦ ensures_pure trivial) fun hmore ↦ ?_
  refine (ensures_readU16 (by omega) hsize).bind fun type _ ↦ ?_
  refine (ensures_readU16 (by omega) hsize).bind fun length _ ↦ ?_
  rw [sub64_of_le (by omega) (by omega)]
  refine ensures_ite (fun _ ↦ ensures_pure trivial) fun hroom ↦ ?_
  refine (ensures_subspan (by omega)).bind fun value hvalue ↦ ?_
  refine (ends_helloExtension (by omega) type metadata).bind fun metadata _ ↦ ?_
  rw [add64_of_lt (by omega)]
  exact ensures_pure ⟨by omega, by omega⟩

theorem ends_parseServerHello {hello : Text} (hsize : hello.length < 2 ^ 63)
    (metadata : TlsMetadata) : Ends (parseServerHello hello metadata) := by
  unfold parseServerHello
  refine ensures_ite (fun _ ↦ ends_pure metadata) fun hhello ↦ ?_
  refine (ensures_readU16 (by omega) hsize).bind fun version _ ↦ ?_
  refine (ensures_byteAt (by omega)).bind fun sessionLength _ ↦ ?_
  rw [sub64_of_le (show 35 ≤ hello.length by omega) (by omega)]
  refine ensures_ite (fun _ ↦ ends_pure _) fun hsession ↦ ?_
  simp only [Bool.or_eq_true, decide_eq_true_eq, not_or, Nat.not_lt] at hsession
  rw [sub64_of_le hsession.1 (by omega)] at hsession
  dsimp only
  rw [add64_of_lt (show sessionLength.toNat + 3 < 2 ^ 64 by omega), add64_of_lt (by omega)]
  generalize hoffset : 35 + (sessionLength.toNat + 3) = offset
  have hle : offset ≤ hello.length := by omega
  rw [sub64_of_le hle (by omega)]
  refine ensures_ite (fun _ ↦ ends_pure _) fun hextensions ↦ ?_
  simp only [Bool.or_eq_true, decide_eq_true_eq, not_or, Nat.not_lt] at hextensions
  refine (ensures_readU16 (by omega) hsize).bind fun extensionsLength hextensionsLength ↦ ?_
  rw [add64_of_lt (by omega), sub64_of_le (by omega) (by omega)]
  refine ensures_ite (fun _ ↦ ends_pure _) fun hroom ↦ ?_
  rw [add64_of_lt (by omega)]
  generalize hlast : offset + 2 + extensionsLength = last
  exact ends_loop (fun offset metadata hle ↦ helloStep_moves hsize (by omega) hle metadata)
    (by omega)

theorem ends_parseCertificateMessage {message : Text} (hsize : message.length < 2 ^ 63)
    (metadata : TlsMetadata) : Ends (parseCertificateMessage message metadata) := by
  unfold parseCertificateMessage
  refine ensures_ite (fun _ ↦ ends_pure metadata) fun hmessage ↦ ?_
  refine (ensures_readU24 (by omega) hsize).bind fun listLength _ ↦ ?_
  rw [sub64_of_le (by omega) (by omega)]
  refine ensures_ite (fun _ ↦ ends_pure metadata) fun _ ↦ ?_
  refine (ensures_readU24 (by omega) hsize).bind fun certificateLength _ ↦ ?_
  rw [sub64_of_le (by omega) (by omega)]
  refine ensures_ite (fun _ ↦ ends_pure metadata) fun hroom ↦ ?_
  refine (ensures_subspan (by omega)).bind fun certificate hcertificate ↦ ?_
  exact ends_parseCertificate (by omega) metadata

theorem ends_readMessage {message : Text} (hsize : message.length < 2 ^ 63) (type : UInt8)
    (metadata : TlsMetadata) : Ends (readMessage type message metadata) := by
  unfold readMessage
  refine ensures_ite (fun _ ↦ ends_parseServerHello hsize metadata) fun _ ↦ ?_
  exact ensures_ite (fun _ ↦ ends_parseCertificateMessage hsize metadata) fun _ ↦ ends_pure metadata

/-- A handshake message is passed over. -/
theorem messageStep_moves {messages : Text} (hsize : messages.length < 2 ^ 63)
    (hle : offset ≤ messages.length) (metadata : TlsMetadata) :
    Ensures (messageStep messages (offset, metadata)) (Moves messages.length offset) := by
  unfold messageStep
  dsimp only
  rw [add64_of_lt (by omega), add64_of_lt (by omega)]
  refine ensures_ite (fun _ ↦ ensures_pure trivial) fun hmore ↦ ?_
  refine (ensures_byteAt (by omega)).bind fun type _ ↦ ?_
  refine (ensures_readU24 (by omega) hsize).bind fun length _ ↦ ?_
  rw [sub64_of_le (by omega) (by omega)]
  refine ensures_ite (fun _ ↦ ensures_pure trivial) fun hroom ↦ ?_
  refine (ensures_subspan (by omega)).bind fun message hmessage ↦ ?_
  refine (ends_readMessage (by omega) type metadata).bind fun metadata _ ↦ ?_
  rw [add64_of_lt (by omega)]
  exact ensures_pure ⟨by omega, by omega⟩

/-- The handshake stays within its limit. -/
theorem length_readRecord {type : UInt8} {version : ℕ} {body : Text} {read : TlsMetadata × Text}
    (h : read.2.length ≤ maximumTlsBytes) :
    (readRecord type version body read).2.length ≤ maximumTlsBytes := by
  obtain ⟨metadata, handshake⟩ := read
  have hlimit : maximumTlsBytes < 2 ^ 64 := by decide
  dsimp only at h
  unfold readRecord
  dsimp only
  rw [sub64_of_le h hlimit]
  by_cases hrecord : (type = 0x16 && body.length ≤ maximumTlsBytes - handshake.length) = true
  · rw [if_pos hrecord]
    simp only [Bool.and_eq_true, decide_eq_true_eq] at hrecord
    show (handshake ++ body).length ≤ maximumTlsBytes
    rw [List.length_append]
    omega
  · rw [if_neg hrecord]
    exact h

theorem recordStep_ensures {response : Text} {read : TlsMetadata × Text}
    (hsize : response.length < 2 ^ 63) (hle : offset ≤ response.length)
    (hread : read.2.length ≤ maximumTlsBytes) :
    Ensures (recordStep response (offset, read))
      (StepsTo (fun s ↦ s.1 ≤ response.length ∧ s.2.2.length ≤ maximumTlsBytes)
        (fun s ↦ response.length - s.1) (fun read ↦ read.2.length ≤ maximumTlsBytes)
        (offset, read)) := by
  unfold recordStep
  dsimp only
  rw [add64_of_lt (by omega), add64_of_lt (by omega), add64_of_lt (by omega)]
  refine ensures_ite (fun _ ↦ ensures_pure hread) fun hmore ↦ ?_
  refine (ensures_byteAt (by omega)).bind fun type _ ↦ ?_
  refine (ensures_readU16 (by omega) hsize).bind fun version _ ↦ ?_
  refine (ensures_readU16 (by omega) hsize).bind fun length _ ↦ ?_
  rw [sub64_of_le (by omega) (by omega)]
  refine ensures_ite (fun _ ↦ ensures_pure hread) fun hroom ↦ ?_
  refine (ensures_subspan (by omega)).bind fun body _ ↦ ?_
  rw [add64_of_lt (by omega)]
  have hnext : offset + 5 + length ≤ response.length := by omega
  exact ensures_pure ⟨⟨hnext, length_readRecord hread⟩,
    show response.length - (offset + 5 + length) < response.length - offset by omega⟩

/-- **Reading any response ends.** -/
theorem ends_parseTlsMetadata (response : Text) : Ends (parseTlsMetadata response) := by
  unfold parseTlsMetadata
  refine ensures_ite (fun _ ↦ ensures_pure trivial) fun hlimits ↦ ?_
  simp only [Bool.or_eq_true, decide_eq_true_eq, not_or, Nat.not_lt] at hlimits
  have hlimit : maximumTlsBytes < 2 ^ 63 := by decide
  have hsize : response.length < 2 ^ 63 := by omega
  refine (loop_ensures _ _ (fun s hs ↦ recordStep_ensures hsize hs.1 hs.2)
    ⟨Nat.zero_le _, Nat.zero_le _⟩ (Nat.lt_succ_of_le (Nat.sub_le _ _))).bind ?_
  rintro ⟨metadata, messages⟩ hmessages
  have hmessages : messages.length < 2 ^ 63 := Nat.lt_of_le_of_lt hmessages hlimit
  exact ends_loop (fun offset metadata hle ↦ messageStep_moves hmessages hle metadata)
    (Nat.zero_le _)

/-- **Reading DER is exact, and nothing built on it faults.** At any offset an element is found
exactly if a tag, a definite length of at most eight bytes and the value are there, and then the
next offset is past its last byte. From an offset within the input the reader always comes to a
result, and so does every parser above it: none of its loops goes on for ever, and none of its
accesses is out of range.

No input is as large as half of the address space. -/
theorem derNext_exact_and_total :
    (∀ (input : Text) (offset : ℕ), input.length < 2 ^ 63 →
      (∀ element next, derNext input offset = .ok (some (element, next)) ↔
        ElementAt input offset element next) ∧
      (offset ≤ input.length → ∃ found, derNext input offset = .ok found)) ∧
    (∀ (input : Text) (metadata : TlsMetadata), input.length < 2 ^ 63 →
      (∃ name, parseName input = .ok name) ∧
      (∃ read, parseSanExtension input metadata = .ok read) ∧
      (∃ read, parseExtensions input metadata = .ok read) ∧
      (∃ read, parseCertificate input metadata = .ok read) ∧
      (∃ read, parseServerHello input metadata = .ok read) ∧
      ∃ read, parseCertificateMessage input metadata = .ok read) ∧
    ∀ response, ∃ metadata, parseTlsMetadata response = .ok metadata := by
  have hends {α : Type} {x : Reads α} (h : Ends x) : ∃ a, x = .ok a := by
    obtain ⟨a, ha, -⟩ := h
    exact ⟨a, ha⟩
  refine ⟨fun input offset hsize ↦ ⟨fun element next ↦ derNext_eq_some_iff hsize, ?_⟩,
    fun input metadata hsize ↦ ?_, fun response ↦ hends (ends_parseTlsMetadata response)⟩
  · intro hle
    exact hends ((derNext_advances hsize hle).mono fun _ _ ↦ trivial)
  · exact ⟨hends (ends_parseName hsize), hends (ends_parseSanExtension hsize metadata),
      hends (ends_parseExtensions hsize metadata), hends (ends_parseCertificate hsize metadata),
      hends (ends_parseServerHello hsize metadata),
      hends (ends_parseCertificateMessage hsize metadata)⟩

/-- An octet string of one byte in the long form, and what follows it. -/
theorem derNext_exact_and_total_octet :
    ElementAt [0x04, 0x81, 0x01, 0xFF, 0x05, 0x00] 0 ⟨0x04, [0xFF]⟩ 4 ∧
      ∃ metadata, parseTlsMetadata [0x15, 0x03, 0x03, 0x00, 0x00] = .ok metadata :=
  ⟨((derNext_exact_and_total.1 _ 0 (by decide)).1 _ _).mp (by decide +kernel),
    derNext_exact_and_total.2.2 _⟩

end Skan.Detect.Tls
