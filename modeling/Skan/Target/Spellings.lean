import Skan.Target.Hostnames

/-!
# Spellings of an IPv4 address

A text of digits and dots can stand alone, in front of a prefix or on both sides of a dash. Alone it
is read by `parse_ipv4`, which lets an octet have zeros in front, or it is a hostname; the other two
forms need `inet_pton`, which takes no such zero (`inetPton4_eq_some_iff`). The three forms agree
exactly if the text is no number without dots that a label could be, and no dotted quad with such a
zero (`uniform_iff`).
-/

namespace Skan.Target

open Skan.Core Skan.Core.IpAddress

variable {inet : Inet} {text : Text} {word : UInt32} {octets : List ℕ}

/-! ### Two readers of dotted quads -/

/-- A zero in front of other digits. -/
def LeadingZero (component : Text) : Prop := component.head? = some 0x30 ∧ 2 ≤ component.length

instance (component : Text) : Decidable (LeadingZero component) :=
  inferInstanceAs (Decidable (_ ∧ _))

/-- What `inet_pton` reads has no zero in front of other digits: behind a zero it reads no digit. -/
theorem not_leadingZero_of_inetPton4Loop {first : Text} {rest : List Text} {current : ℕ}
    {sawDigit : Bool} {result : List ℕ} (hsplit : text.splitOn 0x2E = first :: rest)
    (hcurrent : sawDigit = false → current = 0)
    (h : inetPton4Loop octets current sawDigit text = some result) :
    (sawDigit = true → current = 0 → first = []) ∧ (sawDigit = false → ¬ LeadingZero first) ∧
      ∀ component ∈ rest, ¬ LeadingZero component := by
  induction text generalizing octets current sawDigit first rest with
  | nil =>
    rw [List.splitOn_nil] at hsplit
    obtain ⟨rfl, rfl⟩ := List.cons.inj hsplit
    exact ⟨fun _ _ ↦ rfl, fun _ hzero ↦ absurd hzero.1 (by simp), by simp⟩
  | cons c text ih =>
    obtain ⟨head, tail, htext⟩ := List.exists_cons_of_ne_nil (List.splitOn_ne_nil 0x2E text)
    rw [List.splitOn_cons_eq_if_modifyHead, htext] at hsplit
    rw [inetPton4Loop] at h
    split at h
    · next hdigit =>
      have hdot : (c == 0x2E) = false := by
        refine beq_false_of_ne ?_
        rintro rfl
        exact absurd hdigit (by decide)
      rw [hdot, if_neg Bool.false_ne_true, List.modifyHead_cons] at hsplit
      obtain ⟨rfl, rfl⟩ := List.cons.inj hsplit
      split at h
      · exact absurd h (by simp)
      next hlead =>
      split at h
      · exact absurd h (by simp)
      split at h
      · exact absurd h (by simp)
      obtain ⟨hempty, -, hrest⟩ := ih htext (by simp) h
      refine ⟨fun hsaw hzero ↦ absurd hzero (by simpa [hsaw] using hlead),
        fun hsaw hzero ↦ ?_, hrest⟩
      -- the first digit is a zero, so nothing may follow it
      have hc : c = 0x30 := by simpa using hzero.1
      have hnil : head = [] := hempty rfl (by simp [hcurrent hsaw, hc])
      have hlength := hzero.2
      rw [hnil] at hlength
      exact absurd hlength (by simp)
    · split at h
      · next hdot =>
        rw [Bool.and_eq_true, decide_eq_true_eq] at hdot
        rw [hdot.1, if_pos (by decide)] at hsplit
        obtain ⟨rfl, rfl⟩ := List.cons.inj hsplit
        split at h
        · exact absurd h (by simp)
        obtain ⟨-, hfirst, hrest⟩ := ih htext (by simp) h
        exact ⟨fun _ _ ↦ rfl, fun _ hzero ↦ absurd hzero.1 (by simp),
          List.forall_mem_cons.mpr ⟨hfirst rfl, hrest⟩⟩
      · exact absurd h (by simp)

theorem inetPton4Loop_cons {current : ℕ} {sawDigit : Bool} {c : UInt8} (hdigit : isDigit c)
    (hlead : sawDigit = true → current ≠ 0) (hsize : current * 10 + (c.toNat - 0x30) ≤ 255)
    (hroom : octets.length < 4) :
    inetPton4Loop octets current sawDigit (c :: text) =
      inetPton4Loop octets (current * 10 + (c.toNat - 0x30)) true text := by
  have hfull : ¬ 4 < octets.length + 1 := by omega
  rw [inetPton4Loop, if_pos hdigit]
  cases sawDigit with
  | true => simp [hlead rfl, Nat.not_lt.mpr hsize]
  | false => simp [Nat.not_lt.mpr hsize, hfull]

theorem octetText_of_parseOctet {component : Text} {octet : UInt32}
    (h : parseOctet component = some octet) :
    OctetText component ∧ octet = UInt32.ofNat (decimalValue component) := by
  obtain ⟨hne, hdigits⟩ := isDigit_of_parseOctet h
  have hall : component.all isDigit = true := List.all_eq_true.mpr hdigits
  have hempty : component.isEmpty = false := by simpa using hne
  rw [parseOctet, hempty, Bool.false_or] at h
  split_ifs at h with hlength
  have hshort : component.length ≤ 3 := by simpa using hlength
  have hfits : decimalValue component < 2 ^ 32 := by
    by_contra hbig
    rw [fromCharsWhole, hempty, hall, if_neg (by decide), fromChars32, if_neg hbig] at h
    exact absurd h (by simp)
  rw [fromCharsWhole_eq hne hall hfits] at h
  dsimp only at h
  split_ifs at h with hvalue
  exact ⟨⟨hne, hall, hshort, Nat.not_lt.mp hvalue⟩, (Option.some.inj h).symm⟩

/-- A component without such a zero is read by `inet_pton` as by `parse_ipv4`. -/
theorem inetPton4Loop_component {component : Text} (h : OctetText component)
    (hzero : ¬ LeadingZero component) (hroom : octets.length < 4) (text : Text) :
    inetPton4Loop octets 0 false (component ++ text) =
      inetPton4Loop octets (decimalValue component) true text := by
  have hvalue := h.value_le
  have hdigits := List.all_eq_true.mp h.isDigit
  have hpos {c d : UInt8} {rest : Text} (hcomponent : component = c :: d :: rest) :
      0 < c.toNat - 0x30 := by
    have hc := hdigits c (by simp [hcomponent])
    have hne : c ≠ 0x30 := fun heq ↦ hzero (by simp [LeadingZero, hcomponent, heq])
    simp only [isDigit, Bool.and_eq_true, decide_eq_true_eq, UInt8.le_iff_toNat_le,
      UInt8.reduceToNat, ne_eq, ← UInt8.toNat_inj] at hc hne
    omega
  have hne := h.ne_nil
  have hlength := h.length_le
  rcases component with _ | ⟨x, _ | ⟨y, _ | ⟨z, _ | ⟨w, rest⟩⟩⟩⟩
  · exact absurd rfl hne
  · have hx : decimalValue [x] = 0 * 10 + (x.toNat - 0x30) := rfl
    rw [List.singleton_append, inetPton4Loop_cons (hdigits x (by simp)) (by simp) (hx ▸ hvalue)
      hroom, hx]
  · have hxy : decimalValue [x, y] = (0 * 10 + (x.toNat - 0x30)) * 10 + (y.toNat - 0x30) := rfl
    have hx := hpos rfl
    rw [hxy] at hvalue
    rw [List.cons_append, List.singleton_append,
      inetPton4Loop_cons (hdigits x (by simp)) (by simp) (by omega) hroom,
      inetPton4Loop_cons (hdigits y (by simp)) (by omega) (by omega) hroom, hxy]
  · have hxyz : decimalValue [x, y, z] =
        ((0 * 10 + (x.toNat - 0x30)) * 10 + (y.toNat - 0x30)) * 10 + (z.toNat - 0x30) := rfl
    have hx := hpos rfl
    rw [hxyz] at hvalue
    rw [List.cons_append, List.cons_append, List.singleton_append,
      inetPton4Loop_cons (hdigits x (by simp)) (by simp) (by omega) hroom,
      inetPton4Loop_cons (hdigits y (by simp)) (by omega) (by omega) hroom,
      inetPton4Loop_cons (hdigits z (by simp)) (by omega) (by omega) hroom, hxyz]
  · simp only [List.length_cons] at hlength
    omega

/-- `inet_pton` reads the dotted quads of `parse_ipv4` without leading zeros. -/
theorem inetPton4_eq_some_iff :
    inetPton4 text = some word ↔
      parseIpv4 text = some word ∧ ∀ component ∈ text.splitOn 0x2E, ¬ LeadingZero component := by
  constructor
  · intro h
    refine ⟨parseIpv4_of_inetPton4 h, ?_⟩
    rw [inetPton4] at h
    split at h
    · next a b c d hloop =>
      obtain ⟨first, rest, hsplit⟩ := List.exists_cons_of_ne_nil (List.splitOn_ne_nil 0x2E text)
      obtain ⟨-, hfirst, hrest⟩ := not_leadingZero_of_inetPton4Loop hsplit (fun _ ↦ rfl) hloop
      rw [hsplit]
      exact List.forall_mem_cons.mpr ⟨hfirst rfl, hrest⟩
    · exact absurd h (by simp)
  · rintro ⟨h, hzero⟩
    obtain ⟨a, b, c, d, hcomponents, rfl⟩ := components_of_parseIpv4 h
    obtain ⟨p, q, r, s, hsplit⟩ : ∃ p q r s, text.splitOn 0x2E = [p, q, r, s] := by
      have hlength := congrArg List.length hcomponents
      rw [List.length_map] at hlength
      exact List.length_eq_four.mp hlength
    rw [hsplit] at hcomponents hzero
    simp only [List.map_cons, List.map_nil, List.cons.injEq, and_true] at hcomponents
    simp only [List.forall_mem_cons] at hzero
    obtain ⟨hp, hpa⟩ := octetText_of_parseOctet hcomponents.1
    obtain ⟨hq, hqb⟩ := octetText_of_parseOctet hcomponents.2.1
    obtain ⟨hr, hrc⟩ := octetText_of_parseOctet hcomponents.2.2.1
    obtain ⟨hs, hsd⟩ := octetText_of_parseOctet hcomponents.2.2.2
    have htext : text = p ++ 0x2E :: (q ++ 0x2E :: (r ++ 0x2E :: (s ++ []))) := by
      rw [← @List.intercalate_splitOn _ text _ _ 0x2E, hsplit]
      simp [List.intercalate]
    have hloop : inetPton4Loop [] 0 false text =
        some [decimalValue p, decimalValue q, decimalValue r, decimalValue s] := by
      rw [htext, inetPton4Loop_component hp hzero.1 (by simp), inetPton4Loop_dot (by simp),
        inetPton4Loop_component hq hzero.2.1 (by simp), inetPton4Loop_dot (by simp),
        inetPton4Loop_component hr hzero.2.2.1 (by simp), inetPton4Loop_dot (by simp),
        inetPton4Loop_component hs hzero.2.2.2.1 (by simp)]
      rfl
    rw [inetPton4, hloop, hpa, hqb, hrc, hsd,
      joinOctets_eq hp.value_le hq.value_le hr.value_le hs.value_le]

/-! ### One text, three forms -/

/-- The text alone, as a block of one address, and as a range from itself to itself. -/
def spellings (text : Text) : List Text := [text, text ++ literal "/32", text ++ 0x2D :: text]

/-- The three forms are all refused, or are all accepted for the same address. -/
def Uniform (inet : Inet) (text : Text) : Prop :=
  (∀ token ∈ spellings text, ∃ failure, parseOne inet token = .error failure) ∨
    ∃ address, ∀ token ∈ spellings text, ∃ spec, parseOne inet token = .ok spec ∧
      spec.addresses = {address}

/-- Digits that could be the label of a hostname. -/
def BareNumber (text : Text) : Prop := text ≠ [] ∧ text.length ≤ 63 ∧ ∀ c ∈ text, isDigit c

/-- A dotted quad of `parse_ipv4` with a zero in front of an octet. -/
def ZeroPadded (text : Text) : Prop :=
  (∃ word, parseIpv4 text = some word) ∧ ∃ component ∈ text.splitOn 0x2E, LeadingZero component

theorem not_bareNumber_of_looksLikeIpv4 (h : looksLikeIpv4 text = true) : ¬ BareNumber text := by
  rintro ⟨-, -, hdigits⟩
  simp only [looksLikeIpv4, Bool.and_eq_true, decide_eq_true_eq] at h
  exact absurd (hdigits _ h.1.2) (by decide)

theorem parseOne_text (form : PresentationForm inet) (item : TargetItem inet)
    (hdash : item.DashFree) : parseOne inet item.text = .ok item.spec := by
  let entry : ListedItem inet := ⟨[], item, [], rfl, rfl⟩
  have htrim := entry.trim_text form
  rw [ListedItem.text, List.nil_append, List.append_nil] at htrim
  rw [parseOne, htrim, parseTrimmed_text form item hdash]

/-- A dotted quad without leading zeros is accepted in each form. -/
theorem uniform_of_inetPton4 (form : PresentationForm inet) (h : inetPton4 text = some word) :
    Uniform inet text := by
  let a : AddressText inet := ⟨text, .fromIpv4 word, .ipv4 h⟩
  have hcanonical : (fromIpv4 word).Canonical := canonical_fromIpv4 word
  have hword := ipv4Word_fromIpv4 word
  have hscope : ∀ zone ∈ a.address.scope, 0x2D ∉ zone := by simp [a, fromIpv4]
  have hwidth : decimalValue (literal "32") = 32 := by decide
  let item₁ : TargetItem inet := .literal a
  let item₂ : TargetItem inet :=
    .cidr a (literal "32") (by decide) (by decide) (hwidth.trans_le le_rfl)
  let item₃ : TargetItem inet := .range a a [] [] ⟨rfl, rfl⟩ rfl rfl le_rfl
  have hfirst : item₁.spec.addresses = {fromIpv4 word} := by
    show {fromIpv4 (fromIpv4 word).ipv4Word} = _
    rw [hword]
  have hsecond : item₂.spec.addresses = {fromIpv4 word} := by
    show (fromIpv4 (fromIpv4 word).ipv4Word).block 32 = _
    rw [hword, block_eq_segment, width_fromIpv4, Nat.sub_self, pow_zero, Nat.div_one,
      Nat.mul_one, segment_one hcanonical]
  have hthird : item₃.spec.addresses = {fromIpv4 word} := by
    show (fromIpv4 (fromIpv4 word).ipv4Word).interval
      (.fromIpv4 (fromIpv4 word).ipv4Word) = _
    rw [hword, interval_eq_segment le_rfl, Nat.sub_self,
      segment_one hcanonical]
  refine .inr ⟨.fromIpv4 word, ?_⟩
  simp only [spellings, List.forall_mem_cons]
  exact ⟨⟨_, parseOne_text form item₁ hscope, hfirst⟩,
    ⟨_, parseOne_text form item₂ trivial, hsecond⟩,
    ⟨_, parseOne_text form item₃ ⟨hscope, hscope⟩, hthird⟩, by simp⟩

theorem notMem_of_digits_dots (h : ∀ c ∈ text, isDigit c = true ∨ c = 0x2E) {c : UInt8}
    (hc : isDigit c = false ∧ c ≠ 0x2E) : c ∉ text := by
  intro hmem
  rcases h c hmem with hdigit | hdot
  · exact absurd hdigit (by simp [hc.1])
  · exact hc.2 hdot

theorem isBlank_of_digits_dots (h : ∀ c ∈ text, isDigit c = true ∨ c = 0x2E) :
    ∀ c ∈ text, isBlank c = false :=
  fun c hc ↦ (isBlank_of_isTokenChar (isTokenChar_of_isDigit_or_dot (h c hc)).1).1

section

variable (form : PresentationForm inet) (h : ∀ c ∈ text, isDigit c = true ∨ c = 0x2E)

include form h

section

variable (hnone : inetPton4 text = none)

include hnone

theorem parseIpAddress_digits_dots : parseIpAddress inet text = none := by
  by_contra hsome
  obtain ⟨address, haddress⟩ := Option.ne_none_iff_exists'.mp hsome
  rcases parseIpAddress_cases form haddress with ⟨word, -, hword, -⟩ | ⟨-, -, hcolon⟩
  · rw [cStr_eq_self (notMem_of_digits_dots h (by decide)), hnone] at hword
    exact absurd hword (by simp)
  · exact notMem_of_digits_dots h (by decide) hcolon

/-- A prefix needs an address in front of it. -/
theorem parseOne_slash :
    parseOne inet (text ++ literal "/32") =
      .error (invalid .invalidCidr "invalid IP CIDR: " (text ++ literal "/32")) := by
  have hliteral : literal "/32" = 0x2F :: literal "32" := by decide
  have hwritten : ∀ c ∈ literal "/32", isBlank c = false := by
    rw [show literal "/32" = [0x2F, 0x33, 0x32] by decide]
    simp only [List.forall_mem_cons]
    exact ⟨rfl, rfl, rfl, by simp⟩
  have hblank : ∀ c ∈ text ++ literal "/32", isBlank c = false :=
    List.forall_mem_append.mpr ⟨isBlank_of_digits_dots h, hwritten⟩
  have hempty : (text ++ 0x2F :: literal "32").isEmpty = false := by simp
  have hwidth : fromCharsWhole (literal "32") = some 32 := by decide
  rw [parseOne, trim_eq_self hblank, hliteral, parseTrimmed, hempty, if_neg Bool.false_ne_true,
    span_append_cons (notMem_of_digits_dots h (by decide))]
  dsimp only
  rw [parseCidr, if_neg (by decide), hwidth, parseIpAddress_digits_dots form h hnone]

/-- So does a dash, if one side looks like an address. -/
theorem parseOne_dash :
    parseOne inet (text ++ 0x2D :: text) =
      if looksLikeIpv4 text then
        .error (invalid .invalidRange "invalid or mixed-family IP range: " (text ++ 0x2D :: text))
      else if validHostname (text ++ 0x2D :: text) then
        .ok (hostnameSpec (text ++ 0x2D :: text))
      else
        .error (invalid .invalidHostname "invalid hostname: " (text ++ 0x2D :: text)) := by
  have hblank : ∀ c ∈ text ++ 0x2D :: text, isBlank c = false :=
    List.forall_mem_append.mpr ⟨isBlank_of_digits_dots h,
      List.forall_mem_cons.mpr ⟨by decide, isBlank_of_digits_dots h⟩⟩
  have hdash : 0x2D ∉ text := notMem_of_digits_dots h (by decide)
  have hother {c : UInt8} (hc : isDigit c = false ∧ c ≠ 0x2E) (hne : c ≠ 0x2D) :
      c ∉ text ++ 0x2D :: text := by
    simp [notMem_of_digits_dots h hc, hne]
  have haddress := parseIpAddress_digits_dots form h hnone
  rw [parseOne, trim_eq_self hblank, parseTrimmed_of_dash hdash (hother (by decide) (by decide)),
    if_neg hdash, trim_eq_self (isBlank_of_digits_dots h)]
  have hcandidate : rangeCandidate inet text text = looksLikeIpv4 text := by
    simp [rangeCandidate, haddress, notMem_of_digits_dots h (c := 0x3A) (by decide)]
  rw [hcandidate]
  split
  · rw [parseRange, haddress]
  · have hmem : 0x2D ∈ text ++ 0x2D :: text := by simp
    have hlooks := looksLikeIpv4_eq_false hmem (by decide) (by decide)
    exact parseSingle_of_none (parseIpv4_eq_none hmem (by decide) (by decide)) hlooks
      (parseIpAddress_eq_none form (hother (by decide) (by decide))
        (hother (by decide) (by decide)) hlooks)
      (hother (by decide) (by decide)) (hother (by decide) (by decide))

end

theorem parseOne_alone (hne : text ≠ []) (hipv4 : parseIpv4 text = none) :
    parseOne inet text =
      if looksLikeIpv4 text then .error (invalid .invalidIpv4 "invalid IPv4 address: " text)
      else if validHostname text then .ok (hostnameSpec text)
      else .error (invalid .invalidHostname "invalid hostname: " text) := by
  have hother {c : UInt8} (hc : isDigit c = false ∧ c ≠ 0x2E) := notMem_of_digits_dots h hc
  rw [parseOne, trim_eq_self (isBlank_of_digits_dots h),
    parseTrimmed_of_notMem hne (hother (by decide)) (hother (by decide))]
  cases hlooks : looksLikeIpv4 text with
  | true =>
    rw [parseSingle, hipv4, hlooks, if_pos rfl, if_pos rfl]
  | false =>
    rw [if_neg Bool.false_ne_true]
    exact parseSingle_of_none hipv4 hlooks
      (parseIpAddress_eq_none form (hother (by decide)) (hother (by decide)) hlooks)
      (hother (by decide)) (hother (by decide))

end

/-- Digits and dots that look like no IPv4 address begin a hostname only if they are a number. -/
theorem bareNumber_of_validHostname {back : Text} (h : ∀ c ∈ text, isDigit c = true ∨ c = 0x2E)
    (hne : text ≠ []) (hlooks : looksLikeIpv4 text = false) (hback : 0x2E ∉ text → 0x2E ∉ back)
    (hhost : validHostname (text ++ back)) : BareNumber text := by
  simp only [validHostname, Bool.and_eq_true, decide_eq_true_eq] at hhost
  have hall : text.all (fun c ↦ c = 0x2E || isDigit c) = true := by
    rw [List.all_eq_true]
    intro c hc
    rcases h c hc with hdigit | hdot
    · rw [hdigit, Bool.or_true]
    · rw [decide_eq_true hdot, Bool.true_or]
  have hdot : 0x2E ∉ text := by
    -- with a dot but no digit it would begin with a dot
    intro hdot
    rw [looksLikeIpv4, hall, decide_eq_true hdot, Bool.true_and, Bool.true_and,
      List.any_eq_false] at hlooks
    obtain ⟨c, rest, rfl⟩ := List.exists_cons_of_ne_nil hne
    have hc : c = 0x2E := (h c List.mem_cons_self).resolve_left (hlooks c List.mem_cons_self)
    exact hhost.1.1.2 (by rw [hc]; rfl)
  have hdigits : ∀ c ∈ text, isDigit c := fun c hc ↦
    (h c hc).resolve_right fun heq ↦ hdot (heq ▸ hc)
  have hwhole : 0x2E ∉ text ++ back := by simp [hdot, hback hdot]
  have hlabel := hhost.2
  rw [List.splitOn_eq_singleton hwhole, List.all_cons, List.all_nil, Bool.and_true, validLabel]
    at hlabel
  simp only [Bool.and_eq_true, decide_eq_true_eq, List.length_append] at hlabel
  exact ⟨hne, by omega, hdigits⟩

theorem validHostname_of_bareNumber (h : BareNumber text) : validHostname text = true := by
  obtain ⟨hne, hlength, hdigits⟩ := h
  have hother {c : UInt8} (hc : isDigit c = false) : text.head? ≠ some c ∧ text.getLast? ≠ some c :=
    ⟨fun heq ↦ absurd (hdigits c (List.mem_of_mem_head? heq)) (by simp [hc]),
      fun heq ↦ absurd (hdigits c (List.mem_of_getLast? heq)) (by simp [hc])⟩
  have hdot : 0x2E ∉ text := fun hmem ↦ absurd (hdigits _ hmem) (by decide)
  have hlabel : validLabel text = true := by
    simp only [validLabel, Bool.and_eq_true, decide_eq_true_eq, List.all_eq_true]
    refine ⟨⟨⟨⟨by simpa using hne, hlength⟩, (hother (by decide)).1⟩, (hother (by decide)).2⟩,
      fun c hc ↦ by rw [hdigits c hc, Bool.or_true, Bool.true_or]⟩
  simp only [validHostname, Bool.and_eq_true, decide_eq_true_eq]
  refine ⟨⟨⟨⟨by simpa using hne, by omega⟩, (hother (by decide)).1⟩, (hother (by decide)).2⟩, ?_⟩
  rw [List.splitOn_eq_singleton hdot, List.all_cons, hlabel]
  rfl

/-- The form with a prefix is refused of what is no strict IPv4 address, so the three forms agree
only if all are refused. -/
theorem uniform_iff_refused (form : PresentationForm inet)
    (h : ∀ c ∈ text, isDigit c = true ∨ c = 0x2E) (hquad : inetPton4 text = none) :
    Uniform inet text ↔
      ∀ token ∈ spellings text, ∃ failure, parseOne inet token = .error failure := by
  refine or_iff_left ?_
  rintro ⟨address, haccepted⟩
  obtain ⟨spec, hspec, -⟩ := haccepted (text ++ literal "/32") (by simp [spellings])
  rw [parseOne_slash form h hquad] at hspec
  exact absurd hspec (by simp)

/-- What only the lenient reader takes for an IPv4 address is accepted alone. -/
theorem parseOne_lenient (h : ∀ c ∈ text, isDigit c = true ∨ c = 0x2E)
    (hlenient : parseIpv4 text = some word) :
    parseOne inet text = .ok (literalSpec text (.fromIpv4 word)) := by
  have hne : text ≠ [] := by
    rintro rfl
    have hempty : parseIpv4 [] = none := by decide
    exact absurd (hempty.symm.trans hlenient) (by simp)
  rw [parseOne, trim_eq_self (isBlank_of_digits_dots h), parseTrimmed_of_notMem hne
    (notMem_of_digits_dots h (by decide)) (notMem_of_digits_dots h (by decide)),
    parseSingle_ipv4 hlenient]

/-- What the lenient reader takes and the strict one does not has a zero in front of an octet. -/
theorem zeroPadded_of_lenient (hlenient : parseIpv4 text = some word)
    (hquad : inetPton4 text = none) : ZeroPadded text := by
  refine ⟨⟨word, hlenient⟩, ?_⟩
  by_contra hzero
  have hread := inetPton4_eq_some_iff.mpr
    ⟨hlenient, fun component hc hz ↦ hzero ⟨component, hc, hz⟩⟩
  rw [hquad] at hread
  exact absurd hread (by simp)

/-- A text that is no IPv4 address in either reading is refused in all forms unless it is a number
that could be a label. -/
theorem refused_iff_of_none (form : PresentationForm inet)
    (h : ∀ c ∈ text, isDigit c = true ∨ c = 0x2E) (hquad : inetPton4 text = none)
    (hlenient : parseIpv4 text = none) :
    (∀ token ∈ spellings text, ∃ failure, parseOne inet token = .error failure) ↔
      ¬ BareNumber text := by
  simp only [spellings, List.forall_mem_cons, parseOne_slash form h hquad,
    parseOne_dash form h hquad]
  by_cases hne : text = []
  · subst hne
    refine iff_of_true ⟨?_, ⟨_, rfl⟩, ?_, by simp⟩ fun hnumber ↦ hnumber.1 rfl
    · exact ⟨_, rfl⟩
    · exact ⟨_, rfl⟩
  rw [parseOne_alone form h hne hlenient]
  rcases hlooks : looksLikeIpv4 text with - | -
  · by_cases hnumber : BareNumber text
    · rw [validHostname_of_bareNumber hnumber]
      exact iff_of_false (fun hall ↦ absurd hall.1 (by simp)) fun hnot ↦ hnot hnumber
    · -- neither the text nor the range of it with itself is a hostname
      have hback (back : Text) (hdot : 0x2E ∉ text → 0x2E ∉ back) :
          validHostname (text ++ back) = false := by
        by_contra hhost
        exact hnumber (bareNumber_of_validHostname h hne hlooks hdot (by simpa using hhost))
      have halone := hback [] (by simp)
      rw [List.append_nil] at halone
      rw [halone, hback (0x2D :: text) (by simp)]
      exact iff_of_true ⟨⟨_, rfl⟩, ⟨_, rfl⟩, ⟨_, rfl⟩, by simp⟩ hnumber
  · refine iff_of_true ⟨⟨_, rfl⟩, ⟨_, rfl⟩, ⟨_, rfl⟩, by simp⟩ ?_
    exact not_bareNumber_of_looksLikeIpv4 hlooks

/-- The three forms agree exactly if the text is neither a number without dots that could be a
label, nor a dotted quad with a zero in front of an octet. -/
theorem uniform_iff (form : PresentationForm inet) {text : Text}
    (h : ∀ c ∈ text, isDigit c = true ∨ c = 0x2E) :
    Uniform inet text ↔ ¬ BareNumber text ∧ ¬ ZeroPadded text := by
  rcases hquad : inetPton4 text with - | word
  · rw [uniform_iff_refused form h hquad]
    rcases hlenient : parseIpv4 text with - | word
    · have hpadded : ¬ ZeroPadded text := by
        rintro ⟨⟨word, hword⟩, -⟩
        rw [hlenient] at hword
        exact absurd hword (by simp)
      rw [and_iff_left hpadded]
      exact refused_iff_of_none form h hquad hlenient
    · refine iff_of_false (fun hall ↦ ?_) fun hnot ↦ hnot.2 (zeroPadded_of_lenient hlenient hquad)
      obtain ⟨failure, hfailure⟩ := hall text (by simp [spellings])
      rw [parseOne_lenient h hlenient] at hfailure
      exact absurd hfailure (by simp)
  · have hstrict := inetPton4_eq_some_iff.mp hquad
    refine iff_of_true (uniform_of_inetPton4 form hquad)
      ⟨not_bareNumber_of_looksLikeIpv4 (looksLikeIpv4_of_parseIpv4 hstrict.1), ?_⟩
    rintro ⟨-, component, hcomponent, hzero⟩
    exact hstrict.2 component hcomponent hzero

theorem uniform_ten : Uniform linkLocalInet (literal "10.0.0.10") :=
  (uniform_iff linkLocalInet_presentationForm (by decide +kernel)).mpr
    ⟨fun hnumber ↦ absurd (hnumber.2.2 0x2E (by decide +kernel)) (by decide), fun hpadded ↦
      absurd hpadded.2 (by decide +kernel)⟩

/-- `10.0.0.010` is accepted alone, and refused in front of a prefix. -/
theorem not_uniform_padded :
    ¬ ∀ text, (∀ c ∈ text, isDigit c = true ∨ c = 0x2E) → Uniform linkLocalInet text := by
  intro hall
  have halone : parseOne linkLocalInet (literal "10.0.0.010") =
      .ok (literalSpec (literal "10.0.0.010") (.fromIpv4 0x0A00000A)) := by decide +kernel
  have hslash : parseOne linkLocalInet (literal "10.0.0.010" ++ literal "/32") =
      .error (invalid .invalidCidr "invalid IP CIDR: "
        (literal "10.0.0.010" ++ literal "/32")) := by decide +kernel
  rcases hall (literal "10.0.0.010") (by decide +kernel) with hrefused | ⟨address, haccepted⟩
  · obtain ⟨failure, hfailure⟩ := hrefused (literal "10.0.0.010") (by simp [spellings])
    rw [halone] at hfailure
    exact absurd hfailure (by simp)
  · obtain ⟨spec, hspec, -⟩ := haccepted (literal "10.0.0.010" ++ literal "/32")
      (by simp [spellings])
    rw [hslash] at hspec
    exact absurd hspec (by simp)

end Skan.Target
