import Skan.Target.Canonical

/-!
# Address texts as specifications

`parse_one` looks for a slash and for a dash before it tries an address, so an address text is a
specification of this address only if it has no dash, which a zone may have. The address functions
of the C library read up to a NUL; the digits and dots of an IPv4 specification are read to their
end (`parseOne_address_iff`).
-/

namespace Skan.Target

open Skan.Core

variable {inet : Inet} {text left right : Text} {address : IpAddress} {word : UInt32}

/-! ### Tokens -/

theorem trim_eq_self (h : ∀ c ∈ text, isBlank c = false) : trim text = text := by
  have hback : ∀ c ∈ text.reverse.head?, isBlank c = false := fun c hc ↦
    h c (List.mem_reverse.mp (List.mem_of_mem_head? hc))
  rw [trim, dropWhile_isBlank_eq_self fun c hc ↦ h c (List.mem_of_mem_head? hc),
    dropWhile_isBlank_eq_self hback, List.reverse_reverse]

theorem parseTrimmed_of_notMem {token : Text} (hne : token ≠ []) (hslash : 0x2F ∉ token)
    (hdash : 0x2D ∉ token) : parseTrimmed inet token = parseSingle inet token := by
  have hempty : token.isEmpty = false := by simpa using hne
  rw [parseTrimmed, hempty, if_neg Bool.false_ne_true, span_of_notMem hslash]
  dsimp only
  rw [span_of_notMem hdash]

/-- A token with a dash: it is refused, or read as a range, or as if it had none. -/
theorem parseTrimmed_of_dash (hleft : 0x2D ∉ left) (hslash : 0x2F ∉ left ++ 0x2D :: right) :
    parseTrimmed inet (left ++ 0x2D :: right) =
      if 0x2D ∈ right then
        .error (invalid .invalidRange "range contains more than one separator: "
          (left ++ 0x2D :: right))
      else if rangeCandidate inet (trim left) (trim right) then
        parseRange inet (left ++ 0x2D :: right) (trim left) (trim right)
      else parseSingle inet (left ++ 0x2D :: right) := by
  have hempty : (left ++ 0x2D :: right).isEmpty = false := by simp
  rw [parseTrimmed, hempty, if_neg Bool.false_ne_true, span_of_notMem hslash]
  dsimp only
  rw [span_append_cons hleft]

/-- What is read as a range is one. -/
theorem kind_of_parseRange {token : Text} {spec : TargetSpec}
    (h : parseRange inet token left right = .ok spec) :
    spec.kind = .ipv4Range ∨ spec.kind = .ipv6Range := by
  rw [parseRange] at h
  split at h
  · split_ifs at h
    · exact .inl (Except.ok.inj h ▸ rfl)
    · exact .inr (Except.ok.inj h ▸ rfl)
  · exact absurd h (by simp)

/-! ### What is read as an address -/

theorem mem_of_mem_cStr {c : UInt8} (h : c ∈ cStr text) : c ∈ text :=
  (List.takeWhile_sublist _).subset h

/-- An address is a dotted quad in front of a NUL, or it is an IPv6 address. -/
theorem parseIpAddress_cases (form : PresentationForm inet)
    (h : parseIpAddress inet text = some address) :
    (∃ word, 0x25 ∉ text ∧ inetPton4 (cStr text) = some word ∧ address = .fromIpv4 word) ∨
      address.isIpv4 = false ∧ address.isIpv6 = true ∧ 0x3A ∈ text := by
  have hcolon : ∀ {front : Text} {bytes : Bytes16}, inet.pton6 (cStr front) = some bytes →
      0x3A ∈ front := fun hbytes ↦ mem_of_mem_cStr (form.colon_mem_of_pton6 _ _ hbytes)
  by_cases hpercent : 0x25 ∈ text
  · -- only the IPv6 branch has a zone
    obtain ⟨front, zone, rfl, hfront⟩ := List.eq_append_cons_of_mem hpercent
    rw [parseIpAddress, span_append_cons hfront] at h
    dsimp only at h
    split_ifs at h
    obtain ⟨bytes, hbytes, rfl⟩ := Option.map_eq_some_iff.mp h
    exact .inr ⟨rfl, rfl, List.mem_append_left _ (hcolon hbytes)⟩
  · rw [parseIpAddress, span_of_notMem hpercent] at h
    dsimp only at h
    split at h
    · exact absurd h (by simp)
    split at h
    · next word hword => exact .inl ⟨word, hpercent, hword, (Option.some.inj h).symm⟩
    · obtain ⟨bytes, hbytes, rfl⟩ := Option.map_eq_some_iff.mp h
      exact .inr ⟨rfl, rfl, hcolon hbytes⟩

theorem ne_nil_of_parseIpAddress (h : parseIpAddress inet text = some address) : text ≠ [] := by
  rintro rfl
  exact absurd h (by simp [parseIpAddress])

/-- A dash behind a dotted quad is behind a NUL, and what is in front of it is an address too. -/
theorem parseIpAddress_of_dash (hpercent : 0x25 ∉ left ++ 0x2D :: right)
    (hword : inetPton4 (cStr (left ++ 0x2D :: right)) = some word) :
    parseIpAddress inet left = some (.fromIpv4 word) := by
  have hchar := isDigit_or_dot_of_inetPton4 hword
  have hnul : 0 ∈ left := by
    by_contra hnul
    have hall : ∀ c ∈ left, (decide (c ≠ 0)) = true := fun c hc ↦
      decide_eq_true fun heq ↦ hnul (heq ▸ hc)
    have hdash : 0x2D ∈ cStr (left ++ 0x2D :: right) := by
      rw [cStr, List.takeWhile_append_of_pos hall, List.takeWhile_cons_of_pos (by decide)]
      exact List.mem_append_right _ List.mem_cons_self
    exact (isTokenChar_of_isDigit_or_dot (hchar _ hdash)).2.1 rfl
  have hcStr : cStr (left ++ 0x2D :: right) = cStr left := by
    obtain ⟨front, rest, rfl, hfront⟩ := List.eq_append_cons_of_mem hnul
    have hall : ∀ c ∈ front, (decide (c ≠ 0)) = true := fun c hc ↦
      decide_eq_true fun heq ↦ hfront (heq ▸ hc)
    rw [List.append_assoc, List.cons_append, cStr, cStr, List.takeWhile_append_of_pos hall,
      List.takeWhile_append_of_pos hall, List.takeWhile_cons_of_neg (by decide),
      List.takeWhile_cons_of_neg (by decide)]
  have hempty : left.isEmpty = false := by simpa using List.ne_nil_of_mem hnul
  rw [parseIpAddress, span_of_notMem fun hc ↦ hpercent (List.mem_append_left _ hc)]
  dsimp only
  rw [hempty, if_neg Bool.false_ne_true, ← hcStr, hword]

/-- The text of an address with a dash looks like a range. -/
theorem rangeCandidate_of_address (form : PresentationForm inet)
    (h : parseIpAddress inet (left ++ 0x2D :: right) = some address) :
    rangeCandidate inet left right = true := by
  rcases parseIpAddress_cases form h with ⟨word, hpercent, hword, -⟩ | ⟨-, -, hcolon⟩
  · simp [rangeCandidate, parseIpAddress_of_dash hpercent hword]
  · rcases List.mem_append.mp hcolon with hleft | hright
    · simp [rangeCandidate, hleft]
    · rcases List.mem_cons.mp hright with heq | hright
      · exact absurd heq (by decide)
      · simp [rangeCandidate, hright]

/-! ### An address as a specification -/

/-- The specification of one address. -/
def literalSpec (text : Text) (address : IpAddress) : TargetSpec :=
  if address.isIpv4 then
    { original := text, firstAddress := address.ipv4Word, lastAddress := address.ipv4Word,
      firstIp := address, lastIp := address }
  else
    { kind := .ipv6, original := text, prefixLength := 128, firstIp := address, lastIp := address }

theorem literalSpec_kind (text : Text) (address : IpAddress) :
    (literalSpec text address).kind = if address.isIpv4 then .ipv4 else .ipv6 := by
  rw [literalSpec]
  split <;> rfl

theorem parseSingle_ipv6 (h : parseIpAddress inet text = some address)
    (hfour : address.isIpv4 = false) (hsix : address.isIpv6 = true) (hcolon : 0x3A ∈ text) :
    parseSingle inet text = .ok (literalSpec text address) := by
  rw [parseSingle, parseIpv4_eq_none hcolon (by decide) (by decide),
    looksLikeIpv4_eq_false hcolon (by decide) (by decide), h, Option.filter_some_pos hsix,
    literalSpec, hfour, if_neg Bool.false_ne_true, if_neg Bool.false_ne_true]

theorem parseSingle_ipv4 (h : parseIpv4 text = some word) :
    parseSingle inet text = .ok (literalSpec text (.fromIpv4 word)) := by
  have hfour : (IpAddress.fromIpv4 word).isIpv4 = true := rfl
  rw [parseSingle, h, literalSpec, hfour, if_pos rfl,
    IpAddress.ipv4Word_fromIpv4]

/-- A dotted quad with a NUL behind it is no IPv4 specification. -/
theorem parseSingle_of_nul {spec : TargetSpec}
    (h : parseIpAddress inet text = some (.fromIpv4 word)) (hnul : 0 ∈ text)
    (hspec : parseSingle inet text = .ok spec) : spec.kind = .hostname := by
  have hsix : (some (IpAddress.fromIpv4 word)).filter IpAddress.isIpv6 = none := rfl
  rw [parseSingle, parseIpv4_eq_none hnul (by decide) (by decide),
    looksLikeIpv4_eq_false hnul (by decide) (by decide), h, hsix, if_neg Bool.false_ne_true]
    at hspec
  dsimp only at hspec
  split_ifs at hspec
  obtain rfl := Except.ok.inj hspec
  rfl

/-- The text of an address is a specification of it exactly if nothing in it is taken for the
separator of a range, and the digits and dots of a dotted quad are all there is. -/
theorem parseOne_address_iff (form : PresentationForm inet) {text : Text} {address : IpAddress}
    (h : parseIpAddress inet text = some address) (hslash : 0x2F ∉ text)
    (hblank : ∀ c ∈ text, isBlank c = false) :
    parseOne inet text = .ok (literalSpec text address) ↔
      0x2D ∉ text ∧ (address.isIpv4 → 0 ∉ text) := by
  have hkind := literalSpec_kind text address
  rw [parseOne, trim_eq_self hblank]
  by_cases hdash : 0x2D ∈ text
  · refine iff_of_false (fun hspec ↦ ?_) fun hall ↦ hall.1 hdash
    obtain ⟨left, right, rfl, hleft⟩ := List.eq_append_cons_of_mem hdash
    have htrim : trim left = left ∧ trim right = right :=
      ⟨trim_eq_self fun c hc ↦ hblank c (List.mem_append_left _ hc),
        trim_eq_self fun c hc ↦ hblank c (List.mem_append_right _ (List.mem_cons_of_mem _ hc))⟩
    rw [parseTrimmed_of_dash hleft hslash, htrim.1, htrim.2, rangeCandidate_of_address form h,
      if_pos rfl] at hspec
    split_ifs at hspec with htwice
    rcases kind_of_parseRange hspec with hrange | hrange
    · rw [hrange] at hkind
      split at hkind <;> exact absurd hkind (by decide)
    · rw [hrange] at hkind
      split at hkind <;> exact absurd hkind (by decide)
  · rw [parseTrimmed_of_notMem (ne_nil_of_parseIpAddress h) hslash hdash]
    rcases parseIpAddress_cases form h with ⟨word, -, hword, rfl⟩ | ⟨hfour, hsix, hcolon⟩
    · by_cases hnul : 0 ∈ text
      · refine iff_of_false (fun hspec ↦ ?_) fun hall ↦ hall.2 rfl hnul
        rw [parseSingle_of_nul h hnul hspec, if_pos (by rfl)] at hkind
        exact absurd hkind (by decide)
      · rw [cStr_eq_self hnul] at hword
        exact iff_of_true (parseSingle_ipv4 (parseIpv4_of_inetPton4 hword)) ⟨hdash, fun _ ↦ hnul⟩
    · exact iff_of_true (parseSingle_ipv6 h hfour hsix hcolon)
        ⟨hdash, fun hall ↦ absurd hall (by simp [hfour])⟩

/-! ### A zone with a dash -/

/-- The bytes of `fe80::1`. -/
def linkLocalBytes : Bytes16 := ⟨.mk [0xFE, 0x80, 0, 0, 0, 0, 0, 0, 0, 0, 0, 0, 0, 0, 0, 1], rfl⟩

/-- A C library that knows `fe80::1`. -/
def linkLocalInet : Inet where
  ntop6 _ := []
  pton6 text :=
    if text = literal "fe80::1" then some linkLocalBytes else none
  ifNametoindex _ := 0

theorem linkLocalInet_presentationForm : PresentationForm linkLocalInet := by
  have htext : ∀ text bytes, linkLocalInet.pton6 text = some bytes →
      text = literal "fe80::1" := by
    intro text bytes h
    simp only [linkLocalInet] at h
    split at h
    · assumption
    · exact absurd h (by simp)
  constructor
  · intro text bytes h
    obtain rfl := htext text bytes h
    decide +kernel
  · intro text bytes h
    obtain rfl := htext text bytes h
    decide +kernel

def linkLocal (zone : Text) : IpAddress :=
  { IpAddress.fromIpv6 linkLocalBytes with scope := some zone }

theorem parseOne_address_linkLocal :
    parseIpAddress linkLocalInet (literal "fe80::1%eth0") = some (linkLocal (literal "eth0")) ∧
      parseOne linkLocalInet (literal "fe80::1%eth0") =
        .ok (literalSpec (literal "fe80::1%eth0") (linkLocal (literal "eth0"))) :=
  have h : parseIpAddress linkLocalInet (literal "fe80::1%eth0") =
      some (linkLocal (literal "eth0")) := by decide +kernel
  ⟨h, (parseOne_address_iff linkLocalInet_presentationForm h (by decide +kernel)
    (by decide +kernel)).mpr ⟨by decide +kernel, by decide +kernel⟩⟩

/-- `fe80::1%wlan-0` is an address, and no specification. -/
theorem parseOne_address_dashedZone :
    ¬ ∀ text address, parseIpAddress linkLocalInet text = some address → 0x2C ∉ text →
      0x2F ∉ text → (∀ c ∈ text, isBlank c = false) →
        parseOne linkLocalInet text = .ok (literalSpec text address) := by
  intro hall
  have hspec := hall (literal "fe80::1%wlan-0") (linkLocal (literal "wlan-0")) (by decide +kernel)
    (by decide +kernel) (by decide +kernel) (by decide +kernel)
  have herror : parseOne linkLocalInet (literal "fe80::1%wlan-0") =
      .error (invalid .invalidRange "invalid or mixed-family IP range: "
        (literal "fe80::1%wlan-0")) := by decide +kernel
  rw [herror] at hspec
  exact absurd hspec (by simp)

end Skan.Target
