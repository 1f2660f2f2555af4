import Skan.Library.Strings
import Skan.Target.Literals

/-!
# Hostnames as specifications

A hostname may have any number of hyphens, and `parse_one` takes the first one it finds for the
separator of a range. A hostname with one hyphen gets past this unless what is in front of the
hyphen looks like an IPv4 address; one with two never does (`parseOne_hostname_iff`). What is behind
the hyphen never looks like an address, since the last label of the name has a letter.
-/

namespace Skan.Target

open Skan.Core

variable {inet : Inet} {hostname text : Text} {c : UInt8}

/-! ### The characters of a hostname -/

section

variable (h : validHostname hostname)

include h

/-- Letters, digits, hyphens and dots. -/
theorem char_of_validHostname (hc : c ∈ hostname) :
    isAlpha c = true ∨ isDigit c = true ∨ c = 0x2D ∨ c = 0x2E := by
  simp only [validHostname, Bool.and_eq_true, List.all_eq_true] at h
  by_cases hdot : c = 0x2E
  · exact .inr (.inr (.inr hdot))
  obtain ⟨label, hlabel, hmem⟩ := exists_mem_splitOn hdot hc
  have hvalid := h.2 label hlabel
  simp only [validLabel, Bool.and_eq_true, List.all_eq_true, Bool.or_eq_true,
    decide_eq_true_eq] at hvalid
  have hchar := hvalid.2 c hmem
  tauto

/-- So a hostname has no blank, no separator of blocks, zones or IPv6 addresses, and no NUL. -/
theorem notMem_of_validHostname (hc : isAlpha c = false ∧ isDigit c = false ∧ c ≠ 0x2D ∧ c ≠ 0x2E) :
    c ∉ hostname := by
  intro hmem
  rcases char_of_validHostname h hmem with halpha | hdigit | hdash | hdot
  · exact absurd halpha (by simp [hc.1])
  · exact absurd hdigit (by simp [hc.2.1])
  · exact hc.2.2.1 hdash
  · exact hc.2.2.2 hdot

theorem isBlank_of_validHostname : ∀ c ∈ hostname, isBlank c = false := by
  intro c hc
  by_contra hblank
  rw [Bool.not_eq_false, isBlank] at hblank
  simp only [Bool.or_eq_true, decide_eq_true_eq] at hblank
  rcases hblank with ((rfl | rfl) | rfl) | rfl <;>
    exact notMem_of_validHostname h (by decide) hc

end

/-! ### The last label -/

/-- The last label of a hostname has a letter. -/
def AlphaLabel (hostname : Text) : Prop :=
  ∃ label, (hostname.splitOn 0x2E).getLast? = some label ∧ ∃ c ∈ label, isAlpha c

theorem not_isDigit_of_isAlpha (h : isAlpha c) : isDigit c = false ∧ c ≠ 0x2E := by
  simp only [isAlpha, isDigit, Bool.and_eq_true, Bool.or_eq_true, Bool.and_eq_false_iff,
    decide_eq_true_eq, decide_eq_false_iff_not, UInt8.le_iff_toNat_le, ne_eq, ← UInt8.toNat_inj,
    UInt8.reduceToNat] at h ⊢
  omega

theorem AlphaLabel.exists_mem (h : AlphaLabel hostname) : ∃ c ∈ hostname, isAlpha c := by
  obtain ⟨label, hlast, c, hc, halpha⟩ := h
  exact ⟨c, (Strings.of_mem_splitOn (List.mem_of_getLast? hlast) hc).1, halpha⟩

/-- What is behind a dot ends in the last label. -/
theorem AlphaLabel.of_append {front back : Text} (h : AlphaLabel (front ++ 0x2E :: back)) :
    AlphaLabel back := by
  obtain ⟨label, hlast, hletter⟩ := h
  rw [List.splitOn_append_cons_self, List.getLast?_append_of_ne_nil _ (List.splitOn_ne_nil _ _)]
    at hlast
  exact ⟨label, hlast, hletter⟩

/-- No end of such a hostname looks like an IPv4 address. -/
theorem AlphaLabel.looksLikeIpv4_eq_false {front back : Text} (h : AlphaLabel (front ++ back)) :
    looksLikeIpv4 back = false := by
  by_cases hdot : 0x2E ∈ back
  · obtain ⟨inner, rest, rfl⟩ := List.append_of_mem hdot
    rw [← List.append_assoc] at h
    obtain ⟨c, hc, halpha⟩ := h.of_append.exists_mem
    exact Target.looksLikeIpv4_eq_false
      (List.mem_append_right _ (List.mem_cons_of_mem _ hc)) (not_isDigit_of_isAlpha halpha).1
      (not_isDigit_of_isAlpha halpha).2
  · rw [looksLikeIpv4, decide_eq_false hdot, Bool.and_false, Bool.false_and]

/-! ### What is no address -/

/-- A component that can be read has digits only, and has some. -/
theorem isDigit_of_parseOctet {component : Text} {octet : UInt32}
    (h : parseOctet component = some octet) : component ≠ [] ∧ ∀ c ∈ component, isDigit c := by
  refine ⟨?_, fun c hc ↦ ?_⟩
  · rintro rfl
    exact absurd h (by simp [parseOctet])
  · by_contra hdigit
    rw [parseOctet_eq_none hc (by simpa using hdigit)] at h
    exact absurd h (by simp)

/-- What `parse_ipv4` reads has four components. -/
theorem components_of_parseIpv4 {word : UInt32} (h : parseIpv4 text = some word) :
    ∃ a b c d, (text.splitOn 0x2E).map parseOctet = [some a, some b, some c, some d] ∧
      word = ((a <<< 8 ||| b) <<< 8 ||| c) <<< 8 ||| d := by
  rw [parseIpv4] at h
  split at h
  · next a b c d hcomponents => exact ⟨a, b, c, d, hcomponents, (Option.some.inj h).symm⟩
  · exact absurd h (by simp)

/-- What `parse_ipv4` reads looks like an IPv4 address. -/
theorem looksLikeIpv4_of_parseIpv4 {word : UInt32} (h : parseIpv4 text = some word) :
    looksLikeIpv4 text = true := by
  have hall : text.all (fun c ↦ c = 0x2E || isDigit c) = true := by
    rw [List.all_eq_true]
    intro c hc
    by_contra hother
    simp only [Bool.or_eq_true, decide_eq_true_eq, not_or] at hother
    rw [parseIpv4_eq_none hc (by simpa using hother.2) hother.1] at h
    exact absurd h (by simp)
  obtain ⟨a, b, c, d, hcomponents, -⟩ := components_of_parseIpv4 h
  have hdot : 0x2E ∈ text := by
    by_contra hnot
    rw [List.splitOn_eq_singleton hnot] at hcomponents
    exact absurd hcomponents (by simp)
  have hdigit : text.any isDigit = true := by
    obtain ⟨component, hmem, hread⟩ := List.mem_map.mp (hcomponents ▸ List.mem_cons_self)
    obtain ⟨hne, hdigits⟩ := isDigit_of_parseOctet hread
    obtain ⟨digit, hd⟩ := List.exists_mem_of_ne_nil _ hne
    exact List.any_eq_true.mpr ⟨digit, (Strings.of_mem_splitOn hmem hd).1, hdigits digit hd⟩
  rw [looksLikeIpv4, hall, hdigit, decide_eq_true hdot]
  rfl

/-- Without a colon or a NUL, only dotted quads are addresses. -/
theorem parseIpAddress_eq_none (form : PresentationForm inet) (hcolon : 0x3A ∉ text)
    (hnul : 0 ∉ text) (hlooks : looksLikeIpv4 text = false) : parseIpAddress inet text = none := by
  by_contra hsome
  obtain ⟨address, haddress⟩ := Option.ne_none_iff_exists'.mp hsome
  rcases parseIpAddress_cases form haddress with ⟨word, -, hword, -⟩ | ⟨-, -, hmem⟩
  · rw [cStr_eq_self hnul] at hword
    rw [looksLikeIpv4_of_parseIpv4 (parseIpv4_of_inetPton4 hword)] at hlooks
    exact absurd hlooks (by simp)
  · exact hcolon hmem

/-! ### A hostname as a specification -/

def hostnameSpec (hostname : Text) : TargetSpec :=
  { kind := .hostname, original := hostname, prefixLength := 0, hostname }

/-- What is no address and does not look like one is a hostname or nothing. -/
theorem parseSingle_of_none (hipv4 : parseIpv4 text = none) (hlooks : looksLikeIpv4 text = false)
    (hnone : parseIpAddress inet text = none) (hpercent : 0x25 ∉ text) (hcolon : 0x3A ∉ text) :
    parseSingle inet text =
      if validHostname text then .ok (hostnameSpec text)
      else .error (invalid .invalidHostname "invalid hostname: " text) := by
  rw [parseSingle, hipv4, hlooks, hnone, if_neg Bool.false_ne_true]
  dsimp only [Option.filter_none]
  rw [if_neg hpercent, if_neg hcolon]
  cases validHostname text with
  | true => rfl
  | false => rfl

theorem parseSingle_hostname (form : PresentationForm inet) (h : validHostname hostname)
    (hlabel : AlphaLabel hostname) : parseSingle inet hostname = .ok (hostnameSpec hostname) := by
  obtain ⟨c, hc, halpha⟩ := hlabel.exists_mem
  obtain ⟨hdigit, hdot⟩ := not_isDigit_of_isAlpha halpha
  have hlooks := Target.looksLikeIpv4_eq_false hc hdigit hdot
  have hcolon : 0x3A ∉ hostname := notMem_of_validHostname h (by decide)
  have hpercent : 0x25 ∉ hostname := notMem_of_validHostname h (by decide)
  have hnone := parseIpAddress_eq_none form hcolon (notMem_of_validHostname h (by decide)) hlooks
  rw [parseSingle_of_none (parseIpv4_eq_none hc hdigit hdot) hlooks hnone hpercent hcolon,
    if_pos h]

/-- A hostname is a specification of itself exactly if it has at most one hyphen, and what is in
front of this does not look like an IPv4 address. -/
theorem parseOne_hostname_iff (form : PresentationForm inet) {hostname : Text}
    (h : validHostname hostname) (hlabel : AlphaLabel hostname) :
    parseOne inet hostname = .ok (hostnameSpec hostname) ↔
      hostname.count 0x2D ≤ 1 ∧ looksLikeIpv4 (hostname.takeWhile (· ≠ 0x2D)) = false := by
  have hne : hostname ≠ [] := by
    obtain ⟨c, hc, -⟩ := hlabel.exists_mem
    exact List.ne_nil_of_mem hc
  have hslash : 0x2F ∉ hostname := notMem_of_validHostname h (by decide)
  have hblank := isBlank_of_validHostname h
  rw [parseOne, trim_eq_self hblank]
  by_cases hdash : 0x2D ∈ hostname
  · obtain ⟨left, right, rfl, hleft⟩ := List.eq_append_cons_of_mem hdash
    have htrim : trim left = left ∧ trim right = right :=
      ⟨trim_eq_self fun c hc ↦ hblank c (List.mem_append_left _ hc),
        trim_eq_self fun c hc ↦ hblank c (List.mem_append_right _ (List.mem_cons_of_mem _ hc))⟩
    have hfront : (left ++ 0x2D :: right).takeWhile (· ≠ 0x2D) = left := by
      have hspan := span_append_cons hleft right
      rw [List.span_eq_takeWhile_dropWhile] at hspan
      exact congrArg Prod.fst hspan
    have hright : looksLikeIpv4 right = false := by
      refine @AlphaLabel.looksLikeIpv4_eq_false (left ++ [0x2D]) right ?_
      rwa [List.append_assoc, List.singleton_append]
    have hsides {c : UInt8} (hc : c ∉ left ++ 0x2D :: right) : c ∉ left ∧ c ∉ right :=
      ⟨fun hmem ↦ hc (List.mem_append_left _ hmem),
        fun hmem ↦ hc (List.mem_append_right _ (List.mem_cons_of_mem _ hmem))⟩
    have hcolon := hsides (notMem_of_validHostname h (c := 0x3A) (by decide))
    have hnul := hsides (notMem_of_validHostname h (c := 0) (by decide))
    have hcount : (left ++ 0x2D :: right).count 0x2D ≤ 1 ↔ 0x2D ∉ right := by
      rw [List.count_append, List.count_cons_self, List.count_eq_zero_of_not_mem hleft,
        ← List.count_eq_zero]
      omega
    rw [parseTrimmed_of_dash hleft hslash, htrim.1, htrim.2, hcount, hfront]
    by_cases htwice : 0x2D ∈ right
    · rw [if_pos htwice]
      exact iff_of_false (by simp) fun hall ↦ hall.1 htwice
    rw [if_neg htwice]
    have hnone := parseIpAddress_eq_none form hcolon.2 hnul.2 hright
    cases hlooks : looksLikeIpv4 left with
    | true =>
      have hcandidate : rangeCandidate inet left right = true := by simp [rangeCandidate, hlooks]
      rw [if_pos hcandidate]
      refine iff_of_false (fun hspec ↦ ?_) fun hall ↦ absurd hall.2 (by simp)
      have hkind : (hostnameSpec (left ++ 0x2D :: right)).kind = .hostname := rfl
      rcases kind_of_parseRange hspec with hrange | hrange
      · exact absurd (hkind.symm.trans hrange) (by decide)
      · exact absurd (hkind.symm.trans hrange) (by decide)
    | false =>
      have hcandidate : rangeCandidate inet left right = false := by
        simp [rangeCandidate, hlooks, hright, hnone, hcolon,
          parseIpAddress_eq_none form hcolon.1 hnul.1 hlooks]
      rw [hcandidate, if_neg Bool.false_ne_true]
      exact iff_of_true (parseSingle_hostname form h hlabel) ⟨htwice, rfl⟩
  · have hfront : hostname.takeWhile (· ≠ 0x2D) = hostname := by
      have hspan := span_of_notMem hdash
      rw [List.span_eq_takeWhile_dropWhile] at hspan
      exact congrArg Prod.fst hspan
    have hlooks : looksLikeIpv4 hostname = false :=
      @AlphaLabel.looksLikeIpv4_eq_false [] hostname hlabel
    rw [parseTrimmed_of_notMem hne hslash hdash, List.count_eq_zero_of_not_mem hdash, hfront]
    exact iff_of_true (parseSingle_hostname form h hlabel) ⟨by omega, hlooks⟩

/-- `xn--a.example`, the encoding of a name in another script, has two hyphens in one label. -/
theorem parseOne_hostname_punycode :
    ¬ ∀ hostname, validHostname hostname → AlphaLabel hostname →
      parseOne linkLocalInet hostname = .ok (hostnameSpec hostname) := by
  intro hall
  have hspec := hall (literal "xn--a.example") (by decide +kernel)
    ⟨literal "example", by decide +kernel, 0x65, by decide +kernel, by decide +kernel⟩
  have herror : parseOne linkLocalInet (literal "xn--a.example") =
      .error (invalid .invalidRange "range contains more than one separator: "
        (literal "xn--a.example")) := by decide +kernel
  rw [herror] at hspec
  exact absurd hspec (by simp)

theorem parseOne_hostname_one :
    validHostname (literal "web-1.example") ∧
      parseOne linkLocalInet (literal "web-1.example") =
        .ok (hostnameSpec (literal "web-1.example")) :=
  have hvalid : validHostname (literal "web-1.example") := by decide +kernel
  ⟨hvalid, (parseOne_hostname_iff linkLocalInet_presentationForm hvalid
    ⟨literal "example", by decide +kernel, 0x65, by decide +kernel, by decide +kernel⟩).mpr
      (by decide +kernel)⟩

end Skan.Target
