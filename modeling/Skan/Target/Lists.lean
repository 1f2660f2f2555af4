import Skan.Target.Texts

/-!
# Lists of literals, blocks and ranges

The inputs whose meaning is a set of addresses: a `TargetItem` is a literal, a CIDR block or an
inclusive range, with the texts it is written with and the proofs that these are well formed; a list
is written with commas, and blanks around the items (`listText`). `TargetItem.addresses` is what an
item means, and `TargetItem.spec` what the parser makes of it.

`parse_listText` is the connection: the parser reads a list back item by item. It needs one
condition (`TargetItem.DashFree`): `parse_one` looks for a dash before it looks for a literal, so
the zone of a literal or of a range end must not contain one. -/

namespace Skan.Core.IpAddress

/-- The addresses that share the first `prefixLength` bits with `a`. -/
def block (a : IpAddress) (prefixLength : ℕ) : Set IpAddress :=
  {c | c.Canonical ∧ c.family = a.family ∧ c.scope = a.scope ∧
    c.number / 2 ^ (a.width - prefixLength) = a.number / 2 ^ (a.width - prefixLength)}

/-- The addresses from `first` up to and including `last`. -/
def interval (first last : IpAddress) : Set IpAddress :=
  {c | c.Canonical ∧ c.family = first.family ∧ c.scope = first.scope ∧
    first.number ≤ c.number ∧ c.number ≤ last.number}

theorem block_eq_segment (a : IpAddress) (prefixLength : ℕ) :
    a.block prefixLength = a.segment
      (a.number / 2 ^ (a.width - prefixLength) * 2 ^ (a.width - prefixLength))
      (2 ^ (a.width - prefixLength)) := by
  have hpos : 0 < 2 ^ (a.width - prefixLength) := by positivity
  ext c
  simp only [block, segment, Set.mem_ofPred_eq, Nat.div_eq_iff hpos]
  refine and_congr_right fun _ ↦ and_congr_right fun _ ↦ and_congr_right fun _ ↦ ?_
  rw [Nat.mul_comm]
  omega

theorem interval_eq_segment {first last : IpAddress} (h : first.number ≤ last.number) :
    first.interval last = first.segment first.number (last.number - first.number + 1) := by
  ext c
  simp only [interval, segment, Set.mem_ofPred_eq]
  refine and_congr_right fun _ ↦ and_congr_right fun _ ↦ and_congr_right fun _ ↦ ?_
  omega

end Skan.Core.IpAddress

namespace Skan.Target

open Skan.Core

variable (inet : Inet)

/-- A literal, a block or a range, as it is written. -/
inductive TargetItem where
  | literal (address : AddressText inet)
  | cidr (address : AddressText inet) (prefixText : Text) (ne_nil : prefixText ≠ [])
    (isDigit : prefixText.all isDigit) (le_width : decimalValue prefixText ≤ address.address.width)
  | range (first last : AddressText inet) (before after : Text)
    (isBlank : before.all isBlank ∧ after.all isBlank)
    (family_eq : first.address.family = last.address.family)
    (scope_eq : first.address.scope = last.address.scope)
    (number_le : first.address.number ≤ last.address.number)

/-- An item of a list, between blanks. -/
structure ListedItem where
  before : Text
  item : TargetItem inet
  after : Text
  isBlank : before.all isBlank ∧ after.all isBlank

variable {inet}

namespace TargetItem

def text : TargetItem inet → Text
  | literal address => address.text
  | cidr address prefixText .. => address.text ++ 0x2F :: prefixText
  | range first last before after .. => first.text ++ (before ++ 0x2D :: (after ++ last.text))

/-- The addresses an item denotes. -/
def addresses : TargetItem inet → Set IpAddress
  | literal address => {address.address}
  | cidr address prefixText .. => address.address.block (decimalValue prefixText)
  | range first last .. => first.address.interval last.address

/-- No zone of a literal or of a range end contains a dash. -/
def DashFree : TargetItem inet → Prop
  | literal address => ∀ zone ∈ address.address.scope, 0x2D ∉ zone
  | cidr .. => True
  | range first last .. => (∀ zone ∈ first.address.scope, 0x2D ∉ zone) ∧
      ∀ zone ∈ last.address.scope, 0x2D ∉ zone

/-- A range of IPv6 addresses whose ends differ in the first eight bytes. -/
def Crosses : TargetItem inet → Prop
  | range first last .. => first.address.isIpv6 ∧
      first.address.bytes.toList.take 8 ≠ last.address.bytes.toList.take 8
  | _ => False

/-- The specification the parser makes of an item. -/
def spec (item : TargetItem inet) : TargetSpec :=
  match item with
  | literal address =>
    if address.address.isIpv4 then
      { original := item.text, firstAddress := address.address.ipv4Word,
        lastAddress := address.address.ipv4Word, firstIp := address.address,
        lastIp := address.address }
    else
      { kind := .ipv6, original := item.text, prefixLength := 128, firstIp := address.address,
        lastIp := address.address }
  | cidr address prefixText .. =>
    if address.address.isIpv4 then
      { kind := .ipv4Cidr, original := item.text, firstAddress := address.address.ipv4Word,
        lastAddress := address.address.ipv4Word,
        prefixLength := UInt8.ofNat (decimalValue prefixText), firstIp := address.address,
        lastIp := address.address }
    else
      { kind := .ipv6Cidr, original := item.text,
        prefixLength := UInt8.ofNat (decimalValue prefixText), firstIp := address.address,
        lastIp := address.address }
  | range first last .. =>
    if first.address.isIpv4 then
      { kind := .ipv4Range, original := item.text, firstAddress := first.address.ipv4Word,
        lastAddress := last.address.ipv4Word, firstIp := first.address, lastIp := last.address }
    else
      { kind := .ipv6Range, original := item.text, prefixLength := 128, firstIp := first.address,
        lastIp := last.address }

end TargetItem

def ListedItem.text (entry : ListedItem inet) : Text :=
  entry.before ++ entry.item.text ++ entry.after

/-- A comma-separated list. -/
def listText (entries : List (ListedItem inet)) : Text :=
  [0x2C].intercalate (entries.map ListedItem.text)

/-- The union of the sets the items denote. -/
def denoted (entries : List (ListedItem inet)) : Set IpAddress :=
  {address | ∃ entry ∈ entries, address ∈ entry.item.addresses}

/-! ### Reading an item back -/

theorem IsAddressText.of_isIpv4 {text : Text} {address : IpAddress}
    (h : IsAddressText inet text address) (hfour : address.isIpv4) :
    parseIpv4 text = some address.ipv4Word ∧ address = .fromIpv4 address.ipv4Word := by
  cases h with
  | ipv4 hquad =>
    rw [IpAddress.ipv4Word_fromIpv4]
    exact ⟨parseIpv4_of_inetPton4 hquad, rfl⟩
  | ipv6 hsix => exact absurd hfour Bool.false_ne_true
  | zoned hsix => exact absurd hfour Bool.false_ne_true

theorem IsAddressText.of_not_isIpv4 (form : PresentationForm inet) {text : Text}
    {address : IpAddress} (h : IsAddressText inet text address)
    (hfour : address.isIpv4 = false) : address.isIpv6 = true ∧ 0x3A ∈ text := by
  cases h with
  | ipv4 hquad => exact absurd hfour.symm Bool.false_ne_true
  | ipv6 hsix => exact ⟨rfl, form.colon_mem_of_pton6 _ _ hsix⟩
  | zoned hsix =>
    exact ⟨rfl, List.mem_append_left _ (form.colon_mem_of_pton6 _ _ hsix)⟩

theorem notMem_of_all_isTokenChar {text : Text} (h : ∀ c ∈ text, isTokenChar c) :
    0x2C ∉ text ∧ 0x2F ∉ text :=
  ⟨fun hc ↦ absurd (h _ hc) (by decide), fun hc ↦ absurd (h _ hc) (by decide)⟩

theorem notMem_of_all_isBlank {text : Text} (h : text.all isBlank) :
    0x2C ∉ text ∧ 0x2F ∉ text ∧ 0x2D ∉ text := by
  have hchar := List.all_eq_true.mp h
  exact ⟨fun hc ↦ absurd (hchar _ hc) (by decide), fun hc ↦ absurd (hchar _ hc) (by decide),
    fun hc ↦ absurd (hchar _ hc) (by decide)⟩

theorem notMem_of_all_isDigit {text : Text} (h : text.all isDigit) :
    0x2C ∉ text ∧ 0x2F ∉ text := by
  have hchar := List.all_eq_true.mp h
  exact ⟨fun hc ↦ absurd (hchar _ hc) (by decide), fun hc ↦ absurd (hchar _ hc) (by decide)⟩

section

variable (form : PresentationForm inet)

include form

/-- A literal is parsed as itself. -/
theorem parseSingle_literal (a : AddressText inet) :
    parseSingle inet a.text = .ok (TargetItem.literal a).spec := by
  have hparse := a.isAddressText.parseIpAddress_eq form
  rw [TargetItem.spec, parseSingle]
  cases hfour : a.address.isIpv4 with
  | true =>
    obtain ⟨hquad, haddress⟩ := a.isAddressText.of_isIpv4 hfour
    rw [hquad, if_pos rfl]
    simp only [TargetItem.text]
    rw [← haddress]
  | false =>
    obtain ⟨hsix, hcolon⟩ := a.isAddressText.of_not_isIpv4 form hfour
    rw [parseIpv4_eq_none hcolon (by decide) (by decide),
      looksLikeIpv4_eq_false hcolon (by decide) (by decide), hparse,
      Option.filter_some_pos hsix, if_neg Bool.false_ne_true, if_neg Bool.false_ne_true]
    rfl

/-- A block is parsed as itself. -/
theorem parseCidr_cidr (a : AddressText inet) {prefixText : Text} (hne : prefixText ≠ [])
    (hdigits : prefixText.all isDigit) (hwidth : decimalValue prefixText ≤ a.address.width) :
    parseCidr inet (TargetItem.cidr a prefixText hne hdigits hwidth).text a.text prefixText =
      .ok (TargetItem.cidr a prefixText hne hdigits hwidth).spec := by
  have hparse := a.isAddressText.parseIpAddress_eq form
  rw [IpAddress.width] at hwidth
  have hfits : decimalValue prefixText < 2 ^ 32 := by
    split at hwidth <;> omega
  rw [TargetItem.spec, parseCidr, if_neg (notMem_of_all_isDigit hdigits).2,
    fromCharsWhole_eq hne hdigits hfits, hparse]
  cases hfour : a.address.isIpv4 with
  | true =>
    rw [hfour, if_pos rfl] at hwidth
    obtain ⟨hquad, haddress⟩ := a.isAddressText.of_isIpv4 hfour
    simp [hfour, hquad, hwidth]
  | false =>
    rw [hfour, if_neg Bool.false_ne_true] at hwidth
    have hsix := (a.isAddressText.of_not_isIpv4 form hfour).1
    simp [hfour, hsix, hwidth]

/-- A range is parsed as itself. -/
theorem parseRange_range (first last : AddressText inet) {before after : Text}
    (hblank : before.all isBlank ∧ after.all isBlank)
    (hfamily : first.address.family = last.address.family)
    (hscope : first.address.scope = last.address.scope)
    (hle : first.address.number ≤ last.address.number) :
    let item := TargetItem.range first last before after hblank hfamily hscope hle
    parseRange inet item.text first.text last.text = .ok item.spec := by
  have hnot : last.address.lt first.address = false := by
    rw [Bool.eq_false_iff]
    intro hlt
    have hnumber := (IpAddress.lt_iff_number_lt hfamily.symm hscope.symm).mp hlt
    omega
  dsimp only
  rw [TargetItem.spec, parseRange, first.isAddressText.parseIpAddress_eq form,
    last.isAddressText.parseIpAddress_eq form]
  cases hfour : first.address.isIpv4 with
  | true => simp [hfamily, hscope, hnot, hfour]
  | false => simp [hfamily, hscope, hnot, hfour]

end

/-- A text whose characters are all in tokens neither starts nor ends with a blank. -/
theorem not_isBlank_of_isTokenChar {text : Text} (h : ∀ c ∈ text, isTokenChar c) :
    (∀ c ∈ text.head?, isBlank c = false) ∧ ∀ c ∈ text.getLast?, isBlank c = false :=
  ⟨fun _ hc ↦ (isBlank_of_isTokenChar (h _ (List.mem_of_mem_head? hc))).1,
    fun _ hc ↦ (isBlank_of_isTokenChar (h _ (List.mem_of_mem_getLast? hc))).1⟩

/-- The parser reads a trimmed item. -/
theorem parseTrimmed_text (form : PresentationForm inet) (item : TargetItem inet)
    (hdash : item.DashFree) : parseTrimmed inet item.text = .ok item.spec := by
  cases item with
  | literal a =>
    have htoken := a.isAddressText.isTokenChar form
    have hempty : a.text.isEmpty = false := by simpa using a.isAddressText.ne_nil form
    show parseTrimmed inet a.text = _
    rw [parseTrimmed, hempty, if_neg Bool.false_ne_true,
      span_of_notMem (notMem_of_all_isTokenChar htoken).2]
    dsimp only
    rw [span_of_notMem (a.isAddressText.dash_notMem form hdash)]
    exact parseSingle_literal form a
  | cidr a prefixText hne hdigits hwidth =>
    have htoken := a.isAddressText.isTokenChar form
    have hempty : (a.text ++ 0x2F :: prefixText).isEmpty = false := by simp
    show parseTrimmed inet (a.text ++ 0x2F :: prefixText) = _
    rw [parseTrimmed, hempty, if_neg Bool.false_ne_true,
      span_append_cons (notMem_of_all_isTokenChar htoken).2]
    exact parseCidr_cidr form a hne hdigits hwidth
  | range first last before after hblank hfamily hscope hle =>
    have hfirst := first.isAddressText.isTokenChar form
    have hlast := last.isAddressText.isTokenChar form
    have hbefore := notMem_of_all_isBlank hblank.1
    have hafter := notMem_of_all_isBlank hblank.2
    have hfirstDash := first.isAddressText.dash_notMem form hdash.1
    have hlastDash := last.isAddressText.dash_notMem form hdash.2
    have hslash : 0x2F ∉ first.text ++ (before ++ 0x2D :: (after ++ last.text)) := by
      simp [(notMem_of_all_isTokenChar hfirst).2, (notMem_of_all_isTokenChar hlast).2, hbefore.2.1,
        hafter.2.1]
    have hleft : 0x2D ∉ first.text ++ before := by simp [hfirstDash, hbefore.2.2]
    have hright : 0x2D ∉ after ++ last.text := by simp [hlastDash, hafter.2.2]
    have htrimLeft : trim (first.text ++ before) = first.text :=
      trim_padded List.all_nil hblank.1 (not_isBlank_of_isTokenChar hfirst).1
        (not_isBlank_of_isTokenChar hfirst).2
    have htrimRight : trim (after ++ last.text) = last.text := by
      have h := trim_padded hblank.2 List.all_nil (not_isBlank_of_isTokenChar hlast).1
        (not_isBlank_of_isTokenChar hlast).2
      rwa [List.append_nil] at h
    have hcandidate : rangeCandidate inet first.text last.text = true := by
      rw [rangeCandidate, first.isAddressText.parseIpAddress_eq form]
      rfl
    have hempty : (first.text ++ (before ++ 0x2D :: (after ++ last.text))).isEmpty = false := by
      simp
    show parseTrimmed inet (first.text ++ (before ++ 0x2D :: (after ++ last.text))) = _
    rw [parseTrimmed, hempty, if_neg Bool.false_ne_true, span_of_notMem hslash]
    dsimp only
    rw [← List.append_assoc, span_append_cons hleft]
    dsimp only
    rw [if_neg hright, htrimLeft, htrimRight, hcandidate, if_pos rfl, List.append_assoc]
    exact parseRange_range form first last hblank hfamily hscope hle

theorem not_isBlank_append {front back : Text} (middle : Text) (hfront : front ≠ [])
    (hback : back ≠ []) (hf : ∀ c ∈ front, isTokenChar c) (hb : ∀ c ∈ back, isTokenChar c) :
    (∀ c ∈ (front ++ (middle ++ back)).head?, isBlank c = false) ∧
      ∀ c ∈ (front ++ (middle ++ back)).getLast?, isBlank c = false := by
  rw [List.head?_append_of_ne_nil _ hfront, ← List.append_assoc,
    List.getLast?_append_of_ne_nil _ hback]
  exact ⟨(not_isBlank_of_isTokenChar hf).1, (not_isBlank_of_isTokenChar hb).2⟩

theorem isTokenChar_of_all_isDigit {text : Text} (h : text.all isDigit) :
    ∀ c ∈ text, isTokenChar c :=
  fun c hc ↦ (isTokenChar_of_isDigit_or_dot (.inl (List.all_eq_true.mp h c hc))).1

section

variable (form : PresentationForm inet)

include form

/-- An item neither starts nor ends with a blank. -/
theorem TargetItem.not_isBlank (item : TargetItem inet) :
    (∀ c ∈ item.text.head?, isBlank c = false) ∧
      ∀ c ∈ item.text.getLast?, isBlank c = false := by
  cases item with
  | literal a => exact not_isBlank_of_isTokenChar (a.isAddressText.isTokenChar form)
  | cidr a prefixText hne hdigits hwidth =>
    exact not_isBlank_append [0x2F] (a.isAddressText.ne_nil form) hne
      (a.isAddressText.isTokenChar form) (isTokenChar_of_all_isDigit hdigits)
  | range first last before after hblank hfamily hscope hle =>
    have hends := not_isBlank_append (before ++ 0x2D :: after) (first.isAddressText.ne_nil form)
      (last.isAddressText.ne_nil form) (first.isAddressText.isTokenChar form)
      (last.isAddressText.isTokenChar form)
    rwa [List.append_assoc, List.cons_append] at hends

/-- No item has a comma in it. -/
theorem TargetItem.comma_notMem (item : TargetItem inet) : 0x2C ∉ item.text := by
  cases item with
  | literal a => exact (notMem_of_all_isTokenChar (a.isAddressText.isTokenChar form)).1
  | cidr a prefixText hne hdigits hwidth =>
    simp [TargetItem.text, (notMem_of_all_isTokenChar (a.isAddressText.isTokenChar form)).1,
      (notMem_of_all_isDigit hdigits).1]
  | range first last before after hblank hfamily hscope hle =>
    simp [TargetItem.text, (notMem_of_all_isTokenChar (first.isAddressText.isTokenChar form)).1,
      (notMem_of_all_isTokenChar (last.isAddressText.isTokenChar form)).1,
      (notMem_of_all_isBlank hblank.1).1, (notMem_of_all_isBlank hblank.2).1]

theorem TargetItem.text_ne_nil (item : TargetItem inet) : item.text ≠ [] := by
  cases item with
  | literal a => exact a.isAddressText.ne_nil form
  | cidr => simp [TargetItem.text]
  | range => simp [TargetItem.text]

theorem ListedItem.trim_text (entry : ListedItem inet) : trim entry.text = entry.item.text :=
  trim_padded entry.isBlank.1 entry.isBlank.2 (entry.item.not_isBlank form).1
    (entry.item.not_isBlank form).2

theorem ListedItem.comma_notMem (entry : ListedItem inet) : 0x2C ∉ entry.text := by
  simp [ListedItem.text, entry.item.comma_notMem form, (notMem_of_all_isBlank entry.isBlank.1).1,
    (notMem_of_all_isBlank entry.isBlank.2).1]

/-- **Lists are read back.** The parser makes of a list the specifications of its items. -/
theorem parse_listText {entries : List (ListedItem inet)} (hne : entries ≠ [])
    (hdash : ∀ entry ∈ entries, entry.item.DashFree) :
    parse inet (listText entries) = .ok (entries.map fun entry ↦ entry.item.spec) := by
  have htokens : ((trim (listText entries)).splitOn 0x2C).map trim =
      entries.map fun entry ↦ entry.item.text := by
    have hsplit : (listText entries).splitOn 0x2C = entries.map ListedItem.text := by
      refine List.splitOn_intercalate _ (fun token htoken ↦ ?_) (by simpa using hne)
      obtain ⟨entry, -, rfl⟩ := List.mem_map.mp htoken
      exact entry.comma_notMem form
    rw [map_trim_splitOn_trim, hsplit, List.map_map]
    exact List.map_congr_left fun entry _ ↦ entry.trim_text form
  have hnonempty : (trim (listText entries)).isEmpty = false := by
    rw [Bool.eq_false_iff]
    intro hempty
    -- an empty input has one empty token, and no item is empty
    rw [List.isEmpty_iff.mp hempty, List.splitOn_nil] at htokens
    obtain ⟨entry, rest, rfl⟩ := List.exists_cons_of_ne_nil hne
    exact entry.item.text_ne_nil form (List.cons.inj htokens).1.symm
  have hparse (tokens : List Text) : tokens.mapM (parseOne inet) =
      (tokens.map trim).mapM (parseTrimmed inet) := by
    rw [List.mapM_map]
    rfl
  rw [parse, hnonempty, if_neg Bool.false_ne_true, hparse, htokens, List.mapM_map]
  clear hne htokens hnonempty
  induction entries with
  | nil => rfl
  | cons entry entries ih =>
    obtain ⟨hhead, htail⟩ := List.forall_mem_cons.mp hdash
    rw [List.mapM_cons, Function.comp_apply, parseTrimmed_text form entry.item hhead, ih htail]
    rfl

end

end Skan.Target
