import Skan.Target.Expansion

/-!
# Target engine results

`TargetEngine::resolve` on a list of literals, blocks and ranges is a bounded union
(`resolves_union`): it succeeds if and only if no range crosses a boundary of 2^64 addresses and the
union of the denoted sets has at most `max_targets` elements, and a success holds every address of
the union exactly once. Overlaps count once, whatever the sum of the sizes.

The boundary is the guard of `ipv6_range_count`, so a range of two addresses can fail
(`not_expandsExactly_boundary`).
-/

namespace Skan.Target

open Skan.Core

variable {inet : Inet} {limits : TargetLimits} {specifications : List TargetSpec}

/-! ### The rest of the engine -/

/-- Every item denotes some address. -/
theorem addresses_nonempty (item : TargetItem inet) : item.addresses.Nonempty := by
  cases item with
  | literal a => exact ⟨a.address, rfl⟩
  | cidr a => exact ⟨a.address, a.isAddressText.canonical, rfl, rfl, rfl⟩
  | range first last before after hblank hfamily hscope hle =>
    exact ⟨first.address, first.isAddressText.canonical, rfl, rfl, le_rfl, hle⟩

theorem denoted_nonempty {entries : List (ListedItem inet)} (hne : entries ≠ []) :
    (denoted entries).Nonempty := by
  obtain ⟨entry, rest, rfl⟩ := List.exists_cons_of_ne_nil hne
  obtain ⟨address, haddress⟩ := addresses_nonempty entry.item
  exact ⟨address, entry, List.mem_cons_self, haddress⟩

/-- The expansion of a list that is not empty. -/
theorem expand_eq (hvalid : limits.valid) (resolver : HostnameResolver)
    (hne : specifications ≠ []) :
    expand limits resolver specifications =
      (expandAll limits resolver specifications {}).map Expansion.expanded := by
  simp only [TargetLimits.valid, Bool.and_eq_true, decide_eq_true_eq] at hvalid
  obtain ⟨⟨⟨hpos, hmax⟩, hposResults⟩, hmaxResults⟩ := hvalid
  rw [expand, if_neg (by simpa using hne), if_neg (by simp; omega), if_neg (by simp; omega)]

theorem sortNumeric_perm (targets : List ResolvedTarget) : (sortNumeric targets).Perm targets :=
  List.mergeSort_perm _ _

theorem resolveSpecs_error (hvalid : limits.valid) (resolver : HostnameResolver)
    (hne : specifications ≠ []) {failure : TargetFailure}
    (h : expandAll limits resolver specifications {} = .error failure) :
    resolveSpecs limits resolver specifications = .error failure := by
  rw [resolveSpecs, expand_eq hvalid resolver hne, h]
  rfl

theorem resolveSpecs_ok (hvalid : limits.valid) (resolver : HostnameResolver)
    (hne : specifications ≠ []) {state : Expansion}
    (h : expandAll limits resolver specifications {} = .ok state) (hstate : state.expanded ≠ []) :
    resolveSpecs limits resolver specifications = .ok (sortNumeric state.expanded) := by
  have hsorted : (sortNumeric state.expanded).isEmpty = false := by
    rw [Bool.eq_false_iff]
    intro hempty
    have hperm := sortNumeric_perm state.expanded
    rw [List.isEmpty_iff.mp hempty] at hperm
    exact hstate hperm.symm.eq_nil
  rw [resolveSpecs, expand_eq hvalid resolver hne, h]
  exact if_neg (by rw [hsorted]; exact Bool.false_ne_true)

/-! ### Two addresses over a boundary -/

/-- A C library that knows the two texts `::ffff:ffff:ffff:ffff` and `0:0:0:1::`. -/
def boundaryInet : Inet where
  ntop6 _ := []
  pton6 text :=
    if text = literal "::ffff:ffff:ffff:ffff" then
      some #v[0, 0, 0, 0, 0, 0, 0, 0, 255, 255, 255, 255, 255, 255, 255, 255]
    else if text = literal "0:0:0:1::" then some #v[0, 0, 0, 0, 0, 0, 0, 1, 0, 0, 0, 0, 0, 0, 0, 0]
    else none
  ifNametoindex _ := 0

theorem boundaryInet_presentationForm : PresentationForm boundaryInet := by
  have htexts : ∀ text bytes, boundaryInet.pton6 text = some bytes →
      text = literal "::ffff:ffff:ffff:ffff" ∨ text = literal "0:0:0:1::" := by
    intro text bytes h
    simp only [boundaryInet] at h
    split at h
    · next hfirst => exact .inl hfirst
    · split at h
      · next hsecond => exact .inr hsecond
      · exact absurd h (by simp)
  constructor
  · intro text bytes h
    rcases htexts text bytes h with rfl | rfl
    · decide +kernel
    · decide +kernel
  · intro text bytes h
    rcases htexts text bytes h with rfl | rfl
    · decide +kernel
    · decide +kernel

/-- The last address of a block of 2^64. -/
def beforeBoundary : AddressText boundaryInet where
  text := literal "::ffff:ffff:ffff:ffff"
  address := .fromIpv6 #v[0, 0, 0, 0, 0, 0, 0, 0, 255, 255, 255, 255, 255, 255, 255, 255]
  isAddressText := .ipv6 (by decide +kernel)

/-- The first address of the next block. -/
def behindBoundary : AddressText boundaryInet where
  text := literal "0:0:0:1::"
  address := .fromIpv6 #v[0, 0, 0, 0, 0, 0, 0, 1, 0, 0, 0, 0, 0, 0, 0, 0]
  isAddressText := .ipv6 (by decide +kernel)

/-- `::ffff:ffff:ffff:ffff-0:0:0:1::`, a range of two addresses. -/
def boundaryRange : TargetItem boundaryInet :=
  .range beforeBoundary behindBoundary [] [] (by decide) rfl rfl (by decide +kernel)

def noHostnames : HostnameResolver := fun _ _ ↦ .ok { status := .notFound }

/-! ### Bounded union -/

/-- The targets are the addresses of `addresses`, each once. -/
def ExactTargets (targets : List ResolvedTarget) (addresses : Set IpAddress) : Prop :=
  (targets.map ResolvedTarget.ipAddress).Nodup ∧
    ∀ address, address ∈ targets.map ResolvedTarget.ipAddress ↔ address ∈ addresses

/-- Expansion of a list is its union, bounded by the limit and by nothing else. -/
def ExpandsExactly (limits : TargetLimits) (resolver : HostnameResolver)
    (entries : List (ListedItem inet)) : Prop :=
  ((resolve limits resolver inet (listText entries)).isOk ↔
      (denoted entries).encard ≤ limits.maxTargets) ∧
    ∀ targets, resolve limits resolver inet (listText entries) = .ok targets →
      ExactTargets targets (denoted entries)

/-- **Expansion is a bounded union**, for lists whose ranges each stay in one block of 2^64
addresses; a range that does not makes it fail. -/
theorem resolves_union (form : PresentationForm inet) {limits : TargetLimits}
    (hvalid : limits.valid) (resolver : HostnameResolver) {entries : List (ListedItem inet)}
    (hne : entries ≠ []) (hdash : ∀ entry ∈ entries, entry.item.DashFree) :
    ((resolve limits resolver inet (listText entries)).isOk ↔
        (∀ entry ∈ entries, ¬ entry.item.Crosses) ∧
          (denoted entries).encard ≤ limits.maxTargets) ∧
      ∀ targets, resolve limits resolver inet (listText entries) = .ok targets →
        ExactTargets targets (denoted entries) := by
  have hspecs : (entries.map fun entry ↦ entry.item.spec) ≠ [] := by simpa using hne
  rw [resolve, parse_listText form hne hdash]
  dsimp only
  by_cases hcrosses : ∃ entry ∈ entries, entry.item.Crosses
  · obtain ⟨failure, herror⟩ := expandAll_error resolver hcrosses
    rw [resolveSpecs_error hvalid resolver hspecs herror]
    refine ⟨⟨fun h ↦ absurd h (by simp [Except.isOk, Except.toBool]), fun h ↦ ?_⟩, fun _ h ↦ ?_⟩
    · obtain ⟨entry, hmem, hcross⟩ := hcrosses
      exact absurd hcross (h.1 entry hmem)
    · exact absurd h (by simp)
  · have hwithin : ∀ entry ∈ entries, ¬ entry.item.Crosses := fun entry hmem hcross ↦
      hcrosses ⟨entry, hmem, hcross⟩
    have hyields := expandAll_yields resolver form hvalid hwithin (Expansion.sound_empty limits)
    rw [Expansion.addresses_empty, Set.empty_union] at hyields
    cases hresult : expandAll limits resolver (entries.map fun entry ↦ entry.item.spec) {} with
    | error failure =>
      rw [hresult] at hyields
      rw [resolveSpecs_error hvalid resolver hspecs hresult]
      refine ⟨⟨fun h ↦ absurd h (by simp [Except.isOk, Except.toBool]), fun h ↦ ?_⟩, fun _ h ↦ ?_⟩
      · exact absurd h.2 (not_le_of_gt hyields)
      · exact absurd h (by simp)
    | ok state =>
      rw [hresult] at hyields
      obtain ⟨hsound, haddresses⟩ := hyields
      have hstate : state.expanded ≠ [] := by
        intro hempty
        obtain ⟨address, hmem⟩ := denoted_nonempty hne
        rw [← haddresses, Expansion.addresses, hempty] at hmem
        simp at hmem
      have hperm := (sortNumeric_perm state.expanded).map ResolvedTarget.ipAddress
      rw [resolveSpecs_ok hvalid resolver hspecs hresult hstate]
      refine ⟨⟨fun _ ↦ ⟨hwithin, ?_⟩, fun _ ↦ rfl⟩, fun targets htargets ↦ ?_⟩
      · rw [← haddresses, hsound.encard_addresses]
        exact_mod_cast hsound.length_le
      · obtain rfl := Except.ok.inj htargets
        refine ⟨hperm.nodup_iff.mpr hsound.nodup, fun address ↦ ?_⟩
        rw [hperm.mem_iff, ← haddresses]
        rfl

/-- `10.0.0.0/30,10.0.0.2-10.0.0.5`: eight addresses, six of them distinct. -/
def overlappingList : List (ListedItem boundaryInet) :=
  [⟨[], .cidr ⟨literal "10.0.0.0", .fromIpv4 0x0A000000, .ipv4 (by decide +kernel)⟩ (literal "30")
      (by decide) (by decide) (by decide +kernel), [], by decide⟩,
    ⟨[], .range ⟨literal "10.0.0.2", .fromIpv4 0x0A000002, .ipv4 (by decide +kernel)⟩
      ⟨literal "10.0.0.5", .fromIpv4 0x0A000005, .ipv4 (by decide +kernel)⟩ [] [] (by decide) rfl
        rfl
      (by decide +kernel), [], by decide⟩]

theorem resolves_union_overlap :
    ((resolve ⟨6, 64⟩ noHostnames boundaryInet (listText overlappingList)).isOk ↔
        (∀ entry ∈ overlappingList, ¬ entry.item.Crosses) ∧
          (denoted overlappingList).encard ≤ ((6 : ℕ) : ℕ∞)) ∧
      ∀ targets, resolve ⟨6, 64⟩ noHostnames boundaryInet (listText overlappingList) = .ok targets →
        ExactTargets targets (denoted overlappingList) := by
  refine resolves_union boundaryInet_presentationForm (by decide) noHostnames (by simp
    [overlappingList]) ?_
  intro entry hentry
  simp only [overlappingList, List.mem_cons, List.not_mem_nil, or_false] at hentry
  rcases hentry with rfl | rfl
  · exact trivial
  · exact ⟨fun zone hzone ↦ absurd hzone (by simp [IpAddress.fromIpv4]),
      fun zone hzone ↦ absurd hzone (by simp [IpAddress.fromIpv4])⟩

/-- Two addresses are too many, if a boundary of 2^64 lies between them. -/
theorem not_expandsExactly_boundary :
    ¬ ∀ (inet : Inet), PresentationForm inet → ∀ limits : TargetLimits, limits.valid →
      ∀ (resolver : HostnameResolver) (entries : List (ListedItem inet)), entries ≠ [] →
        ExpandsExactly limits resolver entries := by
  intro h
  have hexact := h boundaryInet boundaryInet_presentationForm {} (by decide) noHostnames
    [⟨[], boundaryRange, [], by decide⟩] (by simp)
  have hfails : (resolve {} noHostnames boundaryInet
      (listText [⟨[], boundaryRange, [], by decide⟩])).isOk = false := by
    decide +kernel
  have hdenoted : denoted [⟨[], boundaryRange, [], by decide⟩] =
      beforeBoundary.address.segment (2 ^ 64 - 1) 2 := by
    have hinterval := IpAddress.interval_eq_segment
      (show beforeBoundary.address.number ≤ behindBoundary.address.number by decide +kernel)
    have hnumber : beforeBoundary.address.number = 2 ^ 64 - 1 := by decide +kernel
    have hcount : behindBoundary.address.number - beforeBoundary.address.number + 1 = 2 := by
      decide +kernel
    rw [hcount, hnumber] at hinterval
    rw [← hinterval]
    ext address
    simp [denoted, boundaryRange, TargetItem.addresses]
  have hsmall : (denoted [⟨[], boundaryRange, [], by decide⟩]).encard ≤
      ((4096 : ℕ) : ℕ∞) := by
    rw [hdenoted, IpAddress.encard_segment (.inl rfl) (by decide +kernel)]
    decide
  have hsucceeds := hexact.1.mpr hsmall
  rw [hfails] at hsucceeds
  exact Bool.false_ne_true hsucceeds

end Skan.Target
