import Skan.Target.Union

/-!
# Resolution is canonical

What `TargetEngine::resolve` makes of a list of specifications depends on the set of addresses they
denote and on nothing else: neither their order, nor repetitions, nor how the set is cut into
literals, blocks and ranges.

Two things carry this. The addresses found do not depend on the order of the search, which
`Skan.Target.Expansion` shows through the union (`expandSpecs_yields`). And the sort that follows
leaves no choice: `operator<` is the order of a key (`lt_iff_key_lt`) which tells canonical
addresses apart (`key_injOn`), so there is only one way to list a set of them (`eq_of_increasing`).

The specifications are those the parser makes (`wellFormed_of_parseOne`), of whatever text.
-/

namespace Skan.Core

/-- The place of a family in `operator<`. -/
def AddressFamily.rank : AddressFamily → ℕ
  | .unknown => 0
  | .ipv4 => 1
  | .ipv6 => 2

theorem AddressFamily.rank_injective : Function.Injective rank := by
  intro a b h
  cases a <;> cases b <;> first | rfl | exact absurd h (by decide)

/-- Texts, which are compared byte by byte, as lists over a linear order. -/
def Text.numbers (text : Text) : List ℕ := text.map UInt8.toNat

theorem Text.numbers_injective : Function.Injective Text.numbers :=
  List.map_injective_iff.mpr fun _ _ ↦ UInt8.toNat_inj.mp

theorem Text.numbers_lt_iff {a b : Text} : a.numbers < b.numbers ↔ a < b := by
  induction a generalizing b with
  | nil => cases b <;> simp [Text.numbers]
  | cons x a ih =>
    cases b with
    | nil => simp [Text.numbers]
    | cons y b =>
      have htail := @ih b
      rw [Text.numbers, Text.numbers] at htail
      rw [Text.numbers, Text.numbers, List.map_cons, List.map_cons, List.cons_lt_cons_iff,
        List.cons_lt_cons_iff, htail, UInt8.toNat_inj, UInt8.lt_iff_toNat_lt]

namespace IpAddress

/-- Where an address stands among those of its bytes: without a scope first. -/
def scopeKey (a : IpAddress) : WithBot (List ℕ) :=
  match a.scope with
  | none => ⊥
  | some scope => (Text.numbers scope : WithBot (List ℕ))

/-- What `operator<` compares: the family, the bytes the family uses, and the scope. -/
def key (a : IpAddress) : ℕ ×ₗ List ℕ ×ₗ WithBot (List ℕ) :=
  toLex (a.family.rank, toLex (Text.numbers a.keyBytes, a.scopeKey))

theorem key_lt_iff {a b : IpAddress} : a.key < b.key ↔
    a.family.rank < b.family.rank ∨ a.family.rank = b.family.rank ∧
      (a.keyBytes < b.keyBytes ∨ a.keyBytes = b.keyBytes ∧ a.scopeKey < b.scopeKey) := by
  rw [key, key, Prod.Lex.toLex_lt_toLex, Prod.Lex.toLex_lt_toLex, Text.numbers_lt_iff,
    Text.numbers_injective.eq_iff]

/-- **`operator<` is the order of the keys.** -/
theorem lt_iff_key_lt {a b : IpAddress} : a.lt b = true ↔ a.key < b.key := by
  rw [key_lt_iff]
  by_cases hfamily : a.family = b.family
  · have hrank : ¬ a.family.rank < b.family.rank := by rw [hfamily]; exact Nat.lt_irrefl _
    have hfour : a.isIpv4 = b.isIpv4 := by rw [isIpv4, isIpv4, hfamily]
    have hb : b.bytes.toList.take (if a.isIpv4 then 4 else 16) = b.keyBytes := by
      rw [hfour, keyBytes]
    rw [lt, if_neg (not_not_intro hfamily), or_iff_right hrank,
      and_iff_right (congrArg AddressFamily.rank hfamily)]
    dsimp only
    rw [hb, ← keyBytes]
    by_cases hkeys : a.keyBytes = b.keyBytes
    · -- the scopes decide
      have hirrefl : ¬ a.keyBytes < b.keyBytes := by rw [hkeys]; exact List.lt_irrefl _
      rw [if_neg (not_not_intro hkeys), or_iff_right hirrefl, and_iff_right hkeys, scopeKey,
        scopeKey]
      rcases a.scope with - | scope <;> rcases b.scope with - | scope'
      · simp
      · simp
      · simp
      · simp [Text.numbers_lt_iff]
    · rw [if_pos hkeys, decide_eq_true_iff]
      exact ⟨.inl, fun h ↦ h.resolve_right fun hboth ↦ hkeys hboth.1⟩
  · have hrank : a.family.rank ≠ b.family.rank :=
      fun heq ↦ hfamily (AddressFamily.rank_injective heq)
    rw [lt, if_pos hfamily, or_iff_left fun h ↦ hrank h.1]
    cases ha : a.family <;> cases hb : b.family <;>
      first | exact absurd (ha.trans hb.symm) hfamily | simp [AddressFamily.rank]

/-- Canonical addresses are told apart by their keys. -/
theorem eq_of_key_eq {a b : IpAddress} (ha : a.Canonical) (hb : b.Canonical) (h : a.key = b.key) :
    a = b := by
  have hpair := toLex.injective h
  have hfamily : a.family = b.family := AddressFamily.rank_injective (congrArg Prod.fst hpair)
  have hrest := toLex.injective (congrArg Prod.snd hpair)
  have hbytes : a.keyBytes = b.keyBytes := Text.numbers_injective (congrArg Prod.fst hrest)
  have hscopeKey : a.scopeKey = b.scopeKey := congrArg Prod.snd hrest
  have hscope : a.scope = b.scope := by
    rw [scopeKey, scopeKey] at hscopeKey
    rcases hleft : a.scope with - | scope <;> rcases hright : b.scope with - | scope' <;>
      rw [hleft, hright] at hscopeKey
    · exact absurd hscopeKey.symm (WithBot.coe_ne_bot)
    · exact absurd hscopeKey (WithBot.coe_ne_bot)
    · rw [Text.numbers_injective (WithBot.coe_injective hscopeKey)]
  have hnumber : a.number = b.number := by
    rw [← value_keyBytes a, ← value_keyBytes b, hbytes]
  rw [ha.eq_withNumber hb hfamily.symm hscope.symm, ← hnumber]
  exact ha.eq_withNumber ha rfl rfl

end IpAddress

end Skan.Core

namespace Skan.Target

open Skan.Core Skan.Core.IpAddress

variable {targets : List ResolvedTarget} {specification : TargetSpec} {inet : Inet} {token : Text}

/-! ### The sort -/

/-- A list of addresses in the order of `operator<`, each once. -/
def Increasing (addresses : List IpAddress) : Prop :=
  addresses.Pairwise fun a b ↦ a.lt b = true

theorem Increasing.nodup {addresses : List IpAddress} (h : Increasing addresses) :
    addresses.Nodup := by
  refine List.Pairwise.imp (fun {a b} hlt ↦ ?_) h
  rintro rfl
  exact lt_irrefl _ (lt_iff_key_lt.mp hlt)

/-- **There is one way to list a set of addresses.** -/
theorem eq_of_increasing {addresses addresses' : List IpAddress} (h : Increasing addresses)
    (h' : Increasing addresses') (hsame : ∀ a, a ∈ addresses ↔ a ∈ addresses') :
    addresses = addresses' := by
  refine List.Perm.eq_of_pairwise (fun a b _ _ hab hba ↦ ?_) h h'
    ((List.perm_ext_iff_of_nodup h.nodup h'.nodup).mpr hsame)
  exact absurd (lt_iff_key_lt.mp hba) (lt_iff_key_lt.mp hab).not_gt

/-- **The sort lists distinct canonical addresses in increasing order.** -/
theorem increasing_sortNumeric (hcanonical : ∀ target ∈ targets, target.ipAddress.Canonical)
    (hnodup : (targets.map ResolvedTarget.ipAddress).Nodup) :
    Increasing ((sortNumeric targets).map ResolvedTarget.ipAddress) := by
  have hperm := sortNumeric_perm targets
  have hcanonical' : ∀ target ∈ sortNumeric targets, target.ipAddress.Canonical :=
    fun target hmem ↦ hcanonical target (hperm.mem_iff.mp hmem)
  have hnodup' := (hperm.map ResolvedTarget.ipAddress).nodup_iff.mpr hnodup
  -- sorted by keys, if not strictly
  set key : ResolvedTarget → IpAddress := fun target ↦
    if target.ipAddress.valid then target.ipAddress else .fromIpv4 target.address with hkey
  have hsorted : (sortNumeric targets).Pairwise fun left right ↦
      (!(key right).lt (key left)) = true := by
    refine List.pairwise_mergeSort (fun a b c hab hbc ↦ ?_) (fun a b ↦ ?_) targets
    · rw [Bool.not_eq_true', ← Bool.not_eq_true, lt_iff_key_lt, not_lt] at hab hbc ⊢
      exact hab.trans hbc
    · rw [Bool.or_eq_true, Bool.not_eq_true', Bool.not_eq_true', ← Bool.not_eq_true,
        ← Bool.not_eq_true, lt_iff_key_lt, lt_iff_key_lt, not_lt, not_lt]
      exact le_total _ _
  rw [Increasing, List.pairwise_map]
  rw [List.Nodup, List.pairwise_map] at hnodup'
  refine (hsorted.and hnodup').imp_of_mem fun {a b} ha hb hab ↦ ?_
  obtain ⟨hle, hne⟩ := hab
  have hkeyOf {target : ResolvedTarget} (h : target.ipAddress.Canonical) :
      key target = target.ipAddress := if_pos h.valid
  rw [hkeyOf (hcanonical' a ha), hkeyOf (hcanonical' b hb), Bool.not_eq_true', ← Bool.not_eq_true,
    lt_iff_key_lt, not_lt] at hle
  rw [lt_iff_key_lt]
  exact lt_of_le_of_ne hle fun heq ↦
    hne (eq_of_key_eq (hcanonical' a ha) (hcanonical' b hb) heq)

/-! ### Specifications -/

/-- A literal, a block or a range as the parser leaves it. -/
def TargetSpec.WellFormed (specification : TargetSpec) : Prop :=
  match specification.kind with
  | .hostname => False
  | .ipv4 => True
  | .ipv4Cidr => specification.prefixLength.toNat ≤ 32
  | .ipv4Range => specification.firstAddress.toNat ≤ specification.lastAddress.toNat
  | .ipv6 => specification.firstIp.isIpv6
  | .ipv6Cidr => specification.firstIp.isIpv6 ∧ specification.prefixLength.toNat ≤ 128
  | .ipv6Range => specification.firstIp.isIpv6 ∧ specification.lastIp.isIpv6 ∧
      specification.firstIp.number ≤ specification.lastIp.number

/-- The addresses a specification denotes. -/
def TargetSpec.addresses (specification : TargetSpec) : Set IpAddress :=
  match specification.kind with
  | .hostname => ∅
  | .ipv4 => {.fromIpv4 specification.firstAddress}
  | .ipv4Cidr => (IpAddress.fromIpv4 specification.firstAddress).block
      specification.prefixLength.toNat
  | .ipv4Range => (IpAddress.fromIpv4 specification.firstAddress).interval
      (.fromIpv4 specification.lastAddress)
  | .ipv6 => {specification.firstIp}
  | .ipv6Cidr => specification.firstIp.block specification.prefixLength.toNat
  | .ipv6Range => specification.firstIp.interval specification.lastIp

/-- A range of IPv6 addresses over a boundary of 2^64, which is never expanded. -/
def TargetSpec.Crosses (specification : TargetSpec) : Prop :=
  specification.kind = .ipv6Range ∧ ¬ InOneBlock specification.firstIp specification.lastIp

/-- The union of what the specifications of a list denote. -/
def denotedBy (specifications : List TargetSpec) : Set IpAddress :=
  {address | ∃ specification ∈ specifications, address ∈ specification.addresses}

theorem parseSingle_wellFormed (h : parseSingle inet token = .ok specification)
    (hkind : specification.kind ≠ .hostname) : specification.WellFormed := by
  rw [parseSingle] at h
  split at h
  · cases h
    exact trivial
  · split at h
    · cases h
    · split at h
      · rename_i address hfilter
        cases h
        exact (Option.filter_eq_some_iff.mp hfilter).2
      · split_ifs at h
        cases h
        exact absurd rfl hkind

theorem parseCidr_wellFormed {addressText prefixText : Text}
    (h : parseCidr inet token addressText prefixText = .ok specification) :
    specification.WellFormed := by
  rw [parseCidr] at h
  split_ifs at h
  split at h
  · rename_i prefixLength address hprefix haddress
    split_ifs at h with hfour hsix
    · split at h
      · cases h
      · cases h
        rw [Bool.and_eq_true, decide_eq_true_eq] at hfour
        show (UInt8.ofNat prefixLength).toNat ≤ 32
        rw [toNat_ofNat_length (by omega)]
        exact hfour.2
    · cases h
      rw [Bool.and_eq_true, decide_eq_true_eq] at hsix
      refine ⟨hsix.1, ?_⟩
      rw [toNat_ofNat_length hsix.2]
      exact hsix.2
  · cases h

theorem parseRange_wellFormed {left right : Text}
    (h : parseRange inet token left right = .ok specification) : specification.WellFormed := by
  rw [parseRange] at h
  split at h
  · rename_i first last hfirst hlast
    split_ifs at h with hmixed hreversed hfour
    all_goals
      rw [Bool.or_eq_true, not_or, decide_eq_true_eq, decide_eq_true_eq, not_not, not_not] at hmixed
      obtain ⟨hfamily, hscope⟩ := hmixed
      rw [lt_iff_number_lt hfamily.symm hscope.symm, not_lt] at hreversed
      cases h
    · have hlastFour : last.isIpv4 = true := isIpv4_congr hfamily ▸ hfour
      rw [number, if_pos hfour, number, if_pos hlastFour] at hreversed
      exact hreversed
    · have hvalid := valid_of_parseIpAddress inet hfirst
      have hsix : first.isIpv6 := by
        rw [valid, Bool.or_eq_true] at hvalid
        exact hvalid.resolve_left hfour
      exact ⟨hsix, isIpv6_congr hfamily ▸ hsix, hreversed⟩
  · cases h

/-- **What the parser makes of a token**, if it is no hostname, is well formed. -/
theorem wellFormed_of_parseOne {inet : Inet} {token : Text} {specification : TargetSpec}
    (h : parseOne inet token = .ok specification) (hkind : specification.kind ≠ .hostname) :
    specification.WellFormed := by
  rw [parseOne, parseTrimmed] at h
  split_ifs at h
  split at h
  · exact parseCidr_wellFormed h
  · split at h
    · exact parseSingle_wellFormed h hkind
    · split_ifs at h
      · exact parseRange_wellFormed h
      · exact parseSingle_wellFormed h hkind

theorem wellFormed_of_parseOne_range : ∃ inet specification,
    parseOne inet (literal "10.0.0.1-10.0.0.9") = .ok specification ∧
      specification.WellFormed := by
  let inet : Inet := ⟨fun _ ↦ [], fun _ ↦ none, fun _ ↦ 0⟩
  have h : parseOne inet (literal "10.0.0.1-10.0.0.9") = .ok _ := rfl
  exact ⟨inet, _, h, wellFormed_of_parseOne h (by decide)⟩

/-! ### Expanding specifications -/

section Expansion

variable {limits : TargetLimits} (resolver : HostnameResolver) {specification : TargetSpec}
  {state state' : Expansion}

/-- A specification that does not cross a boundary yields its addresses. -/
theorem spec_yields (hvalid : limits.valid) (hwell : specification.WellFormed)
    (hcrosses : ¬ specification.Crosses) (hs : state.Sound limits) :
    Yields limits (expandOne limits resolver specification state)
      (state.addresses ∪ specification.addresses) := by
  rw [TargetSpec.WellFormed] at hwell
  rw [TargetSpec.addresses]
  cases hkind : specification.kind <;> rw [hkind] at hwell <;> dsimp only at hwell ⊢
  case ipv4 => exact ipv4_yields resolver specification hkind hs
  case ipv4Cidr => exact ipv4Cidr_yields resolver specification hkind hwell hs
  case ipv4Range => exact ipv4Range_yields resolver specification hkind hwell hs
  case ipv6 => exact ipv6_yields resolver specification hkind hwell hs
  case ipv6Cidr => exact ipv6Cidr_yields resolver specification hvalid hkind hwell.1 hwell.2 hs
  case ipv6Range =>
    have hblock : InOneBlock specification.firstIp specification.lastIp :=
      not_not.mp fun hnot ↦ hcrosses ⟨hkind, hnot⟩
    exact ipv6Range_yields resolver specification hvalid hkind hwell.1 hwell.2.1 hwell.2.2 hblock hs

theorem spec_error (hwell : specification.WellFormed) (hcrosses : specification.Crosses) :
    ∃ failure, expandOne limits resolver specification state = .error failure := by
  rw [TargetSpec.WellFormed, hcrosses.1] at hwell
  exact ⟨_, ipv6Range_error resolver specification hcrosses.1 hwell.1 hwell.2.1 hwell.2.2
    hcrosses.2⟩

/-- **The loop of `expand`** yields the union, or fails for a range over a boundary. -/
theorem expandSpecs_yields (hvalid : limits.valid) {specifications : List TargetSpec}
    (hwell : ∀ specification ∈ specifications, specification.WellFormed)
    (hcrosses : ∀ specification ∈ specifications, ¬ specification.Crosses)
    (hs : state.Sound limits) :
    Yields limits (expandAll limits resolver specifications state)
      (state.addresses ∪ denotedBy specifications) := by
  induction specifications generalizing state with
  | nil => exact ⟨hs, by simp [denotedBy]⟩
  | cons specification specifications ih =>
    obtain ⟨hwellHead, hwellTail⟩ := List.forall_mem_cons.mp hwell
    obtain ⟨hhead, htail⟩ := List.forall_mem_cons.mp hcrosses
    have hunion : state.addresses ∪ denotedBy (specification :: specifications) =
        (state.addresses ∪ specification.addresses) ∪ denotedBy specifications := by
      ext a
      simp only [denotedBy, Set.mem_union, Set.mem_ofPred_eq, List.mem_cons, exists_eq_or_imp]
      tauto
    have hspec := spec_yields resolver hvalid hwellHead hhead hs
    rw [hunion, expandAll]
    cases hresult : expandOne limits resolver specification state with
    | error failure =>
      rw [hresult] at hspec
      exact lt_of_lt_of_le hspec (Set.encard_le_encard Set.subset_union_left)
    | ok state' =>
      rw [hresult] at hspec
      rw [← hspec.2]
      exact ih hwellTail htail hspec.1

theorem expandSpecs_error {specifications : List TargetSpec}
    (hwell : ∀ specification ∈ specifications, specification.WellFormed)
    (hcrosses : ∃ specification ∈ specifications, specification.Crosses) :
    ∃ failure, expandAll limits resolver specifications state = .error failure := by
  induction specifications generalizing state with
  | nil => simp at hcrosses
  | cons specification specifications ih =>
    obtain ⟨hwellHead, hwellTail⟩ := List.forall_mem_cons.mp hwell
    rw [expandAll]
    cases hresult : expandOne limits resolver specification state with
    | error failure => exact ⟨failure, rfl⟩
    | ok state' =>
      refine ih hwellTail ((List.exists_mem_cons_iff _ _ _).mp hcrosses |>.resolve_left fun hhead ↦
        ?_)
      obtain ⟨failure, herror⟩ := @spec_error limits resolver _ state hwellHead hhead
      exact absurd (hresult.symm.trans herror) (by simp)

/-! ### The targets -/

/-- The target of an address that no hostname led to. -/
def targetOf (address : IpAddress) : ResolvedTarget where
  address := if address.isIpv4 then address.ipv4Word else 0
  ipAddress := address

/-- Every target is that of its address, a canonical one. -/
def Plain (targets : List ResolvedTarget) : Prop :=
  ∀ target ∈ targets, target = targetOf target.ipAddress

theorem plain_append (hplain : Plain state.expanded) {address : IpAddress}
    (h : append limits state address none = .ok state') : Plain state'.expanded := by
  rw [append] at h
  split at h
  · cases h
    exact hplain
  split at h
  · cases h
  · cases h
    intro target hmem
    rcases List.mem_append.mp hmem with hmem | hmem
    · exact hplain target hmem
    · rw [List.mem_singleton.mp hmem]
      rfl

theorem plain_appendAll {addresses : List IpAddress} (hplain : Plain state.expanded)
    (h : appendAll limits none state addresses = .ok state') : Plain state'.expanded := by
  induction addresses generalizing state with
  | nil =>
    cases h
    exact hplain
  | cons address addresses ih =>
    rw [appendAll] at h
    split at h
    · cases h
    · rename_i happend
      exact ih (plain_append hplain happend) h

theorem plain_expandOne (hwell : specification.WellFormed) (hplain : Plain state.expanded)
    (h : expandOne limits resolver specification state = .ok state') : Plain state'.expanded := by
  have hloop {count limit : ℕ} {failure : TargetFailure} {addresses : List IpAddress}
      (h : (if count > limit then .error failure
        else appendAll limits none state addresses) = .ok state') : Plain state'.expanded := by
    split_ifs at h
    exact plain_appendAll hplain h
  rw [TargetSpec.WellFormed] at hwell
  rw [expandOne] at h
  split at h
  · rename_i hkind
    rw [hkind] at hwell
    exact hwell.elim
  all_goals first
    | exact hloop h
    | skip
  all_goals
    rw [expandIpv6] at h
    dsimp only at h
    split at h
    · cases h
    · split at h
      · split at h
        · cases h
        · exact hloop h
      · split at h
        · cases h
        · exact hloop h
      · exact hloop h

theorem plain_expandAll {specifications : List TargetSpec}
    (hwell : ∀ specification ∈ specifications, specification.WellFormed)
    (hplain : Plain state.expanded)
    (h : expandAll limits resolver specifications state = .ok state') : Plain state'.expanded := by
  induction specifications generalizing state with
  | nil =>
    cases h
    exact hplain
  | cons specification specifications ih =>
    obtain ⟨hhead, htail⟩ := List.forall_mem_cons.mp hwell
    rw [expandAll] at h
    split at h
    · cases h
    · rename_i hone
      exact ih htail (plain_expandOne resolver hhead hplain hone) h

end Expansion

/-! ### The result -/

theorem canonical_of_mem_denotedBy {specifications : List TargetSpec}
    (hwell : ∀ specification ∈ specifications, specification.WellFormed) {address : IpAddress}
    (h : address ∈ denotedBy specifications) : address.Canonical := by
  obtain ⟨specification, hmem, haddress⟩ := h
  have hwell' := hwell specification hmem
  rw [TargetSpec.WellFormed] at hwell'
  rw [TargetSpec.addresses] at haddress
  cases hkind : specification.kind <;> rw [hkind] at hwell' haddress <;>
    dsimp only at hwell' haddress
  case ipv4 =>
    rw [Set.mem_singleton_iff.mp haddress]
    exact canonical_fromIpv4 _
  case ipv6 =>
    rw [Set.mem_singleton_iff.mp haddress]
    exact .inl hwell'
  all_goals exact haddress.1

theorem addresses_nonempty_of_wellFormed (hwell : specification.WellFormed) :
    specification.addresses.Nonempty := by
  rw [TargetSpec.WellFormed] at hwell
  rw [TargetSpec.addresses]
  cases hkind : specification.kind <;> rw [hkind] at hwell <;> dsimp only at hwell ⊢
  case ipv4 => exact Set.singleton_nonempty _
  case ipv4Cidr => exact ⟨_, canonical_fromIpv4 _, rfl, rfl, rfl⟩
  case ipv4Range =>
    refine ⟨_, canonical_fromIpv4 specification.firstAddress, rfl, rfl, le_rfl, ?_⟩
    rw [number_fromIpv4, number_fromIpv4]
    exact hwell
  case ipv6 => exact Set.singleton_nonempty _
  case ipv6Cidr => exact ⟨_, .inl hwell.1, rfl, rfl, rfl⟩
  case ipv6Range => exact ⟨_, .inl hwell.1, rfl, rfl, le_rfl, hwell.2.2⟩

/-- When a list of well-formed specifications is accepted. -/
structure Acceptable (limits : TargetLimits) (specifications : List TargetSpec) : Prop where
  valid : limits.valid
  ne_nil : specifications ≠ []
  within : ∀ specification ∈ specifications, ¬ specification.Crosses
  bounded : (denotedBy specifications).encard ≤ limits.maxTargets

/-- The targets are those of the addresses of a set, in increasing order. -/
structure Lists (targets : List ResolvedTarget) (addresses : Set IpAddress) : Prop where
  increasing : Increasing (targets.map ResolvedTarget.ipAddress)
  plain : Plain targets
  mem_iff : ∀ address, address ∈ targets.map ResolvedTarget.ipAddress ↔ address ∈ addresses

theorem Lists.targets_eq {addresses : Set IpAddress} (h : Lists targets addresses) :
    targets = (targets.map ResolvedTarget.ipAddress).map targetOf := by
  rw [List.map_map]
  calc targets = targets.map id := (List.map_id _).symm
    _ = targets.map (targetOf ∘ ResolvedTarget.ipAddress) := List.map_congr_left h.plain

/-- A set is listed in one way. -/
theorem Lists.unique {targets' : List ResolvedTarget} {addresses : Set IpAddress}
    (h : Lists targets addresses) (h' : Lists targets' addresses) : targets = targets' := by
  have hsame := eq_of_increasing h.increasing h'.increasing fun address ↦
    (h.mem_iff address).trans (h'.mem_iff address).symm
  rw [h.targets_eq, h'.targets_eq, hsame]

section Result

variable {limits : TargetLimits} {specifications : List TargetSpec}
  (hwell : ∀ specification ∈ specifications, specification.WellFormed)

include hwell

/-- An acceptable list resolves to its addresses in increasing order. -/
theorem Acceptable.resolveSpecs (resolver : HostnameResolver)
    (h : Acceptable limits specifications) :
    ∃ targets, Target.resolveSpecs limits resolver specifications = .ok targets ∧
      Lists targets (denotedBy specifications) := by
  have hyields := expandSpecs_yields resolver h.valid hwell h.within (Expansion.sound_empty limits)
  rw [Expansion.addresses_empty, Set.empty_union] at hyields
  cases hresult : expandAll limits resolver specifications {} with
  | error failure =>
    rw [hresult] at hyields
    exact absurd h.bounded (not_le_of_gt hyields)
  | ok state =>
    rw [hresult] at hyields
    obtain ⟨hsound, haddresses⟩ := hyields
    have hmem (address : IpAddress) :
        address ∈ state.expanded.map ResolvedTarget.ipAddress ↔
          address ∈ denotedBy specifications := by
      rw [← haddresses]
      rfl
    have hstate : state.expanded ≠ [] := by
      obtain ⟨specification, rest, rfl⟩ := List.exists_cons_of_ne_nil h.ne_nil
      obtain ⟨address, haddress⟩ :=
        addresses_nonempty_of_wellFormed (hwell specification List.mem_cons_self)
      intro hempty
      have hlisted := (hmem address).mpr ⟨specification, List.mem_cons_self, haddress⟩
      rw [hempty] at hlisted
      exact List.not_mem_nil hlisted
    have hcanonical : ∀ target ∈ state.expanded, target.ipAddress.Canonical := fun target htarget ↦
      canonical_of_mem_denotedBy hwell ((hmem _).mp (List.mem_map_of_mem htarget))
    have hperm := sortNumeric_perm state.expanded
    refine ⟨_, resolveSpecs_ok h.valid resolver h.ne_nil hresult hstate,
      increasing_sortNumeric hcanonical hsound.nodup, fun target htarget ↦ ?_, fun address ↦ ?_⟩
    · have hplain : Plain ({} : Expansion).expanded := List.forall_mem_nil _
      exact plain_expandAll resolver hwell hplain hresult target (hperm.mem_iff.mp htarget)
    · rw [(hperm.map ResolvedTarget.ipAddress).mem_iff]
      exact hmem address

/-- **What is accepted** is acceptable, and resolves so. -/
theorem acceptable_of_ok {resolver : HostnameResolver}
    (h : resolveSpecs limits resolver specifications = .ok targets) :
    Acceptable limits specifications ∧ Lists targets (denotedBy specifications) := by
  obtain ⟨hne, hvalid⟩ : specifications ≠ [] ∧ limits.valid := by
    have hexpand : ∃ expanded, expand limits resolver specifications = .ok expanded := by
      rw [Target.resolveSpecs] at h
      split at h
      · cases h
      · exact ⟨_, by assumption⟩
    obtain ⟨expanded, hexpand⟩ := hexpand
    rw [expand] at hexpand
    split_ifs at hexpand with hempty hzero hmaximum
    simp only [Bool.or_eq_true, decide_eq_true_eq, not_or, not_lt] at hzero hmaximum
    refine ⟨fun hnil ↦ hempty (List.isEmpty_iff.mpr hnil), ?_⟩
    simp only [TargetLimits.valid, Bool.and_eq_true, decide_eq_true_eq]
    omega
  have hok {failure : TargetFailure}
      (herror : expandAll limits resolver specifications {} = .error failure) : False := by
    rw [resolveSpecs_error hvalid resolver hne herror] at h
    cases h
  have hwithin : ∀ specification ∈ specifications, ¬ specification.Crosses := by
    intro specification hmem hcrosses
    obtain ⟨failure, herror⟩ := @expandSpecs_error limits resolver {} specifications hwell
      ⟨specification, hmem, hcrosses⟩
    exact hok herror
  have hbounded : (denotedBy specifications).encard ≤ limits.maxTargets := by
    have hyields := expandSpecs_yields resolver hvalid hwell hwithin (Expansion.sound_empty limits)
    rw [Expansion.addresses_empty, Set.empty_union] at hyields
    cases hresult : expandAll limits resolver specifications {} with
    | error failure => exact (hok hresult).elim
    | ok state =>
      rw [hresult] at hyields
      rw [← hyields.2, hyields.1.encard_addresses]
      exact_mod_cast hyields.1.length_le
  have hacceptable : Acceptable limits specifications := ⟨hvalid, hne, hwithin, hbounded⟩
  obtain ⟨targets', htargets', hlists⟩ := hacceptable.resolveSpecs hwell resolver
  obtain rfl := Except.ok.inj (h.symm.trans htargets')
  exact ⟨hacceptable, hlists⟩

end Result

/-- **Resolution is canonical.** The targets of an accepted list of literals, blocks and ranges are
in strictly increasing order. Every list with the same specifications, in any order and with any
repetitions, resolves to the same targets, and so does every other accepted list that denotes the
same addresses, under whatever limits. -/
theorem resolveSpecs_canonical {limits : TargetLimits} {resolver : HostnameResolver}
    {specifications : List TargetSpec}
    (hwell : ∀ specification ∈ specifications, specification.WellFormed)
    {targets : List ResolvedTarget}
    (h : resolveSpecs limits resolver specifications = .ok targets) :
    Increasing (targets.map ResolvedTarget.ipAddress) ∧
      (targets.map ResolvedTarget.ipAddress).Nodup ∧
      (∀ specifications' : List TargetSpec,
        (∀ specification, specification ∈ specifications' ↔ specification ∈ specifications) →
          resolveSpecs limits resolver specifications' = .ok targets) ∧
      ∀ (limits' : TargetLimits) (resolver' : HostnameResolver) (specifications' : List TargetSpec)
        (targets' : List ResolvedTarget),
        (∀ specification ∈ specifications', specification.WellFormed) →
          resolveSpecs limits' resolver' specifications' = .ok targets' →
            denotedBy specifications' = denotedBy specifications → targets' = targets := by
  obtain ⟨hacceptable, hlists⟩ := acceptable_of_ok hwell h
  refine ⟨hlists.increasing, hlists.increasing.nodup, fun specifications' hsame ↦ ?_, ?_⟩
  · have hdenoted : denotedBy specifications' = denotedBy specifications := by
      ext address
      simp only [denotedBy, Set.mem_ofPred_eq, hsame]
    have hwell' : ∀ specification ∈ specifications', specification.WellFormed :=
      fun specification hmem ↦ hwell specification ((hsame specification).mp hmem)
    have hne : specifications' ≠ [] := by
      rintro rfl
      obtain ⟨specification, hmem⟩ := List.exists_mem_of_ne_nil specifications hacceptable.ne_nil
      exact List.not_mem_nil ((hsame specification).mpr hmem)
    have hacceptable' : Acceptable limits specifications' :=
      ⟨hacceptable.valid, hne,
        fun specification hmem ↦ hacceptable.within specification ((hsame specification).mp hmem),
        hdenoted ▸ hacceptable.bounded⟩
    obtain ⟨targets', hresolved, hlists'⟩ := hacceptable'.resolveSpecs hwell' resolver
    rw [hdenoted] at hlists'
    rw [hresolved, hlists'.unique hlists]
  · intro limits' resolver' specifications' targets' hwell' h' hdenoted
    have hlists' := (acceptable_of_ok hwell' h').2
    rw [hdenoted] at hlists'
    exact hlists'.unique hlists

/-- `10.0.0.0/31` and `10.0.0.2`. -/
def blockAndLiteral : List TargetSpec :=
  [{ kind := .ipv4Cidr, original := literal "10.0.0.0/31", firstAddress := 0x0A000000
     prefixLength := 31 },
    { original := literal "10.0.0.2", firstAddress := 0x0A000002 }]

/-- Backwards, and then once more forwards. -/
theorem resolveSpecs_canonical_repeated :
    resolveSpecs {} noHostnames (blockAndLiteral.reverse ++ blockAndLiteral) =
      .ok ([0x0A000000, 0x0A000001, 0x0A000002].map fun word ↦ targetOf (.fromIpv4 word)) := by
  have hexpand : (expandAll {} noHostnames blockAndLiteral {}).map Expansion.expanded =
      .ok ([0x0A000000, 0x0A000001, 0x0A000002].map fun word ↦ targetOf (.fromIpv4 word)) := by
    decide +kernel
  obtain ⟨state, hstate, hexpanded⟩ : ∃ state,
      expandAll {} noHostnames blockAndLiteral {} = .ok state ∧ state.expanded =
        [0x0A000000, 0x0A000001, 0x0A000002].map fun word ↦ targetOf (.fromIpv4 word) := by
    cases hresult : expandAll {} noHostnames blockAndLiteral {} with
    | error failure =>
      rw [hresult] at hexpand
      cases hexpand
    | ok state =>
      rw [hresult] at hexpand
      exact ⟨state, rfl, Except.ok.inj hexpand⟩
  -- the block comes first, so there is nothing left to sort
  have hsorted : sortNumeric state.expanded = state.expanded := by
    rw [sortNumeric, hexpanded]
    exact List.mergeSort_of_pairwise (by decide +kernel)
  have hok := resolveSpecs_ok (by decide) noHostnames (by decide) hstate (by rw [hexpanded]; decide)
  rw [hsorted, hexpanded] at hok
  have hwell : ∀ specification ∈ blockAndLiteral, specification.WellFormed := by
    intro specification hmem
    rcases List.mem_cons.mp hmem with rfl | hmem
    · exact (by decide : (31 : UInt8).toNat ≤ 32)
    · obtain rfl := List.mem_singleton.mp hmem
      exact trivial
  refine (resolveSpecs_canonical hwell hok).2.2.1 _ fun specification ↦ ?_
  rw [List.mem_append, List.mem_reverse, or_self]

end Skan.Target
