import Skan.PortScan.WorkConservation

/-!
# Evidence for negative results

The TCP connect scan publishes a refusal or a timeout only after it was observed twice, and a
conflict as soon as both were observed. Here is what that means of a list of items on their way, the
results published and the observations made: `Evidence` says that the items' counters are the
observations of their pairs, and that the results follow from the observations.

The evidence changes in two ways: an item is published (`Evidence.settle`), or observed and kept
(`Evidence.keep`). The items are told apart by their pairs, so these must be distinct.
-/

namespace Skan.PortScan

open Skan.Core Skan.ScanEngine

/-- What was observed of a pair. -/
abbrev Observation := (Text × Port) × PortState × ScanReason

def Effect.observation : Effect → Option Observation
  | .observed work state reason => some (work.key, state, reason)
  | _ => none

/-- The two negative verdicts that are confirmed. -/
inductive Negative where
  | refusal
  | timeout
  deriving DecidableEq

namespace Negative

def state : Negative → PortState
  | .refusal => .closed
  | .timeout => .filtered

def reason : Negative → ScanReason
  | .refusal => .connectionRefused
  | .timeout => .timeout

def other : Negative → Negative
  | .refusal => .timeout
  | .timeout => .refusal

/-- The counter of a work item. -/
def counter (work : WorkItem) : Negative → ℕ
  | .refusal => work.closedObservations
  | .timeout => work.filteredObservations

/-- The item with one more observation counted. -/
def count (work : WorkItem) : Negative → WorkItem
  | .refusal => { work with closedObservations := work.closedObservations + 1 }
  | .timeout => { work with filteredObservations := work.filteredObservations + 1 }

/-- How often the verdict was observed of a pair. -/
def observed (observations : List Observation) (pair : Text × Port) (kind : Negative) : ℕ :=
  observations.count (pair, kind.state, kind.reason)

end Negative

/-- A result that follows from the observations of its pair: a negative one from two of its kind and
none of the other, and a conflict from both kinds. -/
structure Confirmed (result : PortResult) (observations : List Observation) : Prop where
  negative : ∀ kind : Negative, result.state = kind.state → result.reason = kind.reason →
    2 ≤ kind.observed observations result.key ∧ kind.other.observed observations result.key = 0
  conflicting : (∀ kind : Negative, 0 < kind.observed observations result.key) →
    result.state = .unknown ∧ result.reason = .conflictingEvidence

/-- An item whose counters are the observations made of its pair, each of which cost it a retry. -/
structure Counted (work : WorkItem) (observations : List Observation) : Prop where
  counter : ∀ kind : Negative, kind.counter work = kind.observed observations work.key
  exclusive : ∃ kind : Negative, kind.counter work = 0
  retries : work.retryCount = work.closedObservations + work.filteredObservations

/-- Items on their way, results and observations that agree. -/
structure Evidence (works : List WorkItem) (results : List PortResult)
    (observations : List Observation) : Prop where
  distinct : (works.map WorkItem.key ++ results.map PortResult.key).Nodup
  counted : ∀ work ∈ works, Counted work observations
  confirmed : ∀ result ∈ results, Confirmed result observations
  located : ∀ o ∈ observations,
    o.1 ∈ works.map WorkItem.key ++ results.map PortResult.key

/-! ### Observations of one pair -/

namespace Negative

variable {observations new : List Observation} {pair pair' : Text × Port}

theorem observed_cons_self (kind : Negative) :
    kind.observed ((pair, kind.state, kind.reason) :: observations) pair =
      kind.observed observations pair + 1 := List.count_cons_self

theorem observed_cons_of_ne {kind : Negative} {state : PortState} {reason : ScanReason}
    (h : state ≠ kind.state) :
    kind.observed ((pair, state, reason) :: observations) pair' =
      kind.observed observations pair' := by
  refine List.count_cons_of_ne fun heq ↦ h ?_
  obtain ⟨-, heq⟩ := Prod.mk.inj heq
  exact (Prod.mk.inj heq).1

/-- Observations of one pair say nothing of another. -/
theorem observed_append_of_ne (h : ∀ o ∈ new, o.1 = pair) (hne : pair' ≠ pair) (kind : Negative) :
    kind.observed (new ++ observations) pair' = kind.observed observations pair' := by
  rw [observed, List.count_append, List.count_eq_zero_of_not_mem fun hmem ↦ hne (h _ hmem),
    Nat.zero_add]
  rfl

theorem state_other_ne (kind : Negative) : kind.state ≠ kind.other.state := by
  cases kind <;> exact nofun

@[simp] theorem counter_count_self (kind : Negative) (work : WorkItem) :
    kind.counter (kind.count work) = kind.counter work + 1 := by
  cases kind <;> rfl

@[simp] theorem counter_count_other (kind : Negative) (work : WorkItem) :
    kind.other.counter (kind.count work) = kind.other.counter work := by
  cases kind <;> rfl

@[simp] theorem key_count (kind : Negative) (work : WorkItem) :
    (kind.count work).key = work.key := by
  cases kind <;> rfl

@[simp] theorem retryCount_count (kind : Negative) (work : WorkItem) :
    (kind.count work).retryCount = work.retryCount := by
  cases kind <;> rfl

theorem counters_add (kind : Negative) (work : WorkItem) :
    work.closedObservations + work.filteredObservations =
      kind.counter work + kind.other.counter work := by
  cases kind
  · rfl
  · exact Nat.add_comm _ _

theorem eq_or_eq_other (kind kind' : Negative) : kind' = kind ∨ kind' = kind.other := by
  cases kind <;> cases kind' <;> simp [other]

end Negative

/-! ### The two changes -/

section Changes

variable {work : WorkItem} {works works' : List WorkItem} {results : List PortResult}
  {observations new : List Observation} {result : PortResult}

theorem Counted.of_other {pair : Text × Port} (h : Counted work observations)
    (hnew : ∀ o ∈ new, o.1 = pair) (hne : work.key ≠ pair) :
    Counted work (new ++ observations) := by
  refine ⟨fun kind ↦ ?_, h.exclusive, h.retries⟩
  rw [Negative.observed_append_of_ne hnew hne]
  exact h.counter kind

theorem Confirmed.of_other {pair : Text × Port} (h : Confirmed result observations)
    (hnew : ∀ o ∈ new, o.1 = pair) (hne : result.key ≠ pair) :
    Confirmed result (new ++ observations) := by
  refine ⟨fun kind hstate hreason ↦ ?_, fun hboth ↦ h.conflicting fun kind ↦ ?_⟩
  · rw [Negative.observed_append_of_ne hnew hne, Negative.observed_append_of_ne hnew hne]
    exact h.negative kind hstate hreason
  · rw [← Negative.observed_append_of_ne hnew hne]
    exact hboth kind

theorem Evidence.perm (h : Evidence works results observations) (hperm : works.Perm works') :
    Evidence works' results observations := by
  have hkeys := (hperm.map WorkItem.key).append_right (results.map PortResult.key)
  exact ⟨hkeys.nodup_iff.mp h.distinct, fun work hwork ↦ h.counted work (hperm.mem_iff.mpr hwork),
    h.confirmed, fun o ho ↦ hkeys.mem_iff.mp (h.located o ho)⟩

section

variable (h : Evidence (work :: works) results observations)

include h

/-- The pair of the first item is that of no other item and of no result. -/
theorem Evidence.fresh :
    (∀ other ∈ works, other.key ≠ work.key) ∧ ∀ result ∈ results, result.key ≠ work.key := by
  have hfresh : work.key ∉ works.map WorkItem.key ++ results.map PortResult.key :=
    (List.nodup_cons.mp h.distinct).1
  rw [List.mem_append, not_or] at hfresh
  exact ⟨fun other hother heq ↦ hfresh.1 (List.mem_map.mpr ⟨other, hother, heq⟩),
    fun result hresult heq ↦ hfresh.2 (List.mem_map.mpr ⟨result, hresult, heq⟩)⟩

/-- The first item is published, after new observations of its pair. -/
theorem Evidence.settle (hkey : result.key = work.key) (hnew : ∀ o ∈ new, o.1 = work.key)
    (hresult : Confirmed result (new ++ observations)) :
    Evidence works (results ++ [result]) (new ++ observations) := by
  obtain ⟨hworks, hresults⟩ := h.fresh
  have hkeys : ((work :: works).map WorkItem.key ++ results.map PortResult.key).Perm
      (works.map WorkItem.key ++ (results ++ [result]).map PortResult.key) := by
    rw [List.map_append, List.map_cons, List.map_cons, List.map_nil, hkey, ← List.append_assoc]
    exact (List.perm_append_singleton _ _).symm
  refine ⟨hkeys.nodup_iff.mp h.distinct, fun other hother ↦ ?_, fun other hother ↦ ?_,
    fun o ho ↦ hkeys.mem_iff.mp ?_⟩
  · exact (h.counted other (List.mem_cons_of_mem _ hother)).of_other hnew (hworks other hother)
  · rcases List.mem_append.mp hother with hold | hlast
    · exact (h.confirmed other hold).of_other hnew (hresults other hold)
    · rw [List.mem_singleton.mp hlast]
      exact hresult
  · rcases List.mem_append.mp ho with hfirst | hold
    · rw [hnew o hfirst]
      exact List.mem_cons_self
    · exact h.located o hold

/-- The first item is kept, after new observations of its pair. -/
theorem Evidence.keep {kept : WorkItem} (hkey : kept.key = work.key)
    (hnew : ∀ o ∈ new, o.1 = work.key) (hkept : Counted kept (new ++ observations)) :
    Evidence (kept :: works) results (new ++ observations) := by
  obtain ⟨hworks, hresults⟩ := h.fresh
  refine ⟨?_, fun other hother ↦ ?_, fun other hother ↦ ?_, fun o ho ↦ ?_⟩
  · rw [List.map_cons, hkey]
    exact h.distinct
  · rcases List.mem_cons.mp hother with rfl | hother
    · exact hkept
    · exact (h.counted other (List.mem_cons_of_mem _ hother)).of_other hnew (hworks other hother)
  · exact (h.confirmed other hother).of_other hnew (hresults other hother)
  · rw [List.map_cons, hkey]
    rcases List.mem_append.mp ho with hfirst | hold
    · rw [hnew o hfirst]
      exact List.mem_cons_self
    · exact h.located o hold

end

section

variable (h : Counted work observations)

include h

/-- A result of another state follows from observations of at most one kind. -/
theorem Counted.confirmed (hkey : result.key = work.key)
    (hstate : ∀ kind : Negative, result.state ≠ kind.state) : Confirmed result observations := by
  refine ⟨fun kind hkind ↦ absurd hkind (hstate kind), fun hboth ↦ ?_⟩
  obtain ⟨kind, hzero⟩ := h.exclusive
  have hpositive := hboth kind
  rw [hkey, ← h.counter kind, hzero] at hpositive
  exact absurd hpositive (Nat.lt_irrefl 0)

/-- A verdict is observed that may be retried: the other one was not. -/
theorem Counted.observe (kind : Negative) (hother : kind.other.counter work = 0) :
    Counted { kind.count work with retryCount := (kind.count work).retryCount + 1 }
      ((work.key, kind.state, kind.reason) :: observations) := by
  have hkey : ({ kind.count work with
      retryCount := (kind.count work).retryCount + 1 } : WorkItem).key = work.key :=
    kind.key_count work
  have hcounter : ∀ kind' : Negative,
      kind'.counter { kind.count work with retryCount := (kind.count work).retryCount + 1 } =
        kind'.counter (kind.count work) := by
    intro kind'
    cases kind' <;> rfl
  refine ⟨fun kind' ↦ ?_, ⟨kind.other, ?_⟩, ?_⟩
  · rw [hkey, hcounter]
    rcases kind.eq_or_eq_other kind' with rfl | rfl
    · rw [Negative.counter_count_self, Negative.observed_cons_self, h.counter]
    · rw [Negative.counter_count_other, Negative.observed_cons_of_ne kind.state_other_ne, h.counter]
  · rw [hcounter, Negative.counter_count_other]
    exact hother
  · have hbefore := h.retries
    rw [kind.counters_add] at hbefore ⊢
    rw [hcounter, hcounter, Negative.counter_count_self, Negative.counter_count_other]
    show (kind.count work).retryCount + 1 = _
    rw [kind.retryCount_count]
    omega

/-- A verdict observed twice, and the other one not, is published. -/
theorem Counted.confirmed_negative (kind : Negative) (hkey : result.key = work.key)
    (hstate : result.state = kind.state) (htwice : 1 ≤ kind.counter work)
    (hother : kind.other.counter work = 0) :
    Confirmed result ((work.key, kind.state, kind.reason) :: observations) := by
  have hown : kind.observed ((work.key, kind.state, kind.reason) :: observations) result.key =
      kind.counter work + 1 := by
    rw [hkey, Negative.observed_cons_self, h.counter]
  have hnone : kind.other.observed ((work.key, kind.state, kind.reason) :: observations)
      result.key = 0 := by
    rw [Negative.observed_cons_of_ne kind.state_other_ne, hkey, ← h.counter, hother]
  refine ⟨fun kind' hkind' _ ↦ ?_, fun hboth ↦ ?_⟩
  · rcases kind.eq_or_eq_other kind' with rfl | rfl
    · rw [hown]
      exact ⟨Nat.succ_le_succ htwice, hnone⟩
    · exact absurd (hstate.symm.trans hkind') kind.state_other_ne
  · have hpositive := hboth kind.other
    rw [hnone] at hpositive
    exact absurd hpositive (Nat.lt_irrefl 0)

end

end Changes

end Skan.PortScan
