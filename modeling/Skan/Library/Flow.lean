import Mathlib.Algebra.BigOperators.Pi
import Mathlib.Algebra.Order.BigOperators.Group.Finset
import Mathlib.Data.Fintype.BigOperators

/-!
# Items flowing between locations

The abstract account of a component that takes work in, keeps each item in one of several
containers while it is processed, and finally publishes it. All that is recorded is *what each
location holds*, a multiset of items; the component's own data is forgotten.

## Moves

`Move edge` takes **one** item along **one** edge of a graph of locations; `Moves edge` is any
number of them. A component refines this account when every one of its operations is `Moves` on what
its containers hold, and then it inherits, whatever its control flow:

* `Moves.total_eq`: nothing is lost and nothing is duplicated;
* `Moves.le_of_sink`: what has arrived in a location without outgoing edges stays there;
* `existsUnique_location`: if the work is duplicate-free, each item is in exactly one location, and
  there exactly once.
-/

namespace Flow

variable {ι κ : Type*} {work : Multiset κ}

/-- What each location holds. -/
abbrev Holding (ι κ : Type*) := ι → Multiset κ

variable [DecidableEq ι]

/-- One item moves along one edge. -/
inductive Move (edge : ι → ι → Prop) : Holding ι κ → Holding ι κ → Prop
  | along (rest : Holding ι κ) (x : κ) {a b : ι} (hedge : edge a b) :
      Move edge (rest + Pi.single a {x}) (rest + Pi.single b {x})

/-- Any number of moves. -/
abbrev Moves (edge : ι → ι → Prop) : Holding ι κ → Holding ι κ → Prop :=
  Relation.ReflTransGen (Move edge)

/-- Putting one more item into a location, and nothing anywhere else. -/
theorem eq_add_single {h h' : Holding ι κ} (location : ι) (x : κ)
    (hself : h' location = x ::ₘ h location)
    (hother : ∀ other, other ≠ location → h' other = h other) :
    h' = h + Pi.single location {x} := by
  funext other
  by_cases hother' : other = location
  · subst hother'
    rw [hself, Pi.add_apply, Pi.single_eq_same, add_comm, Multiset.singleton_add]
  · rw [hother other hother', Pi.add_apply, Pi.single_eq_of_ne hother', add_zero]

namespace Moves

variable {edge : ι → ι → Prop} {h h' : Holding ι κ}

/-- A single move, from its end points. -/
theorem single {rest : Holding ι κ} {x : κ} {a b : ι} (hedge : edge a b)
    (hh : h = rest + Pi.single a {x}) (hh' : h' = rest + Pi.single b {x}) : Moves edge h h' := by
  rw [hh, hh']
  exact Relation.ReflTransGen.single (Move.along rest x hedge)

variable [Fintype ι]

private theorem sum_add_single (rest : Holding ι κ) (a : ι) (x : κ) :
    ∑ i, (rest + Pi.single a {x} : Holding ι κ) i = ∑ i, rest i + {x} := by
  simp only [Pi.add_apply, Finset.sum_add_distrib]
  rw [Finset.sum_pi_single']
  simp

/-- **Conservation.** Moves keep the multiset of all items. -/
theorem total_eq (hm : Moves edge h h') : ∑ i, h' i = ∑ i, h i := by
  induction hm with
  | refl => rfl
  | tail _ hstep ih =>
    cases hstep with
    | along rest x hedge => rw [← ih, sum_add_single, sum_add_single]

omit [Fintype ι] in
/-- **A sink only grows.** Nothing leaves a location without outgoing edges. -/
theorem le_of_sink {sink : ι} (hsink : ∀ b, ¬ edge sink b) (hm : Moves edge h h') :
    h sink ≤ h' sink := by
  induction hm with
  | refl => exact le_rfl
  | tail _ hstep ih =>
    refine ih.trans ?_
    cases hstep with
    | @along rest x a b hedge =>
      have hne : sink ≠ a := by
        rintro rfl
        exact hsink b hedge
      simp only [Pi.add_apply, Pi.single_eq_of_ne hne, add_zero]
      exact Multiset.le_add_right _ _

end Moves

variable [Fintype ι] [DecidableEq κ]

omit [DecidableEq ι] in
/-- The occurrences of an item in all locations add up to its occurrences in the work. -/
theorem sum_count_eq {h : Holding ι κ} (htotal : ∑ i, h i = work) (x : κ) :
    ∑ i, (h i).count x = work.count x := by
  rw [← htotal, Multiset.count_sum']

/-- **Exactly one location.** When the locations together hold duplicate-free work, every item of it
is in one location and in no other. -/
theorem existsUnique_location {h : Holding ι κ} (htotal : ∑ i, h i = work) (hnodup : work.Nodup)
    {x : κ} (hx : x ∈ work) : ∃! i, x ∈ h i := by
  have hsum : ∑ i, (h i).count x = 1 := by
    rw [sum_count_eq htotal, Multiset.count_eq_one_of_mem hnodup hx]
  obtain ⟨i, hi⟩ : ∃ i, x ∈ h i := by
    by_contra hnone
    simp only [not_exists] at hnone
    have hzero : ∑ i, (h i).count x = 0 :=
      Finset.sum_eq_zero fun i _ ↦ Multiset.count_eq_zero.mpr (hnone i)
    omega
  refine ⟨i, hi, fun j hj ↦ ?_⟩
  by_contra hne
  have hpair : (h i).count x + (h j).count x ≤ ∑ k, (h k).count x := by
    rw [← Finset.sum_pair (f := fun k ↦ (h k).count x) (Ne.symm hne)]
    exact Finset.sum_le_sum_of_subset (Finset.subset_univ _)
  have hi' := Multiset.one_le_count_iff_mem.mpr hi
  have hj' := Multiset.one_le_count_iff_mem.mpr hj
  omega

omit [DecidableEq ι] in
/-- No item occurs in a location more often than in the work. -/
theorem count_le_one {h : Holding ι κ} (htotal : ∑ i, h i = work) (hnodup : work.Nodup) (i : ι)
    (x : κ) : (h i).count x ≤ 1 := by
  calc (h i).count x ≤ ∑ k, (h k).count x :=
        Finset.single_le_sum (f := fun k ↦ (h k).count x) (fun _ _ ↦ Nat.zero_le _)
          (Finset.mem_univ i)
    _ = work.count x := sum_count_eq htotal x
    _ ≤ 1 := Multiset.nodup_iff_count_le_one.mp hnodup x

end Flow
