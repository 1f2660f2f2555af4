import Mathlib.Data.Multiset.AddSub

/-!
# Runs of a deterministic system under a list of events

A system is a step function `σ → ε → σ`; everything nondeterministic about it is in the list of
events, which a theorem quantifies over. A run is the left fold of the step.

## The rules

* `run_invariant`: what one step preserves, every run preserves.
* `run_invariant_within`: what a step preserves **provided it meets a condition**, every run all of
  whose steps meet that condition preserves. `Within` states the condition at the state each step
  starts from, so it can speak of the state as well as of the event.

* `run_conserves`: what every step balances, every run balances.

`steps_invariant` and `steps_related` are the same rules for a system given by a step relation.
-/

namespace Runs

variable {σ ε : Type*} (step : σ → ε → σ) {P : σ → ε → Prop} {s : σ} {events : List ε}
  {I : σ → Prop}

/-- The state a list of events leads to. -/
def run (s : σ) (events : List ε) : σ := events.foldl step s

@[simp] theorem run_cons (s : σ) (e : ε) (es : List ε) :
    run step s (e :: es) = run step (step s e) es := rfl

theorem run_append (s : σ) (es es' : List ε) :
    run step s (es ++ es') = run step (run step s es) es' :=
  List.foldl_append

/-- Every step of the run from `s` is taken in a state, and on an event, that meet `P`. -/
def Within (P : σ → ε → Prop) : σ → List ε → Prop
  | _, [] => True
  | s, e :: es => P s e ∧ Within P (step s e) es

variable {step}

theorem within_cons {e : ε} {es : List ε} :
    Within step P s (e :: es) ↔ P s e ∧ Within step P (step s e) es := Iff.rfl

/-- A condition on the events alone. -/
theorem within_of_forall (h : ∀ e ∈ events, ∀ s, P s e) (s : σ) : Within step P s events := by
  induction events generalizing s with
  | nil => trivial
  | cons e es ih =>
    exact ⟨h e List.mem_cons_self s, ih (fun e' he' ↦ h e' (List.mem_cons_of_mem _ he')) _⟩

/-- A run is within a condition if it is so to some state and from there on. -/
theorem within_append {later : List ε} :
    Within step P s (events ++ later) ↔
      Within step P s events ∧ Within step P (run step s events) later := by
  induction events generalizing s with
  | nil => exact (and_iff_right trivial).symm
  | cons e es ih =>
    show _ ∧ Within step P (step s e) (es ++ later) ↔ (_ ∧ _) ∧ _
    rw [ih, and_assoc]
    rfl

/-- What every step preserves, every run preserves. -/
theorem run_invariant (hstep : ∀ s e, I s → I (step s e)) (hs : I s) (events : List ε) :
    I (run step s events) := by
  induction events generalizing s with
  | nil => exact hs
  | cons e es ih => exact ih (hstep s e hs)

/-- What the steps that meet `P` preserve, every run within `P` preserves. -/
theorem run_invariant_within (hstep : ∀ s e, P s e → I s → I (step s e)) (hs : I s)
    (hP : Within step P s events) : I (run step s events) := by
  induction events generalizing s with
  | nil => exact hs
  | cons e es ih => exact ih (hstep s e hP.1 hs) hP.2

/-- Wherever an invariant holds, which the steps that meet `P` preserve, what `P` implies holds
along the run. -/
theorem within_imp {Q : σ → ε → Prop} (hPQ : ∀ s e, I s → P s e → Q s e)
    (hstep : ∀ s e, P s e → I s → I (step s e)) (hs : I s) (h : Within step P s events) :
    Within step Q s events := by
  induction events generalizing s with
  | nil => trivial
  | cons e es ih => exact ⟨hPQ s e hs h.1, ih (hstep s e h.1 hs) h.2⟩

/-- Two conditions that agree wherever an invariant holds, which the steps that meet the first
preserve, hold of the same runs. -/
theorem within_iff {Q : σ → ε → Prop} (hPQ : ∀ s e, I s → (P s e ↔ Q s e))
    (hstep : ∀ s e, P s e → I s → I (step s e)) (hs : I s) (events : List ε) :
    Within step P s events ↔ Within step Q s events :=
  ⟨within_imp (fun s e h ↦ (hPQ s e h).mp) hstep hs,
    within_imp (fun s e h ↦ (hPQ s e h).mpr)
      (fun s e hq h ↦ hstep s e ((hPQ s e h).mpr hq) h) hs⟩

/-- A reflexive and transitive relation that every step respects relates the ends of a run. -/
theorem run_related {R : σ → σ → Prop} (hrefl : ∀ s, R s s)
    (htrans : ∀ {a b c}, R a b → R b c → R a c) (hstep : ∀ s e, R s (step s e)) (s : σ)
    (events : List ε) : R s (run step s events) := by
  induction events generalizing s with
  | nil => exact hrefl s
  | cons e es ih => exact htrans (hstep s e) (ih (step s e))

/-! ### What the steps of a run give -/

variable (step) in
/-- What the steps of a run give, in order. -/
def along {α : Type*} (f : σ → ε → List α) : σ → List ε → List α
  | _, [] => []
  | s, e :: es => f s e ++ along f (step s e) es

/-- **Conservation.** Where every step balances what a state holds with what comes and what goes, so
does every run. -/
theorem run_conserves {α : Type*} {held : σ → List α} {comes goes : σ → ε → List α}
    (hinvariant : ∀ s e, I s → I (step s e))
    (hstep : ∀ s e, I s → (held s ++ comes s e).Perm (held (step s e) ++ goes s e)) (hs : I s)
    (events : List ε) :
    (held s ++ along step comes s events).Perm
      (held (run step s events) ++ along step goes s events) := by
  induction events generalizing s with
  | nil => exact .refl _
  | cons e es ih =>
    have hone := hstep s e hs
    have hrest := ih (hinvariant s e hs)
    simp only [← Multiset.coe_eq_coe, ← Multiset.coe_add] at hone hrest
    rw [along, along, run_cons, ← Multiset.coe_eq_coe]
    simp only [← Multiset.coe_add]
    rw [← Multiset.add_assoc, hone, Multiset.add_assoc, Multiset.add_comm (goes s e : Multiset α),
      ← Multiset.add_assoc, hrest, Multiset.add_assoc, Multiset.add_comm _ (goes s e : Multiset α)]

/-! ### Systems given by a relation -/

variable {r : σ → σ → Prop} {a b : σ}

/-- What every step preserves, any number of steps preserves. -/
theorem steps_invariant (hstep : ∀ {a b}, r a b → I a → I b) (h : Relation.ReflTransGen r a b)
    (ha : I a) : I b := by
  induction h with
  | refl => exact ha
  | tail _ hbc ih => exact hstep hbc ih

/-- A reflexive and transitive relation that every step respects relates the ends of a run. -/
theorem steps_related {R : σ → σ → Prop} (hrefl : ∀ a, R a a)
    (htrans : ∀ {a b c}, R a b → R b c → R a c) (hstep : ∀ {a b}, r a b → R a b)
    (h : Relation.ReflTransGen r a b) : R a b := by
  induction h with
  | refl => exact hrefl a
  | tail _ hbc ih => exact htrans ih (hstep hbc)

end Runs
