import Mathlib.Data.Nat.Notation

/-!
# Total correctness of programs that may fault

A program is a computation in `Except ε`; its faults are what it must never come to: an access out
of bounds, a loop that goes on for ever. `Ensures x p` says that `x` comes to none of them and that
its result has `p`.

`while` loops are `loop`: a step that goes on with a new state or leaves with a result. A loop has
fuel, and running out of it is a fault like the others, so that "the loop terminates" is a
statement about the program. The rules ask for an invariant and for a measure that every step
decreases: `loop_ensures` where no step faults, `loop_comes` where a fault may be what is wanted.
-/

namespace Loops

universe u

variable {ε : Type*} {σ α β : Type u} {p q : α → Prop}

/-- The computation comes to a result, and the result has the property. -/
def Ensures (x : Except ε α) (p : α → Prop) : Prop := ∃ a, x = .ok a ∧ p a

theorem ensures_pure {a : α} (h : p a) : Ensures (pure a : Except ε α) p := ⟨a, rfl, h⟩

theorem Ensures.mono {x : Except ε α} (h : Ensures x p) (hpq : ∀ a, p a → q a) : Ensures x q := by
  obtain ⟨a, hx, ha⟩ := h
  exact ⟨a, hx, hpq a ha⟩

theorem Ensures.bind {x : Except ε α} {f : α → Except ε β} {r : β → Prop} (h : Ensures x p)
    (hf : ∀ a, p a → Ensures (f a) r) : Ensures (x >>= f) r := by
  obtain ⟨a, rfl, ha⟩ := h
  exact hf a ha

theorem ensures_ite {c : Prop} [Decidable c] {x y : Except ε α} (hx : c → Ensures x p)
    (hy : ¬ c → Ensures y p) : Ensures (if c then x else y) p := by
  by_cases hc : c
  · rw [if_pos hc]
    exact hx hc
  · rw [if_neg hc]
    exact hy hc

/-- The loop of a step that goes on with a new state or leaves with a result. -/
def loop (endless : ε) (step : σ → Except ε (σ ⊕ α)) : ℕ → σ → Except ε α
  | 0, _ => .error endless
  | fuel + 1, s => do
    match ← step s with
    | .inl s => loop endless step fuel s
    | .inr a => pure a

/-- **The loop rule for results and faults.** A step that keeps the invariant and decreases the
measure, or leaves with what is wanted, or faults as is wanted, makes a loop that does as is
wanted. -/
theorem loop_comes {endless : ε} {step : σ → Except ε (σ ⊕ α)} {r : Except ε α → Prop}
    (I : σ → Prop) (measure : σ → ℕ)
    (hstep : ∀ s, I s → match step s with
      | .ok (.inl next) => I next ∧ measure next < measure s
      | .ok (.inr a) => r (.ok a)
      | .error e => r (.error e)) {fuel : ℕ} {s : σ} (hs : I s)
    (hfuel : measure s < fuel) : r (loop endless step fuel s) := by
  induction fuel generalizing s with
  | zero => exact absurd hfuel (Nat.not_lt_zero _)
  | succ fuel ih =>
    have h := hstep s hs
    rw [loop]
    cases hnext : step s with
    | error e =>
      rw [hnext] at h
      exact h
    | ok next =>
      rw [hnext] at h
      cases next with
      | inl next => exact ih h.1 (Nat.lt_of_lt_of_le h.2 (Nat.le_of_lt_succ hfuel))
      | inr a => exact h

/-- What a step ensures with respect to an invariant, a measure and a postcondition. -/
def StepsTo (I : σ → Prop) (measure : σ → ℕ) (p : α → Prop) (s : σ) : σ ⊕ α → Prop
  | .inl next => I next ∧ measure next < measure s
  | .inr a => p a

/-- **The loop rule.** A step that keeps the invariant and decreases the measure, or leaves with
what is wanted, makes a loop that ends with what is wanted. -/
theorem loop_ensures {endless : ε} {step : σ → Except ε (σ ⊕ α)} (I : σ → Prop) (measure : σ → ℕ)
    (hstep : ∀ s, I s → Ensures (step s) (StepsTo I measure p s)) {fuel : ℕ} {s : σ} (hs : I s)
    (hfuel : measure s < fuel) : Ensures (loop endless step fuel s) p := by
  refine loop_comes (r := fun x ↦ Ensures x p) I measure (fun s hs ↦ ?_) hs hfuel
  obtain ⟨next, hnext, hto⟩ := hstep s hs
  rw [hnext]
  cases next with
  | inl next => exact hto
  | inr a => exact ensures_pure hto

end Loops
