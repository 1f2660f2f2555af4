import Mathlib.Data.List.Basic

/-!
# What a stream of values agrees on

Values are heard one by one; the first is what they agree on until a different one is heard, and
from then on they are split for good. The state after a stream depends only on which values are in
it (`ofList_eq_split_iff`), so neither on their order nor on how often each is heard. -/

inductive Consensus (α : Type*) where
  | silent
  | agreed (a : α)
  | split
  deriving DecidableEq

namespace Consensus

variable {α : Type*} [DecidableEq α] {values : List α}

/-- Hear one more value. -/
def hear : Consensus α → α → Consensus α
  | silent, a => agreed a
  | agreed a, b => if a = b then agreed a else split
  | split, _ => split

/-- Hear a list of values, in its order. -/
def ofList (values : List α) : Consensus α := values.foldl hear silent

/-- A split is for good. -/
theorem foldl_hear_split (values : List α) : values.foldl hear split = split := by
  induction values with
  | nil => rfl
  | cons b values ih => exact ih

/-- After the first value, either all the others are like it or the values are split. -/
theorem foldl_hear_agreed (a : α) (values : List α) :
    values.foldl hear (agreed a) = if ∀ b ∈ values, b = a then agreed a else split := by
  induction values with
  | nil => rfl
  | cons b values ih =>
    rw [List.foldl_cons, hear]
    by_cases hb : a = b
    · rw [if_pos hb, ih]
      simp [hb.symm]
    · rw [if_neg hb, foldl_hear_split, if_neg]
      exact fun hall ↦ hb (hall b List.mem_cons_self).symm

theorem ofList_cons (a : α) (values : List α) :
    ofList (a :: values) = if ∀ b ∈ values, b = a then agreed a else split :=
  foldl_hear_agreed a values

theorem ofList_append (values : List α) (a : α) :
    ofList (values ++ [a]) = (ofList values).hear a := by
  rw [ofList, List.foldl_append]
  rfl

theorem ofList_eq_silent_iff : ofList values = silent ↔ values = [] := by
  cases values with
  | nil => exact iff_of_true rfl rfl
  | cons a values =>
    rw [ofList_cons]
    split_ifs <;> simp

theorem ofList_eq_agreed_iff {a : α} :
    ofList values = agreed a ↔ values ≠ [] ∧ ∀ b ∈ values, b = a := by
  cases values with
  | nil => simp [ofList]
  | cons b values =>
    rw [ofList_cons]
    split_ifs with hall
    · constructor
      · rintro ⟨⟩
        exact ⟨List.cons_ne_nil _ _, List.forall_mem_cons.mpr ⟨rfl, hall⟩⟩
      · rintro ⟨-, hsame⟩
        rw [hsame b List.mem_cons_self]
    · refine iff_of_false (by simp) ?_
      rintro ⟨-, hsame⟩
      -- all values are equal to `a`, and so to the first
      obtain rfl := hsame b List.mem_cons_self
      exact hall fun c hc ↦ hsame c (List.mem_cons_of_mem _ hc)

theorem ofList_eq_split_iff : ofList values = split ↔ ∃ a ∈ values, ∃ b ∈ values, a ≠ b := by
  cases values with
  | nil => simp [ofList]
  | cons a values =>
    rw [ofList_cons]
    split_ifs with hall
    · refine iff_of_false (by simp) ?_
      rintro ⟨b, hb, c, hc, hne⟩
      have hsame : ∀ d ∈ a :: values, d = a := List.forall_mem_cons.mpr ⟨rfl, hall⟩
      exact hne ((hsame b hb).trans (hsame c hc).symm)
    · refine iff_of_true rfl ?_
      obtain ⟨b, hb, hne⟩ : ∃ b ∈ values, b ≠ a := by
        by_contra hnone
        exact hall fun b hb ↦ by_contra fun hne ↦ hnone ⟨b, hb, hne⟩
      exact ⟨b, List.mem_cons_of_mem _ hb, a, List.mem_cons_self, hne⟩

end Consensus
