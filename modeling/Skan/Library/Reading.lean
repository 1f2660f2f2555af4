import Mathlib.Data.List.Induction

/-!
# Reading a list, or giving up

A reader goes through a list with a state and may give up at any element: it is a monadic fold. Its
invariant speaks of the part of the list that was read as well as of the state, so that it can say
where in the list the things in the state come from.
-/

namespace Reading

variable {α β γ : Type*} {f : β → α → Option β}

theorem foldlM_concat (l : List α) (a : α) (b : β) :
    (l ++ [a]).foldlM f b = (l.foldlM f b).bind (f · a) := by
  rw [List.foldlM_append]
  refine congrArg (Option.bind _) (funext fun s ↦ ?_)
  rw [List.foldlM_cons]
  exact bind_pure (f s a)

/-- **The rule for readers.** What holds before anything is read, and is kept by every element that
is read, holds in the end. -/
theorem foldlM_invariant {I : List α → β → Prop} {b : β} (hstart : I [] b)
    (hstep : ∀ read s a s', I read s → f s a = some s' → I (read ++ [a]) s') {l : List α} {s : β}
    (h : l.foldlM f b = some s) : I l s := by
  induction l using List.reverseRecOn generalizing s with
  | nil => exact Option.some.inj h ▸ hstart
  | append_singleton read a ih =>
    rw [foldlM_concat, Option.bind_eq_some_iff] at h
    obtain ⟨before, hbefore, ha⟩ := h
    exact hstep read before a s (ih hbefore) ha

/-- **The rule for two readers of one list.** A relation that is kept by every element that both
readers read holds in the end, if both read the whole list. One of them says why it gives up. -/
theorem foldlM_related {ε : Type*} {g : γ → α → Except ε γ} {R : β → γ → Prop} {l : List α}
    (hstep : ∀ a ∈ l, ∀ b c b' c', R b c → f b a = some b' → g c a = .ok c' → R b' c') {b b' : β}
    {c c' : γ} (h : R b c) (hf : l.foldlM f b = some b') (hg : l.foldlM g c = .ok c') :
    R b' c' := by
  induction l generalizing b c with
  | nil =>
    obtain rfl := Option.some.inj hf
    obtain rfl := Except.ok.inj hg
    exact h
  | cons a l ih =>
    obtain ⟨hone, hrest⟩ := List.forall_mem_cons.mp hstep
    rw [List.foldlM_cons, Option.bind_eq_bind, Option.bind_eq_some_iff] at hf
    obtain ⟨b₁, hb, hf⟩ := hf
    rw [List.foldlM_cons] at hg
    rcases hc : g c a with error | c₁
    · rw [hc] at hg
      exact nomatch hg
    · rw [hc] at hg
      exact ih hrest (hone b c b₁ c₁ h hb hc) hf hg

end Reading
