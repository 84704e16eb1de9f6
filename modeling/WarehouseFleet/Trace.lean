/-!
# Properties of a trace, entry by entry

`Each P tr` says of every entry of `tr` what `P` says of it and of the entries before it. A trace
grows at its end, so `each_append` is the step of every induction.
-/

namespace Trace

variable {α : Type} {P : List α → α → Prop} {tr new : List α} {o : α}

/-- Every entry satisfies `P`, given what was before it. -/
def Each (P : List α → α → Prop) (tr : List α) : Prop :=
  ∀ pre o post, tr = pre ++ o :: post → P pre o

theorem each_nil : Each P [] := fun pre o post h => by simp at h

theorem Each.concat (h : Each P tr) (ho : P tr o) : Each P (tr ++ [o]) := by
  intro pre o' post heq
  obtain rfl | ⟨post, last, rfl⟩ := List.eq_nil_or_concat post
  · obtain ⟨rfl, rfl⟩ := List.append_singleton_inj.mp heq
    exact ho
  · rw [List.concat_eq_append, ← List.cons_append, ← List.append_assoc] at heq
    obtain ⟨rfl, -⟩ := List.append_singleton_inj.mp heq
    exact h pre o' post rfl

theorem Each.of_prefix (h : Each P tr) {tr' : List α} (hp : tr' <+: tr) : Each P tr' := by
  obtain ⟨new, rfl⟩ := hp
  rintro pre o post rfl
  exact h pre o (post ++ new) (by simp)

/-- Entries of which `P` says nothing may be appended. -/
theorem Each.append (h : Each P tr) (hnew : ∀ o ∈ new, ∀ pre, P pre o) : Each P (tr ++ new) := by
  induction new generalizing tr with
  | nil => simpa using h
  | cons o new ih =>
    rw [← List.singleton_append, ← List.append_assoc]
    exact ih (h.concat (hnew o (by simp) tr)) fun o' ho' => hnew o' (by simp [ho'])

end Trace
