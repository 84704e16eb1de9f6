import Mathlib.Data.List.Perm.Basic

/-!
# Taking elements out of lists

Messages are taken out of the list they wait in and put somewhere else. Up to order, nothing else
happens to the two lists.
-/

namespace Moves

variable {α : Type} {xs ys : List α} {x : α} {k : Nat} {p : α → Bool}

/-- What is taken from one list and put at the end of another. -/
theorem perm_move (h : xs[k]? = some x) : (xs.eraseIdx k ++ (ys ++ [x])).Perm (xs ++ ys) := by
  obtain ⟨hlt, rfl⟩ := List.getElem?_eq_some_iff.mp h
  calc (xs.eraseIdx k ++ (ys ++ [xs[k]])).Perm (xs[k] :: (xs.eraseIdx k ++ ys)) := by
        rw [← List.append_assoc]
        exact List.perm_append_singleton ..
    _ = xs[k] :: xs.eraseIdx k ++ ys := rfl
    List.Perm _ (xs ++ ys) := (List.getElem_cons_eraseIdx_perm hlt).append_right ys

/-- What is found can be taken out. -/
theorem perm_cons_eraseP (h : xs.find? p = some x) : xs.Perm (x :: xs.eraseP p) := by
  obtain ⟨hx, before, after, rfl, hbefore⟩ := List.find?_eq_some_iff_append.mp h
  have herase : (before ++ x :: after).eraseP p = before ++ after := by
    rw [List.eraseP_append_right _ (by simpa using hbefore), List.eraseP_cons_of_pos hx]
  rw [herase]
  exact List.perm_middle

/-- What is found is the first one of its kind, also in a list that shows less of it. -/
theorem map_erase {β : Type} [DecidableEq α] [DecidableEq β] {f : α → β} {q : β → Bool}
    (hq : ∀ a, q (f a) = p a) (h : xs.find? p = some x) :
    (xs.map f).erase (f x) = (xs.erase x).map f := by
  obtain ⟨hx, before, after, rfl, hbefore⟩ := List.find?_eq_some_iff_append.mp h
  have hmem : x ∉ before := fun hmem => by simpa [hx] using hbefore x hmem
  have hmem' : f x ∉ before.map f := by
    intro hmem'
    obtain ⟨a, ha, heq⟩ := List.mem_map.mp hmem'
    have hpa : p a = p x := by rw [← hq, ← hq, heq]
    simpa [hpa, hx] using hbefore a ha
  rw [List.map_append, List.map_cons, List.erase_append_right _ hmem',
    List.erase_append_right _ hmem, List.erase_cons_head, List.erase_cons_head, List.map_append]

end Moves
