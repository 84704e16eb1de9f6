import Mathlib.Order.Lattice

/-!
# The loop that keeps the best so far

A scan over scored candidates `(key, score)`: the best so far is replaced on a strictly smaller
score only. `least_selected` says what the scan returns from an arbitrary first value: that value,
or the first of the candidates with the least score. Over candidates in ascending order of their
keys, the first is the one with the least key (`Selected.sorted_cases`).
-/

namespace Least

variable {ι S : Type}

section
variable [LT S] [DecidableLT S]

def keep (best c : ι × S) : ι × S := if c.2 < best.2 then c else best

def least (best : ι × S) (cs : List (ι × S)) : ι × S := cs.foldl keep best

/-- Whatever `<` is. -/
theorem least_eq_or_mem (best : ι × S) (cs : List (ι × S)) :
    least best cs = best ∨ least best cs ∈ cs := by
  induction cs generalizing best with
  | nil => exact .inl rfl
  | cons c cs ih =>
    rw [least, List.foldl_cons, keep, ← least]
    split
    · exact .inr ((ih c).elim (fun h => by simp [h]) fun h => by simp [h])
    · exact (ih best).imp_right fun h => by simp [h]

end

variable [LinearOrder S]

/-- What a scan that starts at `best` returns. -/
inductive Selected (best : ι × S) (cs : List (ι × S)) : ι × S → Prop where
  | kept (h : ∀ c ∈ cs, best.2 ≤ c.2) : Selected best cs best
  | found (pre : List (ι × S)) (r : ι × S) (post : List (ι × S)) (hcs : cs = pre ++ r :: post)
      (hr : r.2 < best.2) (hpre : ∀ c ∈ pre, r.2 < c.2) (hpost : ∀ c ∈ post, r.2 ≤ c.2) :
      Selected best cs r

theorem least_selected (best : ι × S) (cs : List (ι × S)) :
    Selected best cs (least best cs) := by
  induction cs generalizing best with
  | nil => exact .kept (by simp)
  | cons c cs ih =>
    rw [least, List.foldl_cons, keep, ← least]
    split
    · next hc =>
      -- from here on the scan starts at `c`
      have h := ih c
      generalize least c cs = r at h ⊢
      cases h with
      | kept h => exact .found [] c cs rfl hc (by simp) h
      | found pre r post hcs hr hpre hpost =>
        exact .found (c :: pre) r post (by rw [hcs]; rfl) (hr.trans hc) (by simpa [hr] using hpre)
          hpost
    · next hc =>
      have h := ih best
      generalize least best cs = r at h ⊢
      cases h with
      | kept h => exact .kept (by simpa [not_lt.mp hc] using h)
      | found pre r post hcs hr hpre hpost =>
        exact .found (c :: pre) r post (by rw [hcs]; rfl) hr
          (by simpa [hr.trans_le (not_lt.mp hc)] using hpre) hpost

/-- Over ascending keys: the first value where no candidate is below it, else the least score, and
of those the least key. -/
theorem Selected.sorted_cases [Preorder ι] {best r : ι × S} {cs : List (ι × S)}
    (h : Selected best cs r) (hs : cs.Pairwise fun a b => a.1 < b.1) :
    (r = best ∧ ∀ c ∈ cs, best.2 ≤ c.2) ∨
    (r ∈ cs ∧ r.2 < best.2 ∧ ∀ c ∈ cs, r.2 ≤ c.2 ∧ (c.2 = r.2 → r.1 ≤ c.1)) := by
  cases h with
  | kept h => exact .inl ⟨rfl, h⟩
  | found pre r post hpp hr hpre hpost =>
    subst hpp
    refine .inr ⟨by simp, hr, fun c hc => ?_⟩
    obtain hc | rfl | hc : c ∈ pre ∨ c = r ∨ c ∈ post := by simpa using hc
    · exact ⟨(hpre c hc).le, fun he => absurd he (hpre c hc).ne'⟩
    · exact ⟨le_rfl, fun _ => le_rfl⟩
    · have hlt : r.1 < c.1 := (List.pairwise_cons.mp (List.pairwise_append.mp hs).2.1).1 c hc
      exact ⟨hpost c hc, fun _ => hlt.le⟩

/-- With every candidate below the first value and the keys ascending: that value comes back only
when there is no candidate, else one with the least score, and of those the one with the least
key. -/
theorem Selected.of_sorted [Preorder ι] {best r : ι × S} {cs : List (ι × S)}
    (h : Selected best cs r) (hs : cs.Pairwise fun a b => a.1 < b.1)
    (hcs : ∀ c ∈ cs, c.2 < best.2) :
    (cs = [] ∧ r = best) ∨
    (r ∈ cs ∧ ∀ c ∈ cs, r.2 ≤ c.2 ∧ (c.2 = r.2 → r.1 ≤ c.1)) := by
  obtain ⟨rfl, hle⟩ | ⟨hmem, -, hleast⟩ := h.sorted_cases hs
  · refine .inl ⟨List.eq_nil_iff_forall_not_mem.mpr fun c hc => ?_, rfl⟩
    exact absurd (hle c hc) (not_le.mpr (hcs c hc))
  · exact .inr ⟨hmem, hleast⟩

end Least
