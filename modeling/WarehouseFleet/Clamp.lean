import Mathlib.Algebra.Order.BigOperators.Group.List
import Mathlib.Algebra.Order.Group.MinMax

/-!
# Sums that are clamped on the way

`walk lo hi x ds` adds the `ds` to `x` one by one and clamps after each. Increments of one sign move
the value one way, so it meets at most one of the two bounds and the last clamp does the work of
all (`walk_eq_of_nonneg`, `walk_eq_of_nonpos`). With mixed signs that fails, but the walk is still
monotone in where it starts and in every increment (`walk_le_walk`).
-/

namespace Clamp

variable {S : Type} [LinearOrder S]

def clamp (lo hi v : S) : S := max lo (min v hi)

variable {lo hi v w : S}

theorem le_clamp : lo ≤ clamp lo hi v := le_max_left _ _

theorem clamp_le (h : lo ≤ hi) : clamp lo hi v ≤ hi := max_le h (min_le_right _ _)

theorem clamp_mono (h : v ≤ w) : clamp lo hi v ≤ clamp lo hi w :=
  max_le_max_left _ (min_le_min_right _ h)

theorem clamp_of_le (h : lo ≤ hi) (hv : lo ≤ v) : clamp lo hi v = min v hi :=
  max_eq_right (le_min hv h)

theorem clamp_of_ge (hv : v ≤ hi) : clamp lo hi v = max lo v := by
  rw [clamp, min_eq_left hv]

theorem clamp_of_mem (hlo : lo ≤ v) (hhi : v ≤ hi) : clamp lo hi v = v := by
  rw [clamp_of_ge hhi, max_eq_right hlo]

variable [AddCommGroup S] [IsOrderedAddMonoid S] {d x y : S} {ds es : List S}

/-- Only the upper bound may cut something off, and it does so again at the end. -/
theorem clamp_clamp_add_of_nonneg (h : lo ≤ hi) (hv : lo ≤ v) (hd : 0 ≤ d) :
    clamp lo hi (clamp lo hi v + d) = clamp lo hi (v + d) := by
  rw [clamp_of_le h hv, clamp, clamp, ← min_add_add_right v hi d, min_assoc,
    min_eq_right (le_add_of_nonneg_right hd)]

theorem clamp_clamp_add_of_nonpos (h : lo ≤ hi) (hv : v ≤ hi) (hd : d ≤ 0) :
    clamp lo hi (clamp lo hi v + d) = clamp lo hi (v + d) := by
  have hcut : max lo v + d ≤ hi := (add_le_of_nonpos_right hd).trans (max_le h hv)
  have hsum : v + d ≤ hi := (add_le_of_nonpos_right hd).trans hv
  rw [clamp_of_ge hv, clamp_of_ge hcut, clamp_of_ge hsum, ← max_add_add_right lo v d, ← max_assoc,
    max_eq_left (add_le_of_nonpos_right hd)]

/-- Every increment is clamped. -/
def walk (lo hi : S) (x : S) (ds : List S) : S := ds.foldl (fun x d => clamp lo hi (x + d)) x

theorem walk_eq_of_nonneg (h : lo ≤ hi) (hlo : lo ≤ x) (hhi : x ≤ hi) (hds : ∀ d ∈ ds, 0 ≤ d) :
    walk lo hi x ds = clamp lo hi (x + ds.sum) := by
  induction ds generalizing x with
  | nil => simp [walk, clamp_of_mem hlo hhi]
  | cons d ds ih =>
    obtain ⟨hd, hds⟩ := List.forall_mem_cons.mp hds
    rw [walk, List.foldl_cons, ← walk, ih le_clamp (clamp_le h) hds,
      clamp_clamp_add_of_nonneg h (le_add_of_le_of_nonneg hlo hd) (List.sum_nonneg hds),
      List.sum_cons, add_assoc]

theorem walk_eq_of_nonpos (h : lo ≤ hi) (hlo : lo ≤ x) (hhi : x ≤ hi) (hds : ∀ d ∈ ds, d ≤ 0) :
    walk lo hi x ds = clamp lo hi (x + ds.sum) := by
  induction ds generalizing x with
  | nil => simp [walk, clamp_of_mem hlo hhi]
  | cons d ds ih =>
    obtain ⟨hd, hds⟩ := List.forall_mem_cons.mp hds
    have hsum : ds.sum ≤ 0 := (ds.sum_le_card_nsmul 0 hds).trans_eq (nsmul_zero _)
    rw [walk, List.foldl_cons, ← walk, ih le_clamp (clamp_le h) hds,
      clamp_clamp_add_of_nonpos h (add_le_of_le_of_nonpos hhi hd) hsum,
      List.sum_cons, add_assoc]

theorem walk_le_walk (hxy : x ≤ y) (hds : List.Forall₂ (· ≤ ·) ds es) :
    walk lo hi x ds ≤ walk lo hi y es := by
  induction hds generalizing x y with
  | nil => exact hxy
  | cons hd _ ih => exact ih (clamp_mono (add_le_add hxy hd))

end Clamp
