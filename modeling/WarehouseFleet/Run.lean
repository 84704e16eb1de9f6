import Mathlib.Order.Defs.PartialOrder

/-!
# Runs of a deterministic machine over a list of events

`step s e` is the state after event `e`; what is nondeterministic in the system is the list of
events. `Along` says that every step of a run, with the state it starts from, satisfies a
condition; `Along.run_invariant` is the induction over runs.
-/

namespace Run

variable {σ ε : Type} (step : σ → ε → σ)

def run (s : σ) (es : List ε) : σ := es.foldl step s

/-- Every step of the run from `s` over `es` satisfies `C`. -/
def Along (C : σ → ε → Prop) : σ → List ε → Prop
  | _, [] => True
  | s, e :: es => C s e ∧ Along C (step s e) es

instance decidableAlong (C : σ → ε → Prop) [∀ s e, Decidable (C s e)] :
    ∀ (s : σ) (es : List ε), Decidable (Along step C s es)
  | _, [] => isTrue trivial
  | s, e :: es =>
    have := decidableAlong C (step s e) es
    inferInstanceAs (Decidable (C s e ∧ Along step C (step s e) es))

variable {step} {C Q : σ → ε → Prop} {I : σ → Prop} {s : σ} {es : List ε}

theorem run_cons (s : σ) (e : ε) (es : List ε) :
    run step s (e :: es) = run step (step s e) es := rfl

theorem run_append (s : σ) (es fs : List ε) :
    run step s (es ++ fs) = run step (run step s es) fs := List.foldl_append

theorem along_append {fs : List ε} :
    Along step C s (es ++ fs) ↔ Along step C s es ∧ Along step C (run step s es) fs := by
  induction es generalizing s with
  | nil => simp [Along, run]
  | cons e es ih => simp only [List.cons_append, Along, ih, run_cons, and_assoc]

theorem Along.mono (hC : Along step C s es) (h : ∀ s e, C s e → Q s e) : Along step Q s es := by
  induction es generalizing s with
  | nil => trivial
  | cons e es ih => exact ⟨h s e hC.1, ih hC.2⟩

theorem Along.and_forall {P : ε → Prop} (hC : Along step C s es) (hP : ∀ e ∈ es, P e) :
    Along step (fun s e => C s e ∧ P e) s es := by
  induction es generalizing s with
  | nil => trivial
  | cons e es ih =>
    exact ⟨⟨hC.1, hP e (by simp)⟩, ih hC.2 fun e' he' => hP e' (by simp [he'])⟩

/-- A run breaks the condition at some step, or nowhere. -/
theorem exists_of_not_along (h : ¬ Along step C s es) :
    ∃ pre e post, es = pre ++ e :: post ∧ ¬ C (run step s pre) e := by
  induction es generalizing s with
  | nil => exact absurd trivial h
  | cons e es ih =>
    by_cases he : C s e
    · obtain ⟨pre, e', post, rfl, hne⟩ := ih fun hes => h ⟨he, hes⟩
      exact ⟨e :: pre, e', post, rfl, hne⟩
    · exact ⟨[], e, es, rfl, he⟩

theorem along_true : Along step (fun _ _ => True) s es := by
  induction es generalizing s with
  | nil => trivial
  | cons e es ih => exact ⟨trivial, ih⟩

/-- An invariant of the steps that meet `C` is one of the runs that do. -/
theorem Along.run_invariant (h : ∀ s e, I s → C s e → I (step s e)) (hC : Along step C s es)
    (hs : I s) : I (run step s es) := by
  induction es generalizing s with
  | nil => exact hs
  | cons e es ih => exact ih hC.2 (h s e hs hC.1)

/-- What the invariant of the steps that meet `C` implies of such a step holds along the run. -/
theorem Along.of_invariant (h : ∀ s e, I s → C s e → I (step s e) ∧ Q s e)
    (hC : Along step C s es) (hs : I s) : Along step Q s es := by
  induction es generalizing s with
  | nil => trivial
  | cons e es ih =>
    obtain ⟨hnext, hQ⟩ := h s e hs hC.1
    exact ⟨hQ, ih hC.2 hnext⟩

/-- `Along.run_invariant` for an invariant of every step. -/
theorem run_invariant (h : ∀ s e, I s → I (step s e)) (hs : I s) : I (run step s es) :=
  along_true.run_invariant (fun s e hs _ => h s e hs) hs

/-- A map between two machines that respects their steps respects their runs. -/
theorem run_map {τ δ : Type} {step' : τ → δ → τ} {f : σ → τ} {g : ε → δ}
    (h : ∀ s e, step' (f s) (g e) = f (step s e)) (s : σ) (es : List ε) :
    run step' (f s) (es.map g) = f (run step s es) := by
  induction es generalizing s with
  | nil => rfl
  | cons e es ih => rw [List.map_cons, run_cons, h, ih, run_cons]

/-- How many steps of the run meet `b`. -/
def count (step : σ → ε → σ) (b : σ → ε → Bool) : σ → List ε → Nat
  | _, [] => 0
  | s, e :: es => (b s e).toNat + count step b (step s e) es

theorem count_eq_zero {b : σ → ε → Bool} :
    count step b s es = 0 ↔ Along step (fun s e => b s e = false) s es := by
  induction es generalizing s with
  | nil => simp [count, Along]
  | cons e es ih => simp [count, Along, ih]

/-- `run_invariant` for what depends on how many of the steps so far meet `b`. -/
theorem run_counted {b : σ → ε → Bool} {I : Nat → σ → Prop} {n : Nat}
    (h : ∀ n s e, I n s → I (n + (b s e).toNat) (step s e)) (hs : I n s) :
    I (n + count step b s es) (run step s es) := by
  induction es generalizing s n with
  | nil => exact hs
  | cons e es ih =>
    rw [count, ← Nat.add_assoc]
    exact ih (h n s e hs)

/-- `run_invariant` for what holds at a time, where an event may read a clock, and what is read in
the run does not go back. -/
theorem run_timed {τ : Type} [Preorder τ] {readings : ε → List τ} {I : τ → σ → Prop} {t : τ}
    (h : ∀ t s, ∀ e ∈ es, (t :: readings e).Pairwise (· ≤ ·) → I t s →
      ∃ t' ∈ t :: readings e, I t' (step s e))
    (hes : (t :: es.flatMap readings).Pairwise (· ≤ ·)) (hs : I t s) :
    ∃ t', I t' (run step s es) := by
  induction es generalizing s t with
  | nil => exact ⟨t, hs⟩
  | cons e es ih =>
    rw [List.flatMap_cons, ← List.cons_append, List.pairwise_append] at hes
    obtain ⟨hfirst, hrest, hle⟩ := hes
    obtain ⟨t', ht', hs'⟩ := h t s e (by simp) hfirst hs
    exact ih (fun t s e' he' => h t s e' (by simp [he']))
      (List.pairwise_cons.mpr ⟨hle t' ht', hrest⟩) hs'

/-- Times that do not go back have a time before them. -/
theorem exists_first {τ : Type} [Preorder τ] [Inhabited τ] {ts : List τ}
    (h : ts.Pairwise (· ≤ ·)) : ∃ t, (t :: ts).Pairwise (· ≤ ·) := by
  cases ts with
  | nil => exact ⟨default, List.pairwise_singleton _ _⟩
  | cons t ts =>
    refine ⟨t, List.pairwise_cons.mpr ⟨fun t' ht' => ?_, h⟩⟩
    obtain rfl | ht' := List.mem_cons.mp ht'
    · exact le_rfl
    · exact (List.pairwise_cons.mp h).1 t' ht'

/-- **Forward simulation.** If another machine can answer each step that meets `C` with a run that
ends in a related state, it can answer each run that does. -/
theorem Along.exists_simulating {τ δ : Type} {step' : τ → δ → τ} {R : σ → τ → Prop} {t : τ}
    (h : ∀ s t e, R s t → C s e → ∃ fs, R (step s e) (run step' t fs))
    (hC : Along step C s es) (hR : R s t) : ∃ fs, R (run step s es) (run step' t fs) := by
  induction es generalizing s t with
  | nil => exact ⟨[], hR⟩
  | cons e es ih =>
    obtain ⟨fs, hfs⟩ := h s t e hR hC.1
    obtain ⟨gs, hgs⟩ := ih hC.2 hfs
    exact ⟨fs ++ gs, by rw [run_cons, run_append]; exact hgs⟩

/-- `Along.exists_simulating` for a machine that can answer every step. -/
theorem exists_simulating {τ δ : Type} {step' : τ → δ → τ} {R : σ → τ → Prop} {t : τ}
    (h : ∀ s t e, R s t → ∃ fs, R (step s e) (run step' t fs)) (hR : R s t) (es : List ε) :
    ∃ fs, R (run step s es) (run step' t fs) :=
  along_true.exists_simulating (fun s t e hR _ => h s t e hR) hR

/-! ## What can be reached -/

section
variable {τ : Type} [LE τ] {clock : ε → Option τ} {P P' : τ → σ → Prop} {t : τ}

/-- Events that meet `C`, at times that do not go back from `t`, can lead from `s` to where `P`
holds. -/
inductive Leads (step : σ → ε → σ) (clock : ε → Option τ) (C : σ → ε → Prop) (P : τ → σ → Prop) :
    τ → σ → Prop where
  | here {t : τ} {s : σ} (h : P t s) : Leads step clock C P t s
  | quiet {t : τ} {s : σ} (e : ε) (he : clock e = none) (hC : C s e)
      (h : Leads step clock C P t (step s e)) : Leads step clock C P t s
  | timed {t t' : τ} {s : σ} (e : ε) (he : clock e = some t') (ht : t ≤ t') (hC : C s e)
      (h : Leads step clock C P t' (step s e)) : Leads step clock C P t s

theorem Leads.trans (h : Leads step clock C P t s)
    (h' : ∀ t s, P t s → Leads step clock C P' t s) : Leads step clock C P' t s := by
  induction h with
  | here h => exact h' _ _ h
  | quiet e he hC _ ih => exact .quiet e he hC ih
  | timed e he ht hC _ ih => exact .timed e he ht hC ih

theorem Leads.mono {C' : σ → ε → Prop} (h : Leads step clock C P t s)
    (hC : ∀ s e, C s e → C' s e) : Leads step clock C' P t s := by
  induction h with
  | here h => exact .here h
  | quiet e he hCe _ ih => exact .quiet e he (hC _ _ hCe) ih
  | timed e he ht hCe _ ih => exact .timed e he ht (hC _ _ hCe) ih

/-- What the steps that meet `C` keep is kept on the way. -/
theorem Leads.invariant (hI : ∀ s e, I s → C s e → I (step s e)) (h : Leads step clock C P t s)
    (hs : I s) : Leads step clock C (fun t s => P t s ∧ I s) t s := by
  induction h with
  | here h => exact .here ⟨h, hs⟩
  | quiet e he hC _ ih => exact .quiet e he hC (ih (hI _ _ hs hC))
  | timed e he ht hC _ ih => exact .timed e he ht hC (ih (hI _ _ hs hC))

/-- Another machine can go the same way, if it can answer each step with the same event. -/
theorem Leads.lift {σ' ε' : Type} {step' : σ' → ε' → σ'} {clock' : ε' → Option τ}
    {C' : σ' → ε' → Prop} {P' : τ → σ' → Prop} {R : σ → σ' → Prop} {f : ε → ε'} {s' : σ'}
    (hR : ∀ s s' e, R s s' → C s e → C' s' (f e) ∧ R (step s e) (step' s' (f e)))
    (hclock : ∀ e, clock' (f e) = clock e) (hP : ∀ t s s', R s s' → P t s → P' t s')
    (h : Leads step clock C P t s) (hs : R s s') : Leads step' clock' C' P' t s' := by
  induction h generalizing s' with
  | here h => exact .here (hP _ _ _ hs h)
  | quiet e he hC _ ih =>
    obtain ⟨hC', hs'⟩ := hR _ _ e hs hC
    exact .quiet (f e) ((hclock e).trans he) hC' (ih hs')
  | timed e he ht hC _ ih =>
    obtain ⟨hC', hs'⟩ := hR _ _ e hs hC
    exact .timed (f e) ((hclock e).trans he) ht hC' (ih hs')

end

section
variable {τ : Type} [Preorder τ] {clock : ε → Option τ} {P : τ → σ → Prop} {t : τ}

/-- An event that takes no time. -/
theorem Leads.now (e : ε) (he : ∀ t' ∈ clock e, t' = t) (hC : C s e)
    (h : Leads step clock C P t (step s e)) : Leads step clock C P t s := by
  cases hclock : clock e with
  | none => exact .quiet e hclock hC h
  | some t' =>
    obtain rfl := he t' hclock
    exact .timed e hclock le_rfl hC h

/-- A queue can be emptied at once, if each of its states has an event that shortens it. -/
theorem Leads.drain {n : σ → Nat} (hn : ∀ s, I s → 0 < n s →
      ∃ e, (∀ t' ∈ clock e, t' = t) ∧ C s e ∧ I (step s e) ∧ n (step s e) < n s) (hs : I s) :
    Leads step clock C (fun _ s => I s ∧ n s = 0) t s := by
  induction hk : n s using Nat.strongRecOn generalizing s with
  | _ k ih =>
    obtain hzero | hpos := Nat.eq_zero_or_pos (n s)
    · exact .here ⟨hs, hzero⟩
    · obtain ⟨e, he, hC, hs', hlt⟩ := hn s hs hpos
      exact .now e he hC (ih _ (hk ▸ hlt) hs' rfl)

/-- The run that leads there. -/
theorem Leads.exists_run (h : Leads step clock C P t s) :
    ∃ es t', Along step C s es ∧ (t :: es.filterMap clock).Pairwise (· ≤ ·) ∧
      P t' (run step s es) := by
  induction h with
  | @here t s h => exact ⟨[], t, trivial, List.pairwise_singleton _ _, h⟩
  | quiet e he hC _ ih =>
    obtain ⟨es, t', hC', htimes, hP⟩ := ih
    exact ⟨e :: es, t', ⟨hC, hC'⟩, by rwa [List.filterMap_cons_none he], hP⟩
  | @timed t t' s e he ht hC _ ih =>
    obtain ⟨es, t'', hC', htimes, hP⟩ := ih
    refine ⟨e :: es, t'', ⟨hC, hC'⟩, ?_, hP⟩
    rw [List.filterMap_cons_some he]
    refine List.pairwise_cons.mpr ⟨fun t₁ ht₁ => ?_, htimes⟩
    obtain rfl | ht₁ := List.mem_cons.mp ht₁
    · exact ht
    · exact le_trans ht ((List.pairwise_cons.mp htimes).1 t₁ ht₁)

end

end Run
