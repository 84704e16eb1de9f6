import WarehouseFleet.BehaviorTree.Basic

/-!
# What every leaf callback keeps, a tick keeps

`tick_preserves`: a property of the world that no leaf callback breaks survives a tick, whatever
the tree and wherever it stood. With `I := R w₀` for a fixed `w₀` the same rule gives relations
between the worlds before and after a tick.
-/

namespace BehaviorTree

variable {L W : Type} {sem : L → Action W}

/-- Every callback of the leaf keeps `I`. -/
structure Action.Preserves (a : Action W) (I : W → Prop) : Prop where
  onStart : ∀ w, I w → I (a.onStart w).2
  onRunning : ∀ w, I w → I (a.onRunning w).2
  onHalted : ∀ w, I w → I (a.onHalted w)

theorem ofLeaf_snd (r : NodeStatus × W) : (Outcome.ofLeaf r).2 = r.2 := by
  obtain ⟨s, w⟩ := r
  cases s <;> rfl

theorem retryLoop_preserves {I : W → Prop} {f : Option Path → W → Outcome × W}
    (hf : ∀ m w, I w → I (f m w).2) :
    ∀ (left k : Nat) (m : Option Path) (w : W), I w → I (retryLoop f left k m w).2
  | 0, _, _, _, hw => hw
  | left + 1, k, m, w, hw => by
    have hc := hf m w hw
    unfold retryLoop
    generalize f m w = r at hc
    match r, hc with
    | (.done true, _), hc => exact hc
    | (.running _, _), hc => exact hc
    | (.done false, w'), hc => exact retryLoop_preserves hf left (k + 1) none w' hc

section
variable {I : W → Prop}

mutual

theorem halt_preserves (h : ∀ l, (sem l).Preserves I) :
    ∀ (t : Tree L) (p : Path) (w : W), I w → I (halt sem t p w)
  | .action l, p, w, hw => by
    cases p with
    | leaf => exact (h l).onHalted w hw
    | _ => exact hw
  | .inverter c, p, w, hw => by
    cases p with
    | deco _ p => exact halt_preserves h c p w hw
    | _ => exact hw
  | .retry _ c, p, w, hw => by
    cases p with
    | deco _ p => exact halt_preserves h c p w hw
    | _ => exact hw
  | .sequence cs, p, w, hw => by
    cases p with
    | child i p => exact haltChild_preserves h cs i p w hw
    | _ => exact hw
  | .fallback cs, p, w, hw => by
    cases p with
    | child i p => exact haltChild_preserves h cs i p w hw
    | _ => exact hw
  | .reactiveFallback cs, p, w, hw => by
    cases p with
    | child i p => exact haltChild_preserves h cs i p w hw
    | _ => exact hw

theorem haltChild_preserves (h : ∀ l, (sem l).Preserves I) :
    ∀ (cs : List (Tree L)) (i : Nat) (p : Path) (w : W), I w → I (haltChild sem cs i p w)
  | [], _, _, _, hw => hw
  | c :: _, 0, p, w, hw => halt_preserves h c p w hw
  | _ :: cs, i + 1, p, w, hw => haltChild_preserves h cs i p w hw

end

theorem haltResumed_preserves (h : ∀ l, (sem l).Preserves I) (cs : List (Tree L)) (i : Nat)
    (m : Option Path) (w : W) (hw : I w) : I (haltResumed sem cs i m w) := by
  cases m with
  | none => exact hw
  | some p => exact haltChild_preserves h cs i p w hw

mutual

theorem tick_preserves (h : ∀ l, (sem l).Preserves I) :
    ∀ (t : Tree L) (m : Option Path) (w : W), I w → I (tick sem t m w).2
  | .action l, none, w, hw => by
    rw [tick, ofLeaf_snd]; exact (h l).onStart w hw
  | .action l, some _, w, hw => by
    rw [tick, ofLeaf_snd]; exact (h l).onRunning w hw
  | .inverter c, m, w, hw => by
    have hc := tick_preserves h c (under m) w hw
    rw [tick]
    generalize tick sem c (under m) w = r at hc
    match r, hc with
    | (.done _, _), hc => exact hc
    | (.running _, _), hc => exact hc
  | .retry n c, m, w, hw => by
    rw [tick]
    exact retryLoop_preserves (tick_preserves h c) _ _ _ _ hw
  | .sequence cs, m, w, hw => by
    rw [tick]; exact tickChain_preserves h true cs 0 _ _ w hw
  | .fallback cs, m, w, hw => by
    rw [tick]; exact tickChain_preserves h false cs 0 _ _ w hw
  | .reactiveFallback cs, m, w, hw => by
    rw [tick]; exact tickReactive_preserves h cs 0 _ _ w hw

theorem tickChain_preserves (h : ∀ l, (sem l).Preserves I) (go : Bool) :
    ∀ (cs : List (Tree L)) (i skip : Nat) (m : Option Path) (w : W), I w →
      I (tickChain sem go cs i skip m w).2
  | [], _, _, _, _, hw => hw
  | _ :: cs, i, j + 1, m, w, hw => tickChain_preserves h go cs (i + 1) j m w hw
  | c :: cs, i, 0, m, w, hw => by
    have hc := tick_preserves h c m w hw
    rw [tickChain]
    generalize tick sem c m w = r at hc
    match r, hc with
    | (.running _, _), hc => exact hc
    | (.done b, w'), hc =>
      by_cases hb : b = go
      · simpa [hb] using tickChain_preserves h go cs (i + 1) 0 none w' hc
      · simpa [hb] using hc

theorem tickReactive_preserves (h : ∀ l, (sem l).Preserves I) :
    ∀ (cs : List (Tree L)) (i skip : Nat) (m : Option Path) (w : W), I w →
      I (tickReactive sem cs i skip m w).2
  | [], _, _, _, _, hw => hw
  | c :: cs, i, j + 1, m, w, hw => by
    have hc := tick_preserves h c none w hw
    rw [tickReactive]
    generalize tick sem c none w = r at hc
    match r, hc with
    | (.running _, w'), hc => exact haltResumed_preserves h cs j m w' hc
    | (.done true, w'), hc => exact haltResumed_preserves h cs j m w' hc
    | (.done false, w'), hc => exact tickReactive_preserves h cs (i + 1) j m w' hc
  | c :: cs, i, 0, m, w, hw => by
    have hc := tick_preserves h c m w hw
    rw [tickReactive]
    generalize tick sem c m w = r at hc
    match r, hc with
    | (.running _, _), hc => exact hc
    | (.done true, _), hc => exact hc
    | (.done false, w'), hc => exact tickReactive_preserves h cs (i + 1) 0 none w' hc

end

end

end BehaviorTree
