import WarehouseFleet.BehaviorTree.Basic

/-!
# Ticks through a map between worlds

`tick_map`: where every leaf does through `f` what it does in the larger world, so does a tick,
whatever the tree and wherever it stood. With `f` a projection the larger world may count what the
leaves do, and the counting changes nothing.
-/

namespace BehaviorTree

variable {L W W' : Type} {f : W' → W} {sem : L → Action W} {sem' : L → Action W'}

/-- The callbacks of `a` are those of `a'`, seen through `f`. -/
structure Action.Maps (f : W' → W) (a' : Action W') (a : Action W) : Prop where
  onStart : ∀ w, a.onStart (f w) = Prod.map id f (a'.onStart w)
  onRunning : ∀ w, a.onRunning (f w) = Prod.map id f (a'.onRunning w)
  onHalted : ∀ w, a.onHalted (f w) = f (a'.onHalted w)

theorem ofLeaf_map (r : NodeStatus × W') :
    Outcome.ofLeaf (Prod.map id f r) = Prod.map id f (Outcome.ofLeaf r) := by
  obtain ⟨s, w⟩ := r
  cases s <;> rfl

theorem retryLoop_map {t : Option Path → W → Outcome × W} {t' : Option Path → W' → Outcome × W'}
    (ht : ∀ m w, t m (f w) = Prod.map id f (t' m w)) :
    ∀ (left k : Nat) (m : Option Path) (w : W'),
      retryLoop t left k m (f w) = Prod.map id f (retryLoop t' left k m w)
  | 0, _, _, _ => rfl
  | left + 1, k, m, w => by
    rw [retryLoop, retryLoop, ht]
    generalize t' m w = r
    match r with
    | (.done true, _) => rfl
    | (.running _, _) => rfl
    | (.done false, w') => exact retryLoop_map ht left (k + 1) none w'

mutual

theorem halt_map (h : ∀ l, (sem' l).Maps f (sem l)) :
    ∀ (t : Tree L) (p : Path) (w : W'), halt sem t p (f w) = f (halt sem' t p w)
  | .action l, p, w => by
    cases p with
    | leaf => exact (h l).onHalted w
    | _ => rfl
  | .inverter c, p, w => by
    cases p with
    | deco _ p => exact halt_map h c p w
    | _ => rfl
  | .retry _ c, p, w => by
    cases p with
    | deco _ p => exact halt_map h c p w
    | _ => rfl
  | .sequence cs, p, w => by
    cases p with
    | child i p => exact haltChild_map h cs i p w
    | _ => rfl
  | .fallback cs, p, w => by
    cases p with
    | child i p => exact haltChild_map h cs i p w
    | _ => rfl
  | .reactiveFallback cs, p, w => by
    cases p with
    | child i p => exact haltChild_map h cs i p w
    | _ => rfl

theorem haltChild_map (h : ∀ l, (sem' l).Maps f (sem l)) :
    ∀ (cs : List (Tree L)) (i : Nat) (p : Path) (w : W'),
      haltChild sem cs i p (f w) = f (haltChild sem' cs i p w)
  | [], _, _, _ => rfl
  | c :: _, 0, p, w => halt_map h c p w
  | _ :: cs, i + 1, p, w => haltChild_map h cs i p w

end

theorem haltResumed_map (h : ∀ l, (sem' l).Maps f (sem l)) (cs : List (Tree L)) (i : Nat)
    (m : Option Path) (w : W') : haltResumed sem cs i m (f w) = f (haltResumed sem' cs i m w) := by
  cases m with
  | none => rfl
  | some p => exact haltChild_map h cs i p w

mutual

theorem tick_map (h : ∀ l, (sem' l).Maps f (sem l)) :
    ∀ (t : Tree L) (m : Option Path) (w : W'),
      tick sem t m (f w) = Prod.map id f (tick sem' t m w)
  | .action l, none, w => by rw [tick, tick, (h l).onStart, ofLeaf_map]
  | .action l, some _, w => by rw [tick, tick, (h l).onRunning, ofLeaf_map]
  | .inverter c, m, w => by
    rw [tick, tick, tick_map h c (under m) w]
    generalize tick sem' c (under m) w = r
    match r with
    | (.done _, _) => rfl
    | (.running _, _) => rfl
  | .retry n c, m, w => by
    rw [tick, tick]
    exact retryLoop_map (tick_map h c) _ _ _ _
  | .sequence cs, m, w => by
    rw [tick, tick]
    exact tickChain_map h true cs 0 _ _ w
  | .fallback cs, m, w => by
    rw [tick, tick]
    exact tickChain_map h false cs 0 _ _ w
  | .reactiveFallback cs, m, w => by
    rw [tick, tick]
    exact tickReactive_map h cs 0 _ _ w

theorem tickChain_map (h : ∀ l, (sem' l).Maps f (sem l)) (go : Bool) :
    ∀ (cs : List (Tree L)) (i skip : Nat) (m : Option Path) (w : W'),
      tickChain sem go cs i skip m (f w) = Prod.map id f (tickChain sem' go cs i skip m w)
  | [], _, _, _, _ => rfl
  | _ :: cs, i, j + 1, m, w => tickChain_map h go cs (i + 1) j m w
  | c :: cs, i, 0, m, w => by
    rw [tickChain, tickChain, tick_map h c m w]
    generalize tick sem' c m w = r
    match r with
    | (.running _, _) => rfl
    | (.done b, w') =>
      by_cases hb : b = go
      · simpa [hb] using tickChain_map h go cs (i + 1) 0 none w'
      · simp [hb]

theorem tickReactive_map (h : ∀ l, (sem' l).Maps f (sem l)) :
    ∀ (cs : List (Tree L)) (i skip : Nat) (m : Option Path) (w : W'),
      tickReactive sem cs i skip m (f w) = Prod.map id f (tickReactive sem' cs i skip m w)
  | [], _, _, _, _ => rfl
  | c :: cs, i, j + 1, m, w => by
    rw [tickReactive, tickReactive, tick_map h c none w]
    generalize tick sem' c none w = r
    match r with
    | (.running _, w') => simp [haltResumed_map h]
    | (.done true, w') => simp [haltResumed_map h]
    | (.done false, w') => exact tickReactive_map h cs (i + 1) j m w'
  | c :: cs, i, 0, m, w => by
    rw [tickReactive, tickReactive, tick_map h c m w]
    generalize tick sem' c m w = r
    match r with
    | (.running _, _) => rfl
    | (.done true, _) => rfl
    | (.done false, w') => exact tickReactive_map h cs (i + 1) 0 none w'

end

end BehaviorTree
