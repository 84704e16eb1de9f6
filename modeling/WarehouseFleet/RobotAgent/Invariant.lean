import WarehouseFleet.RobotAgent.Turn

/-!
# Invariants of the agent, and conditions on its ticks

`Kept P I`: on every callback, BT ticks that find the agent as `P` says excepted, `I` is kept.
`Kept.run` is the induction over the runs that avoid such ticks; the theorems about all runs take
`P` to be `fun _ _ _ => false`.
-/

namespace RobotAgent

open BehaviorTree
open Fms

/-! ## Conditions on a BT tick -/

/-- The event is a BT tick that finds the agent as `P` says. -/
def atTick (P : TickEnv → Pos → World → Bool) (s : State) : Event → Bool
  | .btTick e => P e s.pos s.world
  | _ => false

/-- No BT tick of the run finds the agent as `P` says. -/
abbrev Never (P : TickEnv → Pos → World → Bool) (c : Config) (es : List Event) : Prop :=
  Run.Along step (fun s ev => atTick P s ev = false) c.init es

theorem never_false {c : Config} {es : List Event} : Never (fun _ _ _ => false) c es :=
  Run.along_true.mono fun _ ev _ => by cases ev <;> rfl

/-- A run does not avoid `P`: one of its ticks finds the agent so. -/
theorem exists_of_not_never {P : TickEnv → Pos → World → Bool} {c : Config} {es : List Event}
    (h : ¬ Never P c es) : ∃ pre e post, es = pre ++ .btTick e :: post ∧
      P e (c.run pre).pos (c.run pre).world = true := by
  obtain ⟨pre, ev, post, rfl, hbad⟩ := Run.exists_of_not_along h
  cases ev with
  | btTick e => exact ⟨pre, e, post, rfl, Bool.eq_true_of_not_eq_false hbad⟩
  | _ => exact absurd rfl hbad

/-! ## Invariants -/

/-- The tree stands at a position where `I` holds. -/
def State.Inv (I : Pos → World → Prop) (s : State) : Prop :=
  ∃ p : Pos, p.Valid ∧ s.tree = p.path ∧ I p s.world

theorem State.Inv.pos {I : Pos → World → Prop} {s : State} (h : s.Inv I) :
    s.pos.Valid ∧ s.tree = s.pos.path ∧ I s.pos s.world := by
  obtain ⟨p, hv, hp, hI⟩ := h
  have : s.pos = p := by rw [State.pos, hp, Pos.ofPath_path]
  exact this ▸ ⟨hv, hp, hI⟩

/-- A leaf is RUNNING if and only if the tree stands at it. -/
theorem State.Inv.running {I : Pos → World → Prop} {s : State} (h : s.Inv I) {l : Leaf} :
    s.running l ↔ s.pos.leaf = some l := by
  obtain ⟨hv, hp, -⟩ := h.pos
  rw [State.running, ← Pos.leafAt_path hv, ← hp]

/-- `I` is kept by every callback, BT ticks that meet `P` excepted. -/
structure Kept (P : TickEnv → Pos → World → Bool) (I : Pos → World → Prop) : Prop where
  btTick : ∀ e p w, p.Valid → P e p w = false → I p w → ∃ start, Turn e p w start I
  taskAssignment : ∀ msg p w, p.Valid → I p w → I p (taskAssignmentCb msg w)
  batteryUpdate : ∀ now p w, p.Valid → I p w → I p (batteryUpdateCb now w)
  statusPublish : ∀ now tf p w, p.Valid → I p w → I p (statusPublishCb now tf w)
  injectFault : ∀ data p w, p.Valid → I p w → I p (faultServiceCb data w)
  goalResponse : ∀ g accepted p w, p.Valid → g < w.nextGoal → I p w →
    I p (goalResponse g accepted w)
  goalResult : ∀ g code p w, p.Valid → g < w.nextGoal → I p w → I p (goalResult g code w)

variable {P : TickEnv → Pos → World → Bool} {I : Pos → World → Prop}

theorem Kept.step (h : Kept P I) {s : State} {ev : Event} (hs : s.Inv I)
    (hP : atTick P s ev = false) : (RobotAgent.step s ev).Inv I := by
  obtain ⟨hv, hp, hI⟩ := hs.pos
  cases ev with
  | taskAssignment msg => exact ⟨s.pos, hv, hp, h.taskAssignment msg _ _ hv hI⟩
  | btTick e =>
    obtain ⟨start, ht⟩ := h.btTick e s.pos s.world hv hP hI
    exact ht.btTick hv hp
  | batteryUpdate now => exact ⟨s.pos, hv, hp, h.batteryUpdate now _ _ hv hI⟩
  | statusPublish now tf => exact ⟨s.pos, hv, hp, h.statusPublish now tf _ _ hv hI⟩
  | injectFault data => exact ⟨s.pos, hv, hp, h.injectFault data _ _ hv hI⟩
  | goalResponse g accepted =>
    rw [RobotAgent.step]
    split
    · next hg => exact ⟨s.pos, hv, hp, h.goalResponse g accepted _ _ hv hg hI⟩
    · exact hs
  | goalResult g code =>
    rw [RobotAgent.step]
    split
    · next hg => exact ⟨s.pos, hv, hp, h.goalResult g code _ _ hv hg hI⟩
    · exact hs

/-- **Induction over runs.** -/
theorem Kept.run (h : Kept P I) {c : Config} {es : List Event} (hP : Never P c es)
    (hi : I .idle c.init.world) : (c.run es).Inv I :=
  hP.run_invariant (fun _ _ hs hc => h.step hs hc) ⟨.idle, trivial, rfl, hi⟩

/-- The tree always stands at a position. -/
theorem positioned (c : Config) (es : List Event) :
    (c.run es).pos.Valid ∧ (c.run es).tree = (c.run es).pos.path := by
  have h : Kept (fun _ _ _ => false) (fun _ _ => True) :=
    ⟨fun e p w _ _ _ => ⟨_, Turn.trivial_turn e p w⟩, fun _ _ _ _ h => h, fun _ _ _ _ h => h,
      fun _ _ _ _ _ h => h, fun _ _ _ _ h => h, fun _ _ _ _ _ _ h => h, fun _ _ _ _ _ _ h => h⟩
  have hinv : (c.run es).Inv fun _ _ => True := h.run never_false trivial
  exact ⟨hinv.pos.1, hinv.pos.2.1⟩

end RobotAgent
