import WarehouseFleet.RobotAgent.Invariant

/-!
# Charging

Three flags say that the robot charges: the FSM state, `is_charging_` and the RUNNING node of the
tree. `Coherent` ties them to the position of the tree. REPORTING has no way in (`process_quiet`),
so LOW_BATTERY is never ignored; halting TaskExecution posts no event (`haltTask_fsm`).
-/

namespace RobotAgent

open BehaviorTree
open Fms

/-- Neither CHARGING nor REPORTING. -/
def RobotState.Quiet (s : RobotState) : Prop := s ≠ .charging ∧ s ≠ .reporting

theorem process_quiet {s : RobotState} {ev : FsmEvent} (h : s.Quiet) (hev : ev ≠ .lowBattery) :
    (process s ev).1.Quiet := by
  obtain ⟨h1, h2⟩ := h
  cases s <;> cases ev <;> simp_all [process, transition, RobotState.Quiet]

theorem process_lowBattery {s : RobotState} (h : s.Quiet) :
    (process s .lowBattery).1 = .charging := by
  obtain ⟨h1, h2⟩ := h
  cases s <;> simp_all [process, transition]

/-- No sign of charging. -/
structure Free (w : World) : Prop where
  fsm : w.node.fsm.Quiet
  isCharging : w.node.isCharging = false

structure Charges (w : World) : Prop where
  fsm : w.node.fsm = .charging
  isCharging : w.node.isCharging = true
  isMoving : w.node.isMoving = false

def Coherent : Pos → World → Prop
  | .charging, w => Charges w
  | _, w => Free w

theorem coherent_of_away {p : Pos} {w : World} (h : p.away) : Coherent p w ↔ Free w := by
  cases p with
  | charger => exact h.elim
  | charging => exact h.elim
  | _ => rfl

theorem Coherent.of_eq {p : Pos} {w w' : World} (h : Coherent p w)
    (hf : w'.node.fsm = w.node.fsm) (hc : w'.node.isCharging = w.node.isCharging)
    (hm : w'.node.isMoving = w.node.isMoving) : Coherent p w' := by
  cases p with
  | charging => exact ⟨hf.trans h.fsm, hc.trans h.isCharging, hm.trans h.isMoving⟩
  | _ => exact ⟨hf ▸ Free.fsm h, hc.trans (Free.isCharging h)⟩

theorem Free.post {w : World} {l : Leaf} {ev : FsmEvent} (h : Free w) (hev : ev ≠ .lowBattery) :
    Free (w.post l ev) := ⟨process_quiet h.fsm hev, h.isCharging⟩

theorem Free.emit {w : World} {o : Obs} (h : Free w) : Free (w.emit o) := ⟨h.fsm, h.isCharging⟩

/-- `Free` sees the FSM state and `is_charging_` only. -/
theorem Free.of_eq {w w' : World} (h : Free w) (hf : w'.node.fsm = w.node.fsm)
    (hc : w'.node.isCharging = w.node.isCharging) : Free w' :=
  ⟨hf ▸ h.fsm, hc.trans h.isCharging⟩

theorem Free.send {e : TickEnv} {n : NavNode} {goal : PoseStamped} {w : World} (h : Free w) :
    Free (NavigateToPose.send e n goal w) :=
  ⟨process_quiet h.fsm (show FsmEvent.navStarted ≠ .lowBattery by decide), h.isCharging⟩

theorem Free.navRuns {n : NavNode} {w : World} {r : NodeStatus × World} (h : Free w)
    (hr : NavigateToPose.Runs w n r) : Free r.2 := by
  cases hr with
  | fault => exact ⟨process_quiet h.fsm (by decide), h.isCharging⟩
  | gone => exact h
  | waiting => exact h
  | rejected => exact ⟨process_quiet h.fsm (by decide), h.isCharging⟩
  | reached => exact ⟨process_quiet h.fsm (by decide), h.isCharging⟩
  | missed => exact ⟨process_quiet h.fsm (by decide), h.isCharging⟩

theorem Free.recoverRuns {e : TickEnv} {leg : Leg} {w : World} {r : NodeStatus × World} (h : Free w)
    (hr : RequestRecovery.Runs e w leg r) : Free r.2 := by
  cases hr with
  | waiting => exact h
  | spun => exact h.of_eq (by simp) (by simp)
  | backedUp => exact h.of_eq rfl rfl
  | lost => exact h.of_eq (by simp) (by simp)
  | done => exact h.post (by decide)
  | failed => exact h.post (by decide)

/-- ChargeBattery starts from any state the FSM can be in. -/
theorem Free.charge {w : World} (h : Free w) :
    Charges (returns .chargeBattery ChargeBattery.onStart w).2 :=
  ⟨process_lowBattery h.fsm, rfl, rfl⟩

theorem Free.requestTaskRuns {e : TickEnv} {w : World} {r : NodeStatus × World} (h : Free w)
    (hr : RequestTask.Runs e w r) : Free r.2 := by
  cases hr with
  | waiting => exact h
  | resumed => exact ⟨process_quiet h.fsm (by decide), h.isCharging⟩
  | next => exact ⟨process_quiet h.fsm (by decide), h.isCharging⟩

theorem Free.execRuns {e : TickEnv} {leg : Leg} {w : World} {r : NodeStatus × World} (h : Free w)
    (hr : ExecutePickDrop.Runs e w leg r) : Free r.2 := by
  cases hr with
  | waiting => exact h
  | picked => exact h.post (by decide)
  | dropped => exact h

/-- A robot that charges does not give TaskExecution its turn. -/
theorem Coherent.yielded {e : TickEnv} {p : Pos} {w w' : World} (h : Coherent p w)
    (hy : Yielded e p w w') : p ≠ .charging ∧ Free w' := by
  cases hy with
  | batteryOk _ _ ha => exact ⟨by rintro rfl; exact ha, ((coherent_of_away ha).mp h).emit⟩
  | notReady _ _ ha => exact ⟨by rintro rfl; exact ha, ((coherent_of_away ha).mp h).emit.emit⟩
  | charger _ _ hr => exact ⟨by simp, (Free.navRuns h hr).emit⟩

/-- After a tick from `p₀` and `w₀`: charging ends only with a full battery, and in IDLE. -/
def AfterTick (p₀ : Pos) (w₀ : World) (p : Pos) (w : World) : Prop :=
  Coherent p w ∧
    (p₀ = .charging → p ≠ .charging → 95 ≤ w₀.node.battery.soc ∧ w.node.fsm = .idle)

theorem afterTick_of {p₀ p : Pos} {w₀ w : World} (ha : p.away) (h : p₀ ≠ .charging ∧ Free w) :
    AfterTick p₀ w₀ p w :=
  ⟨(coherent_of_away ha).mpr h.2, fun h' => absurd h' h.1⟩

theorem coherent_turn {e : TickEnv} {p₀ : Pos} {w₀ : World} (h : Coherent p₀ w₀) :
    Turn e p₀ w₀ (fun _ w => p₀ ≠ .charging ∧ Free w) (AfterTick p₀ w₀) where
  chargerStarted := by
    intro ha _ _
    have hf := (coherent_of_away ha).mp h
    refine ⟨?_, by rintro rfl; exact ha.elim⟩
    exact (hf.emit.send.emit).of_eq (haltTask_fsm ..) (haltTask_isCharging ..)
  chargerRunning := by
    rintro rfl
    exact ⟨Free.emit h, by simp⟩
  chargerReached := by
    rintro s rfl - -
    have h : Free w₀ := h
    have hf : Free (NavigateToPose.finish .toCharger .navSucceeded w₀) :=
      ⟨process_quiet h.fsm (by decide), h.isCharging⟩
    exact ⟨hf.emit.charge, by simp⟩
  charging := by
    rintro rfl -
    exact ⟨⟨h.fsm, h.isCharging, h.isMoving⟩, by simp⟩
  charged := by
    rintro rfl hsoc
    have hidle : (process w₀.node.fsm .batteryFull).1 = .idle := by rw [h.fsm]; rfl
    exact ⟨⟨by simp [hidle, RobotState.Quiet], rfl⟩, fun _ _ => ⟨hsoc, hidle⟩⟩
  requestTask w r hy _ hr :=
    leafPost_of (fun _ _ _ _ h => h) (fun _ _ => afterTick_of)
      ⟨(h.yielded hy).1, ((h.yielded hy).2.requestTaskRuns hr).emit⟩
  navSent leg k w goal _ hs _ _ := afterTick_of trivial ⟨hs.1, hs.2.send.emit⟩
  navNotSent leg k w _ hs _ := ⟨hs.1, hs.2.emit⟩
  nav leg k w r _ hy _ hr :=
    leafPost_of (fun _ _ _ _ h => h) (fun _ _ => afterTick_of)
      ⟨(h.yielded hy).1, ((h.yielded hy).2.navRuns hr).emit⟩
  recoverStarted := by
    rintro leg k w - ⟨h₀, hf⟩
    have hpost : Free (w.post (.requestRecovery leg) .navFailed) := hf.post (by decide)
    exact afterTick_of trivial ⟨h₀, hpost.of_eq (by simp [RequestRecovery.onStart])
      (by simp [RequestRecovery.onStart])⟩
  recover leg k w r _ hy _ hr :=
    leafPost_of (fun _ _ _ _ h => h) (fun _ _ => afterTick_of)
      ⟨(h.yielded hy).1, ((h.yielded hy).2.recoverRuns hr).emit⟩
  execStarted leg w hs := afterTick_of trivial ⟨hs.1, hs.2.of_eq rfl rfl⟩
  exec leg w r hy _ hr :=
    leafPost_of (fun _ _ _ _ h => h) (fun _ _ => afterTick_of)
      ⟨(h.yielded hy).1, ((h.yielded hy).2.execRuns hr).emit⟩
  report w hs :=
    afterTick_of trivial ⟨hs.1, process_quiet hs.2.fsm (by decide), hs.2.isCharging⟩

theorem coherent_kept : Kept (fun _ _ _ => false) Coherent where
  btTick e p w _ _ h := ⟨_, (coherent_turn h).mono fun _ _ h => h.1⟩
  taskAssignment msg p w _ h := h.of_eq rfl rfl rfl
  batteryUpdate now p w _ h := by
    obtain ⟨b, cur, int, heq⟩ := batteryUpdateCb_node now w
    exact h.of_eq (by rw [heq]) (by rw [heq]) (by rw [heq])
  statusPublish now tf p w _ h := h.of_eq rfl rfl rfl
  injectFault data p w _ h := by cases data <;> exact h.of_eq rfl rfl rfl
  goalResponse g accepted p w _ _ h := h.of_eq rfl rfl rfl
  goalResult g code p w _ _ h := h.of_eq rfl rfl rfl

theorem coherent_run (c : Config) (es : List Event) : (c.run es).Inv Coherent :=
  coherent_kept.run never_false ⟨by simp [RobotState.Quiet, Config.init], rfl⟩

/-- What the three flags say in a state, and how the state is left. -/
structure ChargingCoherent (s : State) : Prop where
  fsm_iff : s.world.node.fsm = .charging ↔ s.world.node.isCharging = true
  running_iff : s.world.node.isCharging = true ↔ s.running .chargeBattery
  still : s.world.node.isCharging = true → s.world.node.isMoving = false
  alone : s.world.node.isCharging = true → ∀ l, s.running l → l = .chargeBattery
  left : ∀ ev, s.world.node.isCharging = true → (step s ev).world.node.isCharging = false →
    (∃ e, ev = .btTick e) ∧ 95 ≤ s.world.node.battery.soc ∧ (step s ev).world.node.fsm = .idle

theorem coherent_charging_iff {p : Pos} {w : World} (h : Coherent p w) :
    w.node.isCharging = true ↔ p = .charging := by
  cases p with
  | charging => simp [h.isCharging]
  | _ => simp [Free.isCharging h]

theorem coherent_fsm_iff {p : Pos} {w : World} (h : Coherent p w) :
    w.node.fsm = .charging ↔ p = .charging := by
  cases p with
  | charging => simp [h.fsm]
  | _ => simp [(Free.fsm h).1]

theorem leaf_eq_chargeBattery {p : Pos} : p.leaf = some .chargeBattery ↔ p = .charging := by
  match p with
  | .idle => simp [Pos.leaf]
  | .charger => simp [Pos.leaf]
  | .charging => simp [Pos.leaf]
  | .task pt => cases pt <;> simp [Pos.leaf, Point.leaf]

/-- Only a BT tick that found the battery full ends charging. -/
theorem charging_left {s : State} (h : s.Inv Coherent) {ev : Event}
    (hc : s.world.node.isCharging = true) (hl : (step s ev).world.node.isCharging = false) :
    (∃ e, ev = .btTick e) ∧ 95 ≤ s.world.node.battery.soc ∧ (step s ev).world.node.fsm = .idle := by
  obtain ⟨hv, hp, hI⟩ := h.pos
  have hpos := (coherent_charging_iff hI).mp hc
  by_cases htick : ∃ e, ev = .btTick e
  · obtain ⟨e, rfl⟩ := htick
    obtain ⟨p', -, -, hco, hleft⟩ := (coherent_turn hI).btTick hv hp
    have hne : p' ≠ .charging := by
      rintro rfl
      exact absurd (hl.symm.trans hco.isCharging) (by decide)
    exact ⟨⟨e, rfl⟩, hleft hpos hne⟩
  · -- no other callback moves the tree, and the flags follow the tree
    rw [not_exists] at htick
    have hquiet : atTick (fun _ _ _ => false) s ev = false := by cases ev <;> rfl
    have hI' := (coherent_kept.step h hquiet).pos.2.2
    have hpos' : (step s ev).pos = .charging := by
      rw [State.pos, step_tree htick, ← State.pos, hpos]
    exact absurd (hl.symm.trans ((coherent_charging_iff hI').mpr hpos')) (by decide)

/-- **Charging is coherent and runs to full**, in every reachable state. -/
theorem charging_coherent (c : Config) (es : List Event) : ChargingCoherent (c.run es) := by
  have h := coherent_run c es
  obtain ⟨-, -, hI⟩ := h.pos
  refine ⟨?_, ?_, ?_, ?_, fun ev => charging_left h⟩
  · rw [coherent_fsm_iff hI, coherent_charging_iff hI]
  · rw [coherent_charging_iff hI, h.running, leaf_eq_chargeBattery]
  · intro hc
    rw [(coherent_charging_iff hI).mp hc] at hI
    exact hI.isMoving
  · intro hc l hl
    rw [h.running, (coherent_charging_iff hI).mp hc] at hl
    exact (Option.some.inj hl).symm

end RobotAgent
