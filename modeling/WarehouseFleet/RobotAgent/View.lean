import WarehouseFleet.RobotAgent.Invariant
import WarehouseFleet.Trace

/-!
# What an invariant looks at

A `View` is a part of the node and some entries of the trace. Most callbacks show nothing new to
a view that looks neither at the motion of the robot nor at the FSM nor at the goals of the
charger and of the recoveries (`View.Aside`), so an invariant that looks through such a view has
to be checked against the few others only.
-/

namespace RobotAgent

open BehaviorTree
open Fms
open Trace (Each)

structure View (α : Type) where
  node : RobotAgentNode → α
  sees : Obs → Bool

namespace View

variable {α : Type} {v : View α} {w w' w'' : World}

/-- The view shows nothing new in `w'`. -/
structure Same (v : View α) (w w' : World) : Prop where
  node : v.node w'.node = v.node w.node
  trace : ∃ new, w'.trace = w.trace ++ new ∧ ∀ o ∈ new, v.sees o = false

theorem Same.refl (w : World) : v.Same w w := ⟨rfl, [], by simp, by simp⟩

theorem Same.trans (h : v.Same w w') (h' : v.Same w' w'') : v.Same w w'' := by
  obtain ⟨new, ht, hq⟩ := h.trace
  obtain ⟨new', ht', hq'⟩ := h'.trace
  refine ⟨h'.node.trans h.node, new ++ new', by rw [ht', ht, List.append_assoc], ?_⟩
  intro o ho
  rcases List.mem_append.mp ho with ho | ho
  · exact hq o ho
  · exact hq' o ho

theorem Same.emit (h : v.Same w w') {o : Obs} (ho : v.sees o = false) : v.Same w (w'.emit o) :=
  h.trans ⟨rfl, [o], rfl, by simpa using ho⟩

/-- What the view sees of the trace is the same. -/
theorem Same.filterMap {β : Type} (h : v.Same w w') {f : Obs → Option β}
    (hf : ∀ o, v.sees o = false → f o = none) : w'.trace.filterMap f = w.trace.filterMap f := by
  obtain ⟨new, ht, hq⟩ := h.trace
  rw [ht, List.filterMap_append, List.filterMap_eq_nil_iff.mpr fun o ho => hf o (hq o ho),
    List.append_nil]

theorem Same.each {P : List Obs → Obs → Prop} (h : v.Same w w')
    (hP : ∀ o, v.sees o = false → ∀ pre, P pre o) (hw : Each P w.trace) : Each P w'.trace := by
  obtain ⟨new, ht, hq⟩ := h.trace
  rw [ht]
  exact hw.append fun o ho => hP o (hq o ho)

/-- What the view does not show. -/
structure Aside (v : View α) : Prop where
  node : ∀ node fsm moving charging,
    v.node { node with fsm := fsm, isMoving := moving, isCharging := charging } = v.node node
  posted : ∀ l ev, ev ≠ .faultInjected → v.sees (.posted l ev) = false
  /-- but that DoPick and DoDrop are done -/
  returned : ∀ l st, (∀ leg, l = .executePickDrop leg → st ≠ .success) →
    v.sees (.returned l st) = false
  halted : ∀ l, v.sees (.halted l) = false
  cancel : ∀ g, v.sees (.cancel g) = false
  chargerGoal : ∀ g goal, v.sees (.navGoal .toCharger g goal) = false
  spinGoal : ∀ leg g goal, v.sees (.spinGoal leg g goal) = false
  backUpGoal : ∀ leg g goal, v.sees (.backUpGoal leg g goal) = false

/-! ## The callbacks that show nothing -/

section
variable {e : TickEnv} {n : NavNode} {leg : Leg} {p : Pos} {r : NodeStatus × World}

theorem Aside.post (hv : v.Aside) (h : v.Same w w') (l : Leaf) {ev : FsmEvent}
    (hev : ev ≠ .faultInjected) : v.Same w (w'.post l ev) :=
  h.trans ⟨hv.node w'.node _ w'.node.isMoving w'.node.isCharging, [.posted l ev], rfl,
    by simpa using hv.posted l ev hev⟩

/-- The robot starts or stops to move or to charge. -/
theorem Aside.flags (hv : v.Aside) (w : World) (moving charging : Bool) :
    v.Same w { w with node := { w.node with isMoving := moving, isCharging := charging } } :=
  ⟨hv.node w.node w.node.fsm moving charging, [], by simp, by simp⟩

theorem Aside.returns (hv : v.Aside) (h : v.Same w w') {l : Leaf} {st : NodeStatus}
    (hl : ∀ leg, l = .executePickDrop leg → st ≠ .success) : v.Same w (w'.emit (.returned l st)) :=
  h.emit (hv.returned l st hl)

theorem Aside.finish (hv : v.Aside) {ev : FsmEvent} (hev : ev ≠ .faultInjected) :
    v.Same w (NavigateToPose.finish n ev w) :=
  hv.post (hv.flags w false w.node.isCharging) _ hev

/-- A navigation that no fault ends. -/
theorem Aside.navRuns (hv : v.Aside) (h : NavigateToPose.Runs w n r)
    (hf : w.node.faultInjected = false) : v.Same w r.2 := by
  cases h with
  | fault hf' => simp [hf] at hf'
  | gone => exact .refl w
  | waiting => exact .refl w
  | rejected => exact hv.finish (by decide)
  | reached => exact hv.finish (by decide)
  | missed => exact hv.finish (by decide)

theorem Aside.sendCharger (hv : v.Aside) (goal : PoseStamped) :
    v.Same w (NavigateToPose.send e .toCharger goal w) := by
  refine ⟨hv.node w.node _ true w.node.isCharging, _, NavigateToPose.send_trace .., ?_⟩
  simp [hv.chargerGoal, hv.posted]

theorem Aside.haltTask (hv : v.Aside) : v.Same w (haltTask e p w) := by
  obtain ⟨moving, hnode⟩ := haltTask_node e p w
  obtain ⟨new, ht, hnew⟩ := haltTask_trace e p w
  refine ⟨by rw [hnode]; exact hv.node w.node _ moving _, new, ht, fun o ho => ?_⟩
  obtain ⟨l, rfl⟩ | ⟨g, rfl⟩ := hnew o ho
  · exact hv.halted l
  · exact hv.cancel g

/-- Goals are sent, and the recovery moves on. -/
theorem Aside.startSpin (hv : v.Aside) : v.Same w (RequestRecovery.startSpin e leg w) := by
  refine ⟨by rw [RequestRecovery.startSpin_node], ?_⟩
  unfold RequestRecovery.startSpin
  split
  · exact ⟨_, rfl, by simpa using hv.spinGoal _ _ _⟩
  · exact ⟨[], by simp, by simp⟩

theorem Aside.startBackup (hv : v.Aside) : v.Same w (RequestRecovery.startBackup e leg w) := by
  refine ⟨by rw [RequestRecovery.startBackup_node], ?_⟩
  unfold RequestRecovery.startBackup
  split
  · exact ⟨_, rfl, by simpa using hv.backUpGoal _ _ _⟩
  · exact ⟨[], by simp, by simp⟩

theorem Same.set (h : v.Same w w') (r : RequestRecovery) :
    v.Same w (RequestRecovery.set leg r w') := h.trans ⟨rfl, [], by simp, by simp⟩

theorem Aside.attemptFailed (hv : v.Aside) (m : Int) :
    v.Same w (RequestRecovery.attemptFailed e leg m w) := by
  dsimp only [RequestRecovery.attemptFailed]
  split
  · exact (Same.refl w).set _
  · exact ((Same.refl w).set _).trans hv.startSpin

theorem Aside.recoverStart (hv : v.Aside) : v.Same w (RequestRecovery.onStart e leg w).2 :=
  (hv.post ((Same.refl w).set _) _ (by decide)).trans hv.startSpin

theorem Aside.recoverRuns (hv : v.Aside) (h : RequestRecovery.Runs e w leg r) : v.Same w r.2 := by
  cases h with
  | waiting => exact .refl w
  | spun => exact ((Same.refl w).set _).trans hv.startBackup
  | backedUp => exact (Same.refl w).set _
  | lost => exact hv.attemptFailed 3
  | done => exact hv.post (.refl w) _ (by decide)
  | failed => exact hv.post (.refl w) _ (by decide)

theorem Aside.execRuns (hv : v.Aside) (h : ExecutePickDrop.Runs e w leg r) : v.Same w r.2 := by
  cases h with
  | waiting => exact .refl w
  | picked => exact hv.post (.refl w) _ (by decide)
  | dropped => exact .refl w

theorem Aside.execStart (hv : v.Aside) :
    v.Same w (RobotAgent.returns (.executePickDrop leg) (ExecutePickDrop.onStart e leg) w).2 := by
  have hstart : v.Same w (ExecutePickDrop.onStart e leg w).2 :=
    ⟨rfl, [], by simp [ExecutePickDrop.onStart], by simp⟩
  exact hv.returns hstart fun _ _ => by simp [ExecutePickDrop.onStart]

/-- ChargeWhenLow starts a navigation to the charger. -/
theorem Aside.chargerStarted (hv : v.Aside) (goal : PoseStamped) : v.Same w (RobotAgent.haltTask e p
    ((NavigateToPose.send e .toCharger goal (w.emit (.returned .batteryOK .failure))).emit
      (.returned (.navigateToPose .toCharger) .running))) :=
  (hv.returns ((hv.returns (.refl w) (by simp)).trans (hv.sendCharger goal)) (by simp)).trans
    hv.haltTask

/-- The robot has arrived at the charger. -/
theorem Aside.chargerReached (hv : v.Aside) : v.Same w
    (RobotAgent.returns .chargeBattery ChargeBattery.onStart
      ((NavigateToPose.finish .toCharger .navSucceeded w).emit
        (.returned (.navigateToPose .toCharger) .success))).2 := by
  have harrived : v.Same w ((NavigateToPose.finish .toCharger .navSucceeded w).emit
      (.returned (.navigateToPose .toCharger) .success)) :=
    hv.returns (hv.finish (by decide)) (by simp)
  exact hv.returns (hv.post (harrived.trans (hv.flags _ false true)) _ (by decide)) (by simp)

theorem Aside.charged (hv : v.Aside) : v.Same w
    (({ w with node := { w.node with isCharging := false } }.post .chargeBattery
      .batteryFull).emit (.returned .chargeBattery .success)) :=
  hv.returns (hv.post (hv.flags w w.node.isMoving false) _ (by decide)) (by simp)

/-- ChargeWhenLow gives way, and no fault makes it. -/
theorem Aside.yielded (hv : v.Aside) (hy : Yielded e p w w')
    (hf : p = .charger → w.node.faultInjected = false) : v.Same w w' := by
  cases hy with
  | batteryOk => exact hv.returns (.refl w) (by simp)
  | notReady => exact hv.returns (hv.returns (.refl w) (by simp)) (by simp)
  | charger _ w' hr => exact hv.returns (hv.navRuns hr (hf rfl)) (by simp)

end

/-! ## Views that do not look at faults either -/

structure Apart (v : View α) : Prop extends v.Aside where
  clearFault : ∀ node, v.node { node with faultInjected := false } = v.node node
  faultPosted : ∀ l, v.sees (.posted l .faultInjected) = false

section
variable {e : TickEnv} {n : NavNode} {p : Pos} {r : NodeStatus × World}

theorem Apart.post (hv : v.Apart) (h : v.Same w w') (l : Leaf) (ev : FsmEvent) :
    v.Same w (w'.post l ev) := by
  by_cases hev : ev = .faultInjected
  · subst hev
    exact h.trans ⟨hv.node w'.node _ w'.node.isMoving w'.node.isCharging, [_], rfl,
      by simpa using hv.faultPosted l⟩
  · exact hv.toAside.post h l hev

theorem Apart.onHalted (hv : v.Apart) (w : World) : v.Same w (NavigateToPose.onHalted n w) := by
  refine ⟨hv.node w.node w.node.fsm false w.node.isCharging, _, rfl, fun o ho => ?_⟩
  obtain ⟨g, -, rfl⟩ := List.mem_map.mp ho
  exact hv.cancel g

theorem Apart.navRuns (hv : v.Apart) (h : NavigateToPose.Runs w n r) : v.Same w r.2 := by
  cases hf : w.node.faultInjected with
  | false => exact hv.toAside.navRuns h hf
  | true =>
    have hclear : v.Same w w.clearFault :=
      ⟨hv.clearFault w.node, [], by simp [World.clearFault], by simp⟩
    cases h with
    | fault => exact hv.post (hclear.trans (hv.onHalted w.clearFault)) _ _
    | _ => simp_all

theorem Apart.yielded (hv : v.Apart) (hy : Yielded e p w w') : v.Same w w' := by
  cases hy with
  | batteryOk => exact hv.returns (.refl w) (by simp)
  | notReady => exact hv.returns (hv.returns (.refl w) (by simp)) (by simp)
  | charger _ w' hr => exact hv.returns (hv.navRuns hr) (by simp)

end

end View

end RobotAgent
