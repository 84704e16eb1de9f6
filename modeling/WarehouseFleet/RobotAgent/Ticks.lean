import WarehouseFleet.RobotAgent.Tick

/-!
# Ticks that are known in full

When it is known what the leaf callbacks return, `btTickCb` can be written out: which leaves it
calls, in which order, and where the tree stands then. There is one equation for each tick of a
pass in which nothing goes wrong, and one for each tick on the way to the charger.
-/

namespace RobotAgent

open BehaviorTree

variable {e : TickEnv} {p : Pos} {w w₁ w₂ : World} {leg : Leg}

/-! ## TaskExecution -/

/-- `RequestTask` waits. -/
theorem tickTask_waits (h : (sem e .requestTask).onStart w = (.running, w₁)) :
    tick (sem e) taskExecution none w = (.running Point.requestTask.path, w₁) := by
  simp [taskExecution, Point.path, tick, tickChain, resumed, Outcome.ofLeaf, h]

/-- `RequestTask` takes a task, and the robot sets off to the pick. -/
theorem tickTask_takes (h : (sem e .requestTask).onStart w = (.success, w₁))
    (h' : (sem e (.navigateToPose (.to .pick))).onStart w₁ = (.running, w₂)) :
    tick (sem e) taskExecution none w = (.running (Point.nav .pick 0).path, w₂) := by
  simp [taskExecution, navRetry, Point.path, Leg.retryChild, tick, tickChain, resumed, under, tries,
    retryLoop, Outcome.ofLeaf, h, h']

/-- The robot has arrived, and handles its load. -/
theorem tickTask_arrives
    (h : (sem e (.navigateToPose (.to leg))).onRunning w = (.success, w₁))
    (h' : (sem e (.executePickDrop leg)).onStart w₁ = (.running, w₂)) :
    tick (sem e) taskExecution (some (Point.nav leg 0).path) w =
      (.running (Point.exec leg).path, w₂) := by
  cases leg <;>
    simp [taskExecution, navRetry, Point.path, Leg.retryChild, Leg.execChild, tick, tickChain,
      resumed, under, tries, retryLoop, Outcome.ofLeaf, h, h']

/-- The pick is done, and the robot sets off to the drop. -/
theorem tickTask_picked (h : (sem e (.executePickDrop .pick)).onRunning w = (.success, w₁))
    (h' : (sem e (.navigateToPose (.to .drop))).onStart w₁ = (.running, w₂)) :
    tick (sem e) taskExecution (some (Point.exec .pick).path) w =
      (.running (Point.nav .drop 0).path, w₂) := by
  simp [taskExecution, navRetry, Point.path, Leg.retryChild, Leg.execChild, tick, tickChain,
    resumed, under, tries, retryLoop, Outcome.ofLeaf, h, h']

/-- The drop is done, and reported. -/
theorem tickTask_dropped (h : (sem e (.executePickDrop .drop)).onRunning w = (.success, w₁))
    (h' : (sem e .reportStatus).onStart w₁ = (.success, w₂)) :
    tick (sem e) taskExecution (some (Point.exec .drop).path) w = (.done true, w₂) := by
  simp [taskExecution, Point.path, Leg.execChild, tick, tickChain, resumed, Outcome.ofLeaf, h, h']

/-! ## ChargeWhenLow -/

theorem tickCharge_ok (h : (sem e .batteryOK).onStart w = (.success, w₁)) :
    tick (sem e) chargeWhenLow none w = (.done false, w₁) := by
  simp [chargeWhenLow, tick, tickChain, resumed, under, Outcome.ofLeaf, h]

/-- The robot sets off to the charger. -/
theorem tickCharge_low (h : (sem e .batteryOK).onStart w = (.failure, w₁))
    (h' : (sem e (.navigateToPose .toCharger)).onStart w₁ = (.running, w₂)) :
    tick (sem e) chargeWhenLow none w = (.running (.child 1 .leaf), w₂) := by
  simp [chargeWhenLow, tick, tickChain, resumed, under, Outcome.ofLeaf, h, h']

theorem tickCharge_reached (h : (sem e (.navigateToPose .toCharger)).onRunning w = (.success, w₁))
    (h' : (sem e .chargeBattery).onStart w₁ = (.running, w₂)) :
    tick (sem e) chargeWhenLow (some (.child 1 .leaf)) w = (.running (.child 2 .leaf), w₂) := by
  simp [chargeWhenLow, tick, tickChain, resumed, Outcome.ofLeaf, h, h']

theorem tickCharge_missed
    (h : (sem e (.navigateToPose .toCharger)).onRunning w = (.failure, w₁)) :
    tick (sem e) chargeWhenLow (some (.child 1 .leaf)) w = (.done false, w₁) := by
  simp [chargeWhenLow, tick, tickChain, resumed, Outcome.ofLeaf, h]

theorem tickCharge_full (h : (sem e .chargeBattery).onRunning w = (.success, w₁)) :
    tick (sem e) chargeWhenLow (some (.child 2 .leaf)) w = (.done true, w₁) := by
  simp [chargeWhenLow, tick, tickChain, resumed, Outcome.ofLeaf, h]

/-! ## The tree -/

theorem Pos.child_lt {j : Nat} {q : Path} (h : p.path = some (.child j q)) : j < 2 := by
  cases p <;> simp [Pos.path] at h <;> omega

theorem btTick_eq (p : Pos) : btTickCb e ⟨p.path, w⟩ =
    match tick (sem e) chargeWhenLow (memOf 0 p.path) w with
    | (.done false, w) =>
      ⟨((tick (sem e) taskExecution (memOf 1 p.path) w).1.inChild 1).path?,
        (tick (sem e) taskExecution (memOf 1 p.path) w).2⟩
    | (o, w) => ⟨(o.inChild 0).path?, haltTask e p w⟩ := by
  rw [btTickCb, robotAgentMain, tick_reactive_pair _ _ _ _ fun _ _ => Pos.child_lt]
  simp only [haltResumed_path]
  generalize tick (sem e) chargeWhenLow (memOf 0 p.path) w = r
  obtain ⟨o, w⟩ := r
  cases o with
  | running q => rfl
  | done success => cases success <;> rfl

theorem Pos.memOf_away (ha : p.away) : memOf 0 p.path = none := by
  cases p with
  | charger => exact ha.elim
  | charging => exact ha.elim
  | _ => rfl

/-- The battery is fine, and TaskExecution has its turn. -/
theorem btTick_task (ha : p.away) (hsoc : 20 ≤ w.node.battery.soc) {o : Outcome}
    (h : tick (sem e) taskExecution (memOf 1 p.path) (w.emit (.returned .batteryOK .success)) =
      (o, w₁)) : btTickCb e ⟨p.path, w⟩ = ⟨(o.inChild 1).path?, w₁⟩ := by
  have hok : (sem e .batteryOK).onStart w = (.success, w.emit (.returned .batteryOK .success)) := by
    simp [sem, Action.sync, returns, BatteryOK.tick, hsoc]
  rw [btTick_eq, Pos.memOf_away ha, tickCharge_ok hok]
  simp only [h]

theorem btTick_leaves (ha : p.away) (hsoc : w.node.battery.soc < 20)
    (hr : e.navReady .toCharger = true) : btTickCb e ⟨p.path, w⟩ =
      ⟨Pos.charger.path, haltTask e p
        ((NavigateToPose.send e .toCharger w.node.chargerPose
          (w.emit (.returned .batteryOK .failure))).emit
            (.returned (.navigateToPose .toCharger) .running))⟩ := by
  have hlow : (sem e .batteryOK).onStart w =
      (.failure, w.emit (.returned .batteryOK .failure)) := by
    simp [sem, Action.sync, returns, BatteryOK.tick, not_le.mpr hsoc]
  have hsent : (sem e (.navigateToPose .toCharger)).onStart
      (w.emit (.returned .batteryOK .failure)) =
      (.running, (NavigateToPose.send e .toCharger w.node.chargerPose
        (w.emit (.returned .batteryOK .failure))).emit
          (.returned (.navigateToPose .toCharger) .running)) := by
    simp [sem, returns, NavigateToPose.onStart, World.goalPort, hr]
  rw [btTick_eq, Pos.memOf_away ha, tickCharge_low hlow hsent]
  rfl

/-- What `NavToCharger` returns decides. -/
theorem btTick_docks {r : NodeStatus × World}
    (h : NavigateToPose.onRunning .toCharger w = r) (hr : r.1 = .success) :
    btTickCb e ⟨Pos.charger.path, w⟩ = ⟨Pos.charging.path,
      (returns .chargeBattery ChargeBattery.onStart
        (r.2.emit (.returned (.navigateToPose .toCharger) .success))).2⟩ := by
  obtain ⟨st, w'⟩ := r
  obtain rfl : st = .success := hr
  have hreached : (sem e (.navigateToPose .toCharger)).onRunning w =
      (.success, w'.emit (.returned (.navigateToPose .toCharger) .success)) := by
    simp [sem, returns, h]
  rw [btTick_eq, show memOf 0 Pos.charger.path = some (.child 1 .leaf) from rfl,
    tickCharge_reached hreached rfl]
  rfl

theorem btTick_misses {r : NodeStatus × World} {o : Outcome}
    (h : NavigateToPose.onRunning .toCharger w = r) (hr : r.1 = .failure)
    (ht : tick (sem e) taskExecution none
      (r.2.emit (.returned (.navigateToPose .toCharger) .failure)) = (o, w₁)) :
    btTickCb e ⟨Pos.charger.path, w⟩ = ⟨(o.inChild 1).path?, w₁⟩ := by
  obtain ⟨st, w'⟩ := r
  obtain rfl : st = .failure := hr
  have hmissed : (sem e (.navigateToPose .toCharger)).onRunning w =
      (.failure, w'.emit (.returned (.navigateToPose .toCharger) .failure)) := by
    simp [sem, returns, h]
  rw [btTick_eq, show memOf 0 Pos.charger.path = some (.child 1 .leaf) from rfl,
    tickCharge_missed hmissed]
  simp only [show memOf 1 Pos.charger.path = none from rfl, ht]

theorem btTick_charged (hsoc : 95 ≤ w.node.battery.soc) : btTickCb e ⟨Pos.charging.path, w⟩ =
    ⟨none, ({ w with node := { w.node with isCharging := false } }.post .chargeBattery
      .batteryFull).emit (.returned .chargeBattery .success)⟩ := by
  have hfull : (sem e .chargeBattery).onRunning w =
      (.success, ({ w with node := { w.node with isCharging := false } }.post .chargeBattery
        .batteryFull).emit (.returned .chargeBattery .success)) := by
    simp [sem, returns, ChargeBattery.onRunning, BatteryModel.isFull, BatteryModel.fullThreshold,
      hsoc]
  rw [btTick_eq, show memOf 0 Pos.charging.path = some (.child 2 .leaf) from rfl,
    tickCharge_full hfull]
  rfl

end RobotAgent
