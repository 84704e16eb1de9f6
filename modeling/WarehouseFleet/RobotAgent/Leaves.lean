import WarehouseFleet.RobotAgent.World

/-!
# The leaf nodes (src/bt_nodes/*.cpp)

Each callback is a function of the world, under the name of the method it embeds. A `SyncActionNode`
or `ConditionNode` has one `tick`; a `StatefulActionNode` has `onStart`, `onRunning` and
`onHalted`. `sem` hands them to the engine and records in the trace what each call returned.

| here | there |
| --- | --- |
| `BatteryOK.tick`            | battery_ok.cpp:15-20 |
| `ChargeBattery.*`           | charge_battery.cpp:11-42 |
| `NavigateToPose.*`          | navigate_to_pose_bt.cpp:15-139 |
| `RequestRecovery.*`         | request_recovery.cpp:15-192 |
| `RequestTask.*`             | request_task.cpp:19-80 |
| `ExecutePickDrop.*`         | execute_pick_drop.cpp:18-48 |
| `ReportStatus.tick`         | report_status.cpp:11-41 |
-/

namespace RobotAgent

open BehaviorTree (NodeStatus Action)
open Fms

namespace BatteryOK

def tick (threshold : ℚ) (w : World) : NodeStatus × World :=
  (if threshold ≤ w.node.battery.soc then .success else .failure, w)

end BatteryOK

namespace ChargeBattery

def onStart (w : World) : NodeStatus × World :=
  let w := { w with node := { w.node with isCharging := true, isMoving := false } }
  (.running, w.post .chargeBattery .lowBattery)

def onRunning (w : World) : NodeStatus × World :=
  if w.node.battery.isFull then
    let w := { w with node := { w.node with isCharging := false } }
    (.success, w.post .chargeBattery .batteryFull)
  else (.running, w)

def onHalted (w : World) : World :=
  { w with node := { w.node with isCharging := false } }

end ChargeBattery

namespace NavigateToPose

/-- `onStart` from `async_send_goal` on. -/
def send (e : TickEnv) (n : NavNode) (goal : PoseStamped) (w : World) : World :=
  let g := w.nextGoal
  let w := { w with nav := Function.update w.nav n (some { goal := g }), nextGoal := g + 1 }
  let w := w.emit (.navGoal n g { goal with stamp := e.now })
  let w := w.post (.navigateToPose n) .navStarted
  { w with node := { w.node with isMoving := true } }

def onStart (e : TickEnv) (n : NavNode) (w : World) : NodeStatus × World :=
  match w.goalPort n with
  | none => (.failure, w)
  | some goal => if e.navReady n then (.running, send e n goal w) else (.failure, w)

/-- The goal `onHalted` asks to cancel: one that is accepted and not finished. -/
def toCancel (s : NavState) : Option Nat := if s.resultReceived then none else s.goalHandle

def onHalted (n : NavNode) (w : World) : World :=
  let cancelled := ((w.nav n).bind toCancel).toList.map Obs.cancel
  { w with
    node := { w.node with isMoving := false }
    nav := Function.update w.nav n none
    trace := w.trace ++ cancelled }

/-- `is_moving_.store(false)` and an event to the FSM: how a navigation ends. -/
def finish (n : NavNode) (ev : FsmEvent) (w : World) : World :=
  { w with node := { w.node with isMoving := false } }.post (.navigateToPose n) ev

def onRunning (n : NavNode) (w : World) : NodeStatus × World :=
  if w.node.faultInjected then
    (.failure, (onHalted n w.clearFault).post (.navigateToPose n) .faultInjected)
  else
    match w.nav n with
    | none => (.failure, w)
    | some s =>
      if !s.responseReceived then (.running, w)
      else if !s.goalAccepted then (.failure, finish n .navFailed w)
      else if !s.resultReceived then (.running, w)
      else if s.resultCode = .succeeded then (.success, finish n .navSucceeded w)
      else (.failure, finish n .navFailed w)

end NavigateToPose

namespace RequestRecovery

def set (leg : Leg) (r : RequestRecovery) (w : World) : World :=
  { w with recov := Function.update w.recov leg r }

/-- The state `start_spin` and `start_backup` leave when the server is not ready. -/
def notReady : RecovState := { goal := none, resultReceived := true, resultSuccess := false }

def startSpin (e : TickEnv) (leg : Leg) (w : World) : World :=
  if e.spinReady then
    let g := w.nextGoal
    let w := set leg { w.recov leg with spinState := some { goal := some g } } w
    { w with nextGoal := g + 1 }.emit
      (.spinGoal leg g { targetYaw := toFloat (628 / 100), timeAllowanceSec := 10 })
  else set leg { w.recov leg with spinState := some notReady } w

def startBackup (e : TickEnv) (leg : Leg) (w : World) : World :=
  if e.backupReady then
    let g := w.nextGoal
    let w := set leg { w.recov leg with backupState := some { goal := some g } } w
    { w with nextGoal := g + 1 }.emit
      (.backUpGoal leg g
        { targetX := toFloat (3 / 10), speed := toFloat (15 / 100), timeAllowanceSec := 8 })
  else set leg { w.recov leg with backupState := some notReady } w

def onStart (e : TickEnv) (leg : Leg) (w : World) : NodeStatus × World :=
  let w := set leg { w.recov leg with attempt := 0, phase := .spin } w
  let w := w.post (.requestRecovery leg) .navFailed
  (.running, startSpin e leg w)

/-- A spin or backup did not succeed: `attempt_++`, then another spin or `FAILED`. -/
def attemptFailed (e : TickEnv) (leg : Leg) (maxAttempts : Int) (w : World) : World :=
  let r := { w.recov leg with attempt := (w.recov leg).attempt + 1 }
  if maxAttempts ≤ r.attempt then set leg { r with phase := .failed } w
  else startSpin e leg (set leg { r with phase := .spin } w)

def onRunning (e : TickEnv) (leg : Leg) (maxAttempts : Int) (w : World) : NodeStatus × World :=
  match (w.recov leg).phase with
  | .spin =>
    match (w.recov leg).spinState with
    | none => (.running, w)
    | some st =>
      if !st.resultReceived then (.running, w)
      else if st.resultSuccess then
        (.running, startBackup e leg (set leg { w.recov leg with phase := .backup } w))
      else (.running, attemptFailed e leg maxAttempts w)
  | .backup =>
    match (w.recov leg).backupState with
    | none => (.running, w)
    | some st =>
      if !st.resultReceived then (.running, w)
      else if st.resultSuccess then (.running, set leg { w.recov leg with phase := .done } w)
      else (.running, attemptFailed e leg maxAttempts w)
  | .done => (.success, w.post (.requestRecovery leg) .recoveryDone)
  | .failed => (.failure, w.post (.requestRecovery leg) .recoveryFailed)

def onHalted (leg : Leg) (w : World) : World :=
  set leg { w.recov leg with spinState := none, backupState := none } w

end RequestRecovery

namespace RequestTask

/-- The task to run next, with the node it leaves behind: an interrupted task has priority. -/
def takeTask (node : RobotAgentNode) : Option Delivery × RobotAgentNode :=
  match node.interruptedTask with
  | some d => (some d, { node with interruptedTask := none })
  | none =>
    match node.pendingTasks with
    | d :: ds => (some d, { node with pendingTasks := ds })
    | [] => (none, node)

def poseStamped (e : TickEnv) (p : Pose) : PoseStamped :=
  { frameId := "map", stamp := e.now, pose := p }

/-- `onRunning` from the moment a task is taken on. -/
def take (e : TickEnv) (d : Delivery) (w : World) : World :=
  let w := { w with node := { w.node with
    currentTask := some d
    taskStartTime := e.now
    pickPose := some (poseStamped e d.msg.pickPose)
    dropPose := some (poseStamped e d.msg.dropPose) } }
  (w.emit (.dequeued d)).post .requestTask .taskReceived

def onRunning (e : TickEnv) (w : World) : NodeStatus × World :=
  match takeTask w.node with
  | (none, _) => (.running, w)
  | (some d, node) => (.success, take e d { w with node := node })

def onStart (e : TickEnv) (w : World) : NodeStatus × World := onRunning e w

end RequestTask

namespace ExecutePickDrop

def onStart (e : TickEnv) (leg : Leg) (w : World) : NodeStatus × World :=
  (.running, { w with exec := Function.update w.exec leg ⟨e.now, w.durationPort leg⟩ })

/-- `elapsed < duration_secs_` is false. -/
def elapsed (e : TickEnv) (leg : Leg) (w : World) : Bool :=
  (w.exec leg).durationSecs ≤ seconds (e.now - (w.exec leg).startTime)

def onRunning (e : TickEnv) (leg : Leg) (w : World) : NodeStatus × World :=
  if elapsed e leg w then
    -- only the pick posts: after the drop the FSM waits for `REPORT_SENT`
    (.success, if leg = .pick then w.post (.executePickDrop leg) .executionDone else w)
  else (.running, w)

end ExecutePickDrop

namespace ReportStatus

def message (e : TickEnv) (w : World) : TaskCompletion where
  stamp := e.stampNow
  taskId := (w.node.currentTask.map (·.msg.taskId)).getD ""
  robotId := (w.node.currentTask.map fun _ => w.node.robotName).getD ""
  result := TaskCompletion.resultSuccess
  durationSecs := toFloat (seconds (e.reportNow - w.node.taskStartTime))
  errorMessage := ""

def tick (e : TickEnv) (w : World) : NodeStatus × World :=
  let done := w.emit (.completion w.node.currentTask (message e w))
  (.success, { done with node := { done.node with currentTask := none } }.post
    .reportStatus .reportSent)

end ReportStatus

/-! ## The leaves as actions of the engine -/

/-- Record what the leaf returned. -/
def returns (l : Leaf) (f : World → NodeStatus × World) (w : World) : NodeStatus × World :=
  ((f w).1, (f w).2.emit (.returned l (f w).1))

/-- A leaf whose `onHalted` does nothing but log. -/
def haltOnly (l : Leaf) (w : World) : World := w.emit (.halted l)

/-- The leaves, with the port values `robot_agent.xml` gives them. -/
def sem (e : TickEnv) : Leaf → Action World
  | .batteryOK => Action.sync (returns .batteryOK (BatteryOK.tick 20))
  | .navigateToPose n =>
    { onStart := returns (.navigateToPose n) (NavigateToPose.onStart e n)
      onRunning := returns (.navigateToPose n) (NavigateToPose.onRunning n)
      onHalted := fun w => haltOnly (.navigateToPose n) (NavigateToPose.onHalted n w) }
  | .chargeBattery =>
    { onStart := returns .chargeBattery ChargeBattery.onStart
      onRunning := returns .chargeBattery ChargeBattery.onRunning
      onHalted := fun w => haltOnly .chargeBattery (ChargeBattery.onHalted w) }
  | .requestTask =>
    { onStart := returns .requestTask (RequestTask.onStart e)
      onRunning := returns .requestTask (RequestTask.onRunning e)
      onHalted := haltOnly .requestTask }
  | .requestRecovery leg =>
    { onStart := returns (.requestRecovery leg) (RequestRecovery.onStart e leg)
      onRunning := returns (.requestRecovery leg) (RequestRecovery.onRunning e leg 3)
      onHalted := fun w => haltOnly (.requestRecovery leg) (RequestRecovery.onHalted leg w) }
  | .executePickDrop leg =>
    { onStart := returns (.executePickDrop leg) (ExecutePickDrop.onStart e leg)
      onRunning := returns (.executePickDrop leg) (ExecutePickDrop.onRunning e leg)
      onHalted := haltOnly (.executePickDrop leg) }
  | .reportStatus => Action.sync (returns .reportStatus (ReportStatus.tick e))

end RobotAgent
