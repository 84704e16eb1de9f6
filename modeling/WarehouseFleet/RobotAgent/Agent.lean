import WarehouseFleet.RobotAgent.Leaves
import WarehouseFleet.Run

/-!
# The robot agent: behaviour tree, callbacks and runs

| here | there |
| --- | --- |
| `chargeWhenLow`, `navRetry`, `taskExecution`, `robotAgentMain` | bt_xml/robot_agent.xml:20-66 |
| `State`              | a configured and active agent between two callbacks |
| `Config.init`        | `on_configure` and `on_activate` (robot_agent_node.cpp:37-153) |
| `btTickCb`           | `bt_tick_cb` (:188-199), with `BT::Tree::tickRoot`: a root that is done starts afresh |
| `batteryUpdateCb`    | `battery_update_cb` (:201-218) |
| `statusPublishCb`    | `status_publish_cb` (:220-254) |
| `taskAssignmentCb`   | `task_assignment_cb` (:256-263) |
| `faultServiceCb`     | `fault_service_cb` (:265-279) |
| `goalResponse`, `goalResult` | the callbacks given to `async_send_goal` (navigate_to_pose_bt.cpp:42-56, request_recovery.cpp:144-150, 182-188) |
| `Event`, `step`      | the callbacks, in any order; an answer may come for any goal that was sent, at any time |
-/

namespace RobotAgent

open BehaviorTree
open Fms

/-! ## The tree -/

def chargeWhenLow : BehaviorTree.Tree Leaf :=
  .sequence
    [ .inverter (.action .batteryOK)
    , .action (.navigateToPose .toCharger)
    , .action .chargeBattery ]

/-- `NavToPickRetry` and `NavToDropRetry`. -/
def navRetry (leg : Leg) : BehaviorTree.Tree Leaf :=
  .retry 3 (.fallback
    [ .action (.navigateToPose (.to leg))
    , .action (.requestRecovery leg) ])

def taskExecution : BehaviorTree.Tree Leaf :=
  .sequence
    [ .action .requestTask
    , navRetry .pick
    , .action (.executePickDrop .pick)
    , navRetry .drop
    , .action (.executePickDrop .drop)
    , .action .reportStatus ]

def robotAgentMain : BehaviorTree.Tree Leaf := .reactiveFallback [chargeWhenLow, taskExecution]

/-! ## States and callbacks -/

structure State where
  tree : Option Path
  world : World

/-- The parameters, and the times of configuration and activation. -/
structure Config where
  robotName : String
  pickDurationSecs : ℚ
  dropDurationSecs : ℚ
  initialBatterySoc : ℚ
  chargerPose : PoseStamped
  configuredAt : Time
  activatedAt : Time

def Config.init (c : Config) : State where
  tree := none
  world :=
    { node :=
        { robotName := c.robotName
          battery := BatteryModel.setSoc c.initialBatterySoc
          taskStartTime := c.activatedAt
          lastBatteryUpdate := c.configuredAt
          chargerPose := c.chargerPose
          pickDuration := c.pickDurationSecs
          dropDuration := c.dropDurationSecs } }

/-- The leaf is RUNNING. -/
def State.running (s : State) (l : Leaf) : Prop := s.tree.bind robotAgentMain.leafAt = some l

instance (s : State) (l : Leaf) : Decidable (s.running l) :=
  inferInstanceAs (Decidable (_ = _))

def btTickCb (e : TickEnv) (s : State) : State :=
  let r := tick (sem e) robotAgentMain s.tree s.world
  ⟨r.1.path?, r.2⟩

/-- Keep the current task of a robot whose battery is low. -/
def saveInterrupted (node : RobotAgentNode) : RobotAgentNode :=
  if node.battery.isLow && node.currentTask.isSome && node.interruptedTask.isNone then
    { node with interruptedTask := node.currentTask, currentTask := none }
  else node

def batteryUpdateCb (now : Time) (w : World) : World :=
  let dt := seconds (now - w.node.lastBatteryUpdate)
  { w with node := saveInterrupted { w.node with
      lastBatteryUpdate := now
      battery := w.node.battery.update dt w.node.isMoving w.node.isCharging } }

/-- What a battery tick may change. -/
theorem batteryUpdateCb_node (now : Time) (w : World) : ∃ battery current interrupted,
    (batteryUpdateCb now w).node =
      { w.node with
        lastBatteryUpdate := now
        battery := battery
        currentTask := current
        interruptedTask := interrupted } := by
  simp only [batteryUpdateCb, saveInterrupted]
  split
  · exact ⟨_, _, _, rfl⟩
  · exact ⟨_, w.node.currentTask, w.node.interruptedTask, rfl⟩

theorem saveInterrupted_battery (node : RobotAgentNode) :
    (saveInterrupted node).battery = node.battery := by
  rw [saveInterrupted]
  split <;> rfl

/-- `tf` is the pose `lookupTransform` finds, if it finds one. -/
def statusMessage (now : Time) (tf : Option Pose) (node : RobotAgentNode) : RobotStatus where
  stamp := now
  robotId := node.robotName
  state := node.fsm.id
  pose := tf.getD Pose.default
  batterySoc := toFloat node.battery.soc
  currentTaskId := (node.currentTask.map (·.msg.taskId)).getD ""
  statusMessage := node.fsm.name

def statusPublishCb (now : Time) (tf : Option Pose) (w : World) : World :=
  w.emit (.status (statusMessage now tf w.node))

/-- The deliveries so far. -/
def received (tr : List Obs) : List Delivery :=
  tr.filterMap fun
    | .received d => some d
    | _ => none

def taskAssignmentCb (msg : TaskAssignment) (w : World) : World :=
  let d : Delivery := ⟨(received w.trace).length, msg⟩
  { w with node := { w.node with pendingTasks := w.node.pendingTasks ++ [d] } }.emit (.received d)

def faultServiceCb (data : Bool) (w : World) : World :=
  let w := if data then { w with node := { w.node with faultInjected := true } } else w
  w.emit (.fault data)

/-- The response callback of goal `g`, if its `weak_ptr` points to this state. -/
def NavState.onResponse (g : Nat) (accepted : Bool) (s : NavState) : NavState :=
  if s.goal = g then
    { s with
      responseReceived := true
      goalAccepted := accepted
      goalHandle := if accepted then some g else none }
  else s

/-- The result callback of goal `g`, if its `weak_ptr` points to this state. -/
def NavState.onResult (g : Nat) (code : ResultCode) (s : NavState) : NavState :=
  if s.goal = g then { s with resultReceived := true, resultCode := code } else s

def RecovState.onResult (g : Nat) (code : ResultCode) (s : RecovState) : RecovState :=
  if s.goal = some g then
    { s with resultReceived := true, resultSuccess := code = .succeeded }
  else s

def RequestRecovery.onResult (g : Nat) (code : ResultCode) (r : RequestRecovery) :
    RequestRecovery :=
  { r with
    spinState := r.spinState.map (RecovState.onResult g code)
    backupState := r.backupState.map (RecovState.onResult g code) }

/-- Goal `g` is accepted or rejected. Spin and backup goals have no response callback. -/
def goalResponse (g : Nat) (accepted : Bool) (w : World) : World :=
  { w with nav := fun n => (w.nav n).map (NavState.onResponse g accepted) }.emit
    (.response g accepted)

/-- Goal `g` finishes with `code`. -/
def goalResult (g : Nat) (code : ResultCode) (w : World) : World :=
  { w with
    nav := fun n => (w.nav n).map (NavState.onResult g code)
    recov := fun leg => (w.recov leg).onResult g code }.emit (.result g code)

inductive Event where
  | taskAssignment (msg : TaskAssignment)
  | btTick (e : TickEnv)
  | batteryUpdate (now : Time)
  | statusPublish (now : Time) (tf : Option Pose)
  | injectFault (data : Bool)
  | goalResponse (g : Nat) (accepted : Bool)
  | goalResult (g : Nat) (code : ResultCode)

def step (s : State) : Event → State
  | .taskAssignment msg => { s with world := taskAssignmentCb msg s.world }
  | .btTick e => btTickCb e s
  | .batteryUpdate now => { s with world := batteryUpdateCb now s.world }
  | .statusPublish now tf => { s with world := statusPublishCb now tf s.world }
  | .injectFault data => { s with world := faultServiceCb data s.world }
  | .goalResponse g accepted =>
    if g < s.world.nextGoal then { s with world := goalResponse g accepted s.world } else s
  | .goalResult g code =>
    if g < s.world.nextGoal then { s with world := goalResult g code s.world } else s

/-- Only BT ticks move the tree. -/
theorem step_tree {s : State} {ev : Event} (h : ∀ e, ev ≠ .btTick e) :
    (step s ev).tree = s.tree := by
  cases ev with
  | btTick e => exact absurd rfl (h e)
  | goalResponse g accepted => rw [step]; split <;> rfl
  | goalResult g code => rw [step]; split <;> rfl
  | _ => rfl

/-- The run of an agent that was configured with `c`. -/
def Config.run (c : Config) (es : List Event) : State := Run.run step c.init es

theorem Config.run_concat (c : Config) (es : List Event) (ev : Event) :
    c.run (es ++ [ev]) = step (c.run es) ev := Run.run_append ..

/-! ## A robot for concrete runs -/

/-- The parameters of launch files' first robot, with the charger at the origin. -/
def Config.sample : Config where
  robotName := "robot_1"
  pickDurationSecs := 3
  dropDurationSecs := 3
  initialBatterySoc := 100
  chargerPose := ⟨"map", 0, Pose.default⟩
  configuredAt := 0
  activatedAt := 0

/-- The same robot, switched on at this state of charge. -/
def Config.sampleAt (soc : ℚ) : Config := { Config.sample with initialBatterySoc := soc }

def poseAt (x y : ℚ) : Pose := ⟨⟨x, y, 0⟩, ⟨0, 0, 0, 1⟩⟩

def sampleTask (id : String) (pick drop : Pose) : TaskAssignment where
  stamp := 0
  taskId := id
  robotId := "robot_1"
  taskType := 0
  pickPose := pick
  dropPose := drop
  payloadId := ""
  priority := 0
  deadlineSecs := 0

/-- All action servers are ready at time `now`, in seconds. -/
def TickEnv.up (now : Int) : TickEnv where
  now := now * 1000000000
  stampNow := now * 1000000000
  reportNow := now * 1000000000
  navReady _ := true
  spinReady := true
  backupReady := true

/-- No action server is ready. -/
def TickEnv.down (now : Int) : TickEnv where
  now := now * 1000000000
  stampNow := now * 1000000000
  reportNow := now * 1000000000
  navReady _ := false
  spinReady := false
  backupReady := false

/-- Only the charger cannot be reached: its `NavigateToPose` node finds no server. -/
def TickEnv.noCharger (now : Int) : TickEnv :=
  { TickEnv.up now with navReady := fun n => n ≠ .toCharger }

/-- One task, delivered without trouble: goals 0 and 1 are those of the two legs. -/
def deliveredRun : List Event :=
  [ .taskAssignment (sampleTask "a" (poseAt 1 0) (poseAt 0 1))
  , .btTick (.up 0)
  , .goalResponse 0 true
  , .goalResult 0 .succeeded
  , .btTick (.up 1)
  , .btTick (.up 4)
  , .goalResponse 1 true
  , .goalResult 1 .succeeded
  , .btTick (.up 5)
  , .btTick (.up 8) ]

/-- A pass without trouble from time `t` on: goals `g` and `g + 1` are those of the two legs. -/
def passRun (g : Nat) (t : Int) : List Event :=
  [ .btTick (.up t)
  , .goalResponse g true
  , .goalResult g .succeeded
  , .btTick (.up (t + 1))
  , .btTick (.up (t + 4))
  , .goalResponse (g + 1) true
  , .goalResult (g + 1) .succeeded
  , .btTick (.up (t + 5))
  , .btTick (.up (t + 8)) ]

/-- The battery runs low on the way to the first pick: goal 0 is cancelled, goal 1 leads to the
charger. -/
def preemptedRun : List Event :=
  [ .taskAssignment (sampleTask "a" (poseAt 1 0) (poseAt 0 1))
  , .taskAssignment (sampleTask "b" (poseAt 2 0) (poseAt 0 2))
  , .btTick (.up 0)
  , .goalResponse 0 true
  , .batteryUpdate 1000000000
  , .btTick (.up 1) ]

/-- The robot charges, and goes on with both tasks. -/
def resumedRun : List Event :=
  preemptedRun ++
  [ .goalResponse 1 true
  , .goalResult 1 .succeeded
  , .btTick (.up 2)
  , .batteryUpdate 100000000000
  , .btTick (.up 100) ] ++
  passRun 2 101 ++ passRun 4 110

/-- The navigation to the drop is aborted, and the recovery from that succeeds. -/
def recoveredRun : List Event :=
  deliveredRun.take 6 ++
  [ .goalResponse 1 true
  , .goalResult 1 .aborted
  , .btTick (.up 5)
  , .goalResult 2 .succeeded
  , .btTick (.up 6)
  , .goalResult 3 .succeeded
  , .btTick (.up 7)
  , .btTick (.up 8)
  , .btTick (.up 11) ]

end RobotAgent
