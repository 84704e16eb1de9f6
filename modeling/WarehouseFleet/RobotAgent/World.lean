import Mathlib.Logic.Function.Basic
import WarehouseFleet.BehaviorTree.Basic
import WarehouseFleet.Msgs
import WarehouseFleet.RobotAgent.Fsm
import WarehouseFleet.RobotAgent.Battery

/-!
# What the callbacks of one robot agent read and write

| here | there |
| --- | --- |
| `RobotAgentNode` | the public members of `RobotAgentNode` (robot_agent_node.hpp:56-99) and the blackboard entries the BT nodes read (robot_agent_node.cpp:110-115, request_task.cpp:61-62) |
| `NavState` | `NavigateToPoseBT::NavState` (navigate_to_pose_bt.hpp:31-37) |
| `RecovState`, `RequestRecovery` | the private members of `RequestRecovery` (request_recovery.hpp:30-45) |
| `ExecutePickDrop` | the private members of `ExecutePickDrop` (execute_pick_drop.hpp:23-24) |
| `World.nextGoal` | the goal ids the action clients hand out, one counter for the three clients |
| `World.trace` | what an observer of the callbacks sees, oldest first |

`cb_group_timer_` is mutually exclusive, so BT ticks, battery ticks, status publications, task
arrivals and `inject_fault` calls never overlap. The goal-response and result callbacks run in
`cb_group_action_`, but each touches one `NavState` or `RecovState` under that node's mutex, and
a BT tick reads each of these once, so a callback during a tick is one before or after it.
-/

namespace RobotAgent

open BehaviorTree (NodeStatus)
open Fms

/-- The pick and the drop half of a task. -/
inductive Leg where
  | pick
  | drop
deriving DecidableEq, Repr

/-- The three `NavigateToPose` nodes: `NavToCharger`, `NavToPick`, `NavToDrop`. -/
inductive NavNode where
  | toCharger
  | to (leg : Leg)
deriving DecidableEq, Repr

/-- The leaves of `robot_agent.xml`. -/
inductive Leaf where
  | batteryOK
  | navigateToPose (n : NavNode)
  | chargeBattery
  | requestTask
  | requestRecovery (leg : Leg)
  | executePickDrop (leg : Leg)
  | reportStatus
deriving DecidableEq, Repr

/-- `rclcpp_action::ResultCode`. -/
inductive ResultCode where
  | unknown
  | succeeded
  | canceled
  | aborted
deriving DecidableEq, Repr

/-- A `TaskAssignment` as it was delivered. `seq` numbers the deliveries, so that two messages
with equal contents stay apart; no code reads it. -/
structure Delivery where
  seq : Nat
  msg : TaskAssignment
deriving DecidableEq, Repr

/-- `goal` is the goal whose callbacks hold a `weak_ptr` to this state. -/
structure NavState where
  goal : Nat
  responseReceived : Bool := false
  goalAccepted : Bool := false
  resultReceived : Bool := false
  resultCode : ResultCode := .unknown
  goalHandle : Option Nat := none
deriving DecidableEq, Repr

/-- `goal` is the goal whose result callback holds a `weak_ptr` to this state, if any. -/
structure RecovState where
  goal : Option Nat
  resultReceived : Bool := false
  resultSuccess : Bool := false
deriving DecidableEq, Repr

inductive RecoveryPhase where
  | spin
  | backup
  | done
  | failed
deriving DecidableEq, Repr

structure RequestRecovery where
  phase : RecoveryPhase := .spin
  attempt : Int := 0
  spinState : Option RecovState := none
  backupState : Option RecovState := none
deriving DecidableEq, Repr

structure ExecutePickDrop where
  startTime : Time := 0
  durationSecs : ℚ := 3
deriving DecidableEq, Repr

/-- Goal of `nav2_msgs/action/Spin`. -/
structure SpinGoal where
  targetYaw : ℚ
  timeAllowanceSec : Int
deriving DecidableEq, Repr

/-- Goal of `nav2_msgs/action/BackUp`. -/
structure BackUpGoal where
  targetX : ℚ
  speed : ℚ
  timeAllowanceSec : Int
deriving DecidableEq, Repr

/-- One entry of the trace. -/
inductive Obs where
  /-- `task_assignment_cb` -/
  | received (d : Delivery)
  /-- `inject_fault` -/
  | fault (value : Bool)
  /-- the goal-response callback of goal `g` -/
  | response (g : Nat) (accepted : Bool)
  /-- the result callback of goal `g` -/
  | result (g : Nat) (code : ResultCode)
  /-- a leaf was ticked and returned `st` -/
  | returned (l : Leaf) (st : NodeStatus)
  /-- a RUNNING leaf was halted -/
  | halted (l : Leaf)
  /-- a leaf called `RobotFSM::process` -/
  | posted (l : Leaf) (ev : FsmEvent)
  /-- `RequestTask` took a task -/
  | dequeued (d : Delivery)
  | navGoal (n : NavNode) (g : Nat) (goal : PoseStamped)
  | spinGoal (leg : Leg) (g : Nat) (goal : SpinGoal)
  | backUpGoal (leg : Leg) (g : Nat) (goal : BackUpGoal)
  /-- `async_cancel_goal` -/
  | cancel (g : Nat)
  /-- `ReportStatus` published; `d` is what `current_task_` held -/
  | completion (d : Option Delivery) (msg : TaskCompletion)
  /-- `status_publish_cb` published -/
  | status (msg : RobotStatus)
deriving DecidableEq, Repr

structure RobotAgentNode where
  robotName : String
  fsm : RobotState := .idle
  pendingTasks : List Delivery := []
  currentTask : Option Delivery := none
  interruptedTask : Option Delivery := none
  battery : BatteryModel
  isMoving : Bool := false
  isCharging : Bool := false
  faultInjected : Bool := false
  taskStartTime : Time
  lastBatteryUpdate : Time
  chargerPose : PoseStamped
  pickPose : Option PoseStamped := none
  dropPose : Option PoseStamped := none
  pickDuration : ℚ
  dropDuration : ℚ

structure World where
  node : RobotAgentNode
  nav : NavNode → Option NavState := fun _ => none
  recov : Leg → RequestRecovery := fun _ => {}
  exec : Leg → ExecutePickDrop := fun _ => {}
  nextGoal : Nat := 0
  trace : List Obs := []

namespace World

def emit (w : World) (o : Obs) : World := { w with trace := w.trace ++ [o] }

/-- A leaf posts an event to the FSM. -/
def post (w : World) (l : Leaf) (ev : FsmEvent) : World :=
  { w with node := { w.node with fsm := (process w.node.fsm ev).1 } }.emit (.posted l ev)

/-- `fault_injected_.load()` and `store(false)`. -/
def clearFault (w : World) : World := { w with node := { w.node with faultInjected := false } }

section
variable (w : World) (o : Obs) (l : Leaf) (ev : FsmEvent)

@[simp] theorem emit_node : (w.emit o).node = w.node := rfl
@[simp] theorem emit_nav : (w.emit o).nav = w.nav := rfl
@[simp] theorem emit_recov : (w.emit o).recov = w.recov := rfl
@[simp] theorem emit_exec : (w.emit o).exec = w.exec := rfl
@[simp] theorem emit_nextGoal : (w.emit o).nextGoal = w.nextGoal := rfl
@[simp] theorem emit_trace : (w.emit o).trace = w.trace ++ [o] := rfl

@[simp] theorem post_node :
    (w.post l ev).node = { w.node with fsm := (process w.node.fsm ev).1 } := rfl
@[simp] theorem post_nav : (w.post l ev).nav = w.nav := rfl
@[simp] theorem post_recov : (w.post l ev).recov = w.recov := rfl
@[simp] theorem post_exec : (w.post l ev).exec = w.exec := rfl
@[simp] theorem post_nextGoal : (w.post l ev).nextGoal = w.nextGoal := rfl
@[simp] theorem post_trace : (w.post l ev).trace = w.trace ++ [.posted l ev] := rfl

end

/-- The `goal` port of a `NavigateToPose` node: its blackboard entry. -/
def goalPort (w : World) : NavNode → Option PoseStamped
  | .toCharger => some w.node.chargerPose
  | .to .pick => w.node.pickPose
  | .to .drop => w.node.dropPose

/-- The `duration_secs` port of an `ExecutePickDrop` node. -/
def durationPort (w : World) : Leg → ℚ
  | .pick => w.node.pickDuration
  | .drop => w.node.dropDuration

end World

/-- What the middleware answers during one BT tick: the clock, and
`action_server_is_ready()` for the one query each node may make. `ReportStatus`, the last node of a
pass, reads the clock for its stamp and again for the duration; what is read of it before that in a
tick is `now`. -/
structure TickEnv where
  now : Time
  stampNow : Time
  reportNow : Time
  navReady : NavNode → Bool
  spinReady : Bool
  backupReady : Bool

end RobotAgent
