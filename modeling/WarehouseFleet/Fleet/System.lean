import Std.Data.String.ToNat
import WarehouseFleet.FleetServer.Allocation
import WarehouseFleet.RobotAgent.Messages
import WarehouseFleet.Topic

/-!
# The fleet: one server, its robots, and the topics between them

| here | there |
| --- | --- |
| `robotName`          | `"robot_" + std::to_string(i)` (fleet_server_node.cpp:27-28), `f"robot_{i}"` (bringup.launch.py) |
| `Launch`             | the nodes bringup.launch.py and fleet_server.launch.py start; `robot_name` is the parameter robot_agent.launch.py passes on |
| `State.assignments`  | `/robot_i/task_assignment` (fleet_server_node.cpp:43-44, robot_agent_node.cpp:84-90) |
| `State.statuses`     | `/robot_i/robot_status` (fleet_server_node.cpp:31-35, robot_agent_node.cpp:76-77) |
| `State.completions`  | `/robot_i/task_completion` (fleet_server_node.cpp:37-41, robot_agent_node.cpp:78-79) |
| `Event`, `step`      | the callbacks of all nodes, in any order; what a callback publishes is on its topic at once |

Robots are counted from 0 here. A robot that is not there is one whose callbacks never run; the
server has no subscription to those from `num_robots` on. In `Allocation` a robot may complete
whatever it was sent, here it completes what its agent does.
-/

namespace Fleet

open Fms
open FleetServer

def robotName (i : Nat) : String := "robot_" ++ toString (i + 1)

structure Launch (K : Type) where
  numRobots : Nat
  socWeight : K
  /-- What is in the `tasks` collection. -/
  tasks : List TaskDoc
  robots : Nat → RobotAgent.Config
  robots_named : ∀ i, (robots i).robotName = robotName i
  /-- `insert_task` is called with an id. -/
  tasks_named : ∀ doc ∈ tasks, doc.taskId ≠ ""

structure State where
  server : Allocation.State
  agents : Nat → RobotAgent.State
  assignments : Nat → Topic TaskAssignment := fun _ => {}
  statuses : Nat → Topic RobotStatus := fun _ => {}
  completions : Nat → Topic TaskCompletion := fun _ => {}

inductive Event where
  /-- `select_robot` -/
  | request (th : Thread) (request : TaskAssignment)
  /-- `dispatch_assignment` up to `publish` -/
  | dispatch (th : Thread) (idNow stampNow : Time)
  | insertTask (th : Thread)
  /-- a callback of robot `i`, but `task_assignment_cb` -/
  | robot (i : Nat) (ev : RobotAgent.Event)
  /-- `task_assignment_cb` of robot `i` -/
  | taskAssignment (i : Nat)
  /-- `robot_status_cb` for robot `i` -/
  | robotStatus (i : Nat)
  /-- `task_completion_cb` for robot `i` -/
  | taskCompletion (i : Nat)
  /-- a topic of robot `i` loses a message -/
  | loseAssignment (i k : Nat)
  | loseStatus (i k : Nat)
  | loseCompletion (i k : Nat)

/-- The assignments to robot `i`. -/
def assignedTo (numRobots i : Nat) (tr : List FleetServer.Obs) : List TaskAssignment :=
  (Allocation.publishedAssignments tr).filter fun a => robotIndex numRobots a.robotId = some i

namespace State

/-- The server goes on to `server`; what it publishes is on the topics. -/
def serverSteps (numRobots : Nat) (server : Allocation.State) (s : State) : State :=
  let new := server.server.trace.drop s.server.server.trace.length
  { s with
    server
    assignments := fun i => (s.assignments i).publish (assignedTo numRobots i new) }

/-- Robot `i` goes on to `agent`; what it publishes is on its topics. -/
def robotSteps (i : Nat) (agent : RobotAgent.State) (s : State) : State :=
  let new := agent.world.trace.drop (s.agents i).world.trace.length
  { s with
    agents := Function.update s.agents i agent
    statuses := Function.update s.statuses i
      ((s.statuses i).publish (RobotAgent.statuses new))
    completions := Function.update s.completions i
      ((s.completions i).publish (RobotAgent.completions new)) }

end State

variable {K : Type} [Add K] [Sub K] [Mul K] [LT K] [DecidableLT K] [RatCast K] [Sqrt K]

def Launch.init (l : Launch K) : State where
  server := .init l.tasks
  agents i := (l.robots i).init

/-- An event that is not possible in a state changes nothing. -/
def step (l : Launch K) (s : State) : Event → State
  | .request th request =>
    s.serverSteps l.numRobots
      (Allocation.step l.numRobots l.socWeight s.server (.request th request))
  | .dispatch th idNow stampNow =>
    s.serverSteps l.numRobots
      (Allocation.step l.numRobots l.socWeight s.server (.dispatch th idNow stampNow))
  | .insertTask th =>
    s.serverSteps l.numRobots (Allocation.step l.numRobots l.socWeight s.server (.insertTask th))
  | .robot _ (.taskAssignment _) => s
  | .robot i ev => s.robotSteps i (RobotAgent.step (s.agents i) ev)
  | .taskAssignment i =>
    match (s.assignments i).queued.head? with
    | none => s
    | some msg =>
      { s.robotSteps i (RobotAgent.step (s.agents i) (.taskAssignment msg)) with
        assignments := Function.update s.assignments i (s.assignments i).deliver }
  | .robotStatus i =>
    match (s.statuses i).queued.head? with
    | none => s
    | some msg =>
      if i < l.numRobots ∧ ¬ s.server.busy .executor then
        { s with
          server := Allocation.step l.numRobots l.socWeight s.server (.robotStatus msg)
          statuses := Function.update s.statuses i (s.statuses i).deliver }
      else s
  | .taskCompletion i =>
    match (s.completions i).queued.head? with
    | none => s
    | some msg =>
      if i < l.numRobots ∧ ¬ s.server.busy .executor then
        { s with
          server := { s.server with server := taskCompletionCb msg s.server.server }
          completions := Function.update s.completions i (s.completions i).deliver }
      else s
  | .loseAssignment i k =>
    { s with assignments := Function.update s.assignments i ((s.assignments i).lose k) }
  | .loseStatus i k =>
    { s with statuses := Function.update s.statuses i ((s.statuses i).lose k) }
  | .loseCompletion i k =>
    { s with completions := Function.update s.completions i ((s.completions i).lose k) }

def Launch.run (l : Launch K) (es : List Event) : State := Run.run (step l) l.init es

/-! ## A fleet for concrete runs -/

/-- Two robots as launched, at the charger. -/
def Launch.sample : Launch ℚ where
  numRobots := 2
  socWeight := 1 / 2
  tasks := []
  robots i := { RobotAgent.Config.sample with robotName := robotName i }
  robots_named _ := rfl
  tasks_named := by simp

/-- The first robot reports, gets a task, delivers it, and the server hears of it. -/
def deliveredRun : List Event :=
  [ .robot 0 (.statusPublish 1 none)
  , .robotStatus 0
  , .request (.grpc 0) (requestAt 0 4)
  , .dispatch (.grpc 0) 1 1
  , .insertTask (.grpc 0)
  , .taskAssignment 0 ] ++
  RobotAgent.deliveredRun.tail.map (.robot 0) ++
  [ .taskCompletion 0 ]

/-- Both robots report, and each gets the task that is nearer to it; the second is still on its way
when the first is done. -/
def sharedRun : List Event :=
  [ .robot 0 (.statusPublish 1 (some (RobotAgent.poseAt 0 0)))
  , .robot 1 (.statusPublish 1 (some (RobotAgent.poseAt 9 0)))
  , .robotStatus 0
  , .robotStatus 1
  , .request (.grpc 0) (requestAt 0 4)
  , .request .rabbitmq (requestAt 9 4)
  , .dispatch (.grpc 0) 1 1
  , .insertTask (.grpc 0)
  , .dispatch .rabbitmq 2 2
  , .insertTask .rabbitmq
  , .taskAssignment 0 ] ++
  (RobotAgent.passRun 0 0).map (.robot 0)

end Fleet
