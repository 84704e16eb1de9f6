import WarehouseFleet.Run
import WarehouseFleet.FleetServer.MongoStore

/-!
# Dispatching on three kinds of threads

`dispatch_assignment` runs on the gRPC workers (`submit_task`), on the ROS executor
(`task_request_cb`) and on the RabbitMQ thread (`rabbitmq_consume_loop`), without a lock. It
publishes, then it records the task: two steps, between which all other threads may run.
`task_completion_cb` runs on the executor, so not between the two steps of a call made there.

| here | there |
| --- | --- |
| `robotIndex`                | `robot_index_` (fleet_server_node.cpp:26-28) |
| `dispatch`, `insertTask`    | the two steps of `dispatch_assignment` (:194-203) |
| `taskCompletionCb`          | `task_completion_cb` (:165-185) |
| `FailedDoc`                 | the JSON object that goes to `publish_failed` |
| `getTaskStatus`             | `get_task_status` (:122-125) |
| `ServerState.inFlight`      | completions that are sent and not yet processed; none is lost, the order is free |
| `Event`, `step`             | what the threads and the robots may do, in any order |
-/

namespace FleetServer

open Fms

inductive Thread where
  | grpc (worker : Nat)
  | executor
  | rabbitmq
deriving DecidableEq, Repr

/-- A call of `dispatch_assignment` that has published and not yet recorded its task. -/
structure Call where
  thread : Thread
  assignment : TaskAssignment
deriving DecidableEq, Repr

structure FailedDoc where
  taskId : String
  robotId : String
  result : String
  durationSecs : ℚ
  errorMessage : String
deriving DecidableEq, Repr

/-- One entry of the trace. -/
inductive Obs where
  /-- on the robot's `task_assignment` topic -/
  | published (assignment : TaskAssignment)
  /-- `insert_task` -/
  | recorded (assignment : TaskAssignment)
  /-- a robot sent a completion -/
  | sent (completion : TaskCompletion)
  /-- `task_completion_cb` ran -/
  | completed (completion : TaskCompletion)
  /-- on the `tasks.dlx` exchange -/
  | failed (doc : FailedDoc)
deriving DecidableEq, Repr

structure ServerState where
  calls : List Call := []
  inFlight : List TaskCompletion := []
  tasks : List TaskDoc := []
  trace : List Obs := []

namespace ServerState

def emit (s : ServerState) (o : Obs) : ServerState := { s with trace := s.trace ++ [o] }

@[simp] theorem emit_calls (s : ServerState) (o : Obs) : (s.emit o).calls = s.calls := rfl
@[simp] theorem emit_inFlight (s : ServerState) (o : Obs) : (s.emit o).inFlight = s.inFlight := rfl
@[simp] theorem emit_tasks (s : ServerState) (o : Obs) : (s.emit o).tasks = s.tasks := rfl
@[simp] theorem emit_trace (s : ServerState) (o : Obs) : (s.emit o).trace = s.trace ++ [o] := rfl

/-- The thread is in a call. -/
def busy (s : ServerState) (th : Thread) : Bool := s.calls.any (·.thread = th)

end ServerState

/-- `"robot_" + std::to_string(i)` for `i = 1, …, num_robots`, with the index of its publisher. -/
def robotIndex (numRobots : Nat) (robotId : String) : Option Nat :=
  (List.range numRobots).find? fun i => robotId = "robot_" ++ toString (i + 1)

/-- `dispatch_assignment` up to `publish`: what it publishes. `idNow` and `stampNow` are the two
readings of the clock. -/
def prepare (idNow stampNow : Time) (assignment : TaskAssignment) : TaskAssignment :=
  { assignment with
    taskId := if assignment.taskId = "" then "task_" ++ toString idNow else assignment.taskId
    stamp := stampNow }

def dispatch (numRobots : Nat) (th : Thread) (assignment : TaskAssignment) (s : ServerState) :
    ServerState :=
  match robotIndex numRobots assignment.robotId with
  -- `robot_index_.at` throws: nothing is published, nothing recorded
  | none => s
  | some _ => { s with calls := s.calls ++ [Call.mk th assignment] }.emit (.published assignment)

/-- The rest of a call. -/
def insertTask (call : Call) (s : ServerState) : ServerState :=
  { s with
    calls := s.calls.erase call
    tasks := MongoStore.insertTask call.assignment s.tasks }.emit (.recorded call.assignment)

def FailedDoc.ofCompletion (msg : TaskCompletion) : FailedDoc where
  taskId := msg.taskId
  robotId := msg.robotId
  result := taskResultToString msg.result
  durationSecs := msg.durationSecs
  errorMessage := msg.errorMessage

def taskCompletionCb (msg : TaskCompletion) (s : ServerState) : ServerState :=
  let s := { s with tasks := MongoStore.updateTaskCompletion msg s.tasks }.emit (.completed msg)
  if msg.result ≠ TaskCompletion.resultSuccess then s.emit (.failed (.ofCompletion msg)) else s

def getTaskStatus (taskId : String) (s : ServerState) : Option TaskRecord :=
  MongoStore.findTask taskId s.tasks

/-- The robot has received an assignment with the task id of the completion. -/
def mayComplete (msg : TaskCompletion) (tr : List Obs) : Bool :=
  tr.any fun
    | .published a => a.taskId = msg.taskId && a.robotId = msg.robotId
    | _ => false

inductive Event where
  | dispatch (th : Thread) (request : TaskAssignment) (idNow stampNow : Time)
  | insertTask (th : Thread)
  | robotCompletes (msg : TaskCompletion)
  | taskCompletion (msg : TaskCompletion)

/-- An event that is not possible in a state changes nothing. -/
def step (numRobots : Nat) (s : ServerState) : Event → ServerState
  | .dispatch th request idNow stampNow =>
    if s.busy th then s else dispatch numRobots th (prepare idNow stampNow request) s
  | .insertTask th =>
    match s.calls.find? (·.thread = th) with
    | none => s
    | some call => insertTask call s
  | .robotCompletes msg =>
    if mayComplete msg s.trace then { s with inFlight := s.inFlight ++ [msg] }.emit (.sent msg)
    else s
  | .taskCompletion msg =>
    if msg ∈ s.inFlight ∧ ¬ s.busy .executor then
      taskCompletionCb msg { s with inFlight := s.inFlight.erase msg }
    else s

/-- A run of a server that finds these documents in its `tasks` collection. -/
def run (numRobots : Nat) (tasks : List TaskDoc) (es : List Event) : ServerState :=
  Run.run (step numRobots) { tasks } es

/-- What a step can do. -/
inductive Steps (numRobots : Nat) (s : ServerState) : ServerState → Prop where
  | stays : Steps numRobots s s
  | dispatches (th : Thread) (a : TaskAssignment) :
      Steps numRobots s ({ s with calls := s.calls ++ [Call.mk th a] }.emit (.published a))
  | records (call : Call) (hc : call ∈ s.calls) : Steps numRobots s (insertTask call s)
  | sends (msg : TaskCompletion) :
      Steps numRobots s ({ s with inFlight := s.inFlight ++ [msg] }.emit (.sent msg))
  | completes (msg : TaskCompletion) : Steps numRobots s
      (taskCompletionCb msg { s with inFlight := s.inFlight.erase msg })

theorem steps (numRobots : Nat) (s : ServerState) (ev : Event) :
    Steps numRobots s (step numRobots s ev) := by
  cases ev with
  | dispatch th request idNow stampNow =>
    simp only [step, dispatch]
    split
    · exact .stays
    · split
      · exact .stays
      · exact .dispatches th _
  | insertTask th =>
    rw [step]
    split
    · exact .stays
    · next call hc => exact .records call (List.mem_of_find?_eq_some hc)
  | robotCompletes msg =>
    rw [step]
    split
    · exact .sends msg
    · exact .stays
  | taskCompletion msg =>
    rw [step]
    split
    · exact .completes msg
    · exact .stays

end FleetServer
