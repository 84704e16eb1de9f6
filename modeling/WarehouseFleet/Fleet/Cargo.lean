import WarehouseFleet.Fleet.Answers
import WarehouseFleet.Moves
import WarehouseFleet.RobotAgent.Cargo

/-!
# What of a request matters

Of a request the fleet uses the task id and the two poses. Type, payload, priority and deadline go
to the robot and into the record, robot id and stamp are set anew, and no decision depends on any
of them: two runs with requests that differ in these six fields only are the same run, but for the
fields themselves (`cargo_decides_nothing`).
-/

namespace FleetServer

open Fms

def Obs.bare : Obs → Obs
  | .published a => .published a.bare
  | .recorded a => .recorded a.bare
  | o => o

def Call.bare (c : Call) : Call := { c with assignment := c.assignment.bare }

/-- The document without type, payload, priority and deadline. -/
def TaskDoc.bare (doc : TaskDoc) : TaskDoc :=
  { doc with
    taskType := 0, taskTypeStr := taskTypeToString 0, payloadId := "", priority := 0
    deadlineSecs := 0 }

def ServerState.bare (s : ServerState) : ServerState :=
  { s with
    calls := s.calls.map Call.bare
    tasks := s.tasks.map TaskDoc.bare
    trace := s.trace.map Obs.bare }

namespace Allocation

def Entry.bare : Entry → Entry
  | .status msg => .status msg
  | .published a => .published a.bare

/-- A call before `dispatch_assignment`: the stamp is that of the request. -/
def bareSelected (c : Call) : Call := { c with assignment := { c.assignment.bare with stamp := 0 } }

def State.bare (s : State) : State :=
  { s with
    server := s.server.bare
    selected := s.selected.map bareSelected
    log := s.log.map Entry.bare }

end Allocation

end FleetServer

namespace Fleet

open Fms
open FleetServer

def State.bare (s : State) : State :=
  { s with
    server := s.server.bare
    agents := fun i => (s.agents i).bare
    assignments := fun i => (s.assignments i).map TaskAssignment.bare }

def Event.bare : Event → Event
  | .request th task => .request th { task.bare with stamp := 0, robotId := "" }
  | ev => ev

def Launch.bare {K : Type} (l : Launch K) : Launch K :=
  { l with
    tasks := l.tasks.map TaskDoc.bare
    tasks_named := by
      intro doc hdoc
      obtain ⟨d, hd, rfl⟩ := List.mem_map.mp hdoc
      exact l.tasks_named d hd }

/-! ## The server -/

theorem busy_bare (s : Allocation.State) (th : Thread) : s.bare.busy th = s.busy th := by
  simp only [Allocation.State.busy, ServerState.busy, Allocation.State.bare, ServerState.bare,
    List.any_map]
  rfl

theorem bare_emit (s : ServerState) (o : FleetServer.Obs) :
    (s.emit o).bare = s.bare.emit o.bare := by
  simp [ServerState.bare, ServerState.emit]

theorem taskCompletionCb_bare (msg : TaskCompletion) (s : ServerState) :
    taskCompletionCb msg s.bare = (taskCompletionCb msg s).bare := by
  have htasks : MongoStore.updateTaskCompletion msg s.bare.tasks =
      (MongoStore.updateTaskCompletion msg s.tasks).map TaskDoc.bare :=
    Collection.updateOne_map (fun _ => rfl) fun _ => rfl
  have htrace : (completionObs msg).map FleetServer.Obs.bare = completionObs msg := by
    rw [completionObs]
    split <;> rfl
  rw [taskCompletionCb_eq, taskCompletionCb_eq, htasks]
  simp [ServerState.bare, htrace]

theorem insertTask_bare {s : ServerState} {th : Thread} {call : Call}
    (h : s.calls.find? (·.thread = th) = some call) :
    insertTask call.bare s.bare = (insertTask call s).bare := by
  have hcalls : (s.calls.map Call.bare).erase call.bare = (s.calls.erase call).map Call.bare :=
    Moves.map_erase (q := (·.thread = th)) (fun _ => rfl) h
  have htasks : MongoStore.insertTask call.bare.assignment (s.tasks.map TaskDoc.bare) =
      (MongoStore.insertTask call.assignment s.tasks).map TaskDoc.bare := by
    rw [MongoStore.insertTask, MongoStore.insertTask, Collection.insertOne, Collection.insertOne,
      List.map_append]
    rfl
  rw [insertTask, insertTask, bare_emit]
  simp only [ServerState.bare, hcalls, htasks]
  rfl

section
variable {K : Type} [Add K] [Sub K] [Mul K] [LT K] [DecidableLT K] [RatCast K] [Sqrt K]

theorem selectBestRobot_bare (robots : StatusMap) (request : TaskAssignment) (socWeight : K) :
    selectBestRobot robots { request.bare with stamp := 0, robotId := "" } socWeight =
      selectBestRobot robots request socWeight := rfl

theorem dispatch_bare (numRobots : Nat) (th : Thread) (a : TaskAssignment) (s : ServerState) :
    dispatch numRobots th a.bare s.bare = (dispatch numRobots th a s).bare := by
  have hrobot : a.bare.robotId = a.robotId := rfl
  rw [dispatch, dispatch, hrobot]
  cases robotIndex numRobots a.robotId with
  | none => rfl
  | some i => simp [ServerState.bare, ServerState.emit, Call.bare, FleetServer.Obs.bare]

theorem request_bare (numRobots : Nat) (socWeight : K) (s : Allocation.State) (th : Thread)
    (task : TaskAssignment) :
    Allocation.step numRobots socWeight s.bare
        (.request th { task.bare with stamp := 0, robotId := "" }) =
      (Allocation.step numRobots socWeight s (.request th task)).bare := by
  rw [Allocation.step, Allocation.step, busy_bare, selectBestRobot_bare]
  by_cases hbusy : s.busy th = true
  · rw [if_pos hbusy, if_pos hbusy]
  · rw [if_neg hbusy, if_neg hbusy]
    have hstatus : s.bare.latestStatus = s.latestStatus := rfl
    rw [hstatus]
    cases selectBestRobot s.latestStatus task socWeight with
    | none => rfl
    | some best => simp [Allocation.State.bare, Allocation.bareSelected, TaskAssignment.bare]

theorem dispatched_bare (numRobots : Nat) (socWeight : K) (s : Allocation.State) (th : Thread)
    (idNow stampNow : Time) :
    Allocation.step numRobots socWeight s.bare (.dispatch th idNow stampNow) =
      (Allocation.step numRobots socWeight s (.dispatch th idNow stampNow)).bare := by
  have hfind : s.bare.selected.find? (·.thread = th) =
      (s.selected.find? (·.thread = th)).map Allocation.bareSelected := by
    rw [Allocation.State.bare, List.find?_map]
    rfl
  rw [Allocation.step, Allocation.step, hfind]
  cases hcall : s.selected.find? (·.thread = th) with
  | none => rfl
  | some call =>
    have hselected : (s.selected.map Allocation.bareSelected).erase (Allocation.bareSelected call) =
        (s.selected.erase call).map Allocation.bareSelected :=
      Moves.map_erase (q := (·.thread = th)) (fun _ => rfl) hcall
    have hprepare : prepare idNow stampNow (Allocation.bareSelected call).assignment =
        (prepare idNow stampNow call.assignment).bare := rfl
    have hrobot : (prepare idNow stampNow call.assignment).bare.robotId =
        (prepare idNow stampNow call.assignment).robotId := rfl
    simp only [Option.map_some, hprepare, hrobot, Allocation.State.bare, hselected, dispatch_bare]
    cases robotIndex numRobots (prepare idNow stampNow call.assignment).robotId with
    | none => rfl
    | some i =>
      rw [List.map_append]
      rfl

theorem recorded_bare (numRobots : Nat) (socWeight : K) (s : Allocation.State) (th : Thread) :
    Allocation.step numRobots socWeight s.bare (.insertTask th) =
      (Allocation.step numRobots socWeight s (.insertTask th)).bare := by
  have hfind : s.bare.server.calls.find? (·.thread = th) =
      (s.server.calls.find? (·.thread = th)).map Call.bare := by
    rw [Allocation.State.bare, ServerState.bare, List.find?_map]
    rfl
  rw [Allocation.step, Allocation.step, FleetServer.step, FleetServer.step, hfind]
  cases hcall : s.server.calls.find? (·.thread = th) with
  | none => rfl
  | some call =>
    have hinsert : insertTask call.bare s.server.bare = (insertTask call s.server).bare :=
      insertTask_bare hcall
    simp only [Option.map_some, Allocation.State.bare, hinsert]

theorem robotStatus_bare (numRobots : Nat) (socWeight : K) (s : Allocation.State)
    (msg : RobotStatus) : Allocation.step numRobots socWeight s.bare (.robotStatus msg) =
      (Allocation.step numRobots socWeight s (.robotStatus msg)).bare := by
  rw [Allocation.step, Allocation.step, busy_bare]
  by_cases hbusy : s.busy .executor = true
  · rw [if_pos hbusy, if_pos hbusy]
  · rw [if_neg hbusy, if_neg hbusy]
    simp [Allocation.State.bare, Allocation.Entry.bare]

end

/-! ## The topics -/

theorem assignedTo_bare (numRobots i : Nat) (tr : List FleetServer.Obs) :
    assignedTo numRobots i (tr.map FleetServer.Obs.bare) =
      (assignedTo numRobots i tr).map TaskAssignment.bare := by
  have hpublished : Allocation.publishedAssignments (tr.map FleetServer.Obs.bare) =
      (Allocation.publishedAssignments tr).map TaskAssignment.bare := by
    rw [Allocation.publishedAssignments, Allocation.publishedAssignments, List.filterMap_map,
      List.map_filterMap]
    congr 1
    funext o
    cases o <;> rfl
  rw [assignedTo, assignedTo, hpublished, List.filter_map]
  rfl

theorem statuses_bare (tr : List RobotAgent.Obs) :
    RobotAgent.statuses (tr.map RobotAgent.Obs.bare) = RobotAgent.statuses tr := by
  rw [RobotAgent.statuses, RobotAgent.statuses, List.filterMap_map]
  congr 1
  funext o
  cases o <;> rfl

theorem completions_bare (tr : List RobotAgent.Obs) :
    RobotAgent.completions (tr.map RobotAgent.Obs.bare) = RobotAgent.completions tr := by
  rw [RobotAgent.completions, RobotAgent.completions, List.filterMap_map]
  congr 1
  funext o
  cases o <;> rfl

theorem update_bare (assignments : Nat → Topic TaskAssignment) (i : Nat)
    (t : Topic TaskAssignment) :
    (fun j => (Function.update assignments i t j).map TaskAssignment.bare) =
      Function.update (fun j => (assignments j).map TaskAssignment.bare) i
        (t.map TaskAssignment.bare) :=
  Function.comp_update (Topic.map TaskAssignment.bare) assignments i t

theorem bare_serverSteps (numRobots : Nat) (server : Allocation.State) (s : State) :
    (s.serverSteps numRobots server).bare = s.bare.serverSteps numRobots server.bare := by
  have hnew : server.bare.server.trace.drop s.bare.server.server.trace.length =
      (server.server.trace.drop s.server.server.trace.length).map FleetServer.Obs.bare := by
    simp [State.bare, Allocation.State.bare, ServerState.bare]
  simp only [State.serverSteps, hnew, assignedTo_bare]
  simp only [State.bare, Topic.map_publish]

theorem bare_robotSteps (i : Nat) (agent : RobotAgent.State) (s : State) :
    (s.robotSteps i agent).bare = s.bare.robotSteps i agent.bare := by
  have hnew : agent.bare.world.trace.drop (s.bare.agents i).world.trace.length =
      (agent.world.trace.drop (s.agents i).world.trace.length).map RobotAgent.Obs.bare := by
    simp [State.bare, RobotAgent.State.bare, RobotAgent.World.bare]
  have hagents : (fun j => (Function.update s.agents i agent j).bare) =
      Function.update (fun j => (s.agents j).bare) i agent.bare :=
    Function.comp_update RobotAgent.State.bare s.agents i agent
  simp only [State.robotSteps, hnew, statuses_bare, completions_bare]
  simp only [State.bare, hagents]

/-! ## One step -/

section
variable {K : Type} [Add K] [Sub K] [Mul K] [LT K] [DecidableLT K] [RatCast K] [Sqrt K]

theorem taskAssignment_bare (l : Launch K) (s : State) (i : Nat) :
    step l.bare s.bare (.taskAssignment i) = (step l s (.taskAssignment i)).bare := by
  have hhead : (s.bare.assignments i).queued.head? =
      (s.assignments i).queued.head?.map TaskAssignment.bare := List.head?_map ..
  rw [step, step, hhead]
  cases (s.assignments i).queued.head? with
  | none => rfl
  | some msg =>
    have hagent : RobotAgent.step (s.bare.agents i) (.taskAssignment msg.bare) =
        (RobotAgent.step (s.agents i) (.taskAssignment msg)).bare :=
      RobotAgent.step_bare (s.agents i) (.taskAssignment msg)
    have hrobot := bare_robotSteps i (RobotAgent.step (s.agents i) (.taskAssignment msg)) s
    have harrived := update_bare s.assignments i (s.assignments i).deliver
    rw [Topic.map_deliver] at harrived
    simp only [Option.map_some, hagent, ← hrobot]
    simp only [State.bare, harrived]

theorem robotStatus_arrives (l : Launch K) (s : State) (i : Nat) :
    step l.bare s.bare (.robotStatus i) = (step l s (.robotStatus i)).bare := by
  have hbusy : s.bare.server.busy .executor = s.server.busy .executor := busy_bare ..
  have hstatuses : s.bare.statuses = s.statuses := rfl
  have hnum : l.bare.numRobots = l.numRobots := rfl
  rw [step, step, hstatuses, hbusy, hnum]
  cases (s.statuses i).queued.head? with
  | none => rfl
  | some msg =>
    by_cases hfree : i < l.numRobots ∧ ¬ s.server.busy .executor = true
    · have hserver : Allocation.step l.numRobots l.bare.socWeight s.bare.server (.robotStatus msg) =
          (Allocation.step l.numRobots l.socWeight s.server (.robotStatus msg)).bare :=
        robotStatus_bare ..
      simp only [if_pos hfree, hserver]
      rfl
    · simp only [if_neg hfree]

theorem taskCompletion_arrives (l : Launch K) (s : State) (i : Nat) :
    step l.bare s.bare (.taskCompletion i) = (step l s (.taskCompletion i)).bare := by
  have hbusy : s.bare.server.busy .executor = s.server.busy .executor := busy_bare ..
  have hcompletions : s.bare.completions = s.completions := rfl
  have hnum : l.bare.numRobots = l.numRobots := rfl
  rw [step, step, hcompletions, hbusy, hnum]
  cases (s.completions i).queued.head? with
  | none => rfl
  | some msg =>
    by_cases hfree : i < l.numRobots ∧ ¬ s.server.busy .executor = true
    · have hserver : taskCompletionCb msg s.bare.server.server =
          (taskCompletionCb msg s.server.server).bare := taskCompletionCb_bare ..
      simp only [if_pos hfree, hserver]
      rfl
    · simp only [if_neg hfree]

/-- A step without the cargo is the step, without the cargo. -/
theorem step_bare (l : Launch K) (s : State) (ev : Event) :
    step l.bare s.bare ev.bare = (step l s ev).bare := by
  cases ev with
  | request th task =>
    exact (congrArg (s.bare.serverSteps l.numRobots) (request_bare l.numRobots l.socWeight
      s.server th task)).trans (bare_serverSteps ..).symm
  | dispatch th idNow stampNow =>
    exact (congrArg (s.bare.serverSteps l.numRobots) (dispatched_bare l.numRobots l.socWeight
      s.server th idNow stampNow)).trans (bare_serverSteps ..).symm
  | insertTask th =>
    exact (congrArg (s.bare.serverSteps l.numRobots) (recorded_bare l.numRobots l.socWeight
      s.server th)).trans (bare_serverSteps ..).symm
  | robot i ev =>
    have hagent := RobotAgent.step_bare (s.agents i) ev
    cases ev with
    | taskAssignment msg => rfl
    | _ => exact (congrArg (s.bare.robotSteps i) hagent).trans (bare_robotSteps ..).symm
  | taskAssignment i => exact taskAssignment_bare l s i
  | robotStatus i => exact robotStatus_arrives l s i
  | taskCompletion i => exact taskCompletion_arrives l s i
  | loseAssignment i k =>
    have hlost := update_bare s.assignments i ((s.assignments i).lose k)
    rw [Topic.map_lose] at hlost
    simp only [Event.bare, step, State.bare, hlost]
  | loseStatus i k => rfl
  | loseCompletion i k => rfl

/-- So is a run. -/
theorem run_bare (l : Launch K) (es : List Event) :
    l.bare.run (es.map Event.bare) = (l.run es).bare :=
  Run.run_map (f := State.bare) (fun s ev => step_bare l s ev) l.init es

theorem getTask_bare (s : State) (taskId : String) : s.bare.getTask taskId = s.getTask taskId := by
  have htask : getTaskStatus taskId s.bare.server.server = getTaskStatus taskId s.server.server := by
    rw [getTaskStatus, getTaskStatus, MongoStore.findTask, MongoStore.findTask]
    have hfind : Collection.findOne TaskDoc.taskId taskId (s.server.server.tasks.map TaskDoc.bare) =
        (Collection.findOne TaskDoc.taskId taskId s.server.server.tasks).map TaskDoc.bare :=
      Collection.findOne_map fun _ => rfl
    exact (congrArg (Option.map TaskDoc.record) hfind).trans (Option.map_map ..)
  rw [State.getTask, State.getTask, htask]

/-- **Only the task id and the poses of a request matter.** Two runs whose requests agree on these
are the same but for the fields nothing reads, and the API answers are the same. -/
theorem cargo_decides_nothing (l : Launch K) (es es' : List Event)
    (h : es.map Event.bare = es'.map Event.bare) :
    (l.run es).bare = (l.run es').bare ∧
      ∀ taskId, (l.run es).getTask taskId = (l.run es').getTask taskId := by
  have hrun : (l.run es).bare = (l.run es').bare := by
    rw [← run_bare, ← run_bare, h]
  refine ⟨hrun, fun taskId => ?_⟩
  rw [← getTask_bare, hrun, getTask_bare]

end

/-- The task of `deliveredRun`, as an urgent charging task with a payload. -/
def urgentRun : List Event :=
  deliveredRun.map fun
    | .request th task =>
      .request th { task with
        taskType := TaskAssignment.taskCharge, payloadId := "crate", priority := 9
        deadlineSecs := 1 }
    | ev => ev

theorem cargo_decides_nothing_urgent :
    (Launch.sample.run urgentRun).bare = (Launch.sample.run deliveredRun).bare :=
  (cargo_decides_nothing Launch.sample urgentRun deliveredRun rfl).1

end Fleet
