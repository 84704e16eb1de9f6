import WarehouseFleet.Fleet.Books
import WarehouseFleet.Fleet.Selection
import WarehouseFleet.FleetServer.StatusStore

/-!
# What a client is told

| here | there |
| --- | --- |
| `getTaskStatusResponse` | `FleetGrpcServer::GetTaskStatus` (fleet_grpc_server.cpp:72-91) |
| `Api.getTask`           | `get_task` of fms_api (main.py); an `RpcError` is `.error` with its `details` |
| `State.getTask`         | `GET /tasks/{task_id}` while the fleet is in a state |

`submit_task` answers when `insert_task` has returned, so a client that has the id of its task asks
after the task has been recorded.
-/

namespace FleetServer

structure GetTaskStatusResponse where
  found : Bool := false
  taskId : String := ""
  robotId : String := ""
  status : String := ""
  result : Int := 0
  durationSecs : ℚ := 0
  errorMessage : String := ""

def getTaskStatusResponse (taskId : String) : Option TaskRecord → GetTaskStatusResponse
  | none => { found := false, taskId }
  | some task =>
    { found := true
      taskId := task.taskId
      robotId := task.robotId
      status := task.status
      result := task.result
      durationSecs := task.durationSecs
      errorMessage := task.errorMessage }

end FleetServer

namespace Api

open FleetServer

/-- `HTTPException` -/
structure HttpError where
  statusCode : Nat
  detail : String

structure TaskStatusResponse where
  taskId : String
  robotId : String
  status : String
  result : Int
  durationSecs : ℚ
  errorMessage : String

def getTask (taskId : String) (reply : Except String GetTaskStatusResponse) :
    Except HttpError TaskStatusResponse :=
  match reply with
  | .error details => .error ⟨502, "fleet server unreachable: " ++ details⟩
  | .ok resp =>
    if resp.found then
      .ok
        { taskId := resp.taskId
          robotId := resp.robotId
          status := resp.status
          result := resp.result
          durationSecs := resp.durationSecs
          errorMessage := resp.errorMessage }
    else .error ⟨404, "task " ++ taskId ++ " not found"⟩

/-- The answer to a request that gets through. -/
def taskStatusResponse (task : TaskRecord) : TaskStatusResponse :=
  ⟨task.taskId, task.robotId, task.status, task.result, task.durationSecs, task.errorMessage⟩

end Api

namespace Fleet

open Fms
open FleetServer

def State.getTask (s : State) (taskId : String) : Except Api.HttpError Api.TaskStatusResponse :=
  Api.getTask taskId (.ok (getTaskStatusResponse taskId (getTaskStatus taskId s.server.server)))

theorem State.getTask_eq (s : State) (taskId : String) : s.getTask taskId =
    match getTaskStatus taskId s.server.server with
    | none => .error ⟨404, "task " ++ taskId ++ " not found"⟩
    | some task => .ok (Api.taskStatusResponse task) := by
  rw [State.getTask]
  cases getTaskStatus taskId s.server.server <;> rfl

/-! ## The tasks that are known -/

section
variable {K : Type} [Add K] [Sub K] [Mul K] [LT K] [DecidableLT K] [RatCast K] [Sqrt K]

/-- The collection has what was there, and what was recorded. -/
def Holds (docs : List TaskDoc) (s : ServerState) : Prop :=
  s.tasks.map (·.taskId) = docs.map (·.taskId) ++ recordedIds s.trace

theorem Holds.step {docs : List TaskDoc} {numRobots : Nat} {s s' : ServerState} (h : Holds docs s)
    (hs : FleetServer.Steps numRobots s s') : Holds docs s' := by
  cases hs with
  | stays => exact h
  | dispatches th a => simpa [Holds, recordedIds] using h
  | records call hc =>
    rw [Holds, insertTask]
    simp only [ServerState.emit_tasks, ServerState.emit_trace, MongoStore.insertTask,
      Collection.insertOne, recordedIds_concat, List.map_append]
    rw [h, List.append_assoc]
    rfl
  | sends msg => simpa [Holds, recordedIds] using h
  | completes msg =>
    rw [taskCompletionCb_eq, Holds, MongoStore.updateTaskCompletion,
      Collection.map_updateOne (by exact fun _ => rfl)]
    by_cases hresult : msg.result = TaskCompletion.resultSuccess <;>
      simpa [completionObs, hresult, recordedIds, Holds] using h

theorem getTaskStatus_isSome {docs : List TaskDoc} {s : ServerState} (h : Holds docs s)
    (taskId : String) : (getTaskStatus taskId s).isSome ↔
      taskId ∈ docs.map (·.taskId) ∨ taskId ∈ recordedIds s.trace := by
  rw [← List.mem_append, ← h, ← not_iff_not, Bool.not_eq_true, Option.isSome_eq_false_iff,
    Option.isNone_iff_eq_none, getTaskStatus, MongoStore.findTask, Option.map_eq_none_iff,
    Collection.findOne_eq_none]
  simp

/-! ## Answers, one after the other -/

/-- What the record of a task may become. -/
structure Turns (rec rec' : TaskRecord) : Prop where
  taskId : rec'.taskId = rec.taskId
  robotId : rec'.robotId = rec.robotId
  ends : rec' = rec ∨ rec'.status = "COMPLETED" ∧ rec'.result = 0

theorem Turns.refl (rec : TaskRecord) : Turns rec rec := ⟨rfl, rfl, .inl rfl⟩

theorem Turns.trans {rec rec' rec'' : TaskRecord} (h : Turns rec rec') (h' : Turns rec' rec'') :
    Turns rec rec'' := by
  refine ⟨h'.taskId.trans h.taskId, h'.robotId.trans h.robotId, ?_⟩
  obtain rfl | hends := h'.ends
  · exact h.ends
  · exact .inr hends

/-- The tasks that are known in one state are known in the other. -/
def Later (s s' : ServerState) : Prop :=
  ∀ taskId rec, getTaskStatus taskId s = some rec →
    ∃ rec', getTaskStatus taskId s' = some rec' ∧ Turns rec rec'

theorem Later.of_tasks {s s' s'' : ServerState} (h : Later s s') (ht : s''.tasks = s'.tasks) :
    Later s s'' := by
  intro taskId rec hrec
  rw [getTaskStatus, ht]
  exact h taskId rec hrec

theorem Later.server {numRobots : Nat} {socWeight : K} {s : ServerState} {s' : Allocation.State}
    (h : Later s s'.server) {ev : Allocation.Event} (hev : IsServer ev) :
    Later s (Allocation.step numRobots socWeight s' ev).server := by
  cases ev with
  | request th request =>
    refine h.of_tasks ?_
    rw [Allocation.step]
    split
    · rfl
    · split <;> rfl
  | dispatch th idNow stampNow =>
    refine h.of_tasks ?_
    rw [Allocation.step]
    split
    · rfl
    · next call hcall =>
      dsimp only [FleetServer.dispatch]
      cases robotIndex numRobots (prepare idNow stampNow call.assignment).robotId <;> rfl
  | insertTask th =>
    rw [Allocation.step, FleetServer.step]
    split
    · exact h
    · next call hcall =>
      intro taskId rec hrec
      obtain ⟨rec', hrec', hturns⟩ := h taskId rec hrec
      have hledger := congrFun (MongoStore.ledger_insertTask call.assignment s'.server.tasks) taskId
      refine ⟨rec', hledger.trans ?_, hturns⟩
      show (getTaskStatus taskId s'.server).or _ = _
      rw [hrec', Option.some_or]
  | _ => exact hev.elim

theorem getTaskStatus_taskCompletionCb (taskId : String) (msg : TaskCompletion) (s : ServerState) :
    getTaskStatus taskId (taskCompletionCb msg s) =
      (MongoStore.ledger s.tasks).complete msg taskId := by
  rw [taskCompletionCb_eq, ← MongoStore.ledger_updateTaskCompletion]
  rfl

/-- A robot's completion ends its task well. -/
theorem Later.taskCompletion {s s' : ServerState} (h : Later s s') {msg : TaskCompletion}
    (hresult : msg.result = TaskCompletion.resultSuccess) :
    Later s (taskCompletionCb msg s') := by
  intro taskId rec hrec
  obtain ⟨rec', hrec', hturns⟩ := h taskId rec hrec
  have hbefore : MongoStore.ledger s'.tasks taskId = some rec' := hrec'
  rw [getTaskStatus_taskCompletionCb, Ledger.complete, hbefore]
  split
  · refine ⟨_, rfl, hturns.trans ⟨rfl, rfl, .inr ⟨?_, ?_⟩⟩⟩ <;> rw [hresult] <;> rfl
  · exact ⟨rec', rfl, hturns⟩

theorem Later.step {l : Launch K} {s₀ : ServerState} {s : State} (h : Later s₀ s.server.server)
    (hlinked : Linked l s) (ev : Event) : Later s₀ (Fleet.step l s ev).server.server := by
  have hstep := steps l s ev
  generalize Fleet.step l s ev = s' at hstep ⊢
  cases hstep with
  | server ev hev => exact h.server hev
  | robotStatus i msg hmsg hi hfree =>
    rw [Allocation.step, hfree]
    exact h
  | taskCompletion i msg hmsg hi hfree =>
    exact h.taskCompletion (hlinked.mayComplete (Topic.mem_published_of_head? hmsg)).1
  | _ => exact h

theorem later_run (l : Launch K) (es fs : List Event) :
    Later (l.run es).server.server (l.run (es ++ fs)).server.server := by
  have hrun : l.run (es ++ fs) = Run.run (step l) (l.run es) fs := Run.run_append ..
  rw [hrun]
  exact (Run.run_invariant
    (I := fun s : State => Linked l s ∧ Later (l.run es).server.server s.server.server)
    (fun _ ev h => ⟨h.1.step ev, h.2.step h.1 ev⟩)
    ⟨linked_run l es, fun _ rec hrec => ⟨rec, hrec, .refl rec⟩⟩).2

theorem holds_run (l : Launch K) (es : List Event) : Holds l.tasks (l.run es).server.server :=
  server_invariant (I := Holds l.tasks) l (fun _ _ h hs => h.step hs) (by simp [Holds, recordedIds])
    es

/-- **What a client is told of its task.** A task is found if and only if it has been recorded, or
was there before the server; any other is answered by 404. A task that is found once is found from
then on, with the same robot, and what is told of it changes only in that the task is completed. -/
theorem task_answers (l : Launch K) (es fs : List Event) (taskId : String) :
    ((∃ resp, (l.run es).getTask taskId = .ok resp) ↔
      taskId ∈ l.tasks.map (·.taskId) ∨ taskId ∈ recordedIds (l.run es).server.server.trace) ∧
    (∀ err, (l.run es).getTask taskId = .error err → err.statusCode = 404) ∧
    ∀ resp, (l.run es).getTask taskId = .ok resp →
      ∃ resp', (l.run (es ++ fs)).getTask taskId = .ok resp' ∧ resp'.robotId = resp.robotId ∧
        (resp' = resp ∨ resp'.status = "COMPLETED" ∧ resp'.result = 0) := by
  refine ⟨?_, ?_, ?_⟩
  · rw [← getTaskStatus_isSome (holds_run l es), State.getTask_eq]
    cases getTaskStatus taskId (l.run es).server.server <;> simp
  · intro err herr
    rw [State.getTask_eq] at herr
    cases hrec : getTaskStatus taskId (l.run es).server.server with
    | none =>
      rw [hrec] at herr
      rw [← Except.error.inj herr]
    | some rec => simp [hrec] at herr
  · intro resp hresp
    rw [State.getTask_eq] at hresp
    cases hrec : getTaskStatus taskId (l.run es).server.server with
    | none => simp [hrec] at hresp
    | some rec =>
      rw [hrec] at hresp
      obtain rfl := Except.ok.inj hresp
      obtain ⟨rec', hrec', hturns⟩ := later_run l es fs taskId rec hrec
      refine ⟨Api.taskStatusResponse rec', by rw [State.getTask_eq, hrec'], hturns.robotId, ?_⟩
      exact hturns.ends.imp_left fun heq => by rw [heq]

end

/-! ## The robots that are known -/

theorem robotStateToString_id (state : RobotAgent.RobotState) :
    robotStateToString state.id = state.name := by
  cases state <;> rfl

/-- What is shown of a robot is its last word that has arrived. -/
def Shown {K : Type} (l : Launch K) (s : State) (info : RobotStatusInfo) : Prop :=
  ∃ i < l.numRobots, info.robotId = robotName i ∧ ∃ msg,
    (s.statuses i).delivered.getLast? = some msg ∧ .status msg ∈ (s.agents i).world.trace ∧
    info = .ofStatus msg ∧ info.stateStr = msg.statusMessage

section
variable {K : Type} [Add K] [Sub K] [Mul K] [LT K] [DecidableLT K] [RatCast K] [Sqrt K]

/-- **What a client is told of the robots.** `GetFleetStatus` shows each robot that has reported,
once and in ascending order, as it has described itself last; `state_str` is the name the robot has
for its state. -/
theorem fleet_answers (l : Launch K) (es : List Event) :
    ((getFleetStatusResponse (l.run es).server.latestStatus).Pairwise fun info info' =>
      info.robotId < info'.robotId) ∧
    (∀ info ∈ getFleetStatusResponse (l.run es).server.latestStatus, Shown l (l.run es) info) ∧
    ∀ i, ((l.run es).statuses i).delivered ≠ [] →
      ∃ info ∈ getFleetStatusResponse (l.run es).server.latestStatus,
        info.robotId = robotName i := by
  have hlinked := linked_run l es
  have hcached := cached_run l es
  generalize l.run es = s at *
  have own : ∀ (r : String) status, s.server.latestStatus[r]? = some status →
      status.robotId = r := by
    intro r status hr
    rw [hcached, latestStatus_getElem?] at hr
    exact of_decide_eq_true (List.mem_filter.mp (List.mem_of_getLast? hr)).2
  refine ⟨?_, fun info hinfo => ?_, fun i hdelivered => ?_⟩
  · exact List.pairwise_map.mpr (getFleetStatus_sorted own)
  · obtain ⟨status, hstatus, rfl⟩ := List.mem_map.mp hinfo
    obtain ⟨r, hr⟩ := mem_getFleetStatus.mp hstatus
    obtain ⟨i, hi, hname, hlast, hmem⟩ := hlinked.entry hcached hr
    obtain ⟨state, hid, hmessage⟩ :=
      ((hlinked.signs i).status (RobotAgent.mem_statuses.mpr hmem)).state
    refine ⟨i, hi, (own r status hr).trans hname, status, hlast, hmem, rfl, ?_⟩
    show robotStateToString status.state = _
    rw [hid, robotStateToString_id, hmessage]
  · obtain ⟨msg, hmsg⟩ := Option.ne_none_iff_exists'.mp
      (mt List.getLast?_eq_none_iff.mp hdelivered)
    rw [← hlinked.reported i, ← latestStatus_getElem?, ← hcached] at hmsg
    exact ⟨_, List.mem_map_of_mem (mem_getFleetStatus.mpr ⟨_, hmsg⟩), own _ _ hmsg⟩

end

end Fleet
