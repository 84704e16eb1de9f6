import WarehouseFleet.Fleet.Links

/-!
# The fleet refines the server's view of it

`Allocation` lets a robot complete whatever has been published to it, and nothing else. That is
what the agents do (`Linked.mayComplete`), but for their completions of no task: the server has no
document for those, so they change nothing (`Named.phantom`) but for the entry that says they came.
But for these entries every run of the fleet is therefore, for the server, a run of `Allocation`
(`fleet_refines`).
-/

namespace Fleet

open Fms
open FleetServer
open RobotAgent (received Delivery)

/-! ## What is visible of the server -/

/-- The entries other than those of completions that are sent, or that are of no task. -/
def visible (tr : List FleetServer.Obs) : List FleetServer.Obs :=
  tr.filter fun
    | .sent _ => false
    | .completed msg => msg.taskId ≠ ""
    | _ => true

/-- The server of the fleet looks like that of the other model. -/
structure Looks (server : Allocation.State) (spec : Allocation.State) : Prop where
  latestStatus : spec.latestStatus = server.latestStatus
  selected : spec.selected = server.selected
  log : spec.log = server.log
  calls : spec.server.calls = server.server.calls
  inFlight : spec.server.inFlight = []
  tasks : spec.server.tasks = server.server.tasks
  trace : visible spec.server.trace = visible server.server.trace

@[simp] theorem visible_append (tr new : List FleetServer.Obs) :
    visible (tr ++ new) = visible tr ++ visible new := List.filter_append ..

theorem published_mem_visible {tr : List FleetServer.Obs} {a : TaskAssignment} :
    .published a ∈ visible tr ↔ .published a ∈ tr := by simp [visible]

section
variable {server spec : Allocation.State}

theorem Looks.busy (h : Looks server spec) (th : Thread) : spec.busy th = server.busy th := by
  rw [Allocation.State.busy, Allocation.State.busy, ServerState.busy, ServerState.busy,
    h.selected, h.calls]

theorem Looks.mayComplete (h : Looks server spec) {msg : TaskCompletion} {a : TaskAssignment}
    (ha : .published a ∈ server.server.trace) (hid : msg.taskId = a.taskId)
    (hrobot : msg.robotId = a.robotId) : mayComplete msg spec.server.trace = true := by
  have hmem : .published a ∈ spec.server.trace := by
    rw [← published_mem_visible, h.trace, published_mem_visible]
    exact ha
  exact List.any_eq_true.mpr ⟨_, hmem, by simp [hid, hrobot]⟩

end

section
variable {K : Type} [Add K] [Sub K] [Mul K] [LT K] [DecidableLT K] [RatCast K] [Sqrt K]
  {numRobots : Nat} {socWeight : K} {server spec : Allocation.State}

/-- The server's own steps look the same. -/
theorem Looks.step (h : Looks server spec) {ev : Allocation.Event} (hev : IsServer ev) :
    Looks (Allocation.step numRobots socWeight server ev)
      (Allocation.step numRobots socWeight spec ev) := by
  cases ev with
  | request th request =>
    simp only [Allocation.step, h.busy, h.latestStatus]
    split
    · exact h
    · split
      · exact h
      · exact { h with latestStatus := rfl, selected := by simp [h.selected] }
  | dispatch th idNow stampNow =>
    simp only [Allocation.step, h.selected]
    split
    · exact h
    · next call hcall =>
      dsimp only [FleetServer.dispatch]
      cases robotIndex numRobots (prepare idNow stampNow call.assignment).robotId with
      | none => exact { h with selected := rfl }
      | some i =>
        exact
          { h with
            selected := rfl
            log := by simp [h.log]
            calls := by simp [h.calls]
            trace := by simp [h.trace] }
  | insertTask th =>
    simp only [Allocation.step, FleetServer.step, h.calls]
    split
    · exact h
    · exact
        { h with
          calls := by simp [insertTask, h.calls]
          tasks := by simp [insertTask, h.tasks]
          trace := by simp [insertTask, h.trace] }
  | _ => exact hev.elim

theorem Looks.robotStatus (h : Looks server spec) (numRobots : Nat) (socWeight : K)
    (msg : RobotStatus) :
    Looks (Allocation.step numRobots socWeight server (.robotStatus msg))
      (Allocation.step numRobots socWeight spec (.robotStatus msg)) := by
  simp only [Allocation.step, h.busy]
  split
  · exact h
  · exact
      { h with
        latestStatus := by simp [h.latestStatus]
        log := by simp [h.log] }

/-- A completion the robot may send is sent and processed at once. -/
theorem Looks.taskCompletion (h : Looks server spec) {msg : TaskCompletion}
    (hmay : FleetServer.mayComplete msg spec.server.trace = true)
    (hfree : server.busy .executor = false) :
    Looks { server with server := taskCompletionCb msg server.server }
      (Run.run (Allocation.step numRobots socWeight) spec
        [.robotCompletes msg, .taskCompletion msg]) := by
  have hspec : spec.busy .executor = false := (h.busy _).trans hfree
  have hcalls : spec.server.busy .executor = false := by
    rw [Allocation.State.busy, Bool.or_eq_false_iff] at hspec
    exact hspec.2
  have hrun : Run.run (Allocation.step numRobots socWeight) spec
      [.robotCompletes msg, .taskCompletion msg] =
        { spec with server := taskCompletionCb msg (spec.server.emit (.sent msg)) } := by
    have hsel : spec.selected.any (·.thread = .executor) = false :=
      (Bool.or_eq_false_iff.mp hspec).1
    have hany : spec.server.calls.any (·.thread = .executor) = false := hcalls
    simp [Run.run, Allocation.step, FleetServer.step, hmay, h.inFlight, Allocation.State.busy,
      ServerState.busy, hsel, hany, ServerState.emit]
  rw [hrun, taskCompletionCb_eq, taskCompletionCb_eq]
  exact
    { h with
      tasks := by simp [h.tasks]
      trace := by simp [h.trace]; simp [visible] }

end

/-! ## Completions of no task -/

/-- No task of the server is without an id. -/
structure Named (server : ServerState) : Prop where
  calls : ∀ c ∈ server.calls, c.assignment.taskId ≠ ""
  tasks : ∀ doc ∈ server.tasks, doc.taskId ≠ ""

theorem prepare_taskId (idNow stampNow : Time) (a : TaskAssignment) :
    (prepare idNow stampNow a).taskId ≠ "" := by
  by_cases h : a.taskId = ""
  · intro hid
    simp [prepare, h] at hid
  · simp [prepare, h]

theorem taskIds_updateTaskCompletion (msg : TaskCompletion) (tasks : List TaskDoc) :
    (MongoStore.updateTaskCompletion msg tasks).map TaskDoc.taskId = tasks.map TaskDoc.taskId :=
  Collection.map_updateOne fun _ => rfl

section
variable {server : ServerState}

theorem Named.taskCompletion (h : Named server) (msg : TaskCompletion) :
    Named (taskCompletionCb msg server) := by
  rw [taskCompletionCb_eq]
  refine ⟨h.calls, fun doc hdoc => ?_⟩
  have hid : doc.taskId ∈ server.tasks.map TaskDoc.taskId := by
    rw [← taskIds_updateTaskCompletion msg server.tasks]
    exact List.mem_map_of_mem hdoc
  obtain ⟨doc', hdoc', heq⟩ := List.mem_map.mp hid
  exact heq ▸ h.tasks doc' hdoc'

/-- The server has no document for a completion of no task. -/
theorem Named.phantom (h : Named server) {msg : TaskCompletion} (hid : msg.taskId = "")
    (hresult : msg.result = TaskCompletion.resultSuccess) :
    (taskCompletionCb msg server).tasks = server.tasks ∧
      visible (taskCompletionCb msg server).trace = visible server.trace := by
  rw [taskCompletionCb_eq]
  have htasks : MongoStore.updateTaskCompletion msg server.tasks = server.tasks :=
    Collection.updateOne_eq_self fun doc hdoc => hid ▸ h.tasks doc hdoc
  exact ⟨htasks, by simp [completionObs, hresult]; simp [visible, hid]⟩

end

section
variable {K : Type} [Add K] [Sub K] [Mul K] [LT K] [DecidableLT K] [RatCast K] [Sqrt K]

theorem Named.step (numRobots : Nat) (socWeight : K) {server : Allocation.State}
    (h : Named server.server) {ev : Allocation.Event} (hev : IsServer ev) :
    Named (Allocation.step numRobots socWeight server ev).server := by
  cases ev with
  | request th request =>
    rw [Allocation.step]
    split
    · exact h
    · split <;> exact h
  | dispatch th idNow stampNow =>
    rw [Allocation.step]
    split
    · exact h
    · next call hcall =>
      dsimp only [FleetServer.dispatch]
      cases robotIndex numRobots (prepare idNow stampNow call.assignment).robotId with
      | none => exact h
      | some i =>
        refine ⟨fun c hc => ?_, h.tasks⟩
        obtain hc | hc := List.mem_append.mp hc
        · exact h.calls c hc
        · rw [List.mem_singleton.mp hc]
          exact prepare_taskId idNow stampNow _
  | insertTask th =>
    rw [Allocation.step, FleetServer.step]
    split
    · exact h
    · next call hcall =>
      refine ⟨fun c hc => h.calls c (List.mem_of_mem_erase hc), fun doc hdoc => ?_⟩
      obtain hdoc | hdoc := List.mem_append.mp hdoc
      · exact h.tasks doc hdoc
      · rw [List.mem_singleton.mp hdoc]
        exact h.calls call (List.mem_of_find?_eq_some hcall)
  | _ => exact hev.elim

end

/-! ## Main result -/

section
variable {K : Type} {l : Launch K} {s : State}

/-- A completion on its way is of no task, or of one that the server has published. -/
theorem Linked.mayComplete (h : Linked l s) {i : Nat} {msg : TaskCompletion}
    (hmsg : msg ∈ (s.completions i).published) :
    msg.result = TaskCompletion.resultSuccess ∧
      (msg.taskId = "" ∨ ∃ a, .published a ∈ s.server.server.trace ∧ msg.taskId = a.taskId ∧
        msg.robotId = a.robotId) := by
  rw [h.completions i] at hmsg
  obtain ⟨hresult, htask⟩ := (h.signs i).completes hmsg
  refine ⟨hresult, htask.imp And.left fun ⟨d, hd, hid, hrobot⟩ => ?_⟩
  have hdelivered : d.msg ∈ (s.assignments i).delivered := by
    rw [← h.received i]
    exact List.mem_map_of_mem hd
  have hassigned : d.msg ∈ assignedTo l.numRobots i s.server.server.trace := by
    rw [← h.assigned i]
    exact (s.assignments i).delivered_sublist.subset hdelivered
  obtain ⟨hpub, -, hname⟩ := mem_assignedTo.mp hassigned
  exact ⟨d.msg, hpub, hid, hrobot.trans hname.symm⟩

end

/-- The fleet in `s` is, for the server, the other model in `spec`. -/
structure Matches {K : Type} (l : Launch K) (s : State) (spec : Allocation.State) : Prop where
  linked : Linked l s
  named : Named s.server.server
  looks : Looks s.server spec

theorem matches_init {K : Type} (l : Launch K) : Matches l l.init (.init l.tasks) where
  linked := linked_init l
  named := ⟨by simp [Launch.init, Allocation.State.init], l.tasks_named⟩
  looks := ⟨rfl, rfl, rfl, rfl, rfl, rfl, rfl⟩

section
variable {K : Type} [Add K] [Sub K] [Mul K] [LT K] [DecidableLT K] [RatCast K] [Sqrt K]

theorem Matches.step {l : Launch K} {s : State} {spec : Allocation.State} (h : Matches l s spec)
    (ev : Event) : ∃ fs, Matches l (step l s ev)
      (Run.run (Allocation.step l.numRobots l.socWeight) spec fs) := by
  have hlinked := h.linked.step ev
  have hstep := steps l s ev
  generalize Fleet.step l s ev = s' at hstep hlinked ⊢
  cases hstep with
  | stays => exact ⟨[], h⟩
  | server ev hev =>
    exact ⟨[ev], hlinked, h.named.step l.numRobots l.socWeight hev, h.looks.step hev⟩
  | robot i ev hev => exact ⟨[], hlinked, h.named, h.looks⟩
  | taskAssignment i msg hmsg => exact ⟨[], hlinked, h.named, h.looks⟩
  | robotStatus i msg hmsg hi hfree =>
    refine ⟨[.robotStatus msg], hlinked, ?_, ?_⟩
    · rw [Allocation.step, hfree]
      exact h.named
    · exact h.looks.robotStatus l.numRobots l.socWeight msg
  | taskCompletion i msg hmsg hi hfree =>
    obtain ⟨hresult, hphantom | ⟨a, ha, hid, hrobot⟩⟩ :=
      h.linked.mayComplete (Topic.mem_published_of_head? hmsg)
    · -- the server notices, and nothing comes of it
      obtain ⟨htasks, htrace⟩ := h.named.phantom hphantom hresult
      refine ⟨[], hlinked, h.named.taskCompletion msg, ?_⟩
      exact
        { h.looks with
          calls := by rw [taskCompletionCb_eq]; exact h.looks.calls
          tasks := h.looks.tasks.trans htasks.symm
          trace := h.looks.trace.trans htrace.symm }
    · exact ⟨_, hlinked, h.named.taskCompletion msg,
        h.looks.taskCompletion (h.looks.mayComplete ha hid hrobot) hfree⟩
  | lost _ _ _ ha hs hc => exact ⟨[], hlinked, h.named, h.looks⟩

theorem matches_run (l : Launch K) (es : List Event) : ∃ fs, Matches l (l.run es)
    (Allocation.run l.numRobots l.socWeight l.tasks fs) :=
  Run.exists_simulating (R := Matches l) (fun _ _ ev h => h.step ev) (matches_init l) es

/-- Each robot is in a run of its own, in which some of the assignments to it arrive, as they were
published and in order, and the server looks as in a run of `Allocation`. -/
structure Refines (l : Launch K) (s : State) : Prop where
  agents : ∀ i, ∃ es, s.agents i = (l.robots i).run es ∧
    (RobotAgent.assignments es).Sublist (assignedTo l.numRobots i s.server.server.trace)
  server : ∃ es, Looks s.server (Allocation.run l.numRobots l.socWeight l.tasks es)

/-- **The fleet refines the server's view of it.** -/
theorem fleet_refines (l : Launch K) (es : List Event) : Refines l (l.run es) := by
  obtain ⟨fs, hlinked, -, hlooks⟩ := matches_run l es
  refine ⟨fun i => ?_, fs, hlooks⟩
  obtain ⟨gs, hgs⟩ := hlinked.agents i
  have hdelivered : RobotAgent.assignments gs = ((l.run es).assignments i).delivered := by
    rw [← RobotAgent.received_msg_run (l.robots i) gs, ← hgs, ← hlinked.received i]
  refine ⟨gs, hgs, ?_⟩
  rw [hdelivered, ← hlinked.assigned i]
  exact Topic.delivered_sublist _

end

end Fleet
