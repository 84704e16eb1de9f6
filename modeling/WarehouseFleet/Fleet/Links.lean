import WarehouseFleet.Fleet.System

/-!
# What the ends of a topic know

`Linked` ties each topic to its two ends: what has been published is what the publisher's trace
says, what has been delivered is what the subscriber has seen. With it a fact about the run of one
agent, or about the server, becomes one about the other end.
-/

namespace Fleet

open Fms
open FleetServer
open RobotAgent (received Delivery)

/-! ## Names -/

theorem robotName_inj {i j : Nat} : robotName i = robotName j ↔ i = j := by
  rw [robotName, robotName, String.append_right_inj]
  exact Nat.repr_inj.trans Nat.succ_inj

theorem robotName_ne_empty (i : Nat) : robotName i ≠ "" := by
  intro h
  simpa [robotName] using congrArg String.length h

theorem robotIndex_eq_some {numRobots i : Nat} {r : String} :
    robotIndex numRobots r = some i ↔ i < numRobots ∧ r = robotName i := by
  have found : ∀ {j r}, robotIndex numRobots r = some j → j < numRobots ∧ r = robotName j := by
    intro j r h
    rw [robotIndex] at h
    exact ⟨List.mem_range.mp (List.mem_of_find?_eq_some h),
      by simpa [robotName] using List.find?_some h⟩
  refine ⟨found, ?_⟩
  rintro ⟨hi, rfl⟩
  cases h : robotIndex numRobots (robotName i) with
  | none => simpa [robotName] using List.find?_eq_none.mp h i (by simp [hi])
  | some j => rw [robotName_inj.mp (found h).2]

/-! ## Steps that append to a trace -/

theorem mem_publishedAssignments {tr : List FleetServer.Obs} {a : TaskAssignment} :
    a ∈ Allocation.publishedAssignments tr ↔ .published a ∈ tr := by
  simp only [Allocation.publishedAssignments, List.mem_filterMap]
  constructor
  · rintro ⟨o, ho, h⟩
    cases o with
    | published b => exact Option.some.inj h ▸ ho
    | _ => simp at h
  · exact fun h => ⟨_, h, rfl⟩

theorem assignedTo_append {numRobots i : Nat} (tr new : List FleetServer.Obs) :
    assignedTo numRobots i (tr ++ new) =
      assignedTo numRobots i tr ++ assignedTo numRobots i new := by
  simp [assignedTo, Allocation.publishedAssignments]

theorem mem_assignedTo {numRobots i : Nat} {tr : List FleetServer.Obs} {a : TaskAssignment} :
    a ∈ assignedTo numRobots i tr ↔
      .published a ∈ tr ∧ i < numRobots ∧ a.robotId = robotName i := by
  simp [assignedTo, mem_publishedAssignments, robotIndex_eq_some]

/-- The statuses `robot_status_cb` was called with. -/
def reported (log : List Allocation.Entry) : List RobotStatus :=
  log.filterMap fun
    | .status msg => some msg
    | .published _ => none

/-- The completions `task_completion_cb` was called with. -/
def processed (tr : List FleetServer.Obs) : List TaskCompletion :=
  tr.filterMap fun
    | .completed msg => some msg
    | _ => none

/-- What `task_completion_cb` adds to the trace. -/
def completionObs (msg : TaskCompletion) : List FleetServer.Obs :=
  .completed msg ::
    if msg.result = TaskCompletion.resultSuccess then [] else [.failed (.ofCompletion msg)]

theorem taskCompletionCb_eq (msg : TaskCompletion) (server : ServerState) :
    taskCompletionCb msg server =
      { server with
        tasks := MongoStore.updateTaskCompletion msg server.tasks
        trace := server.trace ++ completionObs msg } := by
  by_cases h : msg.result = TaskCompletion.resultSuccess <;>
    simp [taskCompletionCb, completionObs, h, ServerState.emit]

theorem processed_taskCompletionCb (msg : TaskCompletion) (server : ServerState) :
    processed (taskCompletionCb msg server).trace = processed server.trace ++ [msg] := by
  by_cases h : msg.result = TaskCompletion.resultSuccess <;>
    simp [taskCompletionCb_eq, completionObs, processed, h]

theorem publishedAssignments_taskCompletionCb (msg : TaskCompletion) (server : ServerState) :
    Allocation.publishedAssignments (taskCompletionCb msg server).trace =
      Allocation.publishedAssignments server.trace := by
  by_cases h : msg.result = TaskCompletion.resultSuccess <;>
    simp [taskCompletionCb_eq, completionObs, Allocation.publishedAssignments, h]

/-- The server does something of its own. -/
def IsServer : Allocation.Event → Prop
  | .request _ _ | .dispatch _ _ _ | .insertTask _ => True
  | .robotStatus _ | .robotCompletes _ | .taskCompletion _ => False

section
variable {K : Type} [Add K] [Sub K] [Mul K] [LT K] [DecidableLT K] [RatCast K] [Sqrt K]

/-- What the server does of its own has nothing to do with what robots send. -/
theorem IsServer.appends (numRobots : Nat) (socWeight : K) (s : Allocation.State)
    {ev : Allocation.Event} (h : IsServer ev) :
    reported (Allocation.step numRobots socWeight s ev).log = reported s.log ∧
      ∃ new, (Allocation.step numRobots socWeight s ev).server.trace = s.server.trace ++ new ∧
        processed new = [] := by
  cases ev with
  | request th request =>
    rw [Allocation.step]
    split
    · exact ⟨rfl, [], by simp, rfl⟩
    · split <;> exact ⟨rfl, [], by simp, rfl⟩
  | dispatch th idNow stampNow =>
    rw [Allocation.step]
    split
    · exact ⟨rfl, [], by simp, rfl⟩
    · next call hcall =>
      dsimp only [FleetServer.dispatch]
      cases robotIndex numRobots (prepare idNow stampNow call.assignment).robotId with
      | none => exact ⟨rfl, [], by simp, rfl⟩
      | some i => exact ⟨by simp [reported], [.published _], rfl, rfl⟩
  | insertTask th =>
    refine ⟨rfl, ?_⟩
    rw [Allocation.step, FleetServer.step]
    split
    · exact ⟨[], by simp, rfl⟩
    · exact ⟨[.recorded _], rfl, rfl⟩
  | _ => exact h.elim

end

/-! ## Topics -/

/-- The messages of the two topics are the same, but for some that are lost. -/
def Loses {α : Type} (t t' : Topic α) : Prop :=
  t'.published = t.published ∧ t'.delivered = t.delivered

@[simp] theorem update_publish_delivered {α : Type} (ts : Nat → Topic α) (i : Nat) (msgs : List α)
    (j : Nat) : (Function.update ts i ((ts i).publish msgs) j).delivered = (ts j).delivered := by
  obtain rfl | h := eq_or_ne j i
  · simp
  · simp [h]

@[simp] theorem update_deliver_published {α : Type} (ts : Nat → Topic α) (i j : Nat) :
    (Function.update ts i (ts i).deliver j).published = (ts j).published := by
  obtain rfl | h := eq_or_ne j i
  · simp
  · simp [h]

theorem loses_update {α : Type} (ts : Nat → Topic α) (i k : Nat) (j : Nat) :
    Loses (ts j) (Function.update ts i ((ts i).lose k) j) := by
  obtain rfl | h := eq_or_ne j i
  · simp [Loses]
  · simp [Loses, h]

/-! ## The links -/

/-- `s` is a state of a run, with nothing on a topic that one of its ends does not know of. -/
structure Linked {K : Type} (l : Launch K) (s : State) : Prop where
  agents : ∀ i, ∃ es, s.agents i = (l.robots i).run es
  assigned : ∀ i, (s.assignments i).published = assignedTo l.numRobots i s.server.server.trace
  received : ∀ i,
    (received (s.agents i).world.trace).map Delivery.msg = (s.assignments i).delivered
  statuses : ∀ i, (s.statuses i).published = RobotAgent.statuses (s.agents i).world.trace
  reported : ∀ i,
    (reported s.server.log).filter (·.robotId = robotName i) = (s.statuses i).delivered
  reportedBy : ∀ msg ∈ Fleet.reported s.server.log,
    ∃ i < l.numRobots, msg ∈ (s.statuses i).delivered
  completions : ∀ i, (s.completions i).published = RobotAgent.completions (s.agents i).world.trace
  processed : ∀ i,
    (processed s.server.server.trace).filter (·.robotId = robotName i) =
      (s.completions i).delivered.filter (·.robotId = robotName i)
  processedFrom : ∀ msg ∈ Fleet.processed s.server.server.trace,
    ∃ i < l.numRobots, msg ∈ (s.completions i).delivered

section
variable {K : Type} {l : Launch K} {s : State}

theorem linked_init (l : Launch K) : Linked l l.init where
  agents i := ⟨[], rfl⟩
  assigned i := rfl
  received i := rfl
  statuses i := rfl
  reported i := rfl
  reportedBy msg h := by simp [Launch.init, Allocation.State.init, Fleet.reported] at h
  completions i := rfl
  processed i := rfl
  processedFrom msg h := by simp [Launch.init, Allocation.State.init, Fleet.processed] at h

/-- What an agent publishes is signed with the name of its robot. -/
theorem Linked.signs (h : Linked l s) (i : Nat) :
    RobotAgent.Signs (robotName i) (s.agents i).world := by
  obtain ⟨es, hes⟩ := h.agents i
  rw [hes, ← l.robots_named i]
  exact (l.robots i).signs es

theorem serverSteps_eq {numRobots : Nat} {server : Allocation.State} {new : List FleetServer.Obs}
    (ht : server.server.trace = s.server.server.trace ++ new) :
    s.serverSteps numRobots server =
      { s with
        server
        assignments := fun i => (s.assignments i).publish (assignedTo numRobots i new) } := by
  simp [State.serverSteps, ht]

theorem robotSteps_eq {i : Nat} {agent : RobotAgent.State} {new : List RobotAgent.Obs}
    (ht : agent.world.trace = (s.agents i).world.trace ++ new) :
    s.robotSteps i agent =
      { s with
        agents := Function.update s.agents i agent
        statuses := Function.update s.statuses i
          ((s.statuses i).publish (RobotAgent.statuses new))
        completions := Function.update s.completions i
          ((s.completions i).publish (RobotAgent.completions new)) } := by
  simp [State.robotSteps, ht]

/-- A callback of robot `i`; what has arrived there is another matter. -/
theorem Linked.robotSteps (h : Linked l s) (i : Nat) (ev : RobotAgent.Event)
    (assignments : Nat → Topic TaskAssignment)
    (hpublished : ∀ j, (assignments j).published = (s.assignments j).published)
    (hreceived : ∀ j, (RobotAgent.received ((Function.update s.agents i
      (RobotAgent.step (s.agents i) ev)) j).world.trace).map Delivery.msg =
        (assignments j).delivered) :
    Linked l { s.robotSteps i (RobotAgent.step (s.agents i) ev) with assignments } := by
  obtain ⟨new, ht⟩ : (s.agents i).world.trace <+:
      (RobotAgent.step (s.agents i) ev).world.trace :=
    (RobotAgent.prefix_inv _).step List.prefix_rfl
  rw [robotSteps_eq ht.symm]
  refine
    { agents := fun j => ?_
      assigned := fun j => (hpublished j).trans (h.assigned j)
      received := hreceived
      statuses := fun j => ?_
      reported := by simpa using h.reported
      reportedBy := by simpa using h.reportedBy
      completions := fun j => ?_
      processed := by simpa using h.processed
      processedFrom := by simpa using h.processedFrom }
  all_goals
    obtain rfl | hj := eq_or_ne j i
  · obtain ⟨es, hes⟩ := h.agents j
    exact ⟨es ++ [ev], by simp [RobotAgent.Config.run_concat, hes]⟩
  · simpa [hj] using h.agents j
  · simp [← ht, h.statuses j, RobotAgent.statuses]
  · simpa [hj] using h.statuses j
  · simp [← ht, h.completions j, RobotAgent.completions]
  · simpa [hj] using h.completions j

theorem Linked.taskAssignment (h : Linked l s) {i : Nat} {msg : TaskAssignment}
    (hmsg : (s.assignments i).queued.head? = some msg) :
    Linked l { s.robotSteps i (RobotAgent.step (s.agents i) (.taskAssignment msg)) with
      assignments := Function.update s.assignments i (s.assignments i).deliver } := by
  refine h.robotSteps i _ _ (fun j => by simp) fun j => ?_
  obtain rfl | hj := eq_or_ne j i
  · simp [RobotAgent.step, Topic.deliver_delivered hmsg, h.received j]
  · simpa [hj] using h.received j

theorem Linked.robot (h : Linked l s) (i : Nat) {ev : RobotAgent.Event}
    (hev : ∀ msg, ev ≠ .taskAssignment msg) :
    Linked l (s.robotSteps i (RobotAgent.step (s.agents i) ev)) := by
  refine h.robotSteps i ev s.assignments (fun j => rfl) fun j => ?_
  obtain rfl | hj := eq_or_ne j i
  · have harrival : RobotAgent.arrival (s.agents j) ev = [] := by
      cases ev with
      | taskAssignment msg => exact absurd rfl (hev msg)
      | _ => rfl
    simpa [RobotAgent.received_step, harrival] using h.received j
  · simpa [hj] using h.received j

theorem Linked.taskCompletion (h : Linked l s) {i : Nat} {msg : TaskCompletion}
    (hmsg : (s.completions i).queued.head? = some msg) (hi : i < l.numRobots) :
    Linked l { s with
      server := { s.server with server := taskCompletionCb msg s.server.server }
      completions := Function.update s.completions i (s.completions i).deliver } := by
  have hsigned : msg.robotId = "" ∨ msg.robotId = robotName i := by
    have hmem := Topic.mem_published_of_head? hmsg
    rw [h.completions i] at hmem
    obtain ⟨-, hr⟩ | ⟨d, -, -, hr⟩ := ((h.signs i).completes hmem).task
    · exact .inl hr
    · exact .inr hr
  have hnow : (s.completions i).deliver.delivered = (s.completions i).delivered ++ [msg] :=
    Topic.deliver_delivered hmsg
  refine
    { h with
      assigned := fun j => ?_
      completions := fun j => by simpa using h.completions j
      processed := fun j => ?_
      processedFrom := fun m hm => ?_ }
  · rw [h.assigned j, assignedTo, assignedTo, publishedAssignments_taskCompletionCb]
  · have hj := h.processed j
    rw [processed_taskCompletionCb, List.filter_append, hj]
    obtain rfl | hji := eq_or_ne j i
    · simp [hnow]
    · have hother : msg.robotId ≠ robotName j := by
        rintro heq
        obtain hr | hr := hsigned
        · exact robotName_ne_empty j (heq.symm.trans hr)
        · exact hji (robotName_inj.mp (heq.symm.trans hr))
      simp [hji, hother]
  · rw [processed_taskCompletionCb] at hm
    obtain hm | hm := List.mem_append.mp hm
    · obtain ⟨j, hj, hmem⟩ := h.processedFrom m hm
      refine ⟨j, hj, ?_⟩
      obtain rfl | hji := eq_or_ne j i
      · simp [hnow, hmem]
      · simpa [hji] using hmem
    · exact ⟨i, hi, by simp [hnow, List.mem_singleton.mp hm]⟩

theorem Linked.lost (h : Linked l s) {assignments : Nat → Topic TaskAssignment}
    {statuses : Nat → Topic RobotStatus} {completions : Nat → Topic TaskCompletion}
    (ha : ∀ i, Loses (s.assignments i) (assignments i))
    (hs : ∀ i, Loses (s.statuses i) (statuses i))
    (hc : ∀ i, Loses (s.completions i) (completions i)) :
    Linked l { s with assignments, statuses, completions } where
  agents := h.agents
  assigned i := (ha i).1.trans (h.assigned i)
  received i := (h.received i).trans (ha i).2.symm
  statuses i := (hs i).1.trans (h.statuses i)
  reported i := (h.reported i).trans (hs i).2.symm
  reportedBy := by simpa [(hs _).2] using h.reportedBy
  completions i := (hc i).1.trans (h.completions i)
  processed i := by simpa [(hc i).2] using h.processed i
  processedFrom := by simpa [(hc _).2] using h.processedFrom

end

/-! ## What a step can do -/

variable {K : Type} [Add K] [Sub K] [Mul K] [LT K] [DecidableLT K] [RatCast K] [Sqrt K]

inductive Steps (l : Launch K) (s : State) : State → Prop where
  | stays : Steps l s s
  | server (ev : Allocation.Event) (hev : IsServer ev) : Steps l s
      (s.serverSteps l.numRobots (Allocation.step l.numRobots l.socWeight s.server ev))
  | robot (i : Nat) (ev : RobotAgent.Event) (hev : ∀ msg, ev ≠ .taskAssignment msg) :
      Steps l s (s.robotSteps i (RobotAgent.step (s.agents i) ev))
  | taskAssignment (i : Nat) (msg : TaskAssignment)
      (hmsg : (s.assignments i).queued.head? = some msg) : Steps l s
      { s.robotSteps i (RobotAgent.step (s.agents i) (.taskAssignment msg)) with
        assignments := Function.update s.assignments i (s.assignments i).deliver }
  | robotStatus (i : Nat) (msg : RobotStatus) (hmsg : (s.statuses i).queued.head? = some msg)
      (hi : i < l.numRobots) (hfree : s.server.busy .executor = false) : Steps l s
      { s with
        server := Allocation.step l.numRobots l.socWeight s.server (.robotStatus msg)
        statuses := Function.update s.statuses i (s.statuses i).deliver }
  | taskCompletion (i : Nat) (msg : TaskCompletion)
      (hmsg : (s.completions i).queued.head? = some msg)
      (hi : i < l.numRobots) (hfree : s.server.busy .executor = false) : Steps l s
      { s with
        server := { s.server with server := taskCompletionCb msg s.server.server }
        completions := Function.update s.completions i (s.completions i).deliver }
  | lost (assignments : Nat → Topic TaskAssignment) (statuses : Nat → Topic RobotStatus)
      (completions : Nat → Topic TaskCompletion)
      (ha : ∀ i, Loses (s.assignments i) (assignments i))
      (hs : ∀ i, Loses (s.statuses i) (statuses i))
      (hc : ∀ i, Loses (s.completions i) (completions i)) :
      Steps l s { s with assignments, statuses, completions }

theorem steps (l : Launch K) (s : State) (ev : Event) : Steps l s (step l s ev) := by
  have same : ∀ {α : Type} (ts : Nat → Topic α) (i : Nat), Loses (ts i) (ts i) :=
    fun _ _ => ⟨rfl, rfl⟩
  cases ev with
  | request th request => exact .server (.request th request) trivial
  | dispatch th idNow stampNow => exact .server (.dispatch th idNow stampNow) trivial
  | insertTask th => exact .server (.insertTask th) trivial
  | robot i ev =>
    cases ev with
    | taskAssignment msg => exact .stays
    | _ => exact .robot i _ (by simp)
  | taskAssignment i =>
    rw [step]
    split
    · exact .stays
    · next msg hmsg => exact .taskAssignment i msg hmsg
  | robotStatus i =>
    rw [step]
    split
    · exact .stays
    · next msg hmsg =>
      split
      · next h => exact .robotStatus i msg hmsg h.1 (Bool.eq_false_of_not_eq_true h.2)
      · exact .stays
  | taskCompletion i =>
    rw [step]
    split
    · exact .stays
    · next msg hmsg =>
      split
      · next h => exact .taskCompletion i msg hmsg h.1 (Bool.eq_false_of_not_eq_true h.2)
      · exact .stays
  | loseAssignment i k =>
    exact .lost _ _ _ (loses_update s.assignments i k) (same s.statuses) (same s.completions)
  | loseStatus i k =>
    exact .lost _ _ _ (same s.assignments) (loses_update s.statuses i k) (same s.completions)
  | loseCompletion i k =>
    exact .lost _ _ _ (same s.assignments) (same s.statuses) (loses_update s.completions i k)

/-! ## The links are kept -/

section
variable {l : Launch K} {s : State}

theorem Linked.server (h : Linked l s) {ev : Allocation.Event} (hev : IsServer ev) :
    Linked l (s.serverSteps l.numRobots (Allocation.step l.numRobots l.socWeight s.server ev)) := by
  obtain ⟨hlog, new, ht, hnew⟩ := hev.appends l.numRobots l.socWeight s.server
  have hprocessed : Fleet.processed (s.server.server.trace ++ new) =
      Fleet.processed s.server.server.trace := by
    simpa [Fleet.processed] using hnew
  rw [serverSteps_eq ht]
  refine
    { h with
      assigned := fun i => ?_
      received := h.received
      reported := fun i => ?_
      reportedBy := ?_
      processed := fun i => ?_
      processedFrom := ?_ }
  · simp [ht, h.assigned i, assignedTo_append]
  · simpa [hlog] using h.reported i
  · simpa [hlog] using h.reportedBy
  · simpa [ht, hprocessed] using h.processed i
  · simpa [ht, hprocessed] using h.processedFrom

theorem Linked.robotStatus (h : Linked l s) {i : Nat} {msg : RobotStatus}
    (hmsg : (s.statuses i).queued.head? = some msg) (hi : i < l.numRobots)
    (hfree : s.server.busy .executor = false) :
    Linked l { s with
      server := Allocation.step l.numRobots l.socWeight s.server (.robotStatus msg)
      statuses := Function.update s.statuses i (s.statuses i).deliver } := by
  have hname : msg.robotId = robotName i := by
    have hmem := Topic.mem_published_of_head? hmsg
    rw [h.statuses i] at hmem
    exact ((h.signs i).status hmem).robotId
  have hnow : (s.statuses i).deliver.delivered = (s.statuses i).delivered ++ [msg] :=
    Topic.deliver_delivered hmsg
  simp only [Allocation.step, hfree, Bool.false_eq_true, if_false]
  refine
    { h with
      statuses := fun j => by simpa using h.statuses j
      reported := fun j => ?_
      reportedBy := fun m hm => ?_ }
  · have hj := h.reported j
    obtain rfl | hji := eq_or_ne j i
    · simpa [Fleet.reported, hnow, hname] using hj
    · simpa [Fleet.reported, hji, hname, robotName_inj, hji.symm] using hj
  · rw [Fleet.reported, List.filterMap_append] at hm
    obtain hm | hm := List.mem_append.mp hm
    · obtain ⟨j, hj, hmem⟩ := h.reportedBy m hm
      refine ⟨j, hj, ?_⟩
      obtain rfl | hji := eq_or_ne j i
      · simp [hnow, hmem]
      · simpa [hji] using hmem
    · obtain rfl : m = msg := by simpa using hm
      exact ⟨i, hi, by simp [hnow]⟩

theorem Linked.step (h : Linked l s) (ev : Event) : Linked l (step l s ev) := by
  have hstep := steps l s ev
  generalize Fleet.step l s ev = s' at hstep ⊢
  cases hstep with
  | stays => exact h
  | server ev hev => exact h.server hev
  | robot i ev hev => exact h.robot i hev
  | taskAssignment i msg hmsg => exact h.taskAssignment hmsg
  | robotStatus i msg hmsg hi hfree => exact h.robotStatus hmsg hi hfree
  | taskCompletion i msg hmsg hi hfree => exact h.taskCompletion hmsg hi
  | lost _ _ _ ha hs hc => exact h.lost ha hs hc

theorem linked_run (l : Launch K) (es : List Event) : Linked l (l.run es) :=
  Run.run_invariant (I := Linked l) (fun _ ev h => h.step ev) (linked_init l)

end

end Fleet
