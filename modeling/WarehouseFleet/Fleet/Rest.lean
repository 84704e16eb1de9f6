import WarehouseFleet.Fleet.Answers
import WarehouseFleet.Fleet.Custody
import WarehouseFleet.RobotAgent.Home

/-!
# The fleet at rest

From any state of a run the fleet can come to rest, if nobody asks for more, no message is lost any
more, and the environments of the robots help. The server finishes its calls; then each robot gets
the assignments that are on their way, comes home and says so; then the server hears of all that
the robot has done. A task that was anywhere between the server and a robot has been processed by
then, once, and its record says that it is completed (`fleet_settles`).
-/

namespace Fleet

open Fms
open FleetServer
open RobotAgent (Delivery held Home)

/-! ## What the environment does -/

/-- The time a callback reads. -/
def Event.clock : Event → Option Time
  | .dispatch _ _ stampNow => some stampNow
  | .robot _ ev => ev.clock
  | _ => none

/-- Nobody asks for anything, and nothing is lost; robots are helped. -/
def Helped (s : State) : Event → Prop
  | .request _ _ => False
  | .robot i ev => RobotAgent.Helps (s.agents i) ev
  | .loseAssignment _ _ | .loseStatus _ _ | .loseCompletion _ _ => False
  | _ => True

/-- A callback of robot `j`, or one of the server for it. -/
def Event.At (j : Nat) : Event → Prop
  | .robot i _ | .taskAssignment i | .robotStatus i | .taskCompletion i => i = j
  | _ => False

/-! ## What is asked for -/

/-- The tasks between the server and robot `i`, the furthest first. -/
def outstanding (i : Nat) (s : State) : List String :=
  doneIds i (s.completions i).queued ++ (held (s.agents i).world.node).map Delivery.id ++
    (s.assignments i).queued.map (·.taskId)

theorem pipeline_eq (i : Nat) (s : State) : pipeline i s =
    doneIds i (processed s.server.server.trace) ++ outstanding i s := by
  simp [pipeline, outstanding, List.append_assoc]

/-- The record of the task says that it is completed. -/
def Done (taskId : String) (s : ServerState) : Prop :=
  ∃ rec, getTaskStatus taskId s = some rec ∧ rec.status = "COMPLETED" ∧ rec.result = 0

/-- The agent waits for a task, and has none. -/
structure Resting (s : RobotAgent.State) : Prop where
  waits : s.running .requestTask
  fsm : s.world.node.fsm = .idle
  soc : 20 ≤ s.world.node.battery.soc
  held : held s.world.node = []

/-- So does robot `i`; its topics are empty, and the last the server heard is that it is idle. -/
structure AtRest (i : Nat) (s : State) : Prop where
  agent : Resting (s.agents i)
  assignments : (s.assignments i).queued = []
  statuses : (s.statuses i).queued = []
  completions : (s.completions i).queued = []
  shown : ∃ msg, (s.statuses i).delivered.getLast? = some msg ∧ msg.state = RobotStatus.stateIdle

/-- No call is under way. -/
structure Free (s : State) : Prop where
  selected : s.server.selected = []
  calls : s.server.server.calls = []

/-- All is done that there was to do in `s₀`. -/
structure Settled {K : Type} (l : Launch K) (s₀ s : State) : Prop where
  free : Free s
  atRest : ∀ i < l.numRobots, AtRest i s
  /-- `select_robot` can take any robot. -/
  idle : ∀ i < l.numRobots, ∃ status, s.server.latestStatus.IdleAt (robotName i) status
  processed : ∀ i < l.numRobots,
    pipeline i s₀ <+: doneIds i (processed s.server.server.trace)
  done : ∀ i < l.numRobots, ∀ taskId ∈ outstanding i s₀, Done taskId s.server.server

/-! ## The steps of one robot -/

section
variable {s : State} {j : Nat}

theorem robotSteps_self : s.robotSteps j (s.agents j) = s := by
  rw [robotSteps_eq (List.append_nil _).symm]
  simp [RobotAgent.statuses, RobotAgent.completions, Topic.publish_nil]

/-- What the agent does in two steps it could do in one. -/
theorem robotSteps_robotSteps {r r' : RobotAgent.State}
    (h : (s.agents j).world.trace <+: r.world.trace) (h' : r.world.trace <+: r'.world.trace) :
    (s.robotSteps j r).robotSteps j r' = s.robotSteps j r' := by
  obtain ⟨new, hnew⟩ := h
  obtain ⟨new', hnew'⟩ := h'
  have hr : r'.world.trace = (s.agents j).world.trace ++ (new ++ new') := by
    rw [← hnew', ← hnew, List.append_assoc]
  have hnext : r'.world.trace = ((s.robotSteps j r).agents j).world.trace ++ new' := by
    simp [State.robotSteps, hnew']
  rw [robotSteps_eq hr, robotSteps_eq hnext, robotSteps_eq hnew.symm]
  simp [RobotAgent.statuses, RobotAgent.completions, Topic.publish_publish]

end

/-! ## Work at one robot -/

/-- What has happened has happened at robot `j`. -/
structure OnlyAt (j : Nat) (s s' : State) : Prop where
  selected : s'.server.selected = s.server.selected
  calls : s'.server.server.calls = s.server.server.calls
  agents : ∀ i ≠ j, s'.agents i = s.agents i
  assignments : ∀ i ≠ j, s'.assignments i = s.assignments i
  statuses : ∀ i ≠ j, s'.statuses i = s.statuses i
  completions : ∀ i ≠ j, s'.completions i = s.completions i

section
variable {s s' s'' : State} {i j : Nat}

theorem OnlyAt.refl (j : Nat) (s : State) : OnlyAt j s s :=
  ⟨rfl, rfl, fun _ _ => rfl, fun _ _ => rfl, fun _ _ => rfl, fun _ _ => rfl⟩

theorem OnlyAt.trans (h : OnlyAt j s s') (h' : OnlyAt j s' s'') : OnlyAt j s s'' where
  selected := h'.selected.trans h.selected
  calls := h'.calls.trans h.calls
  agents i hi := (h'.agents i hi).trans (h.agents i hi)
  assignments i hi := (h'.assignments i hi).trans (h.assignments i hi)
  statuses i hi := (h'.statuses i hi).trans (h.statuses i hi)
  completions i hi := (h'.completions i hi).trans (h.completions i hi)

theorem OnlyAt.outstanding (h : OnlyAt j s s') (hi : i ≠ j) :
    outstanding i s' = outstanding i s := by
  rw [Fleet.outstanding, h.agents i hi, h.assignments i hi, h.completions i hi, Fleet.outstanding]

theorem OnlyAt.atRest (h : OnlyAt j s s') (hi : i ≠ j) (hs : AtRest i s) : AtRest i s' := by
  refine ⟨?_, ?_, ?_, ?_, ?_⟩
  · rw [h.agents i hi]
    exact hs.agent
  · rw [h.assignments i hi]
    exact hs.assignments
  · rw [h.statuses i hi]
    exact hs.statuses
  · rw [h.completions i hi]
    exact hs.completions
  · rw [h.statuses i hi]
    exact hs.shown

theorem OnlyAt.free (h : OnlyAt j s s') (hs : Free s) : Free s' :=
  ⟨h.selected.trans hs.selected, h.calls.trans hs.calls⟩

theorem OnlyAt.robotSteps (agent : RobotAgent.State) : OnlyAt j s (s.robotSteps j agent) where
  selected := rfl
  calls := rfl
  agents _ hi := Function.update_of_ne hi ..
  assignments _ _ := rfl
  statuses _ hi := Function.update_of_ne hi ..
  completions _ hi := Function.update_of_ne hi ..

theorem Free.executor (h : Free s) : s.server.busy .executor = false := by
  simp [Allocation.State.busy, ServerState.busy, h.selected, h.calls]

end

section
variable {K : Type} [Add K] [Sub K] [Mul K] [LT K] [DecidableLT K] [RatCast K] [Sqrt K]
  {l : Launch K} {s s' : State} {i j : Nat}

theorem OnlyAt.step (l : Launch K) (s : State) {ev : Event} (hev : ev.At j) :
    OnlyAt j s (step l s ev) := by
  cases ev with
  | robot i ev =>
    obtain rfl : i = j := hev
    cases ev with
    | taskAssignment msg => exact .refl i s
    | _ => exact .robotSteps _
  | taskAssignment i =>
    obtain rfl : i = j := hev
    rw [Fleet.step]
    split
    · exact .refl i s
    · next msg hmsg =>
      have h : OnlyAt i s (s.robotSteps i (RobotAgent.step (s.agents i) (.taskAssignment msg))) :=
        .robotSteps _
      exact { h with assignments := fun _ hk => Function.update_of_ne hk .. }
  | robotStatus i =>
    obtain rfl : i = j := hev
    rw [Fleet.step]
    split
    · exact .refl i s
    · next msg hmsg =>
      split
      · next hfree =>
        rw [Allocation.step, if_neg hfree.2]
        exact { OnlyAt.refl i s with statuses := fun _ hk => Function.update_of_ne hk .. }
      · exact .refl i s
  | taskCompletion i =>
    obtain rfl : i = j := hev
    rw [Fleet.step]
    split
    · exact .refl i s
    · next msg hmsg =>
      split
      · rw [taskCompletionCb_eq]
        exact { OnlyAt.refl i s with completions := fun _ hk => Function.update_of_ne hk .. }
      · exact .refl i s
  | _ => exact hev.elim

/-- `s` is a state of a run. -/
def Launch.Reaches (l : Launch K) (s : State) : Prop := ∃ es, s = l.run es

theorem Launch.Reaches.step (h : l.Reaches s) (ev : Event) : l.Reaches (step l s ev) := by
  obtain ⟨es, rfl⟩ := h
  exact ⟨es ++ [ev], by rw [Launch.run, Launch.run, Run.run_append]; rfl⟩

theorem Launch.Reaches.linked (h : l.Reaches s) : Linked l s := by
  obtain ⟨es, rfl⟩ := h
  exact linked_run l es

/-- When no call is under way, the task of every assignment is known. -/
theorem Launch.Reaches.known (h : l.Reaches s) (hfree : Free s) {taskId : String}
    (ht : taskId ∈ pipeline i s) : (getTaskStatus taskId s.server.server).isSome := by
  obtain ⟨es, rfl⟩ := h
  have hrecording : Recording (l.run es).server.server :=
    server_invariant (I := Recording) l (fun _ _ h hs => h.step hs) (fun a ha => by cases ha) es
  obtain ⟨a, ha, rfl⟩ := List.mem_map.mp ((pipeline_in_order l es i).subset ht)
  refine (getTaskStatus_isSome (holds_run l es) _).mpr (.inr ?_)
  obtain ⟨call, hcall, -⟩ | hrecorded := hrecording a (mem_assignedTo.mp ha).1
  · rw [hfree.calls] at hcall
    cases hcall
  · exact mem_recordedIds hrecorded

theorem Done.later {taskId : String} {server server' : ServerState} (h : Done taskId server)
    (hl : Later server server') : Done taskId server' := by
  obtain ⟨rec, hrec, hstatus, hresult⟩ := h
  obtain ⟨rec', hrec', hturns⟩ := hl taskId rec hrec
  obtain rfl | hends := hturns.ends
  · exact ⟨rec', hrec', hstatus, hresult⟩
  · exact ⟨rec', hrec', hends⟩

/-- The completion of a task that is known gets into its record. -/
theorem done_taskCompletionCb {msg : TaskCompletion} {server : ServerState}
    (hknown : (getTaskStatus msg.taskId server).isSome)
    (hresult : msg.result = TaskCompletion.resultSuccess) :
    Done msg.taskId (taskCompletionCb msg server) := by
  obtain ⟨rec, hrec⟩ := Option.isSome_iff_exists.mp hknown
  have hbefore : MongoStore.ledger server.tasks msg.taskId = some rec := hrec
  have hafter := getTaskStatus_taskCompletionCb msg.taskId msg server
  rw [Ledger.complete, if_pos rfl, hbefore, Option.map_some, hresult] at hafter
  exact ⟨_, hafter, rfl, rfl⟩

/-- Robot `j` has been seen to since `s₀`: what has been processed since was outstanding, and is
done. -/
structure Works (l : Launch K) (j : Nat) (s₀ s : State) : Prop where
  reaches : l.Reaches s
  onlyAt : OnlyAt j s₀ s
  later : Later s₀.server.server s.server.server
  done : ∃ ids, doneIds j (processed s.server.server.trace) =
      doneIds j (processed s₀.server.server.trace) ++ ids ∧
    ids ++ outstanding j s = outstanding j s₀ ∧ ∀ taskId ∈ ids, Done taskId s.server.server

theorem Works.refl (h : l.Reaches s) (j : Nat) : Works l j s s :=
  ⟨h, .refl j s, fun _ rec hrec => ⟨rec, hrec, .refl rec⟩, [], by simp⟩

/-- What the robot does, and what it hears, leaves the server alone. -/
theorem Works.aside {s₀ : State} (h : Works l j s₀ s) (hreaches : l.Reaches s')
    (honlyAt : OnlyAt j s s') (hserver : s'.server.server = s.server.server)
    (hout : outstanding j s' = outstanding j s) : Works l j s₀ s' where
  reaches := hreaches
  onlyAt := h.onlyAt.trans honlyAt
  later := hserver ▸ h.later
  done := by
    rw [hserver, hout]
    exact h.done

/-! ## The server finishes its calls -/

/-- Only the server has been at work since `s₀`, and for nobody but its callers. -/
structure Onward (s₀ s : State) : Prop where
  processed : processed s.server.server.trace = processed s₀.server.server.trace
  outstanding : ∀ i, outstanding i s₀ <+: outstanding i s

theorem Onward.server {s₀ : State} (h : Onward s₀ s) (l : Launch K) {ev : Allocation.Event}
    (hev : IsServer ev) : Onward s₀
      (s.serverSteps l.numRobots (Allocation.step l.numRobots l.socWeight s.server ev)) := by
  obtain ⟨-, new, ht, hnew⟩ := hev.appends l.numRobots l.socWeight s.server
  rw [serverSteps_eq ht]
  refine ⟨?_, fun i => (h.outstanding i).trans ?_⟩
  · have happend : Fleet.processed (s.server.server.trace ++ new) =
        Fleet.processed s.server.server.trace ++ Fleet.processed new := List.filterMap_append
    rw [ht, happend, hnew, List.append_nil, h.processed]
  · simp only [Fleet.outstanding, Topic.publish_queued, List.map_append, ← List.append_assoc]
    exact List.prefix_append _ _

theorem selected_dispatched {s₀ : State} (h : l.Reaches s₀) (t : Time) :
    Run.Leads (step l) Event.clock Helped (fun _ s => (l.Reaches s ∧ Onward s₀ s) ∧
      s.server.selected.length = 0) t s₀ := by
  refine .drain ?_ ⟨h, rfl, fun _ => List.prefix_rfl⟩
  rintro s ⟨hs, hon⟩ hpos
  obtain ⟨call, calls, hcalls⟩ := List.exists_cons_of_length_pos hpos
  refine ⟨.dispatch call.thread t t, by simp [Event.clock], trivial,
    ⟨hs.step _, hon.server l trivial⟩, ?_⟩
  simp [step, State.serverSteps, Allocation.step, hcalls]

theorem calls_recorded {s₀ s : State} (h : l.Reaches s) (hon : Onward s₀ s)
    (hnone : s.server.selected = []) (t : Time) :
    Run.Leads (step l) Event.clock Helped (fun _ s => (l.Reaches s ∧ Onward s₀ s ∧
      s.server.selected = []) ∧ s.server.server.calls.length = 0) t s := by
  refine .drain ?_ ⟨h, hon, hnone⟩
  rintro s ⟨hs, hon, hnone⟩ hpos
  obtain ⟨call, calls, hcalls⟩ := List.exists_cons_of_length_pos hpos
  refine ⟨.insertTask call.thread, by simp [Event.clock], trivial, ⟨hs.step _,
    hon.server l trivial, hnone⟩, ?_⟩
  simp [step, State.serverSteps, Allocation.step, FleetServer.step, insertTask, hcalls]

theorem calls_finish {s₀ : State} (h : l.Reaches s₀) (t : Time) :
    Run.Leads (step l) Event.clock Helped (fun _ s => l.Reaches s ∧ Onward s₀ s ∧ Free s) t s₀ := by
  refine (selected_dispatched h t).trans ?_
  rintro t s ⟨⟨hs, hon⟩, hnone⟩
  refine (calls_recorded hs hon (List.length_eq_zero_iff.mp hnone) t).trans ?_
  rintro t s ⟨⟨hs, hon, hnone⟩, hcalls⟩
  exact .here ⟨hs, hon, hnone, List.length_eq_zero_iff.mp hcalls⟩

/-! ## One robot -/

/-- What can be reached by work at robot `j`. -/
abbrev LeadsAt (l : Launch K) (j : Nat) (P : Time → State → Prop) : Time → State → Prop :=
  Run.Leads (step l) Event.clock (fun s ev => Helped s ev ∧ ev.At j) P

theorem step_robot {ev : RobotAgent.Event} (hev : ∀ msg, ev ≠ .taskAssignment msg) :
    step l s (.robot j ev) = s.robotSteps j (RobotAgent.step (s.agents j) ev) := by
  cases ev with
  | taskAssignment msg => exact absurd rfl (hev msg)
  | _ => rfl

theorem step_taskAssignment {msg : TaskAssignment}
    (hmsg : (s.assignments j).queued.head? = some msg) : step l s (.taskAssignment j) =
      { s.robotSteps j (RobotAgent.step (s.agents j) (.taskAssignment msg)) with
        assignments := Function.update s.assignments j (s.assignments j).deliver } := by
  rw [step, hmsg]

theorem step_robotStatus {msg : RobotStatus} (hmsg : (s.statuses j).queued.head? = some msg)
    (hj : j < l.numRobots) (hfree : Free s) : step l s (.robotStatus j) =
      { s with
        server := Allocation.step l.numRobots l.socWeight s.server (.robotStatus msg)
        statuses := Function.update s.statuses j (s.statuses j).deliver } := by
  rw [step, hmsg]
  simp [hj, hfree.executor]

theorem step_taskCompletion {msg : TaskCompletion}
    (hmsg : (s.completions j).queued.head? = some msg) (hj : j < l.numRobots) (hfree : Free s) :
    step l s (.taskCompletion j) =
      { s with
        server := { s.server with server := taskCompletionCb msg s.server.server }
        completions := Function.update s.completions j (s.completions j).deliver } := by
  rw [step, hmsg]
  simp [hj, hfree.executor]

/-- The assignments on their way arrive. -/
theorem assignments_arrive {s₀ : State} (h : Works l j s₀ s) (t : Time) :
    LeadsAt l j (fun _ s => Works l j s₀ s ∧ (s.assignments j).queued.length = 0) t s := by
  refine .drain (fun s hs hpos => ?_) h
  obtain ⟨msg, msgs, hqueued⟩ := List.exists_cons_of_length_pos hpos
  have hstep := step_taskAssignment (l := l) (s := s) (j := j) (by rw [hqueued]; rfl)
  refine ⟨.taskAssignment j, by simp [Event.clock], ⟨trivial, rfl⟩,
    hs.aside (hs.reaches.step _) (.step l s rfl) ?_ ?_, ?_⟩
  · rw [hstep]
    rfl
  · have ht : (RobotAgent.step (s.agents j) (.taskAssignment msg)).world.trace =
        (s.agents j).world.trace ++
          [.received ⟨(RobotAgent.received (s.agents j).world.trace).length, msg⟩] := rfl
    rw [hstep, robotSteps_eq ht]
    simp [outstanding, RobotAgent.completions, RobotAgent.step, Topic.publish_nil, Delivery.id,
      Topic.deliver, hqueued]
  · rw [hstep]
    simp [Topic.deliver, hqueued]

/-- What an agent can get to on its own it can get to in the fleet. -/
theorem robot_leads {P : Time → RobotAgent.State → Prop} {t : Time}
    (h : RobotAgent.Leads P t (s.agents j)) :
    LeadsAt l j (fun t s' => ∃ r, P t r ∧ (s.agents j).world.trace <+: r.world.trace ∧
      s' = s.robotSteps j r) t s := by
  refine h.lift (R := fun r s' => (s.agents j).world.trace <+: r.world.trace ∧
    s' = s.robotSteps j r) (f := .robot j) ?_ (fun _ => rfl)
    (fun t r s' hs hP => ⟨r, hP, hs.1, hs.2⟩) ⟨List.prefix_rfl, robotSteps_self.symm⟩
  rintro r _ ev ⟨htrace, rfl⟩ hhelps
  have hagent : (s.robotSteps j r).agents j = r := Function.update_self ..
  have hgrows : r.world.trace <+: (RobotAgent.step r ev).world.trace :=
    (RobotAgent.prefix_inv _).step List.prefix_rfl
  refine ⟨⟨?_, rfl⟩, htrace.trans hgrows, ?_⟩
  · rw [Helped, hagent]
    exact hhelps
  · rw [step_robot (fun msg hev => by rw [hev] at hhelps; exact hhelps), hagent,
      robotSteps_robotSteps htrace hgrows]

/-- The robot comes home; what it held is on its way back. -/
theorem robot_comes_home {s₀ : State} (h : Works l j s₀ s) (t : Time) :
    LeadsAt l j (fun _ s' => Works l j s₀ s' ∧ s'.assignments = s.assignments ∧
      Resting (s'.agents j)) t s := by
  have hlinked := h.reaches.linked
  obtain ⟨es, hes⟩ := hlinked.agents j
  have hhome := RobotAgent.home_leads (l.robots j) es t
  rw [← hes] at hhome
  refine ((robot_leads hhome).invariant (I := fun s' => l.Reaches s' ∧ OnlyAt j s s')
    (fun s' ev hs hev => ⟨hs.1.step ev, hs.2.trans (.step l s' hev.2)⟩)
    ⟨h.reaches, .refl j s⟩).trans ?_
  rintro t s' ⟨⟨r, hr, ⟨new, hnew⟩, heq⟩, hreaches, honlyAt⟩
  have hlinked' := hreaches.linked
  have hagent : s'.agents j = r := heq ▸ Function.update_self ..
  have hdone := (hlinked.signs j).completed_ids (robotName_ne_empty j)
  have hdone' := (hlinked'.signs j).completed_ids (robotName_ne_empty j)
  rw [hagent, hr.completed, List.map_append, ← hdone, ← hnew] at hdone'
  have hnow : doneIds j (RobotAgent.completions new) =
      (held (s.agents j).world.node).map Delivery.id := by
    rw [doneIds]
    simpa [RobotAgent.completions] using hdone'
  refine .here ⟨h.aside hreaches honlyAt (by rw [heq]; rfl) ?_, by rw [heq]; rfl,
    hagent ▸ ⟨hr.waits, hr.fsm, hr.soc, hr.held⟩⟩
  rw [heq, robotSteps_eq hnew.symm]
  simp [outstanding, hr.held, doneIds_append, hnow]

/-- It says that it is idle. -/
theorem robot_reports {s₀ : State} (h : Works l j s₀ s) (hr : Resting (s.agents j)) (t : Time) :
    LeadsAt l j (fun _ s' => Works l j s₀ s' ∧ s'.assignments = s.assignments ∧
      Resting (s'.agents j) ∧ ∃ msg,
        ((s'.statuses j).delivered ++ (s'.statuses j).queued).getLast? = some msg ∧
        msg.state = RobotStatus.stateIdle) t s := by
  let msg := RobotAgent.statusMessage t none (s.agents j).world.node
  have hnew : (RobotAgent.step (s.agents j) (.statusPublish t none)).world.trace =
      (s.agents j).world.trace ++ [.status msg] := rfl
  have hstep : step l s (.robot j (.statusPublish t none)) =
      s.robotSteps j (RobotAgent.step (s.agents j) (.statusPublish t none)) :=
    step_robot (by simp)
  refine .timed (.robot j (.statusPublish t none)) rfl le_rfl ⟨trivial, rfl⟩
    (.here ⟨h.aside (h.reaches.step _) (.step l s rfl) rfl ?_, rfl, ?_, msg, ?_, ?_⟩)
  · rw [hstep, robotSteps_eq hnew]
    simp [outstanding, RobotAgent.completions, Topic.publish_nil, RobotAgent.step,
      RobotAgent.statusPublishCb]
  · rw [hstep, robotSteps_eq hnew]
    simpa using (⟨hr.waits, hr.fsm, hr.soc, hr.held⟩ :
      Resting (RobotAgent.step (s.agents j) (.statusPublish t none)))
  · rw [hstep, robotSteps_eq hnew]
    simp [RobotAgent.statuses]
  · simp only [msg, RobotAgent.statusMessage, hr.fsm]
    rfl

/-- Robot `j` is home, and the last that it has said is that it is idle. -/
structure Announced (j : Nat) (s : State) : Prop where
  agent : Resting (s.agents j)
  assignments : (s.assignments j).queued = []
  said : ∃ msg, ((s.statuses j).delivered ++ (s.statuses j).queued).getLast? = some msg ∧
    msg.state = RobotStatus.stateIdle

theorem robot_announces {s₀ : State} (h : Works l j s₀ s) (t : Time) :
    LeadsAt l j (fun _ s => Works l j s₀ s ∧ Announced j s) t s := by
  refine (assignments_arrive h t).trans ?_
  rintro t s ⟨h, hassignments⟩
  refine (robot_comes_home h t).trans ?_
  rintro t s' ⟨h, heq, hr⟩
  refine (robot_reports h hr t).trans ?_
  rintro t s'' ⟨h, heq', hr, hsaid⟩
  refine .here ⟨h, hr, ?_, hsaid⟩
  rw [heq', heq]
  exact List.length_eq_zero_iff.mp hassignments

/-- The server hears what the robot has said. -/
theorem statuses_arrive {s₀ : State} (hj : j < l.numRobots) (hfree : Free s₀)
    (h : Works l j s₀ s) (ha : Announced j s) (t : Time) :
    LeadsAt l j (fun _ s => (Works l j s₀ s ∧ Announced j s) ∧
      (s.statuses j).queued.length = 0) t s := by
  refine .drain ?_ ⟨h, ha⟩
  rintro s ⟨h, ha⟩ hpos
  obtain ⟨msg, msgs, hqueued⟩ := List.exists_cons_of_length_pos hpos
  have hfree' : Free s := h.onlyAt.free hfree
  have hhead : (s.statuses j).queued.head? = some msg := by rw [hqueued]; rfl
  have hstep := step_robotStatus hhead hj hfree'
  refine ⟨.robotStatus j, by simp [Event.clock], ⟨trivial, rfl⟩,
    ⟨h.aside (h.reaches.step _) (.step l s rfl) ?_ ?_, ?_, ?_, ?_⟩, ?_⟩
  · rw [hstep]
    simp [Allocation.step, hfree'.executor]
  · rw [hstep]
    rfl
  · rw [hstep]
    exact ha.agent
  · rw [hstep]
    exact ha.assignments
  · obtain ⟨last, hlast, hidle⟩ := ha.said
    rw [hqueued] at hlast
    refine ⟨last, ?_, hidle⟩
    rw [hstep, ← hlast]
    simp [Topic.deliver, hqueued]
  · rw [hstep]
    simp [Topic.deliver, hqueued]

theorem Works.taskCompletion {s₀ : State} (h : Works l j s₀ s) (hj : j < l.numRobots)
    (hfree : Free s) {msg : TaskCompletion} {msgs : List TaskCompletion}
    (hqueued : (s.completions j).queued = msg :: msgs) :
    Works l j s₀ (step l s (.taskCompletion j)) := by
  have hlinked := h.reaches.linked
  have hhead : (s.completions j).queued.head? = some msg := by rw [hqueued]; rfl
  have hlater := h.later.step hlinked (.taskCompletion j)
  have hnow : Later s.server.server (step l s (.taskCompletion j)).server.server :=
    Later.step (fun _ rec hrec => ⟨rec, hrec, .refl rec⟩) hlinked _
  refine ⟨h.reaches.step _, h.onlyAt.trans (.step l s rfl), hlater, ?_⟩
  have hresult := (hlinked.mayComplete (Topic.mem_published_of_head? hhead)).1
  obtain ⟨ids, hprocessed, hout, hdone⟩ := h.done
  have hdone' : ∀ taskId ∈ ids, Done taskId (step l s (.taskCompletion j)).server.server :=
    fun taskId ht => (hdone taskId ht).later hnow
  have hstep := step_taskCompletion hhead hj hfree
  have hleft : (step l s (.taskCompletion j)).completions j = (s.completions j).deliver := by
    rw [hstep]
    exact Function.update_self ..
  have hprocessed' : doneIds j (processed (step l s (.taskCompletion j)).server.server.trace) =
      doneIds j (processed s₀.server.server.trace) ++ (ids ++ doneIds j [msg]) := by
    rw [hstep, ← List.append_assoc, ← hprocessed, ← doneIds_append, ← processed_taskCompletionCb]
  have hout' : outstanding j s =
      doneIds j [msg] ++ outstanding j (step l s (.taskCompletion j)) := by
    rw [outstanding, outstanding, hleft, hqueued, ← List.singleton_append, doneIds_append, hstep]
    simp [Topic.deliver, hqueued]
  refine ⟨ids ++ doneIds j [msg], hprocessed', by rw [List.append_assoc, ← hout', hout], ?_⟩
  intro taskId ht
  obtain ht | ht := List.mem_append.mp ht
  · exact hdone' taskId ht
  · obtain ⟨msg', hmsg', rfl⟩ := List.mem_map.mp ht
    obtain rfl : msg' = msg := List.mem_singleton.mp (List.mem_of_mem_filter hmsg')
    have hmem : msg'.taskId ∈ pipeline j s := by
      rw [pipeline_eq, hout']
      exact List.mem_append_right _ (List.mem_append_left _ ht)
    rw [hstep]
    exact done_taskCompletionCb (h.reaches.known hfree hmem) hresult

/-- The server hears what the robot has done. -/
theorem completions_arrive {s₀ : State} (hj : j < l.numRobots) (hfree : Free s₀)
    (h : Works l j s₀ s) (ha : Announced j s) (hs : (s.statuses j).queued = []) (t : Time) :
    LeadsAt l j (fun _ s => (Works l j s₀ s ∧ Announced j s ∧ (s.statuses j).queued = []) ∧
      (s.completions j).queued.length = 0) t s := by
  refine .drain ?_ ⟨h, ha, hs⟩
  rintro s ⟨h, ha, hs⟩ hpos
  obtain ⟨msg, msgs, hqueued⟩ := List.exists_cons_of_length_pos hpos
  have hfree' : Free s := h.onlyAt.free hfree
  have hhead : (s.completions j).queued.head? = some msg := by rw [hqueued]; rfl
  have hstep := step_taskCompletion hhead hj hfree'
  refine ⟨.taskCompletion j, by simp [Event.clock], ⟨trivial, rfl⟩,
    ⟨h.taskCompletion hj hfree' hqueued, ?_, ?_⟩, ?_⟩
  · rw [hstep]
    exact ⟨ha.agent, ha.assignments, ha.said⟩
  · rw [hstep]
    exact hs
  · rw [hstep]
    simp [Topic.deliver, hqueued]

/-- **Robot `j` comes to rest**, and what was outstanding there is done. -/
theorem robot_settles {s₀ : State} (h : l.Reaches s₀) (hfree : Free s₀) (hj : j < l.numRobots)
    (t : Time) : LeadsAt l j (fun _ s => Works l j s₀ s ∧ AtRest j s) t s₀ := by
  refine (robot_announces (.refl h j) t).trans ?_
  rintro t s ⟨h, ha⟩
  refine (statuses_arrive hj hfree h ha t).trans ?_
  rintro t s ⟨⟨h, ha⟩, hstatuses⟩
  refine (completions_arrive hj hfree h ha (List.length_eq_zero_iff.mp hstatuses) t).trans ?_
  rintro t s ⟨⟨h, ha, hstatuses⟩, hcompletions⟩
  refine .here ⟨h, ha.agent, ha.assignments, hstatuses, List.length_eq_zero_iff.mp hcompletions, ?_⟩
  simpa [hstatuses] using ha.said

/-! ## One robot after the other -/

/-- The first `k` robots have been seen to since `s₁`. -/
structure Rounds (l : Launch K) (s₁ : State) (k : Nat) (s : State) : Prop where
  reaches : l.Reaches s
  free : Free s
  visited : ∀ i < k, AtRest i s ∧
    doneIds i (processed s.server.server.trace) = pipeline i s₁ ∧
    ∀ taskId ∈ outstanding i s₁, Done taskId s.server.server
  ahead : ∀ i, k ≤ i → outstanding i s = outstanding i s₁ ∧
    doneIds i (processed s.server.server.trace) = doneIds i (processed s₁.server.server.trace)

theorem AtRest.outstanding (h : AtRest i s) : outstanding i s = [] := by
  simp [Fleet.outstanding, h.completions, h.agent.held, h.assignments, doneIds]

theorem Works.others {s₀ : State} (h : Works l j s₀ s) (hs₀ : l.Reaches s₀) (hi : i ≠ j) :
    doneIds i (processed s.server.server.trace) =
      doneIds i (processed s₀.server.server.trace) := by
  rw [h.reaches.linked.doneIds_processed, hs₀.linked.doneIds_processed, h.onlyAt.completions i hi]

theorem Rounds.next {s₁ : State} {k : Nat} (h : Rounds l s₁ k s) (hk : k < l.numRobots) (t : Time) :
    Run.Leads (step l) Event.clock Helped (fun _ => Rounds l s₁ (k + 1)) t s := by
  refine ((robot_settles h.reaches h.free hk t).mono fun _ _ hev => hev.1).trans ?_
  rintro t s' ⟨hworks, hrest⟩
  refine .here ⟨hworks.reaches, hworks.onlyAt.free h.free, fun i hi => ?_, fun i hi => ?_⟩
  · obtain hlt | rfl := Nat.lt_succ_iff_lt_or_eq.mp hi
    · obtain ⟨hrest', hprocessed, hdone⟩ := h.visited i hlt
      exact ⟨hworks.onlyAt.atRest hlt.ne hrest', (hworks.others h.reaches hlt.ne).trans hprocessed,
        fun taskId ht => (hdone taskId ht).later hworks.later⟩
    · obtain ⟨hout, hprocessed⟩ := h.ahead i le_rfl
      obtain ⟨ids, hprocessed', hids, hdone⟩ := hworks.done
      rw [hrest.outstanding, List.append_nil, hout] at hids
      subst hids
      exact ⟨hrest, by rw [hprocessed', hprocessed, pipeline_eq], hdone⟩
  · have hne : i ≠ k := (Nat.lt_of_succ_le hi).ne'
    obtain ⟨hout, hprocessed⟩ := h.ahead i (Nat.le_of_succ_le hi)
    exact ⟨(hworks.onlyAt.outstanding hne).trans hout,
      (hworks.others h.reaches hne).trans hprocessed⟩

theorem rounds {s₁ : State} (h : l.Reaches s₁) (hfree : Free s₁) {k : Nat} (hk : k ≤ l.numRobots)
    (t : Time) : Run.Leads (step l) Event.clock Helped (fun _ => Rounds l s₁ k) t s₁ := by
  induction k with
  | zero => exact .here ⟨h, hfree, fun i hi => absurd hi (Nat.not_lt_zero i), fun _ _ => ⟨rfl, rfl⟩⟩
  | succ k ih => exact (ih (Nat.le_of_succ_le hk)).trans fun t _ hs => hs.next hk t

theorem Rounds.settled {s₀ s₁ : State} (h : Rounds l s₁ l.numRobots s) (hon : Onward s₀ s₁) :
    Settled l s₀ s where
  free := h.free
  atRest i hi := (h.visited i hi).1
  idle i hi := by
    obtain ⟨es, rfl⟩ := h.reaches
    obtain ⟨msg, hmsg, hidle⟩ := (h.visited i hi).1.shown
    refine ⟨msg, ?_, hidle⟩
    rw [cached_run l es, latestStatus_getElem?, (linked_run l es).reported i, hmsg]
  processed i hi := by
    rw [(h.visited i hi).2.1, pipeline_eq, pipeline_eq, hon.processed]
    exact (List.prefix_append_right_inj _).mpr (hon.outstanding i)
  done i hi taskId ht := (h.visited i hi).2.2 taskId ((hon.outstanding i).subset ht)

/-- **The fleet can always come to rest**, from any state of any run: no task between the server
and a robot is stuck there. -/
theorem fleet_settles (l : Launch K) (es : List Event) (t : Time) :
    ∃ fs, Run.Along (step l) Helped (l.run es) fs ∧
      (t :: fs.filterMap Event.clock).Pairwise (· ≤ ·) ∧
      Settled l (l.run es) (l.run (es ++ fs)) := by
  have hleads : Run.Leads (step l) Event.clock Helped (fun _ => Settled l (l.run es)) t
      (l.run es) := by
    refine (calls_finish ⟨es, rfl⟩ t).trans ?_
    rintro t s₁ ⟨hreaches, hon, hfree⟩
    exact (rounds hreaches hfree le_rfl t).trans fun _ _ h => .here (h.settled hon)
  obtain ⟨fs, -, hhelped, htimes, hsettled⟩ := hleads.exists_run
  have hrun : l.run (es ++ fs) = Run.run (step l) (l.run es) fs := Run.run_append ..
  exact ⟨fs, hhelped, htimes, hrun ▸ hsettled⟩

end

end Fleet
