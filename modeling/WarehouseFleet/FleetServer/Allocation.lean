import WarehouseFleet.Trace
import WarehouseFleet.FleetServer.Dispatch
import WarehouseFleet.FleetServer.TaskAllocator

/-!
# Selecting, then dispatching

A request is served in two steps on its thread: `select_robot` reads `latest_status_` under
`fleet_mutex_`, `dispatch_assignment` publishes without it, and the map shows the assignment only
when the robot reports again. Between the two steps of one call, all other threads may run; the
callbacks of the executor do not interrupt each other.

| here | there |
| --- | --- |
| `State.latestStatus`, `Event.robotStatus` | `robot_status_cb` up to the end of its lock (fleet_server_node.cpp:154-159) |
| `Event.request`       | `select_robot` and the branch after it, in `submit_task` (:92-107), `task_request_cb` (:205-221) and `rabbitmq_consume_loop` (:257-268) |
| `State.selected`      | calls between `select_robot` and `dispatch_assignment` |
| `Event.dispatch`      | `dispatch_assignment` up to `publish` (:194-201) |
| `Event.server`        | the rest of a call, and completions |

Nothing keeps a robot that was selected, or published to, from being selected again while its
status in the map is still `STATE_IDLE`. `no_double_dispatch` holds of the runs without such a
selection.
-/

namespace FleetServer.Allocation

open Fms

/-- One entry of the log. -/
inductive Entry where
  /-- `robot_status_cb` -/
  | status (msg : RobotStatus)
  /-- on the robot's `task_assignment` topic -/
  | published (assignment : TaskAssignment)
deriving DecidableEq

def Entry.robotId : Entry → String
  | .status msg => msg.robotId
  | .published a => a.robotId

structure State where
  server : ServerState := {}
  latestStatus : StatusMap := ∅
  selected : List Call := []
  log : List Entry := []

/-- The thread is in a call. -/
def State.busy (s : State) (th : Thread) : Bool :=
  s.selected.any (·.thread = th) || s.server.busy th

inductive Event where
  | robotStatus (msg : RobotStatus)
  | request (th : Thread) (request : TaskAssignment)
  | dispatch (th : Thread) (idNow stampNow : Time)
  | insertTask (th : Thread)
  | robotCompletes (msg : TaskCompletion)
  | taskCompletion (msg : TaskCompletion)

variable {K : Type} [Add K] [Sub K] [Mul K] [LT K] [DecidableLT K] [RatCast K] [Sqrt K]

/-- An event that is not possible in a state changes nothing. -/
def step (numRobots : Nat) (socWeight : K) (s : State) : Event → State
  | .robotStatus msg =>
    if s.busy .executor then s
    else { s with latestStatus := robotStatusCb msg s.latestStatus, log := s.log ++ [.status msg] }
  | .request th request =>
    if s.busy th then s
    else match selectBestRobot s.latestStatus request socWeight with
      | none => s
      | some best => { s with selected := s.selected ++ [⟨th, { request with robotId := best.1 }⟩] }
  | .dispatch th idNow stampNow =>
    match s.selected.find? (·.thread = th) with
    | none => s
    | some call =>
      let assignment := prepare idNow stampNow call.assignment
      { s with
        selected := s.selected.erase call
        server := FleetServer.dispatch numRobots th assignment s.server
        log := match robotIndex numRobots assignment.robotId with
          | none => s.log
          | some _ => s.log ++ [.published assignment] }
  | .insertTask th => { s with server := FleetServer.step numRobots s.server (.insertTask th) }
  | .robotCompletes msg =>
    { s with server := FleetServer.step numRobots s.server (.robotCompletes msg) }
  | .taskCompletion msg =>
    if s.busy .executor then s
    else { s with server := FleetServer.step numRobots s.server (.taskCompletion msg) }

/-- The server starts on these documents in its `tasks` collection. -/
def State.init (tasks : List TaskDoc) : State := { server := { tasks } }

def run (numRobots : Nat) (socWeight : K) (tasks : List TaskDoc) (es : List Event) : State :=
  Run.run (step numRobots socWeight) (.init tasks) es

/-! ## What the log says about a robot -/

/-- The last entry about the robot. -/
def lastOf (r : String) (log : List Entry) : Option Entry := (log.filter (·.robotId = r)).getLast?

/-- The robot has reported `STATE_IDLE` since each assignment published to it. -/
def Released (r : String) (log : List Entry) : Prop :=
  ∀ pre a post, log = pre ++ .published a :: post → a.robotId = r →
    ∃ msg, .status msg ∈ post ∧ msg.robotId = r ∧ msg.state = RobotStatus.stateIdle

/-- No assignment is published to a robot that has not reported `STATE_IDLE` since the last. -/
def NoDoubleDispatch (log : List Entry) : Prop :=
  Trace.Each (fun pre o => ∀ a, o = .published a → Released a.robotId pre) log

section
variable {r : String} {log : List Entry} {o : Entry} {msg : RobotStatus}

theorem lastOf_concat :
    lastOf r (log ++ [o]) = if o.robotId = r then some o else lastOf r log := by
  by_cases h : o.robotId = r <;> simp [lastOf, h]

theorem Released.concat (h : Released r log) (ho : ∀ a, o = .published a → a.robotId ≠ r) :
    Released r (log ++ [o]) := by
  intro pre a post heq ha
  obtain rfl | ⟨post, last, rfl⟩ := List.eq_nil_or_concat post
  · obtain ⟨-, rfl⟩ := List.append_singleton_inj.mp heq
    exact absurd ha (ho a rfl)
  · rw [List.concat_eq_append, ← List.cons_append, ← List.append_assoc] at heq
    obtain ⟨rfl, -⟩ := List.append_singleton_inj.mp heq
    obtain ⟨msg, hmem, hmsg⟩ := h pre a post rfl ha
    exact ⟨msg, by simp [hmem], hmsg⟩

/-- A robot whose last entry is a status in `STATE_IDLE` is released. -/
theorem released_of_last (h : lastOf r log = some (.status msg))
    (hidle : msg.state = RobotStatus.stateIdle) : Released r log := by
  rintro pre a post rfl ha
  have hcons : (Entry.published a :: post).filter (·.robotId = r) =
      .published a :: post.filter (·.robotId = r) :=
    List.filter_cons_of_pos (decide_eq_true ha)
  rw [lastOf, List.filter_append, hcons, List.getLast?_append, List.getLast?_cons,
    Option.some_or, Option.some.injEq] at h
  cases hlast : (post.filter (·.robotId = r)).getLast? with
  | none => simp [hlast] at h
  | some o =>
    obtain rfl : o = .status msg := by simpa [hlast] using h
    obtain ⟨hmem, hr⟩ := List.mem_filter.mp (List.mem_of_getLast? hlast)
    exact ⟨msg, hmem, of_decide_eq_true hr, hidle⟩

end

/-! ## The selections that go wrong -/

/-- The robot waits for the assignment of another call, or has not reported since the last one. -/
def State.Taken (numRobots : Nat) (s : State) (r : String) : Prop :=
  (robotIndex numRobots r ≠ none ∧ ∃ c ∈ s.selected, c.assignment.robotId = r) ∨
    ∃ a, lastOf r s.log = some (.published a)

/-- The event does not select a robot that is taken. -/
def FreeChoice (numRobots : Nat) (socWeight : K) (s : State) : Event → Prop
  | .request th request => s.busy th = false →
      ∀ best ∈ selectBestRobot s.latestStatus request socWeight, ¬ s.Taken numRobots best.1
  | _ => True

/-- At most one of the two calls publishes to the robot. -/
def Apart (numRobots : Nat) (c c' : Call) : Prop :=
  c.assignment.robotId = c'.assignment.robotId → robotIndex numRobots c.assignment.robotId = none

theorem Apart.symm {numRobots : Nat} {c c' : Call} (h : Apart numRobots c c') :
    Apart numRobots c' c := fun heq => heq ▸ h heq.symm

/-- The call that leaves was apart from those that stay. -/
theorem apart_of_mem_erase {numRobots : Nat} {calls : List Call} {c call : Call}
    (h : calls.Pairwise (Apart numRobots)) (hcall : call ∈ calls) (hc : c ∈ calls.erase call) :
    Apart numRobots call c :=
  have hcons := ((List.perm_cons_erase hcall).pairwise_iff Apart.symm).mp h
  (List.pairwise_cons.mp hcons).1 c hc

theorem ne_of_mem_erase {β : Type} {f : Call → β} {calls : List Call} {c call : Call}
    (h : (calls.map f).Nodup) (hcall : call ∈ calls) (hc : c ∈ calls.erase call) :
    f call ≠ f c := by
  obtain ⟨hne, hmem⟩ := h.of_map.mem_erase_iff.mp hc
  exact fun heq => hne (List.inj_on_of_nodup_map h hmem hcall heq.symm)

structure Fresh (numRobots : Nat) (s : State) : Prop where
  cached : ∀ r msg, lastOf r s.log = some (.status msg) → s.latestStatus[r]? = some msg
  known : ∀ r status, s.latestStatus[r]? = some status → lastOf r s.log ≠ none
  apart : s.selected.Pairwise (Apart numRobots)
  released : ∀ c ∈ s.selected, Released c.assignment.robotId s.log
  once : NoDoubleDispatch s.log

variable {numRobots : Nat} {socWeight : K}

theorem fresh_init (tasks : List TaskDoc) : Fresh numRobots (.init tasks) where
  cached r msg h := by simp [State.init, lastOf] at h
  known r status h := by simp [State.init] at h
  apart := .nil
  released c h := by simp [State.init] at h
  once := Trace.each_nil

/-- The server's own steps are not in the log. -/
theorem Fresh.server {s : State} (h : Fresh numRobots s) (server : ServerState) :
    Fresh numRobots { s with server } := { h with }

theorem Fresh.robotStatus {s : State} (h : Fresh numRobots s) (msg : RobotStatus) :
    Fresh numRobots { s with
      latestStatus := robotStatusCb msg s.latestStatus, log := s.log ++ [.status msg] } where
  cached r msg' hlast := by
    rw [lastOf_concat] at hlast
    rw [robotStatusCb_getElem?]
    split at hlast
    · next hr => exact (if_pos hr).trans (congrArg some (Entry.status.inj (Option.some.inj hlast)))
    · next hr => exact (if_neg hr).trans (h.cached r msg' hlast)
  known r status hget := by
    rw [lastOf_concat]
    rw [robotStatusCb_getElem?] at hget
    split
    · simp
    · next hr => exact h.known r status ((if_neg hr).symm.trans hget)
  apart := h.apart
  released c hc := (h.released c hc).concat (by simp)
  once := h.once.concat (by simp)

/-- A robot that is selected and not taken was idle at the last entry about it. -/
theorem Fresh.released_of_idleAt {s : State} (h : Fresh numRobots s) {r : String}
    {status : RobotStatus} (hr : s.latestStatus.IdleAt r status) (hfree : ¬ s.Taken numRobots r) :
    Released r s.log := by
  cases hlast : lastOf r s.log with
  | none => exact absurd hlast (h.known r status hr.1)
  | some o =>
    cases o with
    | published a => exact absurd (.inr ⟨a, hlast⟩) hfree
    | status msg =>
      obtain rfl : msg = status := Option.some.inj ((h.cached r msg hlast).symm.trans hr.1)
      exact released_of_last hlast hr.2

theorem Fresh.select {s : State} (h : Fresh numRobots s) {r : String} {status : RobotStatus}
    (hr : s.latestStatus.IdleAt r status) (hfree : ¬ s.Taken numRobots r) (call : Call)
    (hcall : call.assignment.robotId = r) :
    Fresh numRobots { s with selected := s.selected ++ [call] } where
  cached := h.cached
  known := h.known
  apart := by
    refine List.pairwise_append.mpr ⟨h.apart, List.pairwise_singleton .., fun c hc c' hc' heq => ?_⟩
    rw [List.mem_singleton.mp hc', hcall] at heq
    by_contra hknown
    exact hfree (.inl ⟨heq ▸ hknown, c, hc, heq⟩)
  released c hc := by
    obtain hc | rfl := (List.mem_append.mp hc).imp_right List.mem_singleton.mp
    · exact h.released c hc
    · exact hcall ▸ h.released_of_idleAt hr hfree
  once := h.once

theorem Fresh.leaves {s : State} (h : Fresh numRobots s) (call : Call) :
    Fresh numRobots { s with selected := s.selected.erase call } where
  cached := h.cached
  known := h.known
  apart := h.apart.sublist List.erase_sublist
  released c hc := h.released c (List.mem_of_mem_erase hc)
  once := h.once

theorem Fresh.publish {s : State} (h : Fresh numRobots s) (a : TaskAssignment)
    (ha : Released a.robotId s.log) (hne : ∀ c ∈ s.selected, a.robotId ≠ c.assignment.robotId) :
    Fresh numRobots { s with log := s.log ++ [.published a] } where
  cached r msg hlast := by
    rw [lastOf_concat] at hlast
    split at hlast
    · simp at hlast
    · exact h.cached r msg hlast
  known r status hget := by
    rw [lastOf_concat]
    split
    · simp
    · exact h.known r status hget
  apart := h.apart
  released c hc := (h.released c hc).concat fun b hb => Entry.published.inj hb ▸ hne c hc
  once := h.once.concat fun b hb => Entry.published.inj hb ▸ ha

theorem Fresh.step {s : State} {e : Event} (h : Fresh numRobots s)
    (hfree : FreeChoice numRobots socWeight s e) :
    Fresh numRobots (step numRobots socWeight s e) := by
  cases e with
  | robotStatus msg =>
    rw [Allocation.step]
    split
    · exact h
    · exact h.robotStatus msg
  | request th request =>
    rw [Allocation.step]
    split
    · exact h
    · next hbusy =>
      split
      · exact h
      · next best hbest =>
        obtain ⟨status, hr⟩ := selectBestRobot_idleAt hbest
        exact h.select hr (hfree (by simpa using hbusy) best hbest) _ rfl
  | dispatch th idNow stampNow =>
    rw [Allocation.step]
    split
    · exact h
    · next call hcall =>
      have hc := List.mem_of_find?_eq_some hcall
      dsimp only
      cases hidx : robotIndex numRobots (prepare idNow stampNow call.assignment).robotId with
      | none => exact (h.leaves call).server _
      | some i =>
        have hne : ∀ c ∈ s.selected.erase call,
            call.assignment.robotId ≠ c.assignment.robotId := fun c hc' heq => by
          have hnone : robotIndex numRobots call.assignment.robotId = none :=
            apart_of_mem_erase h.apart hc hc' heq
          exact absurd (hidx.symm.trans hnone) (by simp)
        have hpub := (h.leaves call).publish (prepare idNow stampNow call.assignment)
          (h.released call hc) hne
        exact hpub.server _
  | insertTask th => exact h.server _
  | robotCompletes msg => exact h.server _
  | taskCompletion msg =>
    rw [Allocation.step]
    split
    · exact h
    · exact h.server _

/-- **No double dispatch** in a run in which no robot is picked between its assignment and its next
status. -/
theorem no_double_dispatch (tasks : List TaskDoc) (es : List Event)
    (h : Run.Along (step numRobots socWeight) (FreeChoice numRobots socWeight) (.init tasks) es) :
    NoDoubleDispatch (run numRobots socWeight tasks es).log :=
  (h.run_invariant (fun _ _ hs hc => hs.step hc) (fresh_init tasks)).once

/-- A robot reports, gets a task, and reports at work and then idle before it gets another. -/
def pacedRun : List Event :=
  [.robotStatus (statusAt "robot_1" 0 0 4), .request (.grpc 0) (requestAt 0 4),
   .dispatch (.grpc 0) 1 1, .insertTask (.grpc 0), .robotStatus (statusAt "robot_1" 2 0 4),
   .robotStatus (statusAt "robot_1" 0 0 0), .request .executor (requestAt 0 4),
   .dispatch .executor 2 2]

instance (s : State) (r : String) : Decidable (∃ a, lastOf r s.log = some (.published a)) :=
  match h : lastOf r s.log with
  | some (.published a) => isTrue ⟨a, rfl⟩
  | some (.status _) => isFalse (by simp)
  | none => isFalse (by simp)

instance (numRobots : Nat) (s : State) (r : String) : Decidable (s.Taken numRobots r) :=
  inferInstanceAs (Decidable (_ ∨ _))

instance (numRobots : Nat) (socWeight : K) (s : State) :
    ∀ e, Decidable (FreeChoice numRobots socWeight s e)
  | .request _ _ => inferInstanceAs (Decidable (_ → _))
  | .robotStatus _ | .dispatch _ _ _ | .insertTask _ | .robotCompletes _ | .taskCompletion _ =>
    isTrue trivial

theorem no_double_dispatch_paced :
    NoDoubleDispatch (run 1 (1 / 2 : ℚ) [] pacedRun).log ∧
    (run 1 (1 / 2 : ℚ) [] pacedRun).log.length = 5 :=
  ⟨no_double_dispatch [] pacedRun (by decide +kernel), by decide +kernel⟩

/-- A robot reports, is sent a task on a worker's request, and another before its next report. -/
def laggingRun : List Event :=
  [.robotStatus (statusAt "robot_1" 0 0 4), .request (.grpc 0) (requestAt 0 4),
   .dispatch (.grpc 0) 1 1, .insertTask (.grpc 0), .request (.grpc 0) (requestAt 0 4),
   .dispatch (.grpc 0) 2 2]

theorem double_dispatch : ¬ NoDoubleDispatch (run 1 (1 / 2 : ℚ) [] laggingRun).log := by
  let a : TaskAssignment := { requestAt 0 4 with robotId := "robot_1" }
  have hlog : (run 1 (1 / 2 : ℚ) [] laggingRun).log =
      [.status (statusAt "robot_1" 0 0 4), .published (prepare 1 1 a)] ++
        [.published (prepare 2 2 a)] := by decide +kernel
  intro h
  obtain ⟨msg, hmem, -⟩ := h _ _ [] hlog _ rfl [.status (statusAt "robot_1" 0 0 4)] _ [] rfl rfl
  simp at hmem

/-! ## The server inside

It goes through a run of its own steps, and what the log says was published is what it published.
-/

/-- No thread is in two calls. -/
structure Threads (s : State) : Prop where
  distinct : (s.selected.map (·.thread)).Nodup
  apart : ∀ c ∈ s.selected, s.server.busy c.thread = false

def loggedAssignments (log : List Entry) : List TaskAssignment :=
  log.filterMap fun
    | .published a => some a
    | .status _ => none

def publishedAssignments (tr : List Obs) : List TaskAssignment :=
  tr.filterMap fun
    | .published a => some a
    | _ => none

/-- The server does one of its own steps, or nothing. -/
def ServerSteps (numRobots : Nat) (server server' : ServerState) : Prop :=
  server' = server ∨ ∃ ev, server' = FleetServer.step numRobots server ev

/-- A thread that has not begun a call. -/
theorem busy_of_calls {server server' : ServerState} {th : Thread}
    (h : ∀ c ∈ server'.calls, c ∈ server.calls ∨ c.thread ≠ th) (hbusy : server.busy th = false) :
    server'.busy th = false := by
  simp only [ServerState.busy, List.any_eq_false, decide_eq_true_eq] at hbusy ⊢
  exact fun c hc => (h c hc).elim (hbusy c) id

/-- A step of the server that neither begins a call nor publishes. -/
structure Quiet (server server' : ServerState) : Prop where
  calls : ∀ c ∈ server'.calls, c ∈ server.calls
  published : publishedAssignments server'.trace = publishedAssignments server.trace

theorem quiet_insertTask (numRobots : Nat) (server : ServerState) (th : Thread) :
    Quiet server (FleetServer.step numRobots server (.insertTask th)) := by
  rw [FleetServer.step]
  split
  · exact ⟨fun c hc => hc, rfl⟩
  · exact ⟨fun c hc => List.mem_of_mem_erase hc, by simp [insertTask, publishedAssignments]⟩

theorem quiet_robotCompletes (numRobots : Nat) (server : ServerState) (msg : TaskCompletion) :
    Quiet server (FleetServer.step numRobots server (.robotCompletes msg)) := by
  rw [FleetServer.step]
  split
  · exact ⟨fun c hc => hc, by simp [publishedAssignments]⟩
  · exact ⟨fun c hc => hc, rfl⟩

theorem quiet_taskCompletion (numRobots : Nat) (server : ServerState) (msg : TaskCompletion) :
    Quiet server (FleetServer.step numRobots server (.taskCompletion msg)) := by
  rw [FleetServer.step]
  split
  · rw [taskCompletionCb]
    split <;> exact ⟨fun c hc => hc, by simp [publishedAssignments]⟩
  · exact ⟨fun c hc => hc, rfl⟩

theorem calls_dispatch (server : ServerState) (th : Thread) (a : TaskAssignment) :
    ∀ c ∈ (FleetServer.dispatch numRobots th a server).calls, c ∈ server.calls ∨ c.thread = th := by
  intro c hc
  rw [FleetServer.dispatch] at hc
  split at hc
  · exact .inl hc
  · refine (List.mem_append.mp hc).imp_right fun h => ?_
    rw [List.mem_singleton.mp h]

theorem Threads.server {s : State} (h : Threads s) {server : ServerState}
    (hq : Quiet s.server server) : Threads { s with server } where
  distinct := h.distinct
  apart c hc := busy_of_calls (fun c hc => .inl (hq.calls c hc)) (h.apart c hc)

theorem Threads.step {s : State} (h : Threads s) (e : Event) :
    Threads (step numRobots socWeight s e) := by
  cases e with
  | robotStatus msg =>
    rw [Allocation.step]
    split
    · exact h
    · exact ⟨h.distinct, h.apart⟩
  | request th request =>
    rw [Allocation.step]
    split
    · exact h
    · next hbusy =>
      split
      · exact h
      · obtain ⟨hsel, hserver⟩ : (∀ c ∈ s.selected, c.thread ≠ th) ∧ s.server.busy th = false := by
          simpa [State.busy] using hbusy
        refine ⟨?_, ?_⟩
        · rw [List.map_append, List.map_singleton, ← List.concat_eq_append]
          exact h.distinct.concat (by simpa using hsel)
        · simpa [or_imp, forall_and, hserver] using h.apart
  | dispatch th idNow stampNow =>
    rw [Allocation.step]
    split
    · exact h
    · next call hcall =>
      have hc := List.mem_of_find?_eq_some hcall
      have hth : call.thread = th := by simpa using List.find?_some hcall
      refine ⟨h.distinct.sublist (List.erase_sublist.map _), fun c hc' => ?_⟩
      have hne : call.thread ≠ c.thread := ne_of_mem_erase h.distinct hc hc'
      refine busy_of_calls (fun c' hc' => ?_) (h.apart c (List.mem_of_mem_erase hc'))
      refine (calls_dispatch s.server th _ c' hc').imp_right fun h' => ?_
      rw [h', ← hth]
      exact hne
  | insertTask th => exact h.server (quiet_insertTask numRobots s.server th)
  | robotCompletes msg => exact h.server (quiet_robotCompletes numRobots s.server msg)
  | taskCompletion msg =>
    rw [Allocation.step]
    split
    · exact h
    · exact h.server (quiet_taskCompletion numRobots s.server msg)

theorem serverSteps (numRobots : Nat) (socWeight : K) {s : State} (h : Threads s) (e : Event) :
    ServerSteps numRobots s.server (step numRobots socWeight s e).server := by
  cases e with
  | robotStatus msg => exact .inl (by rw [Allocation.step]; split <;> rfl)
  | request th request =>
    refine .inl ?_
    rw [Allocation.step]
    split
    · rfl
    · split <;> rfl
  | dispatch th idNow stampNow =>
    rw [Allocation.step]
    split
    · exact .inl rfl
    · next call hcall =>
      have hth : call.thread = th := by simpa using List.find?_some hcall
      refine .inr ⟨.dispatch th call.assignment idNow stampNow, ?_⟩
      have hbusy := h.apart call (List.mem_of_find?_eq_some hcall)
      rw [FleetServer.step, if_neg (by simp [← hth, hbusy])]
  | insertTask th => exact .inr ⟨.insertTask th, rfl⟩
  | robotCompletes msg => exact .inr ⟨.robotCompletes msg, rfl⟩
  | taskCompletion msg =>
    rw [Allocation.step]
    split
    · exact .inl rfl
    · exact .inr ⟨.taskCompletion msg, rfl⟩

/-- Whatever holds of the runs of `FleetServer.step` holds of the server in here. -/
theorem server_run (tasks : List TaskDoc) (es : List Event) : ∃ es',
    (run numRobots socWeight tasks es).server = FleetServer.run numRobots tasks es' := by
  have hinv : Threads (run numRobots socWeight tasks es) ∧ ∃ es',
      (run numRobots socWeight tasks es).server = FleetServer.run numRobots tasks es' := by
    refine Run.run_invariant (I := fun s : State => Threads s ∧ ∃ es',
      s.server = FleetServer.run numRobots tasks es') ?_
      ⟨⟨by simp [State.init], by simp [State.init]⟩, [], rfl⟩
    rintro s e ⟨hth, es', hes⟩
    refine ⟨hth.step e, ?_⟩
    obtain h | ⟨ev, h⟩ := serverSteps numRobots socWeight hth e
    · exact ⟨es', h.trans hes⟩
    · refine ⟨es' ++ [ev], ?_⟩
      rw [h, hes, FleetServer.run, FleetServer.run, Run.run_append]
      rfl
  exact hinv.2

theorem logged_step {s : State} (h : loggedAssignments s.log = publishedAssignments s.server.trace)
    (e : Event) : loggedAssignments (step numRobots socWeight s e).log =
      publishedAssignments (step numRobots socWeight s e).server.trace := by
  cases e with
  | robotStatus msg =>
    rw [Allocation.step]
    split
    · exact h
    · simpa [loggedAssignments] using h
  | request th request =>
    rw [Allocation.step]
    split
    · exact h
    · split <;> exact h
  | dispatch th idNow stampNow =>
    rw [Allocation.step]
    split
    · exact h
    · next call hcall =>
      dsimp only [FleetServer.dispatch]
      cases robotIndex numRobots (prepare idNow stampNow call.assignment).robotId with
      | none => exact h
      | some i => simpa [loggedAssignments, publishedAssignments] using h
  | insertTask th => exact h.trans (Quiet.published (quiet_insertTask numRobots s.server th)).symm
  | robotCompletes msg =>
    exact h.trans (Quiet.published (quiet_robotCompletes numRobots s.server msg)).symm
  | taskCompletion msg =>
    rw [Allocation.step]
    split
    · exact h
    · exact h.trans (Quiet.published (quiet_taskCompletion numRobots s.server msg)).symm

theorem logged_published (tasks : List TaskDoc) (es : List Event) :
    loggedAssignments (run numRobots socWeight tasks es).log =
      publishedAssignments (run numRobots socWeight tasks es).server.trace :=
  Run.run_invariant
    (I := fun s : State => loggedAssignments s.log = publishedAssignments s.server.trace)
    (fun _ e h => logged_step h e) rfl

end FleetServer.Allocation
