import WarehouseFleet.Fleet.Custody
import WarehouseFleet.Fleet.Refinement
import WarehouseFleet.FleetServer.TaskRecords

/-!
# What the `tasks` collection says of the fleet

A record names the robot its assignment was published to, and says `COMPLETED` only if that robot
has published the completion the record shows (`records_truthful`). Agents report
`RESULT_SUCCESS` only, so no record turns `FAILED` or `CANCELLED` and `task_completion_cb` sends
nothing to `tasks.failed` (`never_failed`).
-/

namespace Fleet

open Fms
open FleetServer
open FleetServer (Ledger)
open RobotAgent (Delivery)

/-! ## Invariants of the server -/

section
variable {K : Type} [Add K] [Sub K] [Mul K] [LT K] [DecidableLT K] [RatCast K] [Sqrt K]

theorem IsServer.steps (numRobots : Nat) (socWeight : K) (s : Allocation.State)
    {ev : Allocation.Event} (h : IsServer ev) :
    FleetServer.Steps numRobots s.server (Allocation.step numRobots socWeight s ev).server := by
  cases ev with
  | request th request =>
    rw [Allocation.step]
    split
    · exact .stays
    · split <;> exact .stays
  | dispatch th idNow stampNow =>
    rw [Allocation.step]
    split
    · exact .stays
    · next call hcall =>
      dsimp only [FleetServer.dispatch]
      cases robotIndex numRobots (prepare idNow stampNow call.assignment).robotId with
      | none => exact .stays
      | some i => exact .dispatches th _
  | insertTask th => exact FleetServer.steps numRobots s.server (.insertTask th)
  | _ => exact h.elim

theorem IsServer.inFlight (numRobots : Nat) (socWeight : K) (s : Allocation.State)
    {ev : Allocation.Event} (h : IsServer ev) :
    (Allocation.step numRobots socWeight s ev).server.inFlight = s.server.inFlight := by
  cases ev with
  | request th request =>
    rw [Allocation.step]
    split
    · rfl
    · split <;> rfl
  | dispatch th idNow stampNow =>
    rw [Allocation.step]
    split
    · rfl
    · next call hcall =>
      dsimp only [FleetServer.dispatch]
      cases robotIndex numRobots (prepare idNow stampNow call.assignment).robotId <;> rfl
  | insertTask th =>
    rw [Allocation.step, FleetServer.step]
    split <;> rfl
  | _ => exact h.elim

/-- **What every step of a server keeps, the server of a fleet keeps.** -/
theorem server_invariant {I : ServerState → Prop} (l : Launch K)
    (h : ∀ s s', I s → FleetServer.Steps l.numRobots s s' → I s') (hinit : I { tasks := l.tasks })
    (es : List Event) : I (l.run es).server.server := by
  have hinv : (l.run es).server.server.inFlight = [] ∧ I (l.run es).server.server := by
    refine Run.run_invariant
      (I := fun s : State => s.server.server.inFlight = [] ∧ I s.server.server) ?_ ⟨rfl, hinit⟩
    rintro s ev ⟨hnone, hI⟩
    have hstep := steps l s ev
    generalize Fleet.step l s ev = s' at hstep ⊢
    cases hstep with
    | server ev hev =>
      exact ⟨(hev.inFlight l.numRobots l.socWeight s.server).trans hnone,
        h _ _ hI (hev.steps l.numRobots l.socWeight s.server)⟩
    | robotStatus i msg hmsg hi hfree =>
      rw [Allocation.step, hfree]
      exact ⟨hnone, hI⟩
    | taskCompletion i msg hmsg hi hfree =>
      refine ⟨by rw [taskCompletionCb_eq]; exact hnone, ?_⟩
      have hcompletes := h _ _ hI (.completes msg)
      rw [hnone] at hcompletes
      have heq : { s.server.server with inFlight := List.erase [] msg } = s.server.server := by
        rw [List.erase_nil, ← hnone]
      rwa [heq] at hcompletes
    | _ => exact ⟨hnone, hI⟩
  exact hinv.2

end

/-! ## Assignments that are recorded -/

/-- Only what has been published is recorded. -/
structure Booked (s : ServerState) : Prop where
  calls : ∀ c ∈ s.calls, .published c.assignment ∈ s.trace
  recorded : ∀ a, .recorded a ∈ s.trace → .published a ∈ s.trace

theorem Booked.grow {s s' : ServerState} (h : Booked s) (hcalls : ∀ c ∈ s'.calls, c ∈ s.calls)
    {new : List FleetServer.Obs} (ht : s'.trace = s.trace ++ new)
    (hnew : ∀ a, .recorded a ∈ new → .published a ∈ s.trace) : Booked s' where
  calls c hc := by
    rw [ht]
    exact List.mem_append_left _ (h.calls c (hcalls c hc))
  recorded a ha := by
    rw [ht] at ha ⊢
    obtain ha | ha := List.mem_append.mp ha
    · exact List.mem_append_left _ (h.recorded a ha)
    · exact List.mem_append_left _ (hnew a ha)

theorem Booked.step {numRobots : Nat} {s s' : ServerState} (h : Booked s)
    (hs : FleetServer.Steps numRobots s s') : Booked s' := by
  cases hs with
  | stays => exact h
  | dispatches th a =>
    refine ⟨fun c hc => ?_, fun a' ha' => ?_⟩
    · obtain hc | hc := List.mem_append.mp hc
      · exact List.mem_append_left _ (h.calls c hc)
      · exact List.mem_append_right _ (by simp [List.mem_singleton.mp hc])
    · obtain ha' | ha' := List.mem_append.mp ha'
      · exact List.mem_append_left _ (h.recorded a' ha')
      · simp at ha'
  | records call hc =>
    refine h.grow (fun c hc' => List.mem_of_mem_erase hc') rfl fun a ha => ?_
    obtain rfl : a = call.assignment := by simpa using ha
    exact h.calls call hc
  | sends msg => exact h.grow (fun c hc => hc) rfl (by simp)
  | completes msg =>
    rw [taskCompletionCb_eq]
    refine h.grow (fun c hc => hc) rfl fun a ha => ?_
    by_cases hresult : msg.result = TaskCompletion.resultSuccess <;>
      simp [completionObs, hresult] at ha

/-- A task that was not known is recorded for the robot of one of its assignments. -/
theorem ledger_robot {t : String} {ledger : Ledger} (hnone : ledger t = none)
    (tr : List FleetServer.Obs) {rec : TaskRecord}
    (hrec : tr.foldl Ledger.observe ledger t = some rec) :
    ∃ a, .recorded a ∈ tr ∧ a.taskId = t ∧ rec.robotId = a.robotId := by
  induction tr using List.reverseRecOn generalizing rec with
  | nil => simp [hnone] at hrec
  | append_singleton tr o ih =>
    rw [List.foldl_append, List.foldl_cons, List.foldl_nil] at hrec
    have known : ∀ rec', tr.foldl Ledger.observe ledger t = some rec' →
        rec.robotId = rec'.robotId →
        ∃ a, .recorded a ∈ tr ++ [o] ∧ a.taskId = t ∧ rec.robotId = a.robotId := by
      intro rec' hrec' heq
      obtain ⟨a, ha, hid, hrobot⟩ := ih hrec'
      exact ⟨a, List.mem_append_left _ ha, hid, heq.trans hrobot⟩
    cases o with
    | recorded a =>
      rw [Ledger.observe, Ledger.assign] at hrec
      cases hknown : tr.foldl Ledger.observe ledger t with
      | some rec' =>
        rw [hknown, Option.some_or] at hrec
        exact known rec' hknown (by rw [Option.some.inj hrec])
      | none =>
        rw [hknown, Option.none_or] at hrec
        split at hrec
        · next hid => exact ⟨a, by simp, hid, by rw [← Option.some.inj hrec]⟩
        · cases hrec
    | completed msg =>
      rw [Ledger.observe, Ledger.complete] at hrec
      split at hrec
      · obtain ⟨rec', hrec', heq⟩ := Option.map_eq_some_iff.mp hrec
        exact known rec' hrec' (by rw [← heq])
      · exact known rec hrec rfl
    | published a => exact known rec hrec rfl
    | sent msg => exact known rec hrec rfl
    | failed doc => exact known rec hrec rfl

/-! ## Main results -/

/-- The record of an assignment to robot `i` says where it went, and what came of it. -/
structure Truthful (s : State) (i : Nat) (a : TaskAssignment) (rec : TaskRecord) : Prop where
  robotId : rec.robotId = robotName i
  status : rec.status = "ASSIGNED" ∨
    ∃ msg ∈ RobotAgent.completions (s.agents i).world.trace,
      msg.taskId = a.taskId ∧ rec.status = "COMPLETED" ∧ rec.Shows msg

section
variable {K : Type} {l : Launch K} {s : State}

/-- A completion of a task comes from a robot the task was published to. -/
theorem Linked.completedBy (h : Linked l s) {msg : TaskCompletion}
    (hmsg : msg ∈ Fleet.processed s.server.server.trace) (hid : msg.taskId ≠ "") :
    ∃ i, msg ∈ RobotAgent.completions (s.agents i).world.trace ∧
      msg.taskId ∈ (assignedTo l.numRobots i s.server.server.trace).map (·.taskId) := by
  obtain ⟨i, -, hdelivered⟩ := h.processedFrom msg hmsg
  have hpublished := (s.completions i).delivered_sublist.subset hdelivered
  rw [h.completions i] at hpublished
  refine ⟨i, hpublished, ?_⟩
  obtain ⟨hno, -⟩ | ⟨d, hd, hd', -⟩ := ((h.signs i).completes hpublished).task
  · exact absurd hno hid
  · have hd'' : d.msg ∈ (s.assignments i).delivered := by
      rw [← h.received i]
      exact List.mem_map_of_mem hd
    rw [hd', ← h.assigned i]
    exact List.mem_map_of_mem ((s.assignments i).delivered_sublist.subset hd'')

end

theorem processed_of_lastCompletion {t : String} {tr : List FleetServer.Obs} {msg : TaskCompletion}
    (h : lastCompletion t tr = some msg) : msg ∈ processed tr ∧ msg.taskId = t := by
  obtain ⟨o, ho, hmsg⟩ := List.mem_filterMap.mp (List.mem_of_getLast? h)
  cases o with
  | completed msg' =>
    dsimp only at hmsg
    split at hmsg
    · next hid =>
      obtain rfl := Option.some.inj hmsg
      exact ⟨List.mem_filterMap.mpr ⟨_, ho, rfl⟩, hid⟩
    · cases hmsg
  | _ => cases hmsg

theorem named_of_found {server : ServerState} (h : Named server) {t : String} {rec : TaskRecord}
    (hrec : getTaskStatus t server = some rec) : t ≠ "" := by
  rintro rfl
  have hnone : getTaskStatus "" server = none := by
    rw [getTaskStatus, MongoStore.findTask, Collection.findOne_eq_none.mpr h.tasks]
    rfl
  exact absurd (hnone.symm.trans hrec) (by simp)

section
variable {K : Type} [Add K] [Sub K] [Mul K] [LT K] [DecidableLT K] [RatCast K] [Sqrt K]

/-- **The collection tells the truth about the robots**, if ids are not used twice. -/
theorem records_truthful (l : Launch K) (es : List Event) (hids : DistinctIds (l.run es))
    (hfresh : ∀ a, .published a ∈ (l.run es).server.server.trace →
      ∀ doc ∈ l.tasks, doc.taskId ≠ a.taskId) (i : Nat) :
    ∀ a ∈ assignedTo l.numRobots i (l.run es).server.server.trace,
      ∀ rec, getTaskStatus a.taskId (l.run es).server.server = some rec →
        Truthful (l.run es) i a rec := by
  intro a ha rec hrec
  obtain ⟨fs, hlinked, hnamed, -⟩ := matches_run l es
  have haccounted : Accounted l.tasks (l.run es).server.server :=
    server_invariant (I := Accounted l.tasks) l (fun _ _ h hs => h.step hs) (by rfl) es
  have hbooked : Booked (l.run es).server.server :=
    server_invariant l (fun _ _ h hs => h.step hs) ⟨by simp, by simp⟩ es
  generalize l.run es = s at *
  obtain ⟨hpub, -, hname⟩ := mem_assignedTo.mp ha
  have hmem := List.mem_map_of_mem (f := fun a : TaskAssignment => a.taskId) ha
  have hnone : MongoStore.ledger l.tasks a.taskId = none := by
    rw [MongoStore.ledger, MongoStore.findTask, Collection.findOne_eq_none.mpr (hfresh a hpub)]
    rfl
  have hledger : s.server.server.trace.foldl Ledger.observe (MongoStore.ledger l.tasks) a.taskId =
      some rec := by
    rw [← haccounted]
    exact hrec
  refine ⟨?_, ?_⟩
  · obtain ⟨b, hb, hid, hrobot⟩ := ledger_robot hnone _ hledger
    obtain rfl : b = a := List.inj_on_of_nodup_map hids
      (mem_publishedAssignments.mpr (hbooked.recorded b hb))
      (mem_publishedAssignments.mpr hpub) hid
    exact hrobot.trans hname
  · have htells := Ledger.tells hnone s.server.server.trace
    by_cases hrecorded : a.taskId ∈ recordedIds s.server.server.trace
    · by_cases hfirst : RecordedFirst a.taskId s.server.server.trace
      · obtain ⟨msg, rec', hlast, hrec', hshows⟩ := htells.ended hfirst
        obtain rfl : rec' = rec := Option.some.inj (hrec'.symm.trans hledger)
        obtain ⟨hprocessed, hid⟩ := processed_of_lastCompletion hlast
        obtain ⟨j, hj, hto⟩ :=
          hlinked.completedBy hprocessed (hid ▸ named_of_found hnamed hrec)
        obtain rfl : j = i := hids.robot (hid ▸ hto) hmem
        have hresult := ((hlinked.signs j).completes hj).result
        exact .inr ⟨msg, hj, hid, by rw [hshows.status, hresult]; rfl, hshows⟩
      · obtain ⟨rec', hrec', hassigned⟩ := htells.assigned hrecorded hfirst
        obtain rfl : rec' = rec := Option.some.inj (hrec'.symm.trans hledger)
        exact .inl hassigned
    · exact absurd (hledger.symm.trans (htells.unknown hrecorded)) (by simp)

/-- A task that was sent, got to the first robot, was delivered, and is so recorded. -/
theorem records_truthful_delivered :
    ∃ a ∈ assignedTo 2 0 (Launch.sample.run deliveredRun).server.server.trace, ∃ rec,
      getTaskStatus a.taskId (Launch.sample.run deliveredRun).server.server = some rec ∧
      rec.status = "COMPLETED" ∧ Truthful (Launch.sample.run deliveredRun) 0 a rec := by
  have hcompleted : ((assignedTo 2 0
      (Launch.sample.run deliveredRun).server.server.trace).head?.bind fun a =>
        (getTaskStatus a.taskId (Launch.sample.run deliveredRun).server.server).map (·.status)) =
      some "COMPLETED" := by decide +kernel
  obtain ⟨a, hhead, hstatus⟩ := Option.bind_eq_some_iff.mp hcompleted
  obtain ⟨rec, hrec, hcompleted⟩ := Option.map_eq_some_iff.mp hstatus
  have ha := List.mem_of_mem_head? hhead
  exact ⟨a, ha, rec, hrec, hcompleted, records_truthful Launch.sample deliveredRun
    (by decide +kernel) (by simp [Launch.sample]) 0 a ha rec hrec⟩

/-! ## The end that no task of a robot comes to -/

/-- No task of a robot has failed, as far as the server can tell. -/
structure Unfailed (docs : List TaskDoc) (s : ServerState) : Prop where
  /-- `task_completion_cb` has sent nothing to `tasks.failed`. -/
  trace : ∀ doc, .failed doc ∉ s.trace
  tasks : ∀ doc ∈ s.tasks, doc.status = "ASSIGNED" ∨ doc.status = "COMPLETED" ∨
    ∃ old ∈ docs, old.taskId = doc.taskId ∧ old.status = doc.status

theorem Unfailed.server {docs : List TaskDoc} (numRobots : Nat) (socWeight : K)
    {s : Allocation.State} (h : Unfailed docs s.server) {ev : Allocation.Event}
    (hev : IsServer ev) : Unfailed docs (Allocation.step numRobots socWeight s ev).server := by
  cases ev with
  | request th request =>
    rw [Allocation.step]
    split
    · exact h
    · split <;> exact h
  | dispatch th idNow stampNow =>
    rw [Allocation.step]
    split
    · exact h
    · next call hcall =>
      dsimp only [FleetServer.dispatch]
      cases robotIndex numRobots (prepare idNow stampNow call.assignment).robotId with
      | none => exact h
      | some i => exact ⟨by simpa using h.trace, h.tasks⟩
  | insertTask th =>
    rw [Allocation.step, FleetServer.step]
    split
    · exact h
    · next call hcall =>
      refine ⟨by simpa [insertTask] using h.trace, fun doc hdoc => ?_⟩
      obtain hdoc | hdoc := List.mem_append.mp hdoc
      · exact h.tasks doc hdoc
      · rw [List.mem_singleton.mp hdoc]
        exact .inl rfl
  | _ => exact hev.elim

theorem Unfailed.taskCompletion {docs : List TaskDoc} {s : ServerState} (h : Unfailed docs s)
    {msg : TaskCompletion} (hresult : msg.result = TaskCompletion.resultSuccess) :
    Unfailed docs (taskCompletionCb msg s) := by
  rw [taskCompletionCb_eq]
  refine ⟨by simpa [completionObs, hresult] using h.trace, fun doc hdoc => ?_⟩
  obtain hdoc | ⟨doc', -, rfl⟩ := Collection.mem_updateOne hdoc
  · exact h.tasks doc hdoc
  · exact .inr (.inl (by rw [TaskDoc.complete, hresult]; rfl))

/-- **No task of a robot ends as FAILED or CANCELLED**, and none is sent to `tasks.failed`. -/
theorem never_failed (l : Launch K) (es : List Event) :
    Unfailed l.tasks (l.run es).server.server := by
  have hinv : Linked l (l.run es) ∧ Unfailed l.tasks (l.run es).server.server := by
    refine Run.run_invariant
      (I := fun s : State => Linked l s ∧ Unfailed l.tasks s.server.server) ?_
      ⟨linked_init l, by simp [Launch.init, Allocation.State.init],
        fun doc hdoc => .inr (.inr ⟨doc, hdoc, rfl, rfl⟩)⟩
    rintro s ev ⟨hlinked, h⟩
    refine ⟨hlinked.step ev, ?_⟩
    have hstep := steps l s ev
    generalize Fleet.step l s ev = s' at hstep ⊢
    cases hstep with
    | server ev hev => exact h.server l.numRobots l.socWeight hev
    | robotStatus i msg hmsg hi hfree =>
      rw [Allocation.step, hfree]
      exact h
    | taskCompletion i msg hmsg hi hfree =>
      exact h.taskCompletion (hlinked.mayComplete (Topic.mem_published_of_head? hmsg)).1
    | _ => exact h
  exact hinv.2

end

end Fleet
