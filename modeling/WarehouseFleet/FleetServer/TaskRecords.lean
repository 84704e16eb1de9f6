import Mathlib.Data.List.DropRight
import Mathlib.Data.List.Induction
import WarehouseFleet.FleetServer.Dispatch

/-!
# Task records follow the task

The collection is a ledger of what was recorded and completed, in the order of the trace
(`ledger_run`). A completion that comes before the record of its task finds no document and is
lost: the record shows the last completion if and only if that one came after it
(`record_follows_task`).
-/

namespace FleetServer

open Fms

/-! ## What the trace says about a task -/

def publishedIds (tr : List Obs) : List String :=
  tr.filterMap fun
    | .published a => some a.taskId
    | _ => none

def recordedIds (tr : List Obs) : List String :=
  tr.filterMap fun
    | .recorded a => some a.taskId
    | _ => none

/-- The entry is a completion of the task. -/
def Obs.completes (t : String) : Obs → Bool
  | .completed msg => msg.taskId = t
  | _ => false

def completions (t : String) (tr : List Obs) : List TaskCompletion :=
  tr.filterMap fun
    | .completed msg => if msg.taskId = t then some msg else none
    | _ => none

def lastCompletion (t : String) (tr : List Obs) : Option TaskCompletion :=
  (completions t tr).getLast?

/-- The task was recorded before its last completion was processed. -/
def RecordedFirst (t : String) (tr : List Obs) : Prop :=
  t ∈ recordedIds (tr.rdropWhile fun o => !o.completes t)

instance (t : String) (tr : List Obs) : Decidable (RecordedFirst t tr) :=
  inferInstanceAs (Decidable (_ ∈ _))

/-- The record reports this completion. -/
structure TaskRecord.Shows (rec : TaskRecord) (msg : TaskCompletion) : Prop where
  status : rec.status = taskResultToString msg.result
  finished : rec.status ≠ "ASSIGNED"
  result : rec.result = msg.result.toNat
  durationSecs : rec.durationSecs = msg.durationSecs
  errorMessage : rec.errorMessage = msg.errorMessage

/-- `get_task_status` finds the task and reports its last completion. -/
def Follows (t : String) (s : ServerState) : Prop :=
  ∀ msg, lastCompletion t s.trace = some msg → ∃ rec, getTaskStatus t s = some rec ∧ rec.Shows msg

section
variable {t : String} {tr : List Obs} {o : Obs}

theorem exists_of_mem_publishedIds (h : t ∈ publishedIds tr) :
    ∃ a, .published a ∈ tr ∧ a.taskId = t := by
  obtain ⟨o, ho, ht⟩ := List.mem_filterMap.mp h
  split at ht
  · next a => exact ⟨a, ho, Option.some.inj ht⟩
  · cases ht

theorem mem_recordedIds {a : TaskAssignment} (h : .recorded a ∈ tr) : a.taskId ∈ recordedIds tr :=
  List.mem_filterMap.mpr ⟨.recorded a, h, rfl⟩

theorem recordedIds_concat_of_ne (ho : ∀ a, o ≠ .recorded a) :
    recordedIds (tr ++ [o]) = recordedIds tr := by
  cases o with
  | recorded a => exact absurd rfl (ho a)
  | _ => simp [recordedIds]

theorem recordedIds_concat (a : TaskAssignment) :
    recordedIds (tr ++ [.recorded a]) = recordedIds tr ++ [a.taskId] := by
  simp [recordedIds]

theorem lastCompletion_concat (ho : o.completes t = false) :
    lastCompletion t (tr ++ [o]) = lastCompletion t tr := by
  cases o with
  | completed msg =>
    have : msg.taskId ≠ t := by simpa [Obs.completes] using ho
    simp [lastCompletion, completions, this]
  | _ => simp [lastCompletion, completions]

theorem lastCompletion_concat_completed {msg : TaskCompletion} (h : msg.taskId = t) :
    lastCompletion t (tr ++ [.completed msg]) = some msg := by
  simp [lastCompletion, completions, h]

theorem recordedFirst_concat (ho : o.completes t = false) :
    RecordedFirst t (tr ++ [o]) ↔ RecordedFirst t tr := by
  rw [RecordedFirst, List.rdropWhile_concat_pos _ _ _ (by simp [ho]), RecordedFirst]

theorem recordedFirst_concat_completed {msg : TaskCompletion} (h : msg.taskId = t) :
    RecordedFirst t (tr ++ [.completed msg]) ↔ t ∈ recordedIds tr := by
  rw [RecordedFirst, List.rdropWhile_concat_neg _ _ _ (by simp [Obs.completes, h]),
    recordedIds_concat_of_ne (by simp)]

theorem RecordedFirst.recorded (h : RecordedFirst t tr) : t ∈ recordedIds tr :=
  ((List.rdropWhile_prefix _ _).sublist.filterMap _).subset h

end

theorem taskResultToString_ne_assigned (result : UInt8) :
    taskResultToString result ≠ "ASSIGNED" := by
  unfold taskResultToString
  split
  · decide
  · split
    · decide
    · split <;> decide

/-! ## The ledger -/

namespace Ledger

def observe (ledger : Ledger) : Obs → Ledger
  | .recorded a => ledger.assign a
  | .completed msg => ledger.complete msg
  | _ => ledger

/-- What a ledger that did not know the task says of it after a trace. -/
structure Tells (t : String) (ledger : Ledger) (tr : List Obs) : Prop where
  unknown : t ∉ recordedIds tr → ledger t = none
  ended : RecordedFirst t tr →
    ∃ msg rec, lastCompletion t tr = some msg ∧ ledger t = some rec ∧ rec.Shows msg
  assigned : t ∈ recordedIds tr → ¬ RecordedFirst t tr →
    ∃ rec, ledger t = some rec ∧ rec.status = "ASSIGNED"

variable {t : String} {ledger : Ledger} {tr : List Obs}

theorem Tells.known (h : Tells t ledger tr) (hm : t ∈ recordedIds tr) :
    ∃ rec, ledger t = some rec := by
  by_cases hf : RecordedFirst t tr
  · obtain ⟨-, rec, -, hrec, -⟩ := h.ended hf
    exact ⟨rec, hrec⟩
  · obtain ⟨rec, hrec, -⟩ := h.assigned hm hf
    exact ⟨rec, hrec⟩

/-- Entries that neither record nor complete the task. -/
theorem Tells.concat (h : Tells t ledger tr) {o : Obs} (ho : o.completes t = false)
    (hr : t ∈ recordedIds (tr ++ [o]) ↔ t ∈ recordedIds tr)
    (hl : ledger.observe o t = ledger t) : Tells t (ledger.observe o) (tr ++ [o]) where
  unknown hn := by
    rw [hl]
    exact h.unknown (fun hm => hn (hr.mpr hm))
  ended hf := by
    rw [hl, lastCompletion_concat ho]
    exact h.ended ((recordedFirst_concat ho).mp hf)
  assigned hm hf := by
    rw [hl]
    exact h.assigned (hr.mp hm) fun hf' => hf ((recordedFirst_concat ho).mpr hf')

theorem Tells.recorded (h : Tells t ledger tr) (a : TaskAssignment) :
    Tells t (ledger.observe (.recorded a)) (tr ++ [.recorded a]) := by
  by_cases hnew : a.taskId = t ∧ t ∉ recordedIds tr
  · obtain ⟨rfl, hn⟩ := hnew
    have hfirst : ¬ RecordedFirst a.taskId (tr ++ [.recorded a]) := fun hf =>
      hn ((recordedFirst_concat (by rfl)).mp hf).recorded
    refine ⟨fun hn' => (hn' (by simp [recordedIds_concat])).elim, fun hf => (hfirst hf).elim,
      fun _ _ => ?_⟩
    rw [observe, assign, h.unknown hn, if_pos rfl]
    exact ⟨_, rfl, rfl⟩
  · have hr : t ∈ recordedIds (tr ++ [.recorded a]) ↔ t ∈ recordedIds tr := by
      rw [recordedIds_concat, List.mem_append, List.mem_singleton]
      refine ⟨fun hm => hm.elim id fun ht => ?_, Or.inl⟩
      by_contra hn
      exact hnew ⟨ht.symm, hn⟩
    refine h.concat rfl hr ?_
    rw [observe, assign]
    by_cases ht : a.taskId = t
    · -- recorded a second time: `find_one` still finds the first document
      have hm : t ∈ recordedIds tr := by
        by_contra hn
        exact hnew ⟨ht, hn⟩
      obtain ⟨rec, hrec⟩ := h.known hm
      rw [hrec]
      rfl
    · rw [if_neg ht, Option.or_none]

theorem Tells.completed (h : Tells t ledger tr) (msg : TaskCompletion) :
    Tells t (ledger.observe (.completed msg)) (tr ++ [.completed msg]) := by
  by_cases ht : msg.taskId = t
  · subst ht
    have hshow : ∀ rec, ledger msg.taskId = some rec → ∃ rec',
        ledger.observe (.completed msg) msg.taskId = some rec' ∧ rec'.Shows msg := by
      intro rec hrec
      rw [observe, complete, if_pos rfl, hrec]
      exact ⟨_, rfl, rfl, taskResultToString_ne_assigned _, rfl, rfl, rfl⟩
    refine ⟨fun hn => ?_, fun hf => ?_, fun hm hf => ?_⟩
    · rw [recordedIds_concat_of_ne (by simp)] at hn
      rw [observe, complete, if_pos rfl, h.unknown hn]
      rfl
    · have hm := (recordedFirst_concat_completed rfl).mp hf
      obtain ⟨rec, hrec⟩ := h.known hm
      obtain ⟨rec', hrec', hs⟩ := hshow rec hrec
      exact ⟨msg, rec', lastCompletion_concat_completed rfl, hrec', hs⟩
    · rw [recordedIds_concat_of_ne (by simp)] at hm
      exact (hf ((recordedFirst_concat_completed rfl).mpr hm)).elim
  · refine h.concat (by simpa [Obs.completes] using ht) ?_ ?_
    · rw [recordedIds_concat_of_ne (by simp)]
    · rw [observe, complete, if_neg (Ne.symm ht)]

/-- **The ledger after a trace**, by induction on the trace. -/
theorem tells (h : ledger t = none) (tr : List Obs) : Tells t (tr.foldl observe ledger) tr := by
  induction tr using List.reverseRecOn with
  | nil =>
    exact ⟨fun _ => h, fun hf => by simp [RecordedFirst, recordedIds] at hf,
      fun hm => by simp [recordedIds] at hm⟩
  | append_singleton tr o ih =>
    rw [List.foldl_append, List.foldl_cons, List.foldl_nil]
    cases o with
    | recorded a => exact ih.recorded a
    | completed msg => exact ih.completed msg
    | published a => exact ih.concat rfl (by simp [recordedIds]) rfl
    | sent msg => exact ih.concat rfl (by simp [recordedIds]) rfl
    | failed doc => exact ih.concat rfl (by simp [recordedIds]) rfl

end Ledger

/-! ## Runs -/

section
variable {numRobots : Nat} {docs : List TaskDoc}

/-- The collection is the ledger of the trace. -/
def Accounted (docs : List TaskDoc) (s : ServerState) : Prop :=
  MongoStore.ledger s.tasks = s.trace.foldl Ledger.observe (MongoStore.ledger docs)

/-- Entries that are no assignment and no completion leave the ledger alone. -/
theorem Accounted.emit {s : ServerState} (h : Accounted docs s) (o : Obs)
    (ho : ∀ ledger : Ledger, ledger.observe o = ledger) : Accounted docs (s.emit o) := by
  rw [Accounted, ServerState.emit_trace, List.foldl_append, ← h]
  exact (ho _).symm

theorem Accounted.step {s s' : ServerState} (h : Accounted docs s) (hs : Steps numRobots s s') :
    Accounted docs s' := by
  cases hs with
  | stays => exact h
  | dispatches th a => exact Accounted.emit (by exact h) _ fun _ => rfl
  | sends msg => exact Accounted.emit (by exact h) _ fun _ => rfl
  | records call =>
    rw [Accounted, insertTask, ServerState.emit_trace, List.foldl_append, ← h]
    exact MongoStore.ledger_insertTask call.assignment s.tasks
  | completes msg =>
    have hdone : Accounted docs ({ s with
        inFlight := s.inFlight.erase msg
        tasks := MongoStore.updateTaskCompletion msg s.tasks }.emit (.completed msg)) := by
      rw [Accounted, ServerState.emit_trace, List.foldl_append, ← h]
      exact MongoStore.ledger_updateTaskCompletion msg s.tasks
    rw [taskCompletionCb]
    split
    · exact hdone.emit _ fun _ => rfl
    · exact hdone

/-- What is published is being recorded, or has been. -/
def Recording (s : ServerState) : Prop :=
  ∀ a, .published a ∈ s.trace → (∃ call ∈ s.calls, call.assignment = a) ∨ .recorded a ∈ s.trace

theorem Recording.emit {s : ServerState} (h : Recording s) {o : Obs}
    (ho : ∀ a, .published a ≠ o) : Recording (s.emit o) := by
  intro a ha
  rw [ServerState.emit_trace, List.mem_append, List.mem_singleton] at ha
  exact (h a (ha.resolve_right (ho a))).imp id (List.mem_append_left _)

theorem Recording.step {s s' : ServerState} (h : Recording s) (hs : Steps numRobots s s') :
    Recording s' := by
  cases hs with
  | stays => exact h
  | dispatches th a =>
    intro a' ha
    rcases List.mem_append.mp ha with ha | ha
    · rcases h a' ha with ⟨call, hc, hca⟩ | hr
      · exact Or.inl ⟨call, List.mem_append_left _ hc, hca⟩
      · exact Or.inr (List.mem_append_left _ hr)
    · obtain rfl : a' = a := Obs.published.inj (List.mem_singleton.mp ha)
      exact Or.inl ⟨⟨th, a'⟩, List.mem_append_right _ (List.mem_singleton.mpr rfl), rfl⟩
  | sends msg => exact Recording.emit (by exact h) (by simp)
  | records call hc =>
    intro a ha
    rw [insertTask, ServerState.emit_trace, List.mem_append, List.mem_singleton] at ha
    rcases h a (ha.resolve_right (by simp)) with ⟨call', hc', rfl⟩ | hr
    · by_cases heq : call' = call
      · subst heq
        exact Or.inr (List.mem_append_right _ (List.mem_singleton.mpr rfl))
      · exact Or.inl ⟨call', (List.mem_erase_of_ne heq).mpr hc', rfl⟩
    · exact Or.inr (List.mem_append_left _ hr)
  | completes msg =>
    have hdone : Recording ({ s with
        inFlight := s.inFlight.erase msg
        tasks := MongoStore.updateTaskCompletion msg s.tasks }.emit (.completed msg)) :=
      Recording.emit (by exact h) (by simp)
    rw [taskCompletionCb]
    split
    · exact hdone.emit (by simp)
    · exact hdone

theorem run_accounted (numRobots : Nat) (docs : List TaskDoc) (es : List Event) :
    Accounted docs (run numRobots docs es) :=
  Run.run_invariant (fun s ev hs => hs.step (steps numRobots s ev)) (by rfl)

theorem run_recording (numRobots : Nat) (docs : List TaskDoc) (es : List Event) :
    Recording (run numRobots docs es) :=
  Run.run_invariant (fun s ev hs => hs.step (steps numRobots s ev)) fun _ h => by cases h

end

/-! ## Main result -/

/-- **The record shows the last completion** of a task if and only if the task was recorded
before that completion was processed. -/
theorem record_follows_task (numRobots : Nat) (docs : List TaskDoc) (es : List Event) (t : String)
    (hfresh : ∀ doc ∈ docs, doc.taskId ≠ t)
    (hdispatched : t ∈ publishedIds (run numRobots docs es).trace)
    (hreturned : (run numRobots docs es).calls = [])
    (hcompleted : (lastCompletion t (run numRobots docs es).trace).isSome) :
    Follows t (run numRobots docs es) ↔ RecordedFirst t (run numRobots docs es).trace := by
  have hacc := run_accounted numRobots docs es
  have hrec := run_recording numRobots docs es
  generalize run numRobots docs es = s at *
  have hnone : MongoStore.ledger docs t = none := by
    rw [MongoStore.ledger, MongoStore.findTask, Collection.findOne_eq_none.mpr hfresh]
    rfl
  have htells := Ledger.tells hnone s.trace
  rw [← hacc] at htells
  have hrecorded : t ∈ recordedIds s.trace := by
    obtain ⟨a, ha, rfl⟩ := exists_of_mem_publishedIds hdispatched
    rcases hrec a ha with ⟨call, hc, -⟩ | hr
    · rw [hreturned] at hc
      cases hc
    · exact mem_recordedIds hr
  constructor
  · intro hf
    by_contra hn
    obtain ⟨msg, hm⟩ := Option.isSome_iff_exists.mp hcompleted
    obtain ⟨rec, hrec, hs⟩ := hf msg hm
    obtain ⟨rec', hrec', hstatus⟩ := htells.assigned hrecorded hn
    obtain rfl : rec = rec' := Option.some.inj (hrec.symm.trans hrec')
    exact hs.finished hstatus
  · intro hf msg hm
    obtain ⟨msg', rec, hm', hrec, hs⟩ := htells.ended hf
    obtain rfl : msg = msg' := Option.some.inj (hm.symm.trans hm')
    exact ⟨rec, hrec, hs⟩

/-! ## Two runs -/

def sampleRequest : TaskAssignment where
  stamp := 0
  taskId := "a"
  robotId := "robot_1"
  taskType := 0
  pickPose := Pose.default
  dropPose := Pose.default
  payloadId := ""
  priority := 1
  deadlineSecs := 300

def sampleCompletion : TaskCompletion where
  stamp := 9
  taskId := "a"
  robotId := "robot_1"
  result := TaskCompletion.resultSuccess
  durationSecs := 4
  errorMessage := ""

/-- The gRPC worker records the task before the robot is done. -/
def orderlyRun : List Event :=
  [ .dispatch (.grpc 0) sampleRequest 1 2
  , .insertTask (.grpc 0)
  , .robotCompletes sampleCompletion
  , .taskCompletion sampleCompletion ]

theorem record_follows_task_orderly : Follows "a" (run 1 [] orderlyRun) :=
  (record_follows_task 1 [] orderlyRun "a" (by decide) (by decide +kernel) (by decide +kernel)
    (by decide +kernel)).mpr (by decide +kernel)

/-- The completion is processed while the gRPC worker is about to record the task. -/
def overtakenRun : List Event :=
  [ .dispatch (.grpc 0) sampleRequest 1 2
  , .robotCompletes sampleCompletion
  , .taskCompletion sampleCompletion
  , .insertTask (.grpc 0) ]

/-- The task is ASSIGNED for ever, although its only completion has been processed. -/
theorem record_left_assigned : (publishedIds (run 1 [] overtakenRun).trace) = ["a"] ∧
    (run 1 [] overtakenRun).calls = [] ∧
    lastCompletion "a" (run 1 [] overtakenRun).trace = some sampleCompletion ∧
    (getTaskStatus "a" (run 1 [] overtakenRun)).map (·.status) = some "ASSIGNED" ∧
    ¬ Follows "a" (run 1 [] overtakenRun) := by
  have hlast : lastCompletion "a" (run 1 [] overtakenRun).trace = some sampleCompletion := by
    decide +kernel
  have hstatus : (getTaskStatus "a" (run 1 [] overtakenRun)).map (·.status) = some "ASSIGNED" := by
    decide +kernel
  refine ⟨by decide +kernel, by decide +kernel, hlast, hstatus, fun h => ?_⟩
  obtain ⟨rec, hrec, hs⟩ := h sampleCompletion hlast
  rw [hrec] at hstatus
  exact hs.finished (Option.some.inj hstatus)

end FleetServer
