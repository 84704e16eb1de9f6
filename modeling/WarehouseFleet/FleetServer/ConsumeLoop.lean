import WarehouseFleet.FleetServer.Requests

/-!
# Consuming `tasks.incoming`

A message goes through parse, selection, publish, database insert and ack. Only the first of these
is inside a `try`: an exception of `insert_task` leaves `rabbitmq_consume_loop` and ends the
process with the message published and neither acked nor rejected, and after the restart the
broker delivers it again.

| here | there |
| --- | --- |
| `Loop.parse`        | `nlohmann::json::parse`: any function |
| `State.ready`       | messages of the queue that the loop has not seen, or that the broker queued again |
| `State.unsettled`   | delivered, and neither acked nor rejected |
| `iterate`           | what an iteration does with a message body (fleet_server_node.cpp:238-268) |
| `Event.consume`     | one iteration that got a message; the broker may hand out any of them |
| `Event.restart`     | a new process: the broker queues again what is unsettled |

An iteration without a message, or with an error of `consume_incoming`, changes nothing. The
statuses an iteration selects from are those of its event, so they are any.
-/

namespace FleetServer.Consume

open Fms

structure Message where
  id : Nat
  body : String

/-- One entry of the trace, about the message with this id. -/
inductive Entry where
  | delivered (id : Nat)
  | published (id : Nat) (assignment : TaskAssignment)
  | recorded (id : Nat) (assignment : TaskAssignment)
  | acked (id : Nat)
  | rejected (id : Nat)
deriving DecidableEq

def Entry.id : Entry → Nat
  | .delivered id | .published id _ | .recorded id _ | .acked id | .rejected id => id

structure State where
  ready : List Message := []
  unsettled : List Message := []
  nextId : Nat := 0
  /-- The process runs. -/
  alive : Bool := true
  trace : List Entry := []

/-- What an iteration finds: the robots' statuses, the clock, the database. -/
structure Conditions where
  robots : StatusMap
  idNow : Time
  stampNow : Time
  insertThrows : Bool

inductive Event where
  /-- a client puts a message into the queue -/
  | arrives (body : String)
  | consume (i : Nat) (conditions : Conditions)
  | restart

variable {K : Type} [Add K] [Sub K] [Mul K] [LT K] [DecidableLT K] [RatCast K] [Sqrt K]

/-- The parameters of the server and the code it is linked with. -/
structure Loop (K : Type) where
  numRobots : Nat
  socWeight : K
  narrow : ℚ → ℚ
  parse : String → Option Json

/-- How an iteration ends. -/
inductive Fate where
  /-- not decoded, or no robot for it -/
  | rejected
  /-- `robot_index_.at` throws -/
  | unknownRobot
  /-- `insert_task` throws -/
  | notRecorded (assignment : TaskAssignment)
  | acked (assignment : TaskAssignment)

def decode (l : Loop K) (body : String) : Option TaskAssignment :=
  (l.parse body).bind (decodeIncoming l.narrow)

def iterate (l : Loop K) (c : Conditions) (body : String) : Fate :=
  match decode l body with
  | none => .rejected
  | some request =>
    let served := serve l.numRobots l.socWeight c.robots c.idNow c.stampNow request
    match served.robot, served.published with
    | none, _ => .rejected
    | some _, none => .unknownRobot
    | some _, some assignment =>
      if c.insertThrows then .notRecorded assignment else .acked assignment

/-- What an iteration leaves in the trace. -/
def Fate.entries (id : Nat) : Fate → List Entry
  | .rejected => [.delivered id, .rejected id]
  | .unknownRobot => [.delivered id]
  | .notRecorded a => [.delivered id, .published id a]
  | .acked a => [.delivered id, .published id a, .recorded id a, .acked id]

/-- The message is settled, and the loop goes on. -/
def Fate.settles : Fate → Bool
  | .rejected | .acked _ => true
  | .unknownRobot | .notRecorded _ => false

/-- An event that is not possible in a state changes nothing. -/
def step (l : Loop K) (s : State) : Event → State
  | .arrives body =>
    { s with ready := s.ready ++ [⟨s.nextId, body⟩], nextId := s.nextId + 1 }
  | .consume i c =>
    if s.alive then
      match s.ready[i]? with
      | none => s
      | some m =>
        let fate := iterate l c m.body
        { s with
          ready := s.ready.eraseIdx i
          unsettled := if fate.settles then s.unsettled else s.unsettled ++ [m]
          alive := fate.settles
          trace := s.trace ++ fate.entries m.id }
    else s
  | .restart => { s with ready := s.ready ++ s.unsettled, unsettled := [], alive := true }

def run (l : Loop K) (es : List Event) : State := Run.run (step l) {} es

/-! ## What happened to a message -/

def history (id : Nat) (tr : List Entry) : List Entry := tr.filter (·.id = id)

section
variable (h : List Entry)

def deliveries : Nat := h.countP fun
  | .delivered _ => true
  | _ => false

def publishes : Nat := h.countP fun
  | .published _ _ => true
  | _ => false

def records : Nat := h.countP fun
  | .recorded _ _ => true
  | _ => false

def acks : Nat := h.countP fun
  | .acked _ => true
  | _ => false

def rejects : Nat := h.countP fun
  | .rejected _ => true
  | _ => false

/-- One ack, published and recorded; or one reject, and nothing published. -/
def Settled : Prop :=
  (acks h = 1 ∧ rejects h = 0 ∧ publishes h = 1 ∧ records h = 1) ∨
  (acks h = 0 ∧ rejects h = 1 ∧ publishes h = 0)

end

/-- Every message was published at most once, and settled once it was delivered. -/
def ExactlyOnce (tr : List Entry) : Prop :=
  ∀ id, publishes (history id tr) ≤ 1 ∧
    (0 < deliveries (history id tr) → Settled (history id tr))

/-! ## An iteration -/

/-- The message decodes, and there is a robot for it. -/
def Assignable (l : Loop K) (c : Conditions) (body : String) : Prop :=
  ∃ request, decode l body = some request ∧
    Dispatched l.numRobots l.socWeight c.robots request

/-- The statuses name robots the server knows. -/
def Conditions.Known (numRobots : Nat) (c : Conditions) : Prop :=
  ∀ r ∈ c.robots, robotIndex numRobots r ≠ none

/-- How an iteration can end. -/
inductive Iterates (l : Loop K) (c : Conditions) (body : String) : Fate → Prop where
  | rejected (h : ¬ Assignable l c body) : Iterates l c body .rejected
  | unknownRobot (h : ¬ Assignable l c body) (hc : ¬ c.Known l.numRobots) :
      Iterates l c body .unknownRobot
  | notRecorded (a : TaskAssignment) (h : Assignable l c body) (hc : c.insertThrows = true) :
      Iterates l c body (.notRecorded a)
  | acked (a : TaskAssignment) (h : Assignable l c body) (hc : c.insertThrows = false) :
      Iterates l c body (.acked a)

theorem iterates (l : Loop K) (c : Conditions) (body : String) :
    Iterates l c body (iterate l c body) := by
  cases hreq : decode l body with
  | none =>
    simp only [iterate, hreq]
    exact .rejected fun ⟨request, h, _⟩ => by simp [hreq] at h
  | some request =>
    -- a message that decodes is assignable if its request is dispatched
    have hassign : Assignable l c body ↔
        Dispatched l.numRobots l.socWeight c.robots request := by
      simp [Assignable, hreq]
    simp only [iterate, hreq, serve]
    cases hsel : selectBestRobot c.robots request l.socWeight with
    | none => exact .rejected (by simp [hassign, Dispatched, hsel])
    | some best =>
      cases hidx : robotIndex l.numRobots best.1 with
      | none =>
        simp only [prepare, hidx]
        refine .unknownRobot (by simp [hassign, Dispatched, hsel, hidx]) fun hknown => ?_
        obtain ⟨status, hstatus, -⟩ := selectBestRobot_idleAt hsel
        exact hknown best.1 (by simp [Std.TreeMap.mem_iff_isSome_getElem?, hstatus]) hidx
      | some i =>
        have hyes : Assignable l c body :=
          hassign.mpr ⟨best, by simp [hsel], by simp [hidx]⟩
        simp only [prepare, hidx]
        cases hins : c.insertThrows with
        | false => exact .acked _ hyes hins
        | true => exact .notRecorded _ hyes hins

/-! ## The history of one message -/

section
variable {id id' : Nat} {tr : List Entry} {fate : Fate}

theorem history_entries :
    history id (fate.entries id') = if id' = id then fate.entries id' else [] := by
  cases fate <;> by_cases h : id' = id <;> simp [history, Fate.entries, Entry.id, h]

theorem history_append (tr new : List Entry) :
    history id (tr ++ new) = history id tr ++ history id new := List.filter_append ..

/-- A message that was published and not settled, and whatever becomes of it then. -/
structure Bad (h : List Entry) : Prop where
  delivered : 0 < deliveries h
  wrong : 2 ≤ publishes h ∨ (1 ≤ publishes h ∧ (1 ≤ rejects h ∨ acks h = 0))

theorem Bad.not_settled {h : List Entry} (hbad : Bad h) : ¬ Settled h := by
  have hwrong := hbad.wrong
  unfold Settled
  omega

theorem deliveries_append (h h' : List Entry) :
    deliveries (h ++ h') = deliveries h + deliveries h' := List.countP_append

theorem publishes_append (h h' : List Entry) : publishes (h ++ h') = publishes h + publishes h' :=
  List.countP_append

theorem acks_append (h h' : List Entry) : acks (h ++ h') = acks h + acks h' := List.countP_append

theorem rejects_append (h h' : List Entry) : rejects (h ++ h') = rejects h + rejects h' :=
  List.countP_append

/-- An iteration that acks has published. -/
theorem acks_le_publishes (id : Nat) (fate : Fate) :
    acks (fate.entries id) ≤ publishes (fate.entries id) := by
  cases fate <;> simp [acks, publishes, Fate.entries]

theorem Bad.append {h : List Entry} (hbad : Bad h) (fate : Fate) :
    Bad (h ++ fate.entries id) := by
  have hle := acks_le_publishes id fate
  have hpub := publishes_append h (fate.entries id)
  have hack := acks_append h (fate.entries id)
  have hrej := rejects_append h (fate.entries id)
  have hdel := deliveries_append h (fate.entries id)
  obtain ⟨hdelivered, hwrong⟩ := hbad
  exact ⟨by omega, by omega⟩

/-- The two good ends of a message's only iteration. -/
theorem settled_entries (h : fate.settles = true) : Settled (fate.entries id) := by
  cases fate with
  | rejected => exact .inr (by simp [acks, rejects, publishes, Fate.entries])
  | acked a => exact .inl (by simp [acks, rejects, publishes, records, Fate.entries])
  | _ => cases h

end

/-! ## Runs -/

/-- The insert throws for a message that is published. -/
def InsertFails (l : Loop K) (s : State) : Event → Prop
  | .consume i c => s.alive = true ∧ c.insertThrows = true ∧
      ∃ m, s.ready[i]? = some m ∧ Assignable l c m.body
  | _ => False

def Event.Known (numRobots : Nat) : Event → Prop
  | .consume _ c => c.Known numRobots
  | _ => True

/-- Every message has been through one whole iteration, or waits for it. -/
structure Sound (s : State) : Prop where
  alive : s.alive = true
  unsettled : s.unsettled = []
  ids : ∀ m ∈ s.ready, m.id < s.nextId
  distinct : (s.ready.map (·.id)).Nodup
  waiting : ∀ m ∈ s.ready, history m.id s.trace = []
  future : ∀ id, s.nextId ≤ id → history id s.trace = []
  settled : ∀ id, history id s.trace = [] ∨ Settled (history id s.trace)

theorem Sound.exactlyOnce {s : State} (h : Sound s) : ExactlyOnce s.trace := by
  intro id
  obtain hnil | hset := h.settled id
  · simp [hnil, publishes, deliveries]
  · refine ⟨?_, fun _ => hset⟩
    unfold Settled at hset
    omega

theorem Sound.arrives {s : State} (h : Sound s) (body : String) : Sound { s with
    ready := s.ready ++ [⟨s.nextId, body⟩], nextId := s.nextId + 1 } where
  alive := h.alive
  unsettled := h.unsettled
  ids m hm := by
    obtain hm | hm := List.mem_append.mp hm
    · exact (h.ids m hm).trans (Nat.lt_succ_self _)
    · rw [List.mem_singleton.mp hm]
      exact Nat.lt_succ_self _
  distinct := by
    rw [List.map_append, List.map_singleton, ← List.concat_eq_append]
    refine h.distinct.concat fun hmem => ?_
    obtain ⟨m, hm, heq⟩ := List.mem_map.mp hmem
    exact (h.ids m hm).ne heq
  waiting m hm := by
    obtain hm | hm := List.mem_append.mp hm
    · exact h.waiting m hm
    · rw [List.mem_singleton.mp hm]
      exact h.future _ le_rfl
  future id hid := h.future id (Nat.le_of_succ_le hid)
  settled := h.settled

/-- No other message has the id of this one. -/
theorem Sound.ne_of_mem_eraseIdx {s : State} (h : Sound s) {i : Nat} {m m' : Message}
    (hm : s.ready[i]? = some m) (hm' : m' ∈ s.ready.eraseIdx i) : m.id ≠ m'.id := by
  obtain ⟨hi, rfl⟩ := List.getElem?_eq_some_iff.mp hm
  have hperm := (List.getElem_cons_eraseIdx_perm hi).map Message.id
  have hnodup := hperm.nodup_iff.mpr h.distinct
  exact fun heq => (List.nodup_cons.mp hnodup).1 (List.mem_map.mpr ⟨m', hm', heq.symm⟩)

theorem Sound.consume {s : State} (h : Sound s) {i : Nat} {m : Message} (hm : s.ready[i]? = some m)
    {fate : Fate} (hfate : fate.settles = true) : Sound { s with
      ready := s.ready.eraseIdx i
      unsettled := if fate.settles then s.unsettled else s.unsettled ++ [m]
      alive := fate.settles
      trace := s.trace ++ fate.entries m.id } where
  alive := hfate
  unsettled := (if_pos hfate).trans h.unsettled
  ids m' hm' := h.ids m' (List.mem_of_mem_eraseIdx hm')
  distinct := h.distinct.sublist ((List.eraseIdx_sublist ..).map _)
  waiting m' hm' := by
    rw [history_append, h.waiting m' (List.mem_of_mem_eraseIdx hm'), history_entries,
      if_neg (h.ne_of_mem_eraseIdx hm hm'), List.nil_append]
  future id hid := by
    have hlt : m.id < id := (h.ids m (List.mem_of_getElem? hm)).trans_le hid
    rw [history_append, h.future id hid, history_entries, if_neg hlt.ne, List.nil_append]
  settled id := by
    rw [history_append, history_entries]
    split
    · next heq =>
      rw [← heq, h.waiting m (List.mem_of_getElem? hm), List.nil_append]
      exact .inr (settled_entries hfate)
    · rw [List.append_nil]
      exact h.settled id

theorem Sound.step {l : Loop K} {s : State} {e : Event} (h : Sound s)
    (hknown : e.Known l.numRobots) (hins : ¬ InsertFails l s e) : Sound (step l s e) := by
  cases e with
  | arrives body => exact h.arrives body
  | restart =>
    rw [Consume.step, h.unsettled, List.append_nil]
    exact { h with unsettled := rfl, alive := rfl }
  | consume i c =>
    rw [Consume.step, if_pos h.alive]
    split
    · exact h
    · next m hm =>
      refine h.consume hm ?_
      generalize hf : iterate l c m.body = fate
      cases hf ▸ iterates l c m.body with
      | rejected hno => rfl
      | unknownRobot hno hc => exact absurd hknown hc
      | notRecorded a hyes hc => exact absurd ⟨h.alive, hc, m, hm, hyes⟩ hins
      | acked a hyes hc => rfl

/-- A step adds the entries of one iteration to the history of one message, or nothing. -/
theorem history_step {P : List Entry → Prop} (hP : ∀ h fate id, P h → P (h ++ Fate.entries id fate))
    (l : Loop K) {s : State} (e : Event) {id : Nat} (h : P (history id s.trace)) :
    P (history id (step l s e).trace) := by
  cases e with
  | arrives body => exact h
  | restart => exact h
  | consume i c =>
    rw [step]
    split
    · split
      · exact h
      · rw [history_append, history_entries]
        split
        · exact hP _ _ _ h
        · rwa [List.append_nil]
    · exact h

theorem history_run {P : List Entry → Prop} (hP : ∀ h fate id, P h → P (h ++ Fate.entries id fate))
    (l : Loop K) {s : State} (es : List Event) {id : Nat} (h : P (history id s.trace)) :
    P (history id (Run.run (step l) s es).trace) :=
  Run.run_invariant (I := fun s : State => P (history id s.trace))
    (fun _ e hs => history_step hP l e hs) h

theorem run_acks_le_publishes (l : Loop K) (es : List Event) (id : Nat) :
    acks (history id (run l es).trace) ≤ publishes (history id (run l es).trace) := by
  refine history_run (P := fun h => acks h ≤ publishes h) (fun h fate id hle => ?_) l es (le_refl 0)
  have hle' := acks_le_publishes id fate
  have hpub := publishes_append h (fate.entries id)
  have hack := acks_append h (fate.entries id)
  omega

/-- It leaves a message published and not settled. -/
theorem bad_of_insertFails {l : Loop K} {s : State} {e : Event}
    (hle : ∀ id, acks (history id s.trace) ≤ publishes (history id s.trace))
    (h : InsertFails l s e) : ∃ id, Bad (history id (step l s e).trace) := by
  cases e with
  | consume i c =>
    obtain ⟨halive, hins, m, hm, hyes⟩ := h
    obtain ⟨a, ha⟩ : ∃ a, iterate l c m.body = .notRecorded a := by
      generalize hf : iterate l c m.body = fate
      cases hf ▸ iterates l c m.body with
      | rejected hno => exact absurd hyes hno
      | unknownRobot hno hc => exact absurd hyes hno
      | notRecorded a _ hc => exact ⟨a, rfl⟩
      | acked a _ hc => simp [hins] at hc
    refine ⟨m.id, ?_⟩
    have hpub : publishes (Fate.entries m.id (.notRecorded a)) = 1 := rfl
    have hack : acks (Fate.entries m.id (.notRecorded a)) = 0 := rfl
    have hle := hle m.id
    simp only [step, halive, if_true, hm, ha, history_append, history_entries]
    refine ⟨?_, ?_⟩
    · have hdel : deliveries (Fate.entries m.id (.notRecorded a)) = 1 := rfl
      rw [deliveries_append]
      omega
    · rw [publishes_append, acks_append]
      omega
  | _ => exact h.elim

/-- **Every message is settled once** in the runs, and only in the runs, in which no insert throws
after its assignment was published. -/
theorem consumed_exactly_once (l : Loop K) (es : List Event)
    (hknown : ∀ e ∈ es, e.Known l.numRobots) :
    ExactlyOnce (run l es).trace ↔ Run.Along (step l) (fun s e => ¬ InsertFails l s e) {} es := by
  constructor
  · intro honce
    by_contra hnot
    obtain ⟨pre, e, post, rfl, hfail⟩ := Run.exists_of_not_along hnot
    obtain ⟨id, hbad⟩ := bad_of_insertFails (run_acks_le_publishes l pre) (not_not.mp hfail)
    have hrun : run l (pre ++ e :: post) = Run.run (step l) (step l (run l pre) e) post := by
      rw [run, Run.run_append, Run.run_cons, run]
    have hend : Bad (history id (run l (pre ++ e :: post)).trace) :=
      hrun ▸ history_run (fun h fate id hb => hb.append fate) l post hbad
    exact hend.not_settled ((honce id).2 hend.delivered)
  · intro halong
    refine ((halong.and_forall hknown).run_invariant (I := Sound) ?_ ?_).exactlyOnce
    · exact fun s e hs hC => hs.step hC.2 hC.1
    · exact ⟨rfl, rfl, by simp, by simp, by simp, fun _ _ => rfl, fun _ => .inl rfl⟩

/-- One robot; every body but `"task"` fails to parse. -/
def sampleLoop : Loop ℚ where
  numRobots := 1
  socWeight := 1 / 2
  narrow := id
  parse body := if body = "task" then some (carry "").toJson else none

/-- The robot is idle. -/
def sampleConditions (insertThrows : Bool) : Conditions where
  robots := latestStatus [statusAt "robot_1" 0 0 4]
  idNow := 1
  stampNow := 1
  insertThrows := insertThrows

theorem sampleConditions_known (b : Bool) : (sampleConditions b).Known 1 := by
  intro r hr
  obtain rfl : "robot_1" = r := by
    simpa [sampleConditions, latestStatus, robotStatusCb, statusAt] using hr
  decide

/-- A task and a body that is none. -/
def recordedRun : List Event :=
  [.arrives "task", .arrives "pallet", .consume 0 (sampleConditions false),
   .consume 0 (sampleConditions false)]

theorem consumed_exactly_once_recorded :
    ExactlyOnce (run sampleLoop recordedRun).trace ∧
    acks (run sampleLoop recordedRun).trace = 1 ∧
    rejects (run sampleLoop recordedRun).trace = 1 := by
  refine ⟨(consumed_exactly_once sampleLoop recordedRun ?_).mpr ?_, by decide +kernel⟩
  · simp [recordedRun, Event.Known, sampleLoop, sampleConditions_known]
  · simp [recordedRun, Run.Along, InsertFails, sampleConditions]

/-- The database is away when the task is recorded, and back after the restart. -/
def redeliveredRun : List Event :=
  [.arrives "task", .consume 0 (sampleConditions true), .restart,
   .consume 0 (sampleConditions false)]

theorem published_twice : ¬ ExactlyOnce (run sampleLoop redeliveredRun).trace := by
  intro h
  have htwice : publishes (history 0 (run sampleLoop redeliveredRun).trace) = 2 := by
    decide +kernel
  exact absurd (h 0).1 (by rw [htwice]; decide)

end FleetServer.Consume
