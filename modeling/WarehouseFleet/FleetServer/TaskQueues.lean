import WarehouseFleet.FleetServer.QueueTopology
import WarehouseFleet.FleetServer.ConsumeLoop

/-!
# `tasks.incoming` and `tasks.failed`

`ConsumeLoop` takes an iteration of the loop in one step and knows of one way to end the process.
Here the loop may be interrupted between any two of its calls, the process may end at any time, and
so may the connection. The broker is any that follows the laws of `Amqp`.

| here | there |
| --- | --- |
| `Job`, `Stage`     | the locals of `rabbitmq_consume_loop`, and where it is (fleet_server_node.cpp:223-273) |
| `State.inbox`      | what `amqp_consume_message` will return: the broker delivers ahead of the loop |
| `Event.submit`     | a client's `basic_publish` to `tasks` with key `incoming` (task_request_amqp.py) |
| `Event.failed`     | `publish_failed` in `task_completion_cb` (:176-184) |
| `Event.receive`    | `consume_incoming` returns a message |
| `Event.select`     | `json::parse` to `select_robot`, with the `reject` of the two branches (:238-261) |
| `Event.publish`, `Event.insert` | the two steps of `dispatch_assignment`; either may throw |
| `Event.disconnect` | the connection is lost; nothing in the server opens another |
| `Event.crash`      | the process ends |
| `Event.start`      | the constructor of `FleetServerNode` (:61-64) |

`RabbitMqClient::ack` and `reject` do not look at what `amqp_basic_ack` and `amqp_basic_reject`
return: without a connection they do nothing, and the loop goes on.
-/

namespace FleetServer.TaskQueues

open Fms
open Amqp
open Consume (Message Loop decode)

deriving instance DecidableEq for Message

inductive Stage where
  | received
  | selected (assignment : TaskAssignment)
  | published (assignment : TaskAssignment)
  | recorded (assignment : TaskAssignment)

structure Job where
  delivery : Delivery Message
  stage : Stage

inductive What where
  /-- in `tasks.incoming`, from a client -/
  | arrived
  /-- in `tasks.failed`, about a completion -/
  | failed
  | received
  | published (assignment : TaskAssignment)
  | recorded (assignment : TaskAssignment)
  | acked (reached : Bool)
  | rejected (reached : Bool)
  /-- the process ended with the message in hand -/
  | dropped
deriving DecidableEq

def What.isPublished : What → Bool
  | .published _ => true
  | _ => false

def What.isRecorded : What → Bool
  | .recorded _ => true
  | _ => false

structure Entry where
  message : Message
  what : What
deriving DecidableEq

structure State (β : Type) where
  broker : β
  /-- The process runs. -/
  alive : Bool := false
  /-- It has its connection. -/
  connected : Bool := false
  /-- `setup_topology` has got through, now or in an earlier process. -/
  declared : Bool := false
  inbox : List (Delivery Message) := []
  job : Option Job := none
  nextId : Nat := 0
  nextReport : Nat := 0
  trace : List Entry := []

inductive Event where
  | start
  | crash
  /-- The client has read this many of the deliveries before. -/
  | disconnect (kept : Nat)
  | submit (body : String)
  /-- `throws`: the loss of the connection shows in `basic_publish`. -/
  | failed (body : String) (throws : Bool)
  | deliver (choice : Nat)
  | receive
  | select (robots : StatusMap)
  | publish (idNow stampNow : Time)
  | insert (throws : Bool)
  | ack

section
variable {β : Type}

namespace State

def emit (s : State β) (m : Message) (what : What) : State β :=
  { s with trace := s.trace ++ [⟨m, what⟩] }

def disconnect (B : Broker β Message) (s : State β) : State β :=
  { s with broker := if s.connected then B.close s.broker else s.broker, connected := false }

def crash (B : Broker β Message) (s : State β) : State β :=
  let s' := { s.disconnect B with alive := false, inbox := [], job := none }
  match s.job with
  | none => s'
  | some j => s'.emit j.delivery.message .dropped

/-- The message leaves the loop; the broker hears of it if there is a connection. -/
def settle (call : β → β) (d : Delivery Message) (what : Bool → What) (s : State β) : State β :=
  { s with
    broker := if s.connected then call s.broker else s.broker
    job := none }.emit d.message (what s.connected)

def ack (B : Broker β Message) (d : Delivery Message) (s : State β) : State β :=
  s.settle (B.ack d.tag) d .acked

def reject (B : Broker β Message) (d : Delivery Message) (s : State β) : State β :=
  s.settle (B.reject d.tag) d .rejected

end State

variable {K : Type} [Add K] [Sub K] [Mul K] [LT K] [DecidableLT K] [RatCast K] [Sqrt K]

/-- An event that is not possible in a state changes nothing. -/
def step (B : Broker β Message) (l : Loop K) (s : State β) : Event → State β
  | .start =>
    if s.alive then s
    else
      match setupTopology B s.broker with
      | (.ok _, broker) => { s with broker, alive := true, connected := true, declared := true }
      | (.error _, broker) => { s with broker }
  | .crash => s.crash B
  | .disconnect kept =>
    if s.connected then { s.disconnect B with inbox := s.inbox.take kept } else s
  | .submit body =>
    let m : Message := ⟨s.nextId, body⟩
    if s.declared then
      { s with
        broker := B.publish "tasks" "incoming" m s.broker
        nextId := s.nextId + 1 }.emit m .arrived
    else s
  | .failed body throws =>
    let m : Message := ⟨s.nextReport, body⟩
    if s.connected then
      { s with
        broker := B.publish "tasks.dlx" "failed" m s.broker
        nextReport := s.nextReport + 1 }.emit m .failed
    else if throws then s.crash B
    else s
  | .deliver choice =>
    if s.connected then
      match B.deliver "tasks.incoming" choice s.broker with
      | none => s
      | some (d, broker) => { s with broker, inbox := s.inbox ++ [d] }
    else s
  | .receive =>
    match s.job, s.inbox with
    | none, d :: inbox =>
      { s with inbox, job := some ⟨d, .received⟩ }.emit d.message .received
    | _, _ => s
  | .select robots =>
    match s.job with
    | some ⟨d, .received⟩ =>
      match decode l d.message.body with
      | none => s.reject B d
      | some request =>
        match selectBestRobot robots request l.socWeight with
        | none => s.reject B d
        | some best => { s with job := some ⟨d, .selected { request with robotId := best.1 }⟩ }
    | _ => s
  | .publish idNow stampNow =>
    match s.job with
    | some ⟨d, .selected assignment⟩ =>
      let assignment := prepare idNow stampNow assignment
      match robotIndex l.numRobots assignment.robotId with
      | none => s.crash B
      | some _ =>
        { s with job := some ⟨d, .published assignment⟩ }.emit d.message (.published assignment)
    | _ => s
  | .insert throws =>
    match s.job with
    | some ⟨d, .published assignment⟩ =>
      if throws then s.crash B
      else { s with job := some ⟨d, .recorded assignment⟩ }.emit d.message (.recorded assignment)
    | _ => s
  | .ack =>
    match s.job with
    | some ⟨d, .recorded _⟩ => s.ack B d
    | _ => s

/-- The server has not been started. -/
def run (B : Broker β Message) (l : Loop K) (b : β) (es : List Event) : State β :=
  Run.run (step B l) { broker := b } es

/-! ## What a step can do -/

/-- The two ways to settle a message. -/
inductive Settles (B : Broker β Message) (d : Delivery Message) :
    Stage → (β → β) → (Bool → What) → Prop where
  | acks (a : TaskAssignment) : Settles B d (.recorded a) (B.ack d.tag) .acked
  | rejects : Settles B d .received (B.reject d.tag) .rejected

inductive Steps (B : Broker β Message) (l : Loop K) (s : State β) : State β → Prop where
  | stays : Steps B l s s
  | starts (hdead : s.alive = false) (hsetup : (setupTopology B s.broker).1 = .ok ()) :
      Steps B l s { s with
        broker := (setupTopology B s.broker).2, alive := true, connected := true, declared := true }
  | fails (hdead : s.alive = false) : Steps B l s { s with broker := (setupTopology B s.broker).2 }
  | crashes : Steps B l s (s.crash B)
  | disconnects (kept : Nat) : Steps B l s { s.disconnect B with inbox := s.inbox.take kept }
  | arrives (body : String) (hdeclared : s.declared = true) :
      Steps B l s ({ s with
        broker := B.publish "tasks" "incoming" ⟨s.nextId, body⟩ s.broker
        nextId := s.nextId + 1 }.emit ⟨s.nextId, body⟩ .arrived)
  | reports (body : String) (hconnected : s.connected = true) :
      Steps B l s ({ s with
        broker := B.publish "tasks.dlx" "failed" ⟨s.nextReport, body⟩ s.broker
        nextReport := s.nextReport + 1 }.emit ⟨s.nextReport, body⟩ .failed)
  | delivers (choice : Nat) (d : Delivery Message) (broker : β) (hconnected : s.connected = true)
      (hd : B.deliver "tasks.incoming" choice s.broker = some (d, broker)) :
      Steps B l s { s with broker, inbox := s.inbox ++ [d] }
  | receives (d : Delivery Message) (inbox : List (Delivery Message)) (hjob : s.job = none)
      (hinbox : s.inbox = d :: inbox) :
      Steps B l s ({ s with inbox, job := some ⟨d, .received⟩ }.emit d.message .received)
  | settles (d : Delivery Message) (stage : Stage) (call : β → β) (what : Bool → What)
      (hjob : s.job = some ⟨d, stage⟩) (hsettles : Settles B d stage call what) :
      Steps B l s (s.settle call d what)
  | selects (d : Delivery Message) (request : TaskAssignment) (robotId : String)
      (hjob : s.job = some ⟨d, .received⟩) (hrequest : decode l d.message.body = some request) :
      Steps B l s { s with job := some ⟨d, .selected { request with robotId }⟩ }
  | publishes (d : Delivery Message) (a : TaskAssignment) (idNow stampNow : Time)
      (hjob : s.job = some ⟨d, .selected a⟩) (hknown : robotIndex l.numRobots a.robotId ≠ none) :
      Steps B l s ({ s with job := some ⟨d, .published (prepare idNow stampNow a)⟩ }.emit d.message
        (.published (prepare idNow stampNow a)))
  | inserts (d : Delivery Message) (a : TaskAssignment) (hjob : s.job = some ⟨d, .published a⟩) :
      Steps B l s ({ s with job := some ⟨d, .recorded a⟩ }.emit d.message (.recorded a))

theorem steps (B : Broker β Message) (l : Loop K) (s : State β) (ev : Event) :
    Steps B l s (step B l s ev) := by
  cases ev with
  | start =>
    rw [step]
    split
    · exact .stays
    · next halive =>
      have hdead : s.alive = false := by simpa using halive
      split
      · next broker hsetup =>
        have hstarts := Steps.starts (l := l) hdead (by rw [hsetup])
        rwa [hsetup] at hstarts
      · next broker hsetup =>
        have hfails := Steps.fails (B := B) (l := l) hdead
        rwa [hsetup] at hfails
  | crash => exact .crashes
  | disconnect kept =>
    rw [step]
    split
    · exact .disconnects kept
    · exact .stays
  | submit body =>
    rw [step]
    split
    · next hdeclared => exact .arrives body hdeclared
    · exact .stays
  | failed body throws =>
    rw [step]
    split
    · next hconnected => exact .reports body hconnected
    · split
      · exact .crashes
      · exact .stays
  | deliver choice =>
    rw [step]
    split
    · next hconnected =>
      split
      · exact .stays
      · next d broker hd => exact .delivers choice d broker hconnected hd
    · exact .stays
  | receive =>
    rw [step]
    split
    · next d inbox hjob hinbox => exact .receives d inbox hjob hinbox
    · exact .stays
  | select robots =>
    rw [step]
    split
    · next d hjob =>
      split
      · exact .settles d _ _ _ hjob .rejects
      · next request hrequest =>
        split
        · exact .settles d _ _ _ hjob .rejects
        · next best _ => exact .selects d request best.1 hjob hrequest
    · exact .stays
  | publish idNow stampNow =>
    rw [step]
    split
    · next d assignment hjob =>
      dsimp only
      split
      · exact .crashes
      · next i hi =>
        have hknown : robotIndex l.numRobots assignment.robotId = some i := hi
        exact .publishes d assignment idNow stampNow hjob (by simp [hknown])
    · exact .stays
  | insert throws =>
    rw [step]
    split
    · next d assignment hjob =>
      split
      · exact .crashes
      · exact .inserts d assignment hjob
    · exact .stays
  | ack =>
    rw [step]
    split
    · next d a hjob => exact .settles d _ _ _ hjob (.acks a)
    · exact .stays

end

/-! ## The process and its broker -/

/-- What the broker has delivered to the process that runs, and the process has not settled. -/
def State.pending {β : Type} (s : State β) : List (Delivery Message) :=
  (s.job.map (·.delivery)).toList ++ s.inbox

/-- What the process has from the broker is in its queue, and it may settle it as long as it is
connected. -/
structure Linked (v : View Message) (alive connected declared : Bool)
    (pending : List (Delivery Message)) : Prop where
  own : Own v
  setup : declared = true → Declared v
  started : alive = true → declared = true
  running : connected = true → alive = true
  dead : alive = false → pending = []
  unacked : connected = true →
    ∀ d ∈ pending, v.unacked d.tag = some ("tasks.incoming", d.message)
  tags : (pending.map (·.tag)).Nodup
  waiting : ∀ d ∈ pending, d.message ∈ v.held "tasks.incoming"

section
variable {v v' : View Message} {alive connected declared : Bool} {pending : List (Delivery Message)}
  {d : Delivery Message} {e k : String} {m : Message}

theorem Linked.declared_of_connected (h : Linked v alive connected declared pending)
    (hconnected : connected = true) : Declared v :=
  h.setup (h.started (h.running hconnected))

/-- A process that runs has been told of what it has before; one that does not has nothing. -/
theorem Linked.close (h : Linked v alive connected declared pending)
    {pending' : List (Delivery Message)} (hsub : pending'.Sublist pending)
    (hv : v' = if connected then v.close else v) : Linked v' alive false declared pending' := by
  have hsame : v'.exchanges = v.exchanges ∧ v'.queues = v.queues ∧ v'.bound = v.bound ∧
      v'.held = v.held := by
    cases connected <;> simp [hv, View.close]
  obtain ⟨hexchanges, hqueues, hbound, hheld⟩ := hsame
  exact
    { own := ⟨hbound ▸ h.own.incoming, hbound ▸ h.own.failed⟩
      setup := fun hd => (h.setup hd).mono
        ⟨by simp [hexchanges], by simp [hqueues], by simp [hbound]⟩
      started := h.started
      running := by simp
      dead := fun ha => List.sublist_nil.mp (h.dead ha ▸ hsub)
      unacked := by simp
      tags := h.tags.sublist (hsub.map _)
      waiting := fun d hd => hheld ▸ h.waiting d (hsub.subset hd) }

/-- Another message gets into the queues. -/
theorem Linked.route (h : Linked v alive connected declared pending) :
    Linked (v.route e k m) alive connected declared pending :=
  { own := ⟨h.own.incoming, h.own.failed⟩
    setup := fun hd =>
      (h.setup hd).mono ⟨fun _ _ h => h, fun _ _ h => h, fun _ h => h⟩
    started := h.started
    running := h.running
    dead := h.dead
    unacked := h.unacked
    tags := h.tags
    waiting := fun d hd => View.mem_route (h.waiting d hd) }

theorem Linked.deliver (h : Linked v alive true declared pending)
    (hnew : v.unacked d.tag = none) (hd : d.message ∈ v.held "tasks.incoming") :
    Linked (v.deliver "tasks.incoming" d) alive true declared (pending ++ [d]) := by
  have htag : ∀ d' ∈ pending, d'.tag ≠ d.tag := fun d' hd' heq => by
    simp [← heq, h.unacked rfl d' hd'] at hnew
  exact
    { own := ⟨h.own.incoming, h.own.failed⟩
      setup := fun hd =>
        (h.setup hd).mono ⟨fun _ _ h => h, fun _ _ h => h, fun _ h => h⟩
      started := h.started
      running := h.running
      dead := fun ha => absurd (h.running rfl) (by simp [ha])
      unacked := fun _ d' hd' => by
        obtain hd' | hd' := List.mem_append.mp hd'
        · simp [View.deliver, htag d' hd', h.unacked rfl d' hd']
        · simp [View.deliver, List.mem_singleton.mp hd']
      tags := by
        simpa [List.nodup_append, h.tags] using htag
      waiting := fun d' hd' => by
        obtain hd' | hd' := List.mem_append.mp hd'
        · exact h.waiting d' hd'
        · exact List.mem_singleton.mp hd' ▸ hd }

/-- The first of what it has is settled. -/
theorem Linked.settle (h : Linked v alive true declared (d :: pending))
    (hwaiting : ∀ d' ∈ pending,
      (v.settle d.tag "tasks.incoming" d.message).unacked d'.tag =
        some ("tasks.incoming", d'.message) →
      d'.message ∈ (v.settle d.tag "tasks.incoming" d.message).held "tasks.incoming") :
    Linked (v.settle d.tag "tasks.incoming" d.message) alive true declared pending := by
  obtain ⟨htag, htags⟩ := List.nodup_cons.mp h.tags
  have hunacked : ∀ d' ∈ pending,
      (v.settle d.tag "tasks.incoming" d.message).unacked d'.tag =
        some ("tasks.incoming", d'.message) := by
    intro d' hd'
    have hne : d'.tag ≠ d.tag := fun heq => htag (List.mem_map.mpr ⟨d', hd', heq⟩)
    simp [View.settle, hne, h.unacked rfl d' (by simp [hd'])]
  exact
    { own := ⟨h.own.incoming, h.own.failed⟩
      setup := fun hd =>
        (h.setup hd).mono ⟨fun _ _ h => h, fun _ _ h => h, fun _ h => h⟩
      started := h.started
      running := h.running
      dead := fun ha => absurd (h.running rfl) (by simp [ha])
      unacked := fun _ => hunacked
      tags := htags
      waiting := fun d' hd' => hwaiting d' hd' (hunacked d' hd') }

end

section
variable {β : Type} {B : Broker β Message} {s : State β} {d : Delivery Message}

/-- The state's own `Linked`. -/
def Session (B : Broker β Message) (s : State β) : Prop :=
  Linked (B.view s.broker) s.alive s.connected s.declared s.pending

/-- The message in hand comes before those that wait. -/
theorem Session.linked_of_job (h : Session B s) {stage : Stage} (hjob : s.job = some ⟨d, stage⟩) :
    Linked (B.view s.broker) s.alive s.connected s.declared (d :: s.inbox) := by
  have hpending : s.pending = d :: s.inbox := by simp [State.pending, hjob]
  exact hpending ▸ h

theorem Session.crash (h : Session B s) (hB : B.Laws) : Session B (s.crash B) := by
  have hclosed : Linked (B.view (s.disconnect B).broker) s.alive false s.declared [] := by
    refine Linked.close h (List.nil_sublist _) ?_
    simp only [State.disconnect]
    split <;> simp [hB.close]
  have hdead : Linked (B.view (s.disconnect B).broker) false false s.declared [] :=
    { hclosed with started := by simp, running := by simp, dead := fun _ => rfl }
  rw [State.crash]
  split <;> exact hdead

/-- The broker hears of the ack or the reject of the message in hand. -/
theorem Session.settles (h : Session B s) (hB : B.Laws) {stage : Stage} {call : β → β}
    {what : Bool → What} (hjob : s.job = some ⟨d, stage⟩) (hsettles : Settles B d stage call what) :
    Session B (s.settle call d what) := by
  have h' := h.linked_of_job hjob
  simp only [Session, State.settle, State.emit, State.pending, Option.map_none, Option.toList_none,
    List.nil_append]
  cases hconnected : s.connected with
  | false =>
    rw [hconnected] at h'
    exact h'.close (List.sublist_cons_self ..) rfl
  | true =>
    rw [hconnected] at h'
    have hd := h'.unacked rfl d (by simp)
    have hlaw := hB.delivered (call s.broker)
    cases hsettles with
    | acks a =>
      have hview := hB.ack d.tag s.broker _ _ hd
      rw [hview] at hlaw
      rw [if_pos rfl, hview]
      exact h'.settle fun d' _ => hlaw d'.tag _ _
    | rejects =>
      have hdeclared := h'.declared_of_connected rfl
      have hview := hdeclared.reject hB hd
      rw [hview] at hlaw
      rw [if_pos rfl, hview]
      refine (h'.settle fun d' _ hd' => ?_).route
      have hbound : ((B.view s.broker).settle d.tag "tasks.incoming" d.message).bound
          ⟨"tasks.incoming", "tasks.dlx", "failed"⟩ ≠ true := by
        simp [View.settle, hdeclared.bound_incoming h'.own]
      exact View.held_route_of_not_bound (m := d.message) hbound ▸ hlaw d'.tag _ _ hd'

variable {K : Type} [Add K] [Sub K] [Mul K] [LT K] [DecidableLT K] [RatCast K] [Sqrt K]
  {l : Loop K}

theorem Session.step (h : Session B s) (hB : B.Laws) (ev : Event) :
    Session B (step B l s ev) := by
  have hsteps := steps B l s ev
  generalize TaskQueues.step B l s ev = s' at hsteps ⊢
  cases hsteps with
  | stays => exact h
  | starts hdead hsetup =>
    have hpending : s.pending = [] := h.dead hdead
    show Linked _ true true true s.pending
    rw [hpending]
    exact
      { own := setupTopology_own hB h.own
        setup := fun _ => setupTopology_declared hB hsetup
        started := fun _ => rfl
        running := fun _ => rfl
        dead := by simp
        unacked := by simp
        tags := by simp
        waiting := by simp }
  | fails hdead =>
    obtain ⟨hextends, hheld⟩ := setupTopology_extends hB s.broker
    have hconnected : s.connected = false := by
      cases hconnected : s.connected with
      | false => rfl
      | true => simpa [hdead] using h.running hconnected
    exact
      { own := setupTopology_own hB h.own
        setup := fun hd => (h.setup hd).mono hextends
        started := h.started
        running := h.running
        dead := h.dead
        unacked := fun hc => by simp [hconnected] at hc
        tags := h.tags
        waiting := fun d hd => hheld ▸ h.waiting d hd }
  | crashes => exact h.crash hB
  | disconnects kept =>
    refine h.close (List.Sublist.append_left (List.take_sublist kept s.inbox) _) ?_
    simp only [State.disconnect]
    split <;> simp [hB.close]
  | arrives body hdeclared =>
    have hview := (h.setup hdeclared).publish_incoming hB ⟨s.nextId, body⟩
    show Linked (B.view (B.publish _ _ _ _)) _ _ _ s.pending
    rw [hview]
    exact Linked.route h
  | reports body hconnected =>
    have hview := (h.declared_of_connected hconnected).publish_failed hB ⟨s.nextReport, body⟩
    show Linked (B.view (B.publish _ _ _ _)) _ _ _ s.pending
    rw [hview]
    exact Linked.route h
  | delivers choice d broker hconnected hd =>
    obtain ⟨hnew, hview⟩ := hB.deliver _ _ _ _ _ hd
    have hheld : d.message ∈ (B.view broker).held "tasks.incoming" :=
      hB.delivered broker d.tag _ _ (by simp [hview, View.deliver])
    have hpending : ({ s with broker, inbox := s.inbox ++ [d] } : State β).pending =
        s.pending ++ [d] := (List.append_assoc ..).symm
    have h' : Linked (B.view s.broker) s.alive true s.declared s.pending := hconnected ▸ h
    rw [hview] at hheld
    rw [Session, hpending, hview, hconnected]
    exact h'.deliver hnew hheld
  | receives d inbox hjob hinbox =>
    have hpending : s.pending = d :: inbox := by simp [State.pending, hjob, hinbox]
    rw [Session, hpending] at h
    exact h
  | settles d stage call what hjob hsettles => exact h.settles hB hjob hsettles
  | selects d request robotId hjob hrequest => exact h.linked_of_job hjob
  | publishes d a idNow stampNow hjob hknown => exact h.linked_of_job hjob
  | inserts d a hjob => exact h.linked_of_job hjob

end

/-! ## What becomes of a message -/

/-- How often it has happened to the message. -/
def times (what : What) (m : Message) (tr : List Entry) : Nat := tr.count ⟨m, what⟩

/-- How often the message has become an assignment. -/
def publications (m : Message) (tr : List Entry) : Nat :=
  tr.countP fun e => e.message = m ∧ e.what.isPublished

def recordings (m : Message) (tr : List Entry) : Nat :=
  tr.countP fun e => e.message = m ∧ e.what.isRecorded

/-- How many calls of the iteration are behind it. -/
@[simp] def Stage.rank : Stage → Nat
  | .received => 0
  | .selected _ => 1
  | .published _ => 2
  | .recorded _ => 3

/-- The loop has the message in hand, and is that far with it. -/
def inHand (rank : Nat) (m : Message) : Option Job → Nat
  | none => 0
  | some j => if j.delivery.message = m ∧ rank ≤ j.stage.rank then 1 else 0

/-- The books about one message. -/
structure Accounted (v : View Message) (tr : List Entry) (job : Option Job) (m : Message) :
    Prop where
  /-- It is held, acked or rejected, one of these. -/
  arrived : times .arrived m tr = (v.held "tasks.incoming").count m +
    times (.acked true) m tr + times (.rejected true) m tr
  once : times .arrived m tr ≤ 1
  failed : (v.held "tasks.failed").count m = times (.rejected true) m tr + times .failed m tr
  received : times .received m tr = times (.acked true) m tr + times (.acked false) m tr +
    times (.rejected true) m tr + times (.rejected false) m tr + times .dropped m tr +
    inHand 0 m job
  /-- It is acked only after it has become an assignment and that has been recorded. -/
  acked : times (.acked true) m tr + times (.acked false) m tr + inHand 3 m job ≤ recordings m tr
  recorded : recordings m tr + inHand 2 m job ≤ publications m tr + inHand 3 m job
  /-- It becomes one again only after the process has ended in between, or an ack was lost. -/
  published : publications m tr ≤ times (.acked true) m tr + times (.acked false) m tr +
    times .dropped m tr + inHand 2 m job

structure Inv {β : Type} (B : Broker β Message) (s : State β) : Prop where
  session : Session B s
  fresh : ∀ e ∈ s.trace, e.what = .failed ∨ e.message.id < s.nextId
  accounted : ∀ m, Accounted (B.view s.broker) s.trace s.job m

section
variable {m m' : Message} {what what' : What} {d : Delivery Message} {stage : Stage}
  {tr : List Entry} {v v' : View Message} {job : Option Job}

@[simp] theorem times_concat : times what' m' (tr ++ [⟨m, what⟩]) =
    times what' m' tr + if m = m' ∧ what = what' then 1 else 0 := by
  simp [times, List.count_append, List.count_singleton]

@[simp] theorem publications_concat : publications m' (tr ++ [⟨m, what⟩]) =
    publications m' tr + if m = m' ∧ what.isPublished then 1 else 0 := by
  simp [publications, List.countP_append, List.countP_singleton]

@[simp] theorem recordings_concat : recordings m' (tr ++ [⟨m, what⟩]) =
    recordings m' tr + if m = m' ∧ what.isRecorded then 1 else 0 := by
  simp [recordings, List.countP_append, List.countP_singleton]

theorem inHand_antitone {rank rank' : Nat} (h : rank ≤ rank') (m : Message) (job : Option Job) :
    inHand rank' m job ≤ inHand rank m job := by
  cases job with
  | none => exact le_rfl
  | some j =>
    simp only [inHand]
    split
    · next hj => rw [if_pos ⟨hj.1, h.trans hj.2⟩]
    · exact Nat.zero_le _

theorem Accounted.congr (h : Accounted v tr job m) (hheld : v'.held = v.held) :
    Accounted v' tr job m := by
  obtain ⟨harrived, honce, hfailed, hreceived, hacked, hrecorded, hpublished⟩ := h
  constructor <;> simpa only [hheld]

/-- The process ends. -/
theorem Accounted.drop {j : Job} (h : Accounted v tr (some j) m) :
    Accounted v (tr ++ [⟨j.delivery.message, .dropped⟩]) none m := by
  obtain ⟨harrived, honce, hfailed, hreceived, hacked, hrecorded, hpublished⟩ := h
  have hin : inHand 0 m (some j) = if j.delivery.message = m then 1 else 0 := by simp [inHand]
  have h20 := inHand_antitone (Nat.zero_le 2) m (some j)
  have h32 := inHand_antitone (show 2 ≤ 3 by decide) m (some j)
  constructor <;>
    simp only [inHand, times_concat, publications_concat, recordings_concat, What.isPublished,
      What.isRecorded, reduceCtorEq, and_false, and_true, Bool.false_eq_true, if_false] <;>
    omega

theorem Accounted.receive (h : Accounted v tr none m) (d : Delivery Message) :
    Accounted v (tr ++ [⟨d.message, .received⟩]) (some ⟨d, .received⟩) m := by
  obtain ⟨harrived, honce, hfailed, hreceived, hacked, hrecorded, hpublished⟩ := h
  simp only [inHand] at hreceived hacked hrecorded hpublished
  constructor <;> simp [inHand, What.isPublished, What.isRecorded] <;> omega

/-- The iteration goes on with its message. -/
theorem Accounted.select (h : Accounted v tr (some ⟨d, .received⟩) m) (a : TaskAssignment) :
    Accounted v tr (some ⟨d, .selected a⟩) m := by
  obtain ⟨harrived, honce, hfailed, hreceived, hacked, hrecorded, hpublished⟩ := h
  constructor <;> simp [inHand] at * <;> omega

theorem Accounted.publish {a : TaskAssignment} (h : Accounted v tr (some ⟨d, .selected a⟩) m)
    (a' : TaskAssignment) :
    Accounted v (tr ++ [⟨d.message, .published a'⟩]) (some ⟨d, .published a'⟩) m := by
  obtain ⟨harrived, honce, hfailed, hreceived, hacked, hrecorded, hpublished⟩ := h
  constructor <;> simp [inHand, What.isPublished, What.isRecorded] at * <;> omega

theorem Accounted.record {a : TaskAssignment} (h : Accounted v tr (some ⟨d, .published a⟩) m) :
    Accounted v (tr ++ [⟨d.message, .recorded a⟩]) (some ⟨d, .recorded a⟩) m := by
  obtain ⟨harrived, honce, hfailed, hreceived, hacked, hrecorded, hpublished⟩ := h
  constructor <;> simp [inHand, What.isPublished, What.isRecorded] at * <;> omega

/-- A new message for the loop. -/
theorem Accounted.arrive (h : Accounted v tr job m) (hdeclared : Declared v) (hown : Own v)
    (hnew : m' = m → times .arrived m tr = 0) :
    Accounted (v.route "tasks" "incoming" m') (tr ++ [⟨m', .arrived⟩]) job m := by
  obtain ⟨harrived, honce, hfailed, hreceived, hacked, hrecorded, hpublished⟩ := h
  by_cases hm : m' = m
  · have hzero := hnew hm
    constructor <;>
      simp [View.count_route, hdeclared.bound_incoming hown, hdeclared.bound_failed hown, hm,
        What.isPublished, What.isRecorded] <;> omega
  · constructor <;>
      simpa [View.count_route, hdeclared.bound_incoming hown, hdeclared.bound_failed hown, hm]

/-- A failed completion. -/
theorem Accounted.report (h : Accounted v tr job m) (hdeclared : Declared v) (hown : Own v)
    (m' : Message) :
    Accounted (v.route "tasks.dlx" "failed" m') (tr ++ [⟨m', .failed⟩]) job m := by
  obtain ⟨harrived, honce, hfailed, hreceived, hacked, hrecorded, hpublished⟩ := h
  constructor <;>
    simp [View.count_route, hdeclared.bound_incoming hown, hdeclared.bound_failed hown,
      What.isPublished, What.isRecorded] <;> omega

theorem Accounted.ack {a : TaskAssignment} (h : Accounted v tr (some ⟨d, .recorded a⟩) m)
    (hd : d.message ∈ v.held "tasks.incoming") :
    Accounted (v.settle d.tag "tasks.incoming" d.message)
      (tr ++ [⟨d.message, .acked true⟩]) none m := by
  obtain ⟨harrived, honce, hfailed, hreceived, hacked, hrecorded, hpublished⟩ := h
  rw [View.count_settle d.tag hd] at harrived hfailed
  constructor <;> simp [inHand, What.isPublished, What.isRecorded] at * <;> omega

theorem Accounted.reject (h : Accounted v tr (some ⟨d, .received⟩) m) (hdeclared : Declared v)
    (hown : Own v) (hd : d.message ∈ v.held "tasks.incoming") :
    Accounted ((v.settle d.tag "tasks.incoming" d.message).route "tasks.dlx" "failed" d.message)
      (tr ++ [⟨d.message, .rejected true⟩]) none m := by
  obtain ⟨harrived, honce, hfailed, hreceived, hacked, hrecorded, hpublished⟩ := h
  have hincoming : (v.settle d.tag "tasks.incoming" d.message).bound
      ⟨"tasks.incoming", "tasks.dlx", "failed"⟩ = false := by
    simp [View.settle, ← Bool.not_eq_true, hdeclared.bound_incoming hown]
  have hfailed' : (v.settle d.tag "tasks.incoming" d.message).bound
      ⟨"tasks.failed", "tasks.dlx", "failed"⟩ = true := hdeclared.failedBound
  rw [View.count_settle d.tag hd] at harrived hfailed
  constructor <;>
    simp [View.count_route, hincoming, hfailed', inHand, What.isPublished, What.isRecorded] at * <;>
    omega

/-- The broker does not hear of it, and the message stays where it is. -/
theorem Accounted.loseAck {a : TaskAssignment} (h : Accounted v tr (some ⟨d, .recorded a⟩) m) :
    Accounted v (tr ++ [⟨d.message, .acked false⟩]) none m := by
  obtain ⟨harrived, honce, hfailed, hreceived, hacked, hrecorded, hpublished⟩ := h
  constructor <;> simp [inHand, What.isPublished, What.isRecorded] at * <;> omega

theorem Accounted.loseReject (h : Accounted v tr (some ⟨d, .received⟩) m) :
    Accounted v (tr ++ [⟨d.message, .rejected false⟩]) none m := by
  obtain ⟨harrived, honce, hfailed, hreceived, hacked, hrecorded, hpublished⟩ := h
  constructor <;> simp [inHand, What.isPublished, What.isRecorded] at * <;> omega

end

section
variable {β : Type} {B : Broker β Message} {s : State β} {m : Message} {d : Delivery Message}

/-- No entry about a task is about a message to come. -/
theorem Inv.times_eq_zero (h : Inv B s) (hm : s.nextId ≤ m.id) {what : What}
    (hwhat : what ≠ .failed) : times what m s.trace = 0 := by
  refine List.count_eq_zero.mpr fun hmem => ?_
  obtain hfailed | hlt := h.fresh _ hmem
  · exact hwhat hfailed
  · exact Nat.not_lt.mpr hm hlt

/-- What the process has from the broker has arrived. -/
theorem Inv.pending_fresh (h : Inv B s) (hd : d ∈ s.pending) : d.message.id < s.nextId := by
  by_contra hid
  have harrived := (h.accounted d.message).arrived
  rw [h.times_eq_zero (Nat.not_lt.mp hid) (by simp)] at harrived
  have hcount := Multiset.count_pos.mpr (h.session.waiting d hd)
  omega

theorem Inv.fresh_emit (h : Inv B s) (hd : d ∈ s.pending) (what : What) :
    ∀ e ∈ s.trace ++ [⟨d.message, what⟩], e.what = .failed ∨ e.message.id < s.nextId := by
  intro e he
  obtain he | he := List.mem_append.mp he
  · exact h.fresh e he
  · rw [List.mem_singleton.mp he]
    exact .inr (h.pending_fresh hd)

theorem mem_pending {stage : Stage} (hjob : s.job = some ⟨d, stage⟩) : d ∈ s.pending := by
  simp [State.pending, hjob]

/-- The message in hand is one that `tasks.incoming` holds. -/
theorem Inv.inHand_le (h : Inv B s) (rank : Nat) (m : Message) :
    inHand rank m s.job ≤ ((B.view s.broker).held "tasks.incoming").count m := by
  cases hjob : s.job with
  | none => exact Nat.zero_le _
  | some j =>
    simp only [inHand]
    split
    · next hm =>
      have hmem := h.session.waiting j.delivery (mem_pending (d := j.delivery) hjob)
      exact Multiset.count_pos.mpr (hm.1 ▸ hmem)
    · exact Nat.zero_le _

theorem disconnect_held (hB : B.Laws) (s : State β) :
    (B.view (s.disconnect B).broker).held = (B.view s.broker).held := by
  simp only [State.disconnect]
  split
  · rw [hB.close]
    rfl
  · rfl

theorem Inv.crash (h : Inv B s) (hB : B.Laws) : Inv B (s.crash B) := by
  have hsession := h.session.crash hB
  rw [State.crash] at hsession ⊢
  cases hjob : s.job with
  | none =>
    rw [hjob] at hsession
    exact ⟨hsession, h.fresh, fun m => (hjob ▸ h.accounted m).congr (disconnect_held hB s)⟩
  | some j =>
    rw [hjob] at hsession
    exact ⟨hsession, h.fresh_emit (mem_pending (d := j.delivery) hjob) _,
      fun m => (hjob ▸ h.accounted m).drop.congr (disconnect_held hB s)⟩

theorem Inv.settles (h : Inv B s) (hB : B.Laws) {stage : Stage} {call : β → β}
    {what : Bool → What} (hjob : s.job = some ⟨d, stage⟩) (hsettles : Settles B d stage call what) :
    Inv B (s.settle call d what) := by
  have hd := mem_pending hjob
  refine ⟨h.session.settles hB hjob hsettles, h.fresh_emit hd _, fun m => ?_⟩
  have haccounted := hjob ▸ h.accounted m
  show Accounted (B.view (if s.connected then call s.broker else s.broker))
    (s.trace ++ [⟨d.message, what s.connected⟩]) none m
  cases hconnected : s.connected with
  | false =>
    rw [if_neg Bool.false_ne_true]
    cases hsettles with
    | acks a => exact haccounted.loseAck
    | rejects => exact haccounted.loseReject
  | true =>
    rw [if_pos rfl]
    have hunacked := h.session.unacked hconnected d hd
    have hwaiting := h.session.waiting d hd
    cases hsettles with
    | acks a =>
      rw [hB.ack d.tag s.broker _ _ hunacked]
      exact haccounted.ack hwaiting
    | rejects =>
      have hdeclared := h.session.declared_of_connected hconnected
      rw [hdeclared.reject hB hunacked]
      exact haccounted.reject hdeclared h.session.own hwaiting

variable {K : Type} [Add K] [Sub K] [Mul K] [LT K] [DecidableLT K] [RatCast K] [Sqrt K]
  {l : Loop K}

theorem Inv.step (h : Inv B s) (hB : B.Laws) (ev : Event) : Inv B (step B l s ev) := by
  have hsteps := steps B l s ev
  have hsession := h.session.step (l := l) hB ev
  generalize TaskQueues.step B l s ev = s' at hsteps hsession ⊢
  cases hsteps with
  | stays => exact h
  | starts hdead hsetup =>
    exact ⟨hsession, h.fresh, fun m =>
      (h.accounted m).congr (setupTopology_extends hB s.broker).2⟩
  | fails hdead =>
    exact ⟨hsession, h.fresh, fun m =>
      (h.accounted m).congr (setupTopology_extends hB s.broker).2⟩
  | crashes => exact h.crash hB
  | disconnects kept =>
    exact ⟨hsession, h.fresh, fun m => (h.accounted m).congr (disconnect_held hB s)⟩
  | arrives body hdeclared =>
    have hsetup := h.session.setup hdeclared
    refine ⟨hsession, fun e he => ?_, fun m => ?_⟩
    · obtain he | he := List.mem_append.mp he
      · exact (h.fresh e he).imp_right Nat.lt_succ_of_lt
      · rw [List.mem_singleton.mp he]
        exact .inr (Nat.lt_succ_self _)
    · show Accounted (B.view (B.publish _ _ _ _)) _ _ m
      rw [hsetup.publish_incoming hB]
      exact (h.accounted m).arrive hsetup h.session.own fun hm =>
        h.times_eq_zero (hm ▸ le_rfl) (by simp)
  | reports body hconnected =>
    have hsetup := h.session.declared_of_connected hconnected
    refine ⟨hsession, fun e he => ?_, fun m => ?_⟩
    · obtain he | he := List.mem_append.mp he
      · exact h.fresh e he
      · exact .inl (congrArg Entry.what (List.mem_singleton.mp he))
    · show Accounted (B.view (B.publish _ _ _ _)) _ _ m
      rw [hsetup.publish_failed hB]
      exact (h.accounted m).report hsetup h.session.own _
  | delivers choice d broker hconnected hd =>
    obtain ⟨-, hview⟩ := hB.deliver _ _ _ _ _ hd
    exact ⟨hsession, h.fresh, fun m => (h.accounted m).congr (by rw [hview]; rfl)⟩
  | receives d inbox hjob hinbox =>
    have hd : d ∈ s.pending := by simp [State.pending, hjob, hinbox]
    exact ⟨hsession, h.fresh_emit hd _, fun m => (hjob ▸ h.accounted m).receive d⟩
  | settles d stage call what hjob hsettles => exact h.settles hB hjob hsettles
  | selects d request robotId hjob hrequest =>
    exact ⟨hsession, h.fresh, fun m => (hjob ▸ h.accounted m).select _⟩
  | publishes d a idNow stampNow hjob hknown =>
    exact ⟨hsession, h.fresh_emit (mem_pending hjob) _, fun m => (hjob ▸ h.accounted m).publish _⟩
  | inserts d a hjob =>
    exact ⟨hsession, h.fresh_emit (mem_pending hjob) _, fun m => (hjob ▸ h.accounted m).record⟩

/-- Nobody has used the two queues yet. -/
structure Fresh (v : View Message) : Prop where
  incoming : v.held "tasks.incoming" = 0
  failed : v.held "tasks.failed" = 0
  own : Own v

theorem inv_init {b : β} (hb : Fresh (B.view b)) : Inv B { broker := b } where
  session :=
    { own := hb.own
      setup := by simp
      started := by simp
      running := by simp
      dead := fun _ => rfl
      unacked := by simp
      tags := List.nodup_nil
      waiting := fun d hd => by simp [State.pending] at hd }
  fresh := by simp
  accounted m := by
    constructor <;> simp [times, publications, recordings, inHand, hb.incoming, hb.failed]

theorem inv_run (hB : B.Laws) {b : β} (hb : Fresh (B.view b)) (l : Loop K) (es : List Event) :
    Inv B (run B l b es) :=
  Run.run_invariant (I := Inv B) (fun _ ev h => h.step hB ev) (inv_init hb)

end

/-! ## What the assignments say -/

section
variable {β K : Type} {l : Loop K} {s : State β}

/-- The message decodes to a request that becomes this assignment, to a robot of the fleet. -/
def Becomes (l : Loop K) (body : String) (a : TaskAssignment) : Prop :=
  ∃ request, decode l body = some request ∧ robotIndex l.numRobots a.robotId ≠ none ∧
    ∃ idNow stampNow, a = prepare idNow stampNow { request with robotId := a.robotId }

/-- What the loop has made of the message in hand. -/
def Stage.From (l : Loop K) (m : Message) (tr : List Entry) : Stage → Prop
  | .received => True
  | .selected a => ∃ request, decode l m.body = some request ∧
      a = { request with robotId := a.robotId }
  | .published a => ⟨m, .published a⟩ ∈ tr
  | .recorded _ => True

structure Faithful (l : Loop K) (s : State β) : Prop where
  job : ∀ j ∈ s.job, j.stage.From l j.delivery.message s.trace
  published : ∀ m a, ⟨m, .published a⟩ ∈ s.trace → Becomes l m.body a
  recorded : ∀ m a, ⟨m, .recorded a⟩ ∈ s.trace → ⟨m, .published a⟩ ∈ s.trace

/-- The trace grows by something that is about no assignment, and the loop has a new message, or
none. -/
theorem Faithful.quiet (h : Faithful l s) {s' : State β} {new : List Entry}
    (ht : s'.trace = s.trace ++ new)
    (hnew : ∀ e ∈ new, e.what.isPublished = false ∧ e.what.isRecorded = false)
    (hjob : ∀ j ∈ s'.job, j ∈ s.job ∨ j.stage = .received) : Faithful l s' := by
  have hpublished : ∀ m a, ⟨m, .published a⟩ ∈ s'.trace → ⟨m, .published a⟩ ∈ s.trace := by
    intro m a hmem
    rw [ht] at hmem
    refine (List.mem_append.mp hmem).resolve_right fun hmem => ?_
    simpa [What.isPublished] using (hnew _ hmem).1
  have hrecorded : ∀ m a, ⟨m, .recorded a⟩ ∈ s'.trace → ⟨m, .recorded a⟩ ∈ s.trace := by
    intro m a hmem
    rw [ht] at hmem
    refine (List.mem_append.mp hmem).resolve_right fun hmem => ?_
    simpa [What.isRecorded] using (hnew _ hmem).2
  refine ⟨fun j hj => ?_, fun m a hmem => h.published m a (hpublished m a hmem), fun m a hmem => ?_⟩
  · obtain hj | hstage := hjob j hj
    · have hfrom := h.job j hj
      obtain ⟨d, stage⟩ := j
      cases stage with
      | published a => exact ht ▸ List.mem_append_left _ hfrom
      | _ => exact hfrom
    · simp [hstage, Stage.From]
  · exact ht ▸ List.mem_append_left _ (h.recorded m a (hrecorded m a hmem))

theorem Faithful.crash (h : Faithful l s) (B : Broker β Message) : Faithful l (s.crash B) := by
  rw [State.crash]
  split
  · exact h.quiet (List.append_nil _).symm (by simp) (by simp)
  · exact h.quiet rfl (by simp [What.isPublished, What.isRecorded]) (by simp [State.emit])

end

section
variable {β : Type} {B : Broker β Message} {s : State β}
  {K : Type} [Add K] [Sub K] [Mul K] [LT K] [DecidableLT K] [RatCast K] [Sqrt K] {l : Loop K}

theorem Faithful.step (h : Faithful l s) (ev : Event) : Faithful l (step B l s ev) := by
  have hsteps := steps B l s ev
  generalize TaskQueues.step B l s ev = s' at hsteps ⊢
  cases hsteps with
  | stays => exact h
  | crashes => exact h.crash B
  | starts | fails | disconnects | delivers =>
    exact h.quiet (List.append_nil _).symm (by simp) fun j hj => .inl hj
  | arrives | reports =>
    exact h.quiet rfl (by simp [What.isPublished, What.isRecorded]) fun j hj => .inl hj
  | receives d inbox hjob hinbox =>
    exact h.quiet rfl (by simp [What.isPublished, What.isRecorded]) (by simp [State.emit])
  | settles d stage call what hjob hsettles =>
    refine h.quiet rfl ?_ (by simp [State.settle, State.emit])
    cases hsettles <;> simp [What.isPublished, What.isRecorded]
  | selects d request robotId hjob hrequest =>
    exact ⟨by simp [Stage.From, hrequest], h.published, h.recorded⟩
  | publishes d a idNow stampNow hjob hknown =>
    obtain ⟨request, hrequest, ha⟩ := h.job _ hjob
    refine ⟨by simp [State.emit, Stage.From], fun m a' hmem => ?_, fun m a' hmem => ?_⟩
    · simp only [State.emit, List.mem_append, List.mem_singleton, Entry.mk.injEq,
        What.published.injEq] at hmem
      obtain hmem | ⟨rfl, rfl⟩ := hmem
      · exact h.published m a' hmem
      · exact ⟨request, hrequest, hknown, idNow, stampNow, congrArg (prepare idNow stampNow) ha⟩
    · refine List.mem_append_left _ (h.recorded m a' ?_)
      simpa [State.emit] using hmem
  | inserts d a hjob =>
    have hfrom : ⟨d.message, .published a⟩ ∈ s.trace := h.job _ hjob
    refine ⟨by simp [State.emit, Stage.From],
      fun m a' hmem => h.published m a' (by simpa [State.emit] using hmem), fun m a' hmem => ?_⟩
    simp only [State.emit, List.mem_append, List.mem_singleton, Entry.mk.injEq,
      What.recorded.injEq] at hmem
    obtain hmem | ⟨rfl, rfl⟩ := hmem
    · exact List.mem_append_left _ (h.recorded m a' hmem)
    · exact List.mem_append_left _ hfrom

theorem faithful_run (B : Broker β Message) (l : Loop K) (b : β) (es : List Event) :
    Faithful l (run B l b es) :=
  Run.run_invariant (I := Faithful l) (fun _ ev h => h.step ev) ⟨by simp, by simp, by simp⟩

/-- **No task is lost between the queues**, wherever the process ends, the connection is lost or an
ack gets nowhere, and however often. A message that has arrived is held by `tasks.incoming`, or
the broker has its ack, or its reject, one of these and once; and `tasks.failed` has those that
were rejected, with the failed completions. Each time it is received it is acked or rejected, unless
the process ends with it in hand, and it is acked only when it has become an assignment that is
recorded. It becomes more than one only if the process ended so, or an ack got nowhere, and what it
becomes is what it says. -/
theorem messages_accounted (hB : B.Laws) {b : β} (hb : Fresh (B.view b)) (l : Loop K)
    (es : List Event) (m : Message) :
    (times .arrived m (run B l b es).trace =
        ((B.view (run B l b es).broker).held "tasks.incoming").count m +
        times (.acked true) m (run B l b es).trace +
        times (.rejected true) m (run B l b es).trace ∧
      times .arrived m (run B l b es).trace ≤ 1) ∧
    ((B.view (run B l b es).broker).held "tasks.failed").count m =
      times (.rejected true) m (run B l b es).trace + times .failed m (run B l b es).trace ∧
    times .received m (run B l b es).trace =
      times (.acked true) m (run B l b es).trace + times (.acked false) m (run B l b es).trace +
      times (.rejected true) m (run B l b es).trace +
      times (.rejected false) m (run B l b es).trace +
      times .dropped m (run B l b es).trace + inHand 0 m (run B l b es).job ∧
    (times (.acked true) m (run B l b es).trace + times (.acked false) m (run B l b es).trace ≤
        recordings m (run B l b es).trace ∧
      recordings m (run B l b es).trace ≤ publications m (run B l b es).trace ∧
      publications m (run B l b es).trace ≤ 1 + times .dropped m (run B l b es).trace +
        times (.acked false) m (run B l b es).trace) ∧
    (∀ a, ⟨m, .published a⟩ ∈ (run B l b es).trace → Becomes l m.body a) ∧
    ∀ a, ⟨m, .recorded a⟩ ∈ (run B l b es).trace → ⟨m, .published a⟩ ∈ (run B l b es).trace := by
  have h := inv_run hB hb l es
  have hfaithful := faithful_run B l b es
  have hhand := h.inHand_le 2 m
  have h32 := inHand_antitone (show 2 ≤ 3 by decide) m (run B l b es).job
  obtain ⟨harrived, honce, hfailed, hreceived, hacked, hrecorded, hpublished⟩ := h.accounted m
  exact ⟨⟨harrived, honce⟩, hfailed, hreceived, ⟨by omega, by omega, by omega⟩,
    hfaithful.published m, hfaithful.recorded m⟩

end

/-- The connection is lost before the ack of a task, and the process that is started then gets the
task again. The next message is none. -/
def lostAckRun : List Event :=
  [.start, .submit "task", .deliver 0, .receive, .select (Consume.sampleConditions false).robots,
   .publish 1 1, .disconnect 0, .insert false, .ack, .crash,
   .start, .deliver 0, .receive, .select (Consume.sampleConditions false).robots, .publish 2 2,
   .insert false, .ack,
   .submit "pallet", .deliver 0, .receive, .select (Consume.sampleConditions false).robots]

theorem fresh_memory : Fresh (Memory.broker.view ({} : Memory Message)) :=
  ⟨rfl, rfl, ⟨by simp [Memory.broker, Memory.view], by simp [Memory.broker, Memory.view]⟩⟩

theorem messages_accounted_redelivered :
    (publications ⟨0, "task"⟩ (run Memory.broker Consume.sampleLoop {} lostAckRun).trace = 2 ∧
      2 ≤ 1 +
        times .dropped ⟨0, "task"⟩ (run Memory.broker Consume.sampleLoop {} lostAckRun).trace +
        times (.acked false) ⟨0, "task"⟩
          (run Memory.broker Consume.sampleLoop {} lostAckRun).trace) ∧
    ((run Memory.broker Consume.sampleLoop {} lostAckRun).broker.view.held "tasks.failed").count
      ⟨1, "pallet"⟩ = 1 := by
  have htwice : publications ⟨0, "task"⟩
      (run Memory.broker Consume.sampleLoop {} lostAckRun).trace = 2 := by decide +kernel
  have htask := messages_accounted Memory.broker_laws fresh_memory Consume.sampleLoop lostAckRun
    ⟨0, "task"⟩
  have hpallet := messages_accounted Memory.broker_laws fresh_memory Consume.sampleLoop lostAckRun
    ⟨1, "pallet"⟩
  refine ⟨⟨htwice, htwice ▸ htask.2.2.2.1.2.2⟩, hpallet.2.1.trans ?_⟩
  decide +kernel

end FleetServer.TaskQueues
