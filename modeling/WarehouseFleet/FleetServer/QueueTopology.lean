import WarehouseFleet.Amqp

/-!
# `RabbitMqClient::setup_topology` (rabbitmq_client.cpp:49-95)

Seven calls, each with its `check_reply` (:12-17): the first refusal is an exception, and ends the
constructor of `FleetServerNode`. The broker keeps what has been declared until then.

| here | there |
| --- | --- |
| `directExchange` | `amqp_exchange_declare(.., "direct", 0, 1, 0, 0, ..)` |
| `failedQueue`, `incomingQueue` | `amqp_queue_declare(.., 0, 1, 0, 0, ..)` without and with `dlx_entries` |
| `context`        | what `check_reply` is told about the call |
| `setupTopology`  | the calls in order; an error is the text of the exception |
-/

namespace FleetServer.TaskQueues

open Amqp

/-- `durable` is the only flag that is set. -/
def directExchange : ExchangeDecl := ⟨"direct", true, false, false, []⟩

def failedQueue : QueueDecl := ⟨true, false, false, []⟩

def incomingQueue : QueueDecl :=
  ⟨true, false, false,
    [("x-dead-letter-exchange", "tasks.dlx"), ("x-dead-letter-routing-key", "failed")]⟩

def failedBinding : Binding := ⟨"tasks.failed", "tasks.dlx", "failed"⟩

def incomingBinding : Binding := ⟨"tasks.incoming", "tasks", "incoming"⟩

def setupCalls : List Call :=
  [.exchangeDeclare "tasks.dlx" directExchange,
   .queueDeclare "tasks.failed" failedQueue,
   .queueBind failedBinding,
   .exchangeDeclare "tasks" directExchange,
   .queueDeclare "tasks.incoming" incomingQueue,
   .queueBind incomingBinding,
   .consume "tasks.incoming"]

def context : Call → String
  | .exchangeDeclare name _ => "exchange.declare " ++ name
  | .queueDeclare name _ => "queue.declare " ++ name
  | .queueBind c => "queue.bind " ++ c.queue
  | .consume queue => "basic.consume " ++ queue

def checkReply : Option Call → Except String Unit
  | none => .ok ()
  | some call => .error ("RabbitMQ error during " ++ context call)

def setupTopology {β α : Type} (B : Broker β α) (b : β) : Except String Unit × β :=
  (checkReply (B.attempt setupCalls b).1, (B.attempt setupCalls b).2)

theorem setupTopology_eq_ok {β α : Type} {B : Broker β α} {b : β} :
    (setupTopology B b).1 = .ok () ↔ (B.attempt setupCalls b).1 = none := by
  rw [setupTopology]
  cases (B.attempt setupCalls b).1 <;> simp [checkReply]

/-! ## When it gets through -/

section
variable {α : Type} {v v' : View α}

/-- Nobody has declared the same names for something else, or has the tasks to themselves. -/
structure Compatible (v : View α) : Prop where
  dlx : Fits directExchange (v.exchanges "tasks.dlx")
  failed : Fits failedQueue (v.queues "tasks.failed")
  tasks : Fits directExchange (v.exchanges "tasks")
  incoming : Fits incomingQueue (v.queues "tasks.incoming")
  free : v.taken "tasks.incoming" = false

/-- All is declared as `setup_topology` does. -/
structure Declared (v : View α) : Prop where
  dlx : v.exchanges "tasks.dlx" = some directExchange
  failed : v.queues "tasks.failed" = some failedQueue
  tasks : v.exchanges "tasks" = some directExchange
  incoming : v.queues "tasks.incoming" = some incomingQueue
  failedBound : v.bound failedBinding = true
  incomingBound : v.bound incomingBinding = true

theorem Declared.mono (h : Declared v) (hv : v.Extends v') : Declared v' where
  dlx := hv.exchanges _ _ h.dlx
  failed := hv.queues _ _ h.failed
  tasks := hv.exchanges _ _ h.tasks
  incoming := hv.queues _ _ h.incoming
  failedBound := hv.bound _ h.failedBound
  incomingBound := hv.bound _ h.incomingBound

/-- The two queues have no bindings but those of `setup_topology`. -/
structure Own (v : View α) : Prop where
  incoming : ∀ e k, v.bound ⟨"tasks.incoming", e, k⟩ = true → e = "tasks" ∧ k = "incoming"
  failed : ∀ e k, v.bound ⟨"tasks.failed", e, k⟩ = true → e = "tasks.dlx" ∧ k = "failed"

theorem Declared.bound_incoming (h : Declared v) (hown : Own v) {e k : String} :
    v.bound ⟨"tasks.incoming", e, k⟩ = true ↔ e = "tasks" ∧ k = "incoming" :=
  ⟨hown.incoming e k, fun ⟨he, hk⟩ => he ▸ hk ▸ h.incomingBound⟩

theorem Declared.bound_failed (h : Declared v) (hown : Own v) {e k : String} :
    v.bound ⟨"tasks.failed", e, k⟩ = true ↔ e = "tasks.dlx" ∧ k = "failed" :=
  ⟨hown.failed e k, fun ⟨he, hk⟩ => he ▸ hk ▸ h.failedBound⟩

theorem directExchange_direct : directExchange.Direct := ⟨rfl, rfl, rfl⟩

theorem failedQueue_plain : failedQueue.Plain := ⟨rfl, rfl, .inl rfl⟩

theorem incomingQueue_plain : incomingQueue.Plain := ⟨rfl, rfl, .inr ⟨_, _, rfl⟩⟩

theorem setupCalls_ordinary : ∀ call ∈ setupCalls, call.Ordinary := by
  simp [setupCalls, Call.Ordinary, directExchange_direct, failedQueue_plain, incomingQueue_plain]
  decide

theorem allAllowed_setupCalls : Call.AllAllowed v setupCalls ↔ Compatible v := by
  simp only [setupCalls, Call.AllAllowed, Call.Allowed, Call.effect, View.declareExchange,
    View.declareQueue, View.bind, failedBinding, incomingBinding, Function.update_self,
    Function.update_of_ne (show "tasks" ≠ "tasks.dlx" by decide),
    Function.update_of_ne (show "tasks.incoming" ≠ "tasks.failed" by decide),
    Option.isSome_some, true_and, and_true]
  constructor
  · rintro ⟨hdlx, hfailed, htasks, hincoming, hfree⟩
    exact ⟨hdlx, hfailed, htasks, hincoming, hfree⟩
  · intro h
    exact ⟨h.dlx, h.failed, h.tasks, h.incoming, h.free⟩

theorem declared_setupCalls (v : View α) : Declared (setupCalls.foldl Call.effect v) := by
  constructor <;>
    simp [setupCalls, Call.effect, View.declareExchange, View.declareQueue, View.bind,
      failedBinding, incomingBinding]

theorem Declared.has (h : Declared v) (hfree : v.taken "tasks.incoming" = false) :
    ∀ call ∈ setupCalls, call.Has v := by
  simp [setupCalls, Call.Has, h.dlx, h.failed, h.tasks, h.incoming, hfree, failedBinding,
    incomingBinding]
  exact ⟨h.failedBound, h.incomingBound⟩

end

section
variable {β α : Type} [DecidableEq α] {B : Broker β α} {b : β} {m : α} {tag : Nat}

theorem Declared.publish_incoming (h : Declared (B.view b)) (hB : B.Laws) (m : α) :
    B.view (B.publish "tasks" "incoming" m b) = (B.view b).route "tasks" "incoming" m :=
  hB.publish _ _ m b _ h.tasks directExchange_direct

theorem Declared.publish_failed (h : Declared (B.view b)) (hB : B.Laws) (m : α) :
    B.view (B.publish "tasks.dlx" "failed" m b) = (B.view b).route "tasks.dlx" "failed" m :=
  hB.publish _ _ m b _ h.dlx directExchange_direct

theorem Declared.reject (h : Declared (B.view b)) (hB : B.Laws)
    (hm : (B.view b).unacked tag = some ("tasks.incoming", m)) :
    B.view (B.reject tag b) =
      ((B.view b).settle tag "tasks.incoming" m).route "tasks.dlx" "failed" m :=
  hB.reject tag b _ m _ _ _ hm (by rw [h.incoming]; rfl) h.dlx directExchange_direct

/-- Messages for `tasks` get to the loop, and those it rejects to `tasks.failed`. -/
structure Routes (B : Broker β α) (b : β) : Prop where
  incoming : ∀ m, (B.view (B.publish "tasks" "incoming" m b)).held "tasks.incoming" =
    m ::ₘ (B.view b).held "tasks.incoming"
  failed : ∀ m, (B.view (B.publish "tasks.dlx" "failed" m b)).held "tasks.failed" =
    m ::ₘ (B.view b).held "tasks.failed"
  rejected : ∀ tag m, (B.view b).unacked tag = some ("tasks.incoming", m) →
    (B.view (B.reject tag b)).held "tasks.failed" = m ::ₘ (B.view b).held "tasks.failed"

theorem Declared.routes (h : Declared (B.view b)) (hB : B.Laws) : Routes B b where
  incoming m := by
    rw [h.publish_incoming hB]
    exact if_pos h.incomingBound
  failed m := by
    rw [h.publish_failed hB]
    exact if_pos h.failedBound
  rejected tag m hm := by
    rw [h.reject hB hm]
    exact if_pos h.failedBound

theorem setupTopology_declared (hB : B.Laws) (hb : (setupTopology B b).1 = .ok ()) :
    Declared (B.view (setupTopology B b).2) := by
  have hview := (Broker.attempt_spec hB setupCalls_ordinary b).2 (setupTopology_eq_ok.mp hb)
  rw [setupTopology, hview]
  exact declared_setupCalls _

theorem setupTopology_extends (hB : B.Laws) (b : β) :
    (B.view b).Extends (B.view (setupTopology B b).2) ∧
      (B.view (setupTopology B b).2).held = (B.view b).held :=
  Broker.attempt_extends hB setupCalls_ordinary b

theorem setupTopology_own (hB : B.Laws) (hown : Own (B.view b)) :
    Own (B.view (setupTopology B b).2) := by
  constructor
  · intro e k hbound
    obtain hbound | hcall := Broker.attempt_bound hB setupCalls_ordinary hbound
    · exact hown.incoming e k hbound
    · simpa [setupCalls, failedBinding, incomingBinding] using hcall
  · intro e k hbound
    obtain hbound | hcall := Broker.attempt_bound hB setupCalls_ordinary hbound
    · exact hown.failed e k hbound
    · simpa [setupCalls, failedBinding, incomingBinding] using hcall

/-- **The topology** gets set up unless one of its names is in use for something else, or another
consumer has `tasks.incoming` to itself; the exception names the first call that is refused. What
others have declared stays and no message is lost, also where it fails. From then on messages take
their ways, and a later start gets through and changes nothing, whatever has been declared
besides. -/
theorem setup_topology (hB : B.Laws) (b : β) :
    ((setupTopology B b).1 = .ok () ↔ Compatible (B.view b)) ∧
    (∀ text, (setupTopology B b).1 = .error text → ∃ before call after,
      setupCalls = before ++ call :: after ∧ text = "RabbitMQ error during " ++ context call ∧
      Call.AllAllowed (B.view b) before ∧
      ¬ call.Allowed (before.foldl Call.effect (B.view b))) ∧
    ((B.view b).Extends (B.view (setupTopology B b).2) ∧
      (B.view (setupTopology B b).2).held = (B.view b).held) ∧
    ((setupTopology B b).1 = .ok () → ∀ b', (B.view (setupTopology B b).2).Extends (B.view b') →
      Routes B b' ∧ ((B.view b').taken "tasks.incoming" = false →
        (setupTopology B b').1 = .ok () ∧ B.view (setupTopology B b').2 = B.view b')) := by
  refine ⟨?_, fun text htext => ?_, setupTopology_extends hB b, fun hb b' hb' => ?_⟩
  · rw [setupTopology_eq_ok, (Broker.attempt_spec hB setupCalls_ordinary b).1,
      allAllowed_setupCalls]
  · rw [setupTopology] at htext
    cases hrefused : (B.attempt setupCalls b).1 with
    | none => simp [hrefused, checkReply] at htext
    | some call =>
      obtain ⟨before, after, hcalls, hbefore, hcall⟩ :=
        Broker.attempt_refused hB setupCalls_ordinary hrefused
      rw [hrefused] at htext
      exact ⟨before, call, after, hcalls, (Except.error.inj htext).symm, hbefore, hcall⟩
  · have hdeclared := (setupTopology_declared hB hb).mono hb'
    refine ⟨hdeclared.routes hB, fun hfree => ?_⟩
    obtain ⟨hnone, hview⟩ :=
      Broker.attempt_again hB setupCalls_ordinary (hdeclared.has hfree)
    exact ⟨setupTopology_eq_ok.mpr hnone, hview⟩

end

/-- Somebody has declared `tasks` for all who listen. -/
def fanout : Memory String where
  exchanges := Function.update (fun _ => none) "tasks" (some ⟨"fanout", true, false, false, []⟩)

theorem setup_topology_fanout :
    (setupTopology Memory.broker ({} : Memory String)).1 = .ok () ∧
    Routes Memory.broker (setupTopology Memory.broker ({} : Memory String)).2 ∧
    (setupTopology Memory.broker fanout).1 =
      .error "RabbitMQ error during exchange.declare tasks" := by
  have hfresh : (setupTopology Memory.broker ({} : Memory String)).1 = .ok () :=
    (setup_topology Memory.broker_laws {}).1.mpr
      ⟨fits_none _, fits_none _, fits_none _, fits_none _, rfl⟩
  exact ⟨hfresh, ((setup_topology Memory.broker_laws {}).2.2.2 hfresh _ (.refl _)).1, rfl⟩

end FleetServer.TaskQueues
