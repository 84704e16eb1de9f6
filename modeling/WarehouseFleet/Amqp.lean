import Mathlib.Data.Multiset.AddSub
import Mathlib.Logic.Function.Basic
import WarehouseFleet.Moves

/-!
# A message broker, seen from one channel

| here | AMQP 0-9-1 and its extensions |
| --- | --- |
| `View`              | what clients can tell of the broker |
| `Broker`            | the methods of one channel; `β` is whatever the broker keeps |
| `Broker.Laws`       | what the protocol says about them |
| `Call`, `attempt`   | synchronous calls in a row, up to the first that is refused |
| `Memory`            | a broker in memory; it shows that `Laws` can be met |

The broker is a parameter: results about its clients take any `Broker` with a proof of `Laws`. The
laws are about direct exchanges, about queues without a limit on length or age, and about a client
that may declare, write and read, over a connection that lasts while it waits for a reply. A broker
that follows them does not lose what it holds.
-/

namespace Amqp

/-! ## What there is to see -/

structure ExchangeDecl where
  kind : String
  durable : Bool
  autoDelete : Bool
  internal : Bool
  /-- by name -/
  arguments : List (String × String)
deriving DecidableEq

structure QueueDecl where
  durable : Bool
  exclusive : Bool
  autoDelete : Bool
  /-- by name -/
  arguments : List (String × String)
deriving DecidableEq

structure Binding where
  queue : String
  exchange : String
  routingKey : String
deriving DecidableEq

structure Delivery (α : Type) where
  tag : Nat
  message : α

@[ext] structure View (α : Type) where
  exchanges : String → Option ExchangeDecl
  queues : String → Option QueueDecl
  bound : Binding → Bool
  /-- Another consumer has the queue to itself. -/
  taken : String → Bool
  /-- The messages of a queue, whether they wait or have been delivered. -/
  held : String → Multiset α
  /-- What is delivered on the channel and neither acked nor rejected, with its queue. -/
  unacked : Nat → Option (String × α)

/-- Messages are published to it by clients, and go where their routing key says. -/
def ExchangeDecl.Direct (decl : ExchangeDecl) : Prop :=
  decl.kind = "direct" ∧ decl.internal = false ∧ decl.arguments = []

/-- It stays, for all connections, and says at most where dead letters go. -/
def QueueDecl.Plain (decl : QueueDecl) : Prop :=
  decl.exclusive = false ∧ decl.autoDelete = false ∧
    (decl.arguments = [] ∨ ∃ exchange routingKey, decl.arguments =
      [("x-dead-letter-exchange", exchange), ("x-dead-letter-routing-key", routingKey)])

/-- The exchange and the routing key for what the queue's consumers reject. -/
def QueueDecl.deadLetter (decl : QueueDecl) : Option (String × String) :=
  match decl.arguments.lookup "x-dead-letter-exchange",
    decl.arguments.lookup "x-dead-letter-routing-key" with
  | some exchange, some routingKey => some (exchange, routingKey)
  | _, _ => none

/-- Names that the broker keeps for itself. -/
def Reserved (name : String) : Prop := name = "" ∨ "amq.".toList <+: name.toList

instance (name : String) : Decidable (Reserved name) := inferInstanceAs (Decidable (_ ∨ _))

/-- A name can be declared as `decl`: it is new, or declared as that already. -/
def Fits {δ : Type} (decl : δ) (declared : Option δ) : Prop := ∀ decl' ∈ declared, decl' = decl

instance {δ : Type} [DecidableEq δ] (decl : δ) (declared : Option δ) :
    Decidable (Fits decl declared) := inferInstanceAs (Decidable (∀ decl' ∈ declared, _))

theorem fits_none {δ : Type} (decl : δ) : Fits decl none := fun _ h => nomatch h

namespace View

variable {α : Type}

def declareExchange (name : String) (decl : ExchangeDecl) (v : View α) : View α :=
  { v with exchanges := Function.update v.exchanges name (some decl) }

def declareQueue (name : String) (decl : QueueDecl) (v : View α) : View α :=
  { v with queues := Function.update v.queues name (some decl) }

def bind (c : Binding) (v : View α) : View α := { v with bound := Function.update v.bound c true }

/-- The message gets into the queues that are bound to the exchange with the routing key. -/
def route (exchange routingKey : String) (m : α) (v : View α) : View α :=
  { v with held := fun q =>
      if v.bound ⟨q, exchange, routingKey⟩ then m ::ₘ v.held q else v.held q }

def deliver (queue : String) (d : Delivery α) (v : View α) : View α :=
  { v with unacked := Function.update v.unacked d.tag (some (queue, d.message)) }

/-- A delivered message leaves its queue. -/
def settle [DecidableEq α] (tag : Nat) (queue : String) (m : α) (v : View α) : View α :=
  { v with
    held := Function.update v.held queue ((v.held queue).erase m)
    unacked := Function.update v.unacked tag none }

/-- The channel is closed: what was delivered on it waits again. -/
def close (v : View α) : View α := { v with unacked := fun _ => none }

/-- All that is declared in the one is declared in the other. -/
structure Extends (v v' : View α) : Prop where
  exchanges : ∀ name decl, v.exchanges name = some decl → v'.exchanges name = some decl
  queues : ∀ name decl, v.queues name = some decl → v'.queues name = some decl
  bound : ∀ c, v.bound c = true → v'.bound c = true

section
variable {v v' v'' : View α} {name : String}

theorem Extends.refl (v : View α) : v.Extends v := ⟨fun _ _ h => h, fun _ _ h => h, fun _ h => h⟩

theorem Extends.trans (h : v.Extends v') (h' : v'.Extends v'') : v.Extends v'' where
  exchanges name decl hd := h'.exchanges name decl (h.exchanges name decl hd)
  queues name decl hd := h'.queues name decl (h.queues name decl hd)
  bound c hc := h'.bound c (h.bound c hc)

/-- What a name is declared as once, it is declared as from then on. -/
theorem update_of_fits {δ : Type} {f : String → Option δ} {decl d : δ} {name' : String}
    (h : Fits decl (f name)) (hd : f name' = some d) :
    Function.update f name (some decl) name' = some d := by
  obtain rfl | hne := eq_or_ne name' name
  · rw [Function.update_self, h d hd]
  · rwa [Function.update_of_ne hne]

theorem extends_declareExchange {decl : ExchangeDecl} (h : Fits decl (v.exchanges name)) :
    v.Extends (v.declareExchange name decl) :=
  ⟨fun _ _ hd => update_of_fits h hd, fun _ _ hd => hd, fun _ hc => hc⟩

theorem extends_declareQueue {decl : QueueDecl} (h : Fits decl (v.queues name)) :
    v.Extends (v.declareQueue name decl) :=
  ⟨fun _ _ hd => hd, fun _ _ hd => update_of_fits h hd, fun _ hc => hc⟩

theorem extends_bind (c : Binding) : v.Extends (v.bind c) := by
  refine ⟨fun _ _ hd => hd, fun _ _ hd => hd, fun c' hc => ?_⟩
  simp only [bind, Function.update_apply]
  split
  · rfl
  · exact hc

theorem extends_close (v : View α) : v.Extends v.close :=
  ⟨fun _ _ hd => hd, fun _ _ hd => hd, fun _ hc => hc⟩

/-- Declaring or binding once more changes nothing. -/
theorem declareExchange_eq_self {decl : ExchangeDecl} (h : v.exchanges name = some decl) :
    v.declareExchange name decl = v := by
  rw [declareExchange, ← h, Function.update_eq_self]

theorem declareQueue_eq_self {decl : QueueDecl} (h : v.queues name = some decl) :
    v.declareQueue name decl = v := by
  rw [declareQueue, ← h, Function.update_eq_self]

theorem bind_eq_self {c : Binding} (h : v.bound c = true) : v.bind c = v := by
  rw [bind, ← h, Function.update_eq_self]

end

section
variable {v : View α} {q q' e k : String} {m m' : α} {tag : Nat}

theorem mem_route (h : m' ∈ v.held q) : m' ∈ (v.route e k m).held q := by
  simp only [route]
  split
  · exact Multiset.mem_cons_of_mem h
  · exact h

theorem held_route_of_not_bound (h : v.bound ⟨q, e, k⟩ ≠ true) :
    (v.route e k m).held q = v.held q := if_neg h

variable [DecidableEq α]

theorem held_settle : (v.settle tag q m).held q = (v.held q).erase m := Function.update_self ..

theorem count_route : ((v.route e k m).held q).count m' =
    (v.held q).count m' + if v.bound ⟨q, e, k⟩ = true ∧ m = m' then 1 else 0 := by
  cases hbound : v.bound ⟨q, e, k⟩ <;>
    simp [route, hbound, Multiset.count_cons, @eq_comm _ m' m]

theorem count_settle (tag : Nat) (h : m ∈ v.held q) : (v.held q').count m' =
    ((v.settle tag q m).held q').count m' + if q' = q ∧ m = m' then 1 else 0 := by
  obtain rfl | hq := eq_or_ne q' q
  · simp only [settle, Function.update_self]
    nth_rewrite 1 [← Multiset.cons_erase h]
    simp [Multiset.count_cons, @eq_comm _ m' m]
  · simp [settle, hq]

end

end View

/-! ## The methods -/

/-- A synchronous method says whether its reply was the normal one. -/
structure Broker (β α : Type) where
  view : β → View α
  exchangeDeclare (name : String) (decl : ExchangeDecl) : β → Bool × β
  queueDeclare (name : String) (decl : QueueDecl) : β → Bool × β
  queueBind (binding : Binding) : β → Bool × β
  /-- with acks, and not exclusive -/
  consume (queue : String) : β → Bool × β
  publish (exchange routingKey : String) (m : α) : β → β
  /-- A message of the queue goes to the consumer; the number stands for the broker's choice. -/
  deliver (queue : String) (choice : Nat) : β → Option (Delivery α × β)
  ack (tag : Nat) : β → β
  /-- `basic.reject` without `requeue` -/
  reject (tag : Nat) : β → β
  /-- The channel is closed, by the client or by the loss of its connection. -/
  close : β → β

namespace Broker

variable {β α : Type}

/-- The broker does as it is asked if `p`, and then looks like `v`. If it refuses, it closes the
channel. -/
structure Replies (B : Broker β α) (b : β) (p : Prop) (v : View α) (r : Bool × β) : Prop where
  normal : r.1 = true ↔ p
  done : r.1 = true → B.view r.2 = v
  refused : r.1 = false → B.view r.2 = (B.view b).close

structure Laws [DecidableEq α] (B : Broker β α) : Prop where
  /-- A second declaration has to be the same as the first. -/
  exchangeDeclare : ∀ name decl b, ¬ Reserved name → decl.Direct →
    B.Replies b (Fits decl ((B.view b).exchanges name))
      ((B.view b).declareExchange name decl) (B.exchangeDeclare name decl b)
  queueDeclare : ∀ name decl b, ¬ Reserved name → decl.Plain →
    B.Replies b (Fits decl ((B.view b).queues name))
      ((B.view b).declareQueue name decl) (B.queueDeclare name decl b)
  queueBind : ∀ c b, ¬ Reserved c.exchange →
    B.Replies b (((B.view b).exchanges c.exchange).isSome ∧ ((B.view b).queues c.queue).isSome)
      ((B.view b).bind c) (B.queueBind c b)
  consume : ∀ q b, B.Replies b (((B.view b).queues q).isSome ∧ (B.view b).taken q = false)
    (B.view b) (B.consume q b)
  /-- A direct exchange routes by the routing key. -/
  publish : ∀ e k m b decl, (B.view b).exchanges e = some decl → decl.Direct →
    B.view (B.publish e k m b) = (B.view b).route e k m
  /-- A delivery has a tag of its own. -/
  deliver : ∀ q k b d b', B.deliver q k b = some (d, b') →
    (B.view b).unacked d.tag = none ∧ B.view b' = (B.view b).deliver q d
  /-- What is delivered and not settled is still in its queue. -/
  delivered : ∀ b tag q m, (B.view b).unacked tag = some (q, m) → m ∈ (B.view b).held q
  ack : ∀ tag b q m, (B.view b).unacked tag = some (q, m) →
    B.view (B.ack tag b) = (B.view b).settle tag q m
  /-- A rejected message goes to the dead-letter exchange of its queue. -/
  reject : ∀ tag b q m e k decl, (B.view b).unacked tag = some (q, m) →
    ((B.view b).queues q).bind (·.deadLetter) = some (e, k) →
    (B.view b).exchanges e = some decl → decl.Direct →
    B.view (B.reject tag b) = ((B.view b).settle tag q m).route e k m
  close : ∀ b, B.view (B.close b) = (B.view b).close

end Broker

/-! ## Calls in a row -/

inductive Call where
  | exchangeDeclare (name : String) (decl : ExchangeDecl)
  | queueDeclare (name : String) (decl : QueueDecl)
  | queueBind (binding : Binding)
  | consume (queue : String)

namespace Call

variable {β α : Type}

def run (B : Broker β α) : Call → β → Bool × β
  | .exchangeDeclare name decl => B.exchangeDeclare name decl
  | .queueDeclare name decl => B.queueDeclare name decl
  | .queueBind c => B.queueBind c
  | .consume q => B.consume q

/-- The laws are about such a call. -/
def Ordinary : Call → Prop
  | .exchangeDeclare name decl => ¬ Reserved name ∧ decl.Direct
  | .queueDeclare name decl => ¬ Reserved name ∧ decl.Plain
  | .queueBind c => ¬ Reserved c.exchange
  | .consume _ => True

def Allowed (v : View α) : Call → Prop
  | .exchangeDeclare name decl => Fits decl (v.exchanges name)
  | .queueDeclare name decl => Fits decl (v.queues name)
  | .queueBind c => (v.exchanges c.exchange).isSome ∧ (v.queues c.queue).isSome
  | .consume q => (v.queues q).isSome ∧ v.taken q = false

def effect (v : View α) : Call → View α
  | .exchangeDeclare name decl => v.declareExchange name decl
  | .queueDeclare name decl => v.declareQueue name decl
  | .queueBind c => v.bind c
  | .consume _ => v

def AllAllowed : View α → List Call → Prop
  | _, [] => True
  | v, call :: calls => call.Allowed v ∧ AllAllowed (call.effect v) calls

/-- The broker has what the call asks for. -/
def Has (v : View α) : Call → Prop
  | .exchangeDeclare name decl => v.exchanges name = some decl
  | .queueDeclare name decl => v.queues name = some decl
  | .queueBind c =>
    v.bound c = true ∧ (v.exchanges c.exchange).isSome ∧ (v.queues c.queue).isSome
  | .consume q => (v.queues q).isSome ∧ v.taken q = false

theorem effect_extends {v : View α} {call : Call} (h : call.Allowed v) :
    v.Extends (call.effect v) := by
  cases call with
  | exchangeDeclare name decl => exact View.extends_declareExchange h
  | queueDeclare name decl => exact View.extends_declareQueue h
  | queueBind c => exact View.extends_bind c
  | consume q => exact .refl v

theorem Has.allowed {v : View α} {call : Call} (h : call.Has v) : call.Allowed v := by
  cases call with
  | exchangeDeclare name decl => exact fun decl' hd => Option.some.inj (hd.symm.trans h)
  | queueDeclare name decl => exact fun decl' hd => Option.some.inj (hd.symm.trans h)
  | queueBind c => exact h.2
  | consume q => exact h

/-- Asking for what there is changes nothing. -/
theorem Has.effect {v : View α} {call : Call} (h : call.Has v) : call.effect v = v := by
  cases call with
  | exchangeDeclare name decl => exact View.declareExchange_eq_self h
  | queueDeclare name decl => exact View.declareQueue_eq_self h
  | queueBind c => exact View.bind_eq_self h.1
  | consume q => rfl

end Call

namespace Broker

variable {β α : Type} {B : Broker β α} {b : β} {calls : List Call}

/-- A refused call ends the row, and is the result. -/
def attempt (B : Broker β α) : List Call → β → Option Call × β
  | [], b => (none, b)
  | call :: calls, b =>
    match call.run B b with
    | (true, b') => attempt B calls b'
    | (false, b') => (some call, b')

section
variable [DecidableEq α]

theorem Laws.call (hB : B.Laws) {call : Call} (hcall : call.Ordinary) (b : β) :
    B.Replies b (call.Allowed (B.view b)) (call.effect (B.view b)) (call.run B b) := by
  cases call with
  | exchangeDeclare name decl => exact hB.exchangeDeclare name decl b hcall.1 hcall.2
  | queueDeclare name decl => exact hB.queueDeclare name decl b hcall.1 hcall.2
  | queueBind c => exact hB.queueBind c b hcall
  | consume q => exact hB.consume q b

/-- **A row of calls** gets through if each is allowed after those before it, and has their effects
then. -/
theorem attempt_spec (hB : B.Laws) (hcalls : ∀ call ∈ calls, call.Ordinary) (b : β) :
    ((B.attempt calls b).1 = none ↔ Call.AllAllowed (B.view b) calls) ∧
    ((B.attempt calls b).1 = none →
      B.view (B.attempt calls b).2 = calls.foldl Call.effect (B.view b)) := by
  induction calls generalizing b with
  | nil => simp [attempt, Call.AllAllowed]
  | cons call calls ih =>
    obtain ⟨hnormal, hdone, -⟩ := hB.call (hcalls call (by simp)) b
    rw [attempt, Call.AllAllowed, List.foldl_cons]
    generalize call.run B b = r at hnormal hdone
    obtain ⟨reply, b'⟩ := r
    cases reply with
    | true =>
      rw [← hdone rfl, and_iff_right (hnormal.mp rfl)]
      exact ih (fun call' h' => hcalls call' (by simp [h'])) b'
    | false => exact ⟨by simpa using fun hallowed _ => hnormal.mpr hallowed, by simp⟩

/-- The call that ends a row is the first that is not allowed after those before it. -/
theorem attempt_refused (hB : B.Laws) (hcalls : ∀ call ∈ calls, call.Ordinary) {call : Call}
    (h : (B.attempt calls b).1 = some call) :
    ∃ before after, calls = before ++ call :: after ∧ Call.AllAllowed (B.view b) before ∧
      ¬ call.Allowed (before.foldl Call.effect (B.view b)) := by
  induction calls generalizing b with
  | nil => simp [attempt] at h
  | cons call' calls ih =>
    obtain ⟨hnormal, hdone, -⟩ := hB.call (hcalls call' (by simp)) b
    rw [attempt] at h
    generalize call'.run B b = r at h hnormal hdone
    obtain ⟨reply, b'⟩ := r
    cases reply with
    | true =>
      obtain ⟨before, after, rfl, hbefore, hcall⟩ :=
        ih (fun call'' h'' => hcalls call'' (by simp [h''])) h
      rw [hdone rfl] at hbefore hcall
      exact ⟨call' :: before, after, rfl, ⟨hnormal.mp rfl, hbefore⟩, hcall⟩
    | false =>
      obtain rfl : call' = call := Option.some.inj h
      exact ⟨[], calls, rfl, trivial, fun hallowed => by simpa using hnormal.mpr hallowed⟩

/-- Wherever a row of calls ends, what was declared is, and no queue has lost or got a message. -/
theorem attempt_extends (hB : B.Laws) (hcalls : ∀ call ∈ calls, call.Ordinary) (b : β) :
    (B.view b).Extends (B.view (B.attempt calls b).2) ∧
      (B.view (B.attempt calls b).2).held = (B.view b).held := by
  induction calls generalizing b with
  | nil => exact ⟨.refl _, rfl⟩
  | cons call calls ih =>
    obtain ⟨hnormal, hdone, hrefused⟩ := hB.call (hcalls call (by simp)) b
    rw [attempt]
    generalize call.run B b = r at hnormal hdone hrefused
    obtain ⟨reply, b'⟩ := r
    cases reply with
    | true =>
      obtain ⟨hextends, hheld⟩ := ih (fun call' h' => hcalls call' (by simp [h'])) b'
      rw [hdone rfl] at hextends hheld
      refine ⟨(Call.effect_extends (hnormal.mp rfl)).trans hextends, hheld.trans ?_⟩
      cases call <;> rfl
    | false =>
      show (B.view b).Extends (B.view b') ∧ (B.view b').held = (B.view b).held
      rw [hrefused rfl]
      exact ⟨View.extends_close _, rfl⟩

/-- What is bound after a row of calls was bound before, or by one of them. -/
theorem attempt_bound (hB : B.Laws) (hcalls : ∀ call ∈ calls, call.Ordinary) {c : Binding}
    (h : (B.view (B.attempt calls b).2).bound c = true) :
    (B.view b).bound c = true ∨ .queueBind c ∈ calls := by
  induction calls generalizing b with
  | nil => exact .inl h
  | cons call calls ih =>
    obtain ⟨-, hdone, hrefused⟩ := hB.call (hcalls call (by simp)) b
    rw [attempt] at h
    generalize call.run B b = r at h hdone hrefused
    obtain ⟨reply, b'⟩ := r
    cases reply with
    | true =>
      obtain h | h := ih (fun call' h' => hcalls call' (by simp [h'])) h
      · rw [hdone rfl] at h
        cases call with
        | queueBind c' =>
          by_cases hc : c = c'
          · exact .inr (by simp [hc])
          · exact .inl (by simpa [Call.effect, View.bind, hc] using h)
        | _ => exact .inl h
      · exact .inr (List.mem_cons_of_mem _ h)
    | false =>
      have hb : B.view b' = (B.view b).close := hrefused rfl
      exact .inl (by simpa [hb, View.close] using h)

/-- A row of calls for what there is already gets through, and changes nothing. -/
theorem attempt_again (hB : B.Laws) (hcalls : ∀ call ∈ calls, call.Ordinary)
    (hhas : ∀ call ∈ calls, call.Has (B.view b)) :
    (B.attempt calls b).1 = none ∧ B.view (B.attempt calls b).2 = B.view b := by
  induction calls generalizing b with
  | nil => exact ⟨rfl, rfl⟩
  | cons call calls ih =>
    have hcall := hhas call (by simp)
    obtain ⟨hnormal, hdone, -⟩ := hB.call (hcalls call (by simp)) b
    have hreply := hnormal.mpr hcall.allowed
    have hview := (hdone hreply).trans hcall.effect
    rw [attempt]
    generalize call.run B b = r at hreply hview
    obtain ⟨reply, b'⟩ := r
    obtain rfl : reply = true := hreply
    have hrest := ih (b := b') (fun call' h' => hcalls call' (by simp [h']))
      fun call' h' => by rw [hview]; exact hhas call' (by simp [h'])
    exact ⟨hrest.1, hrest.2.trans hview⟩

end

end Broker

/-! ## A broker in memory -/

structure Outstanding (α : Type) where
  tag : Nat
  queue : String
  message : α

structure Memory (α : Type) where
  exchanges : String → Option ExchangeDecl := fun _ => none
  queues : String → Option QueueDecl := fun _ => none
  bound : Binding → Bool := fun _ => false
  ready : String → List α := fun _ => []
  unacked : List (Outstanding α) := []
  nextTag : Nat := 0
  old : ∀ o ∈ unacked, o.tag < nextTag := by exact fun _ h => nomatch h
  tags : (unacked.map (·.tag)).Nodup := by exact List.nodup_nil

namespace Memory

variable {α : Type}

/-- Of the queue's messages, those that are delivered and not settled. -/
def unackedOf (b : Memory α) (queue : String) : List α :=
  (b.unacked.filter (·.queue = queue)).map (·.message)

def find (b : Memory α) (tag : Nat) : Option (Outstanding α) := b.unacked.find? (·.tag = tag)

def view (b : Memory α) : View α where
  exchanges := b.exchanges
  queues := b.queues
  bound := b.bound
  taken _ := false
  held q := ↑(b.ready q ++ b.unackedOf q)
  unacked tag := (b.find tag).map fun o => (o.queue, o.message)

def close (b : Memory α) : Memory α :=
  { b with
    ready := fun q => b.ready q ++ b.unackedOf q
    unacked := []
    old := by simp
    tags := by simp }

def publish (exchange routingKey : String) (m : α) (b : Memory α) : Memory α :=
  { b with ready := fun q =>
      if b.bound ⟨q, exchange, routingKey⟩ then b.ready q ++ [m] else b.ready q }

def deliver (queue : String) (choice : Nat) (b : Memory α) : Option (Delivery α × Memory α) :=
  match (b.ready queue)[choice]? with
  | none => none
  | some m => some (⟨b.nextTag, m⟩,
    { b with
      ready := Function.update b.ready queue ((b.ready queue).eraseIdx choice)
      unacked := b.unacked ++ [⟨b.nextTag, queue, m⟩]
      nextTag := b.nextTag + 1
      old := fun o ho => by
        obtain ho | ho := List.mem_append.mp ho
        · exact Nat.lt_succ_of_lt (b.old o ho)
        · rw [List.mem_singleton.mp ho]
          exact Nat.lt_succ_self _
      tags := by
        have hnew : ∀ o ∈ b.unacked, o.tag ≠ b.nextTag := fun o ho => (b.old o ho).ne
        simpa [List.nodup_append, b.tags] using hnew })

def ack (tag : Nat) (b : Memory α) : Memory α :=
  { b with
    unacked := b.unacked.eraseP (·.tag = tag)
    old := fun o ho => b.old o (List.mem_of_mem_eraseP ho)
    tags := b.tags.sublist (List.eraseP_sublist.map _) }

def reject (tag : Nat) (b : Memory α) : Memory α :=
  match b.find tag with
  | none => b
  | some o =>
    match (b.queues o.queue).bind (·.deadLetter) with
    | none => b.ack tag
    | some (exchange, routingKey) => (b.ack tag).publish exchange routingKey o.message

/-- What was refused closes the channel. -/
def reply (p : Prop) [Decidable p] (done b : Memory α) : Bool × Memory α :=
  if p then (true, done) else (false, b.close)

def broker : Broker (Memory α) α where
  view := view
  exchangeDeclare name decl b := reply (Fits decl (b.exchanges name))
    { b with exchanges := Function.update b.exchanges name (some decl) } b
  queueDeclare name decl b := reply (Fits decl (b.queues name))
    { b with queues := Function.update b.queues name (some decl) } b
  queueBind c b := reply ((b.exchanges c.exchange).isSome ∧ (b.queues c.queue).isSome)
    { b with bound := Function.update b.bound c true } b
  consume q b := reply (b.queues q).isSome b b
  publish := publish
  deliver := deliver
  ack := ack
  reject := reject
  close := close

section
variable {b b' : Memory α} {p : Prop} [Decidable p] {v : View α} {o : Outstanding α} {tag : Nat}

theorem view_close (b : Memory α) : b.close.view = b.view.close := by
  ext1 <;> simp [view, close, View.close, unackedOf, find]

theorem replies_reply (hv : b'.view = v) : broker.Replies b p v (reply p b' b) := by
  rw [reply]
  split
  · next hp => exact ⟨by simp [hp], fun _ => hv, by simp⟩
  · next hp => exact ⟨by simp [hp], by simp, fun _ => view_close b⟩

theorem view_publish (e k : String) (m : α) (b : Memory α) :
    (b.publish e k m).view = b.view.route e k m := by
  ext1
  case held =>
    funext q
    cases hbound : b.bound ⟨q, e, k⟩ <;>
      simp [view, publish, View.route, unackedOf, hbound]
  all_goals rfl

theorem find_concat {xs : List (Outstanding α)} (h : ∀ x ∈ xs, x.tag ≠ o.tag) :
    (xs ++ [o]).find? (·.tag = tag) =
      if tag = o.tag then some o else xs.find? (·.tag = tag) := by
  rw [List.find?_append]
  split
  · next htag =>
    have hnone : xs.find? (·.tag = o.tag) = none :=
      List.find?_eq_none.mpr fun x hx => by simpa using h x hx
    simp [htag, hnone]
  · next htag => simp [Ne.symm htag]

theorem find_eraseP {xs : List (Outstanding α)} (h : (xs.map (·.tag)).Nodup) (tag tag' : Nat) :
    (xs.eraseP (·.tag = tag)).find? (·.tag = tag') =
      if tag' = tag then none else xs.find? (·.tag = tag') := by
  induction xs with
  | nil => simp
  | cons x xs ih =>
    obtain ⟨hx, hxs⟩ := List.nodup_cons.mp h
    by_cases htag : x.tag = tag
    · have hnone : xs.find? (·.tag = tag) = none :=
        List.find?_eq_none.mpr fun y hy => by
          simpa [← htag] using fun heq => hx (List.mem_map.mpr ⟨y, hy, heq⟩)
      by_cases htag' : tag' = tag
      · simp [htag, htag', hnone]
      · simp [htag, htag', Ne.symm htag']
    · by_cases hx' : x.tag = tag'
      · have hne : tag' ≠ tag := fun heq => htag (hx'.trans heq)
        simp [hx', hne]
      · simp [htag, hx', ih hxs]

theorem deliver_law {queue : String} {choice : Nat} {d : Delivery α}
    (h : b.deliver queue choice = some (d, b')) :
    b.view.unacked d.tag = none ∧ b'.view = b.view.deliver queue d := by
  rw [deliver] at h
  split at h
  · cases h
  · next m hm =>
    obtain ⟨rfl, rfl⟩ := (Prod.mk.injEq ..).mp (Option.some.inj h)
    constructor
    · have hnone : b.find b.nextTag = none :=
        List.find?_eq_none.mpr fun o ho => by simpa using (b.old o ho).ne
      simp [view, hnone]
    · ext1
      case held =>
        funext q
        obtain rfl | hq := eq_or_ne q queue
        · have hmove : ((b.ready q).eraseIdx choice ++ (b.unackedOf q ++ [m])).Perm
              (b.ready q ++ b.unackedOf q) := Moves.perm_move hm
          simpa [view, View.deliver, unackedOf] using Multiset.coe_eq_coe.mpr hmove
        · simp [view, View.deliver, unackedOf, hq, hq.symm]
      case unacked =>
        funext tag
        have hnew : ∀ o ∈ b.unacked, o.tag ≠ b.nextTag := fun o ho => (b.old o ho).ne
        simp only [view, find, View.deliver, Function.update_apply,
          find_concat (o := ⟨b.nextTag, queue, m⟩) hnew]
        split <;> rfl
      all_goals rfl

theorem mem_unackedOf (h : b.find tag = some o) : o.message ∈ b.unackedOf o.queue :=
  List.mem_map_of_mem (List.mem_filter.mpr ⟨List.mem_of_find?_eq_some h, by simp⟩)

theorem view_ack [DecidableEq α] (h : b.find tag = some o) :
    (b.ack tag).view = b.view.settle tag o.queue o.message := by
  have hperm := Moves.perm_cons_eraseP h
  ext1
  case held =>
    funext q
    have hq := (hperm.filter (·.queue = q)).map (·.message)
    obtain rfl | hne := eq_or_ne q o.queue
    · have hheld : (b.ready o.queue ++ b.unackedOf o.queue).Perm
          (o.message :: (b.ready o.queue ++ (b.ack tag).unackedOf o.queue)) := by
        refine (List.Perm.append_left _ ?_).trans List.perm_middle
        simpa [unackedOf, ack] using hq
      simp only [view, View.settle, Function.update_self]
      rw [Multiset.coe_eq_coe.mpr hheld, ← Multiset.cons_coe, Multiset.erase_cons_head]
      rfl
    · have hheld : (b.unackedOf q).Perm ((b.ack tag).unackedOf q) := by
        simpa [unackedOf, ack, hne.symm] using hq
      simp only [view, View.settle, Function.update_of_ne hne]
      exact Multiset.coe_eq_coe.mpr (hheld.symm.append_left _)
  case unacked =>
    funext tag'
    simp only [view, find, ack, View.settle, Function.update_apply, find_eraseP b.tags]
    split <;> rfl
  all_goals rfl

theorem exists_find {q : String} {m : α} (h : b.view.unacked tag = some (q, m)) :
    ∃ o, b.find tag = some o ∧ o.queue = q ∧ o.message = m := by
  obtain ⟨o, ho, heq⟩ := Option.map_eq_some_iff.mp h
  exact ⟨o, ho, congrArg Prod.fst heq, congrArg Prod.snd heq⟩

theorem broker_laws [DecidableEq α] : (broker (α := α)).Laws where
  exchangeDeclare name decl b _ _ := replies_reply rfl
  queueDeclare name decl b _ _ := replies_reply rfl
  queueBind c b _ := replies_reply rfl
  consume q b := by
    have hreply : broker.Replies b ((b.queues q).isSome = true) b.view
        (reply ((b.queues q).isSome = true) b b) := replies_reply rfl
    exact ⟨by simpa [view, broker] using hreply.normal, hreply.done, hreply.refused⟩
  publish e k m b decl _ _ := view_publish e k m b
  deliver q k b d b' h := deliver_law h
  delivered b tag q m h := by
    obtain ⟨o, ho, rfl, rfl⟩ := exists_find h
    exact Multiset.mem_coe.mpr (List.mem_append_right _ (mem_unackedOf ho))
  ack tag b q m h := by
    obtain ⟨o, ho, rfl, rfl⟩ := exists_find h
    exact view_ack ho
  reject tag b q m e k decl h hdead _ _ := by
    obtain ⟨o, ho, rfl, rfl⟩ := exists_find h
    have hdead' : (b.queues o.queue).bind (·.deadLetter) = some (e, k) := hdead
    have hreject : b.reject tag = (b.ack tag).publish e k o.message := by
      simp [reject, ho, hdead']
    show (b.reject tag).view = _
    rw [hreject, view_publish, view_ack ho]
    rfl
  close := view_close

end

end Memory

end Amqp
