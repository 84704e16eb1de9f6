import WarehouseFleet.Fleet.Links
import WarehouseFleet.RobotAgent.FaultCounts
import WarehouseFleet.Rpc

/-!
# Commands to the robots

The only command is `inject_fault`, which `send_robot_command` passes on to the service of the
robot, with two seconds to respond. A command that times out may have been carried out, or may
still be: `success` says that it has been, its absence says nothing.

| here | there |
| --- | --- |
| `Request`, `CommandResult` | `SendRobotCommandRequest` and `Response` (fleet.proto:75-84) |
| `sendRobotCommand`     | `send_robot_command` up to `async_send_request` (fleet_server_node.cpp:125-142); `ready i` is what `service_is_ready` says |
| `commandResult`        | the rest of it (:143-149) |
| `faultServiceResponse` | what `fault_service_cb` fills in (robot_agent_node.cpp:265-279) |
| `Event.faultService`   | `fault_service_cb`, on the callback group that `step` of the agent is about |
| `Event.response`       | the executor of the server makes a future ready, between two of its callbacks |
-/

namespace Fleet.Commands

open Fms
open FleetServer
open RobotAgent (injections faultFailures Spends)

structure Request where
  robotId : String
  command : String
  value : Bool
deriving DecidableEq

structure CommandResult where
  success : Bool
  message : String
deriving DecidableEq

/-- A call of the service of one robot. -/
structure Command where
  robot : Nat
  value : Bool
deriving DecidableEq

def injectFault (i : Nat) (value : Bool) : Request := ⟨robotName i, "inject_fault", value⟩

def sendRobotCommand (numRobots : Nat) (ready : Nat → Bool) (request : Request) :
    Except CommandResult Command :=
  if request.command ≠ "inject_fault" then
    .error ⟨false, "unsupported command: " ++ request.command⟩
  else
    match robotIndex numRobots request.robotId with
    | none => .error ⟨false, "unknown robot_id: " ++ request.robotId⟩
    | some i =>
      if ready i then .ok ⟨i, request.value⟩
      else .error ⟨false, request.robotId ++ "'s inject_fault service is not available"⟩

def faultServiceResponse (command : Command) : CommandResult :=
  if command.value then ⟨true, "Fault injected"⟩ else ⟨true, "No fault (data=false)"⟩

def commandResult (command : Command) : Option CommandResult → CommandResult
  | some response => ⟨response.success, response.message⟩
  | none => ⟨false, robotName command.robot ++ " did not respond to inject_fault within 2s"⟩

structure State where
  fleet : Fleet.State
  calls : Rpc.State Command CommandResult := {}
  /-- what `SendRobotCommand` was called with, and what it has returned -/
  asked : List Request := []
  replies : List (Request × CommandResult) := []

inductive Event where
  /-- any other event of the fleet -/
  | fleet (ev : Fleet.Event)
  | command (request : Request) (ready : Nat → Bool)
  | faultService (k : Nat)
  | response (k : Nat)
  /-- `wait_for` returns -/
  | returns (k : Nat)
  | loseRequest (k : Nat)
  | loseResponse (k : Nat)

section
variable {K : Type} [Add K] [Sub K] [Mul K] [LT K] [DecidableLT K] [RatCast K] [Sqrt K]

def init (l : Launch K) : State where
  fleet := l.init

/-- An event of the calls and of nothing else. -/
def State.call (s : State) (ev : Rpc.Event Command) : State :=
  { s with calls := Rpc.step faultServiceResponse s.calls ev }

section
variable (s : State) (ev : Rpc.Event Command)

@[simp] theorem call_fleet : (s.call ev).fleet = s.fleet := rfl
@[simp] theorem call_calls :
    (s.call ev).calls = Rpc.step faultServiceResponse s.calls ev := rfl
@[simp] theorem call_asked : (s.call ev).asked = s.asked := rfl
@[simp] theorem call_replies : (s.call ev).replies = s.replies := rfl

end

def step (l : Launch K) (s : State) : Event → State
  | .fleet (.robot _ (.injectFault _)) => s
  | .fleet ev => { s with fleet := Fleet.step l s.fleet ev }
  | .command request ready =>
    match sendRobotCommand l.numRobots ready request with
    | .error result =>
      { s with asked := s.asked ++ [request], replies := s.replies ++ [(request, result)] }
    | .ok command => { s.call (.call command) with asked := s.asked ++ [request] }
  | .faultService k =>
    match s.calls.requests[k]? with
    | none => s
    | some (_, command) =>
      { s.call (.handle k) with
        fleet := Fleet.step l s.fleet (.robot command.robot (.injectFault command.value)) }
  | .response k => if s.fleet.server.busy .executor then s else s.call (.receive k)
  | .returns k =>
    match s.calls.waiting[k]? with
    | none => s
    | some (id, command) =>
      { s.call (.wake k) with
        replies := s.replies ++
          [(injectFault command.robot command.value,
            commandResult command (s.calls.future id))] }
  | .loseRequest k => s.call (.loseRequest k)
  | .loseResponse k => s.call (.loseResponse k)

def run (l : Launch K) (es : List Event) : State := Run.run (step l) (init l) es

end

/-! ## What the operators and the robots see -/

/-- The replies to this request that report success. -/
def successes (request : Request) (replies : List (Request × CommandResult)) : Nat :=
  replies.countP fun reply => reply.1 = request ∧ reply.2.success

/-- The calls of this command, in a list of calls with ids. -/
def countOf (command : Command) (calls : List (Nat × Command)) : Nat :=
  calls.countP (·.2 = command)

structure Inv {K : Type} [Add K] [Sub K] [Mul K] [LT K] [DecidableLT K] [RatCast K] [Sqrt K]
    (l : Launch K) (s : State) : Prop where
  fleet : ∃ es, s.fleet = l.run es
  calls : Rpc.Inv faultServiceResponse s.calls
  known : ∀ c ∈ Rpc.called s.calls.trace, c.2.robot < l.numRobots
  /-- What robot `i` has been through is what its service has handled. -/
  served : ∀ i, Spends (fun value => countOf ⟨i, value⟩ (Rpc.handled s.calls.trace))
    (s.fleet.agents i).world
  asked : ∀ i value, countOf ⟨i, value⟩ (Rpc.called s.calls.trace) ≤
    s.asked.count (injectFault i value)
  successes : ∀ i value, successes (injectFault i value) s.replies ≤
    countOf ⟨i, value⟩ ((Rpc.answered s.calls.trace).map Prod.fst)
  replies : ∀ reply ∈ s.replies, reply.2.success = true → ∃ i < l.numRobots, ∃ value,
    reply = (injectFault i value, faultServiceResponse ⟨i, value⟩)

section
variable {numRobots : Nat} {ready : Nat → Bool} {request : Request} {command : Command}
  {result : CommandResult}

theorem injectFault_inj {i j : Nat} {v v' : Bool} :
    injectFault i v = injectFault j v' ↔ i = j ∧ v = v' := by
  simp [injectFault, robotName_inj]

theorem sendRobotCommand_ok (h : sendRobotCommand numRobots ready request = .ok command) :
    command.robot < numRobots ∧ request = injectFault command.robot command.value := by
  rw [sendRobotCommand] at h
  split at h
  · cases h
  · next hcommand =>
    split at h
    · cases h
    · next i hi =>
      obtain ⟨hlt, hname⟩ := robotIndex_eq_some.mp hi
      split at h
      · obtain rfl := Except.ok.inj h
        refine ⟨hlt, ?_⟩
        cases request
        simp_all [injectFault]
      · cases h

/-- A request that is refused reports no success. -/
theorem sendRobotCommand_error (h : sendRobotCommand numRobots ready request = .error result) :
    result.success = false := by
  rw [sendRobotCommand] at h
  split at h
  · rw [← Except.error.inj h]
  · split at h
    · rw [← Except.error.inj h]
    · split at h
      · cases h
      · rw [← Except.error.inj h]

end

section
variable {K : Type} [Add K] [Sub K] [Mul K] [LT K] [DecidableLT K] [RatCast K] [Sqrt K]
  {l : Launch K} {s : State}

/-- What an event of the fleet is to one agent. -/
theorem agents_step (s : Fleet.State) {ev : Fleet.Event}
    (hev : ∀ i value, ev ≠ .robot i (.injectFault value)) (i : Nat) :
    (Fleet.step l s ev).agents i = s.agents i ∨ ∃ ev', (∀ value, ev' ≠ .injectFault value) ∧
      (Fleet.step l s ev).agents i = RobotAgent.step (s.agents i) ev' := by
  have moves : ∀ (s' : Fleet.State) j ev', (∀ value, ev' ≠ .injectFault value) →
      s'.agents = Function.update s.agents j (RobotAgent.step (s.agents j) ev') →
      s'.agents i = s.agents i ∨ ∃ ev', (∀ value, ev' ≠ .injectFault value) ∧
        s'.agents i = RobotAgent.step (s.agents i) ev' := by
    intro s' j ev' hev' heq
    rw [heq]
    obtain rfl | hj := eq_or_ne i j
    · exact .inr ⟨ev', hev', Function.update_self ..⟩
    · exact .inl (Function.update_of_ne hj ..)
  cases ev with
  | robot j ev' =>
    have hev' : ∀ value, ev' ≠ .injectFault value := fun value heq => hev j value (heq ▸ rfl)
    cases ev' with
    | taskAssignment msg => exact .inl rfl
    | _ => exact moves _ j _ hev' rfl
  | taskAssignment j =>
    rw [Fleet.step]
    split
    · exact .inl rfl
    · next msg _ => exact moves _ j (.taskAssignment msg) (by simp) rfl
  | robotStatus j =>
    refine .inl ?_
    rw [Fleet.step]
    split
    · rfl
    · split <;> rfl
  | taskCompletion j =>
    refine .inl ?_
    rw [Fleet.step]
    split
    · rfl
    · split <;> rfl
  | _ => exact .inl rfl

theorem run_step {s : Fleet.State} (h : ∃ es, s = l.run es) (ev : Fleet.Event) :
    ∃ es, Fleet.step l s ev = l.run es := by
  obtain ⟨es, rfl⟩ := h
  exact ⟨es ++ [ev], by rw [Launch.run, Launch.run, Run.run_append]; rfl⟩

theorem step_fleet {ev : Fleet.Event} (hev : ∀ i value, ev ≠ .robot i (.injectFault value)) :
    step l s (.fleet ev) = { s with fleet := Fleet.step l s.fleet ev } := by
  cases ev with
  | robot i ev =>
    cases ev with
    | injectFault value => exact absurd rfl (hev i value)
    | _ => rfl
  | _ => rfl

/-- Another event of the fleet. -/
theorem Inv.fleetStep (h : Inv l s) {ev : Fleet.Event}
    (hev : ∀ i value, ev ≠ .robot i (.injectFault value)) :
    Inv l { s with fleet := Fleet.step l s.fleet ev } := by
  refine { h with fleet := run_step h.fleet ev, served := fun i => ?_ }
  obtain heq | ⟨ev', hev', heq⟩ := agents_step (l := l) s.fleet hev i
  · exact heq ▸ h.served i
  · exact heq ▸ (h.served i).step hev'

/-- An event of the calls that no end of a call sees. -/
theorem Inv.callStep (h : Inv l s) {ev : Rpc.Event Command}
    (ht : (Rpc.step faultServiceResponse s.calls ev).trace = s.calls.trace) :
    Inv l (s.call ev) where
  fleet := h.fleet
  calls := h.calls.step ev
  known := by simpa [State.call, ht] using h.known
  served := by simpa [State.call, ht] using h.served
  asked := by simpa [State.call, ht] using h.asked
  successes := by simpa [State.call, ht] using h.successes
  replies := h.replies

theorem Inv.command (h : Inv l s) (request : Request) (ready : Nat → Bool) :
    Inv l (Commands.step l s (.command request ready)) := by
  rw [step]
  split
  · next result hresult =>
    have hfails := sendRobotCommand_error hresult
    refine
      { h with
        asked := fun i value => ?_
        successes := fun i value => ?_
        replies := fun reply hreply hok => ?_ }
    · exact (h.asked i value).trans (by simp [List.count_append])
    · simpa [Commands.successes, hfails] using h.successes i value
    · obtain hreply | hreply := List.mem_append.mp hreply
      · exact h.replies reply hreply hok
      · obtain rfl := List.mem_singleton.mp hreply
        simp [hfails] at hok
  · next command hcommand =>
    obtain ⟨hlt, rfl⟩ := sendRobotCommand_ok hcommand
    have hcalled : Rpc.called (Rpc.step faultServiceResponse s.calls (.call command)).trace =
        Rpc.called s.calls.trace ++ [(s.calls.next, command)] := Rpc.called_append ..
    have hhandled : Rpc.handled (Rpc.step faultServiceResponse s.calls (.call command)).trace =
        Rpc.handled s.calls.trace := by simp [Rpc.step, Rpc.handled]
    have hanswered : Rpc.answered (Rpc.step faultServiceResponse s.calls (.call command)).trace =
        Rpc.answered s.calls.trace := by simp [Rpc.step, Rpc.answered]
    refine
      { fleet := h.fleet
        calls := h.calls.step (.call command)
        known := fun c hc => ?_
        served := by simpa [hhandled] using h.served
        asked := fun i value => ?_
        successes := by simpa [hanswered] using h.successes
        replies := h.replies }
    · rw [call_calls, hcalled] at hc
      obtain hc | hc := List.mem_append.mp hc
      · exact h.known c hc
      · rw [List.mem_singleton.mp hc]
        exact hlt
    · have hone : countOf ⟨i, value⟩ [(s.calls.next, command)] =
          [injectFault command.robot command.value].count (injectFault i value) := by
        obtain ⟨robot, value'⟩ := command
        simp [countOf, List.count_singleton, injectFault_inj]
      rw [call_calls, hcalled, countOf, List.countP_append, List.count_append]
      exact Nat.add_le_add (h.asked i value) hone.le

/-- The service of one robot handles a request, and the others stay as they are. -/
theorem Inv.faultService (h : Inv l s) (k : Nat) :
    Inv l (Commands.step l s (.faultService k)) := by
  rw [step]
  split
  · exact h
  · next id command hk =>
    have hcalled : Rpc.called (Rpc.step faultServiceResponse s.calls (.handle k)).trace =
        Rpc.called s.calls.trace := by simp [Rpc.step, hk, Rpc.called]
    have hhandled : Rpc.handled (Rpc.step faultServiceResponse s.calls (.handle k)).trace =
        Rpc.handled s.calls.trace ++ [(id, command)] := by simp [Rpc.step, hk, Rpc.handled]
    have hanswered : Rpc.answered (Rpc.step faultServiceResponse s.calls (.handle k)).trace =
        Rpc.answered s.calls.trace := by simp [Rpc.step, hk, Rpc.answered]
    refine
      { fleet := run_step h.fleet (.robot command.robot (.injectFault command.value))
        calls := h.calls.step (.handle k)
        known := by simpa [hcalled] using h.known
        served := fun i => ?_
        asked := by simpa [hcalled] using h.asked
        successes := by simpa [hanswered] using h.successes
        replies := h.replies }
    have hcount : (fun value => countOf ⟨i, value⟩ (Rpc.handled s.calls.trace ++ [(id, command)])) =
        fun value => countOf ⟨i, value⟩ (Rpc.handled s.calls.trace) +
          if command = ⟨i, value⟩ then 1 else 0 := by
      funext value
      simp [countOf, List.countP_append, List.countP_cons]
    have hagent : (Fleet.step l s.fleet
        (.robot command.robot (.injectFault command.value))).agents =
          Function.update s.fleet.agents command.robot (RobotAgent.step
            (s.fleet.agents command.robot) (.injectFault command.value)) := rfl
    simp only [call_calls, hhandled, hcount, hagent]
    obtain ⟨robot, data⟩ := command
    obtain rfl | hi := eq_or_ne i robot
    · rw [Function.update_self]
      simpa [RobotAgent.step, eq_comm] using (h.served i).injectFault data
    · rw [Function.update_of_ne hi]
      simpa [hi.symm] using h.served i

/-- A call returns what the service has responded, or that it did not. -/
theorem Inv.returns (h : Inv l s) (k : Nat) : Inv l (Commands.step l s (.returns k)) := by
  rw [step]
  split
  · exact h
  · next id command hk =>
    have hcalls : Rpc.Inv faultServiceResponse (Rpc.step faultServiceResponse s.calls (.wake k)) :=
      h.calls.step (.wake k)
    have hcalled : Rpc.called (Rpc.step faultServiceResponse s.calls (.wake k)).trace =
        Rpc.called s.calls.trace := by simp [Rpc.step, hk, Rpc.called]
    have hhandled : Rpc.handled (Rpc.step faultServiceResponse s.calls (.wake k)).trace =
        Rpc.handled s.calls.trace := by simp [Rpc.step, hk, Rpc.handled]
    have hanswered : Rpc.answered (Rpc.step faultServiceResponse s.calls (.wake k)).trace =
        Rpc.answered s.calls.trace ++
          ((s.calls.future id).map fun response => ((id, command), response)).toList := by
      cases hfuture : s.calls.future id <;> simp [Rpc.step, hk, hfuture, Rpc.answered]
    refine
      { fleet := h.fleet
        calls := hcalls
        known := by simpa [hcalled] using h.known
        served := by simpa [hhandled] using h.served
        asked := by simpa [hcalled] using h.asked
        successes := fun i value => ?_
        replies := fun reply hreply hok => ?_ }
    · have hone : Commands.successes (injectFault i value)
            [(injectFault command.robot command.value,
              commandResult command (s.calls.future id))] ≤
          countOf ⟨i, value⟩ (((s.calls.future id).map fun response =>
            ((id, command), response)).toList.map Prod.fst) := by
        obtain ⟨robot, data⟩ := command
        cases s.calls.future id with
        | none => simp [Commands.successes, commandResult]
        | some response =>
          by_cases hc : robot = i ∧ data = value
          · obtain ⟨rfl, rfl⟩ := hc
            exact List.countP_le_length.trans (by simp [countOf])
          · simp [Commands.successes, injectFault_inj, hc]
      rw [call_calls, hanswered, List.map_append, countOf, List.countP_append,
        Commands.successes, List.countP_append]
      exact Nat.add_le_add (h.successes i value) hone
    · obtain hreply | hreply := List.mem_append.mp hreply
      · exact h.replies reply hreply hok
      · obtain rfl := List.mem_singleton.mp hreply
        have hmem : (id, command) ∈ Rpc.called s.calls.trace :=
          h.calls.returned.subset (List.mem_append_left _ (List.mem_of_getElem? hk))
        refine ⟨command.robot, h.known _ hmem, command.value, ?_⟩
        cases hfuture : s.calls.future id with
        | none => simp [hfuture, commandResult] at hok
        | some response =>
          have hresponse : response = faultServiceResponse command :=
            hcalls.accounted.response ((id, command), response) (by simp [hanswered, hfuture])
          rw [hresponse]
          rfl

theorem Inv.step (h : Inv l s) (ev : Event) : Inv l (Commands.step l s ev) := by
  cases ev with
  | fleet ev =>
    by_cases hev : ∃ i value, ev = .robot i (.injectFault value)
    · obtain ⟨i, value, rfl⟩ := hev
      exact h
    · simp only [not_exists] at hev
      rw [step_fleet hev]
      exact h.fleetStep hev
  | command request ready => exact h.command request ready
  | faultService k => exact h.faultService k
  | response k =>
    rw [Commands.step]
    split
    · exact h
    · refine h.callStep ?_
      rw [Rpc.step]
      split <;> rfl
  | returns k => exact h.returns k
  | loseRequest k => exact h.callStep rfl
  | loseResponse k => exact h.callStep rfl

theorem inv_init (l : Launch K) : Inv l (init l) where
  fleet := ⟨[], rfl⟩
  calls := Rpc.inv_init
  known c hc := by simp [init, Rpc.called] at hc
  served i := ⟨fun value => rfl, Nat.le_of_eq rfl⟩
  asked i value := by simp [init, Rpc.called, countOf]
  successes i value := by simp [init, Commands.successes]
  replies reply hreply := by simp [init] at hreply

/-- **Commands are accounted for**, whatever is delayed or lost. Robot `i` has carried out as many
commands as were answered with success, and no more than were asked for; of its navigations no
more fail by a fault than it was asked to inject. A success names a robot of the fleet, and its
message is the one for its value. All that is known of the runs of the fleet holds with commands,
too. -/
theorem commands_accounted (l : Launch K) (es : List Event) (i : Nat) :
    (∀ value, successes (injectFault i value) (run l es).replies ≤
        injections value ((run l es).fleet.agents i).world.trace ∧
      injections value ((run l es).fleet.agents i).world.trace ≤
        (run l es).asked.count (injectFault i value)) ∧
    faultFailures ((run l es).fleet.agents i).world.trace ≤
      (run l es).asked.count (injectFault i true) ∧
    (∀ reply ∈ (run l es).replies, reply.2.success = true → ∃ i < l.numRobots, ∃ value,
      reply = (injectFault i value, faultServiceResponse ⟨i, value⟩)) ∧
    ∃ es', (run l es).fleet = l.run es' := by
  have h : Inv l (run l es) :=
    Run.run_invariant (I := Inv l) (fun _ ev h => h.step ev) (inv_init l)
  have hcalls := h.calls.accounted
  have hasked : ∀ value, injections value ((run l es).fleet.agents i).world.trace ≤
      (run l es).asked.count (injectFault i value) := fun value => by
    rw [(h.served i).called]
    exact (hcalls.handled.countP_le _).trans (h.asked i value)
  refine ⟨fun value => ⟨?_, hasked value⟩, ?_, h.replies, h.fleet⟩
  · rw [(h.served i).called]
    exact (h.successes i value).trans (hcalls.answered.countP_le _)
  · have hfailures := (h.served i).failures
    have htrue := hasked true
    rw [(h.served i).called] at htrue
    omega

end

/-- The request is carried out, and the call returns before the response has come in. -/
def lateRun : List Event :=
  [.command (injectFault 0 true) (fun _ => true), .faultService 0, .returns 0]

example : successes (injectFault 0 true) (run Launch.sample lateRun).replies = 0 ∧
    injections true ((run Launch.sample lateRun).fleet.agents 0).world.trace = 1 := by
  decide +kernel

end Fleet.Commands
