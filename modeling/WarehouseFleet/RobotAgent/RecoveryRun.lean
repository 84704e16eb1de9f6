import WarehouseFleet.Run
import WarehouseFleet.Trace
import WarehouseFleet.RobotAgent.Agent
import WarehouseFleet.RobotAgent.LeafCases

/-!
# One run of `RequestRecovery`

From an `onStart` in any world, over ticks and answers in any order, up to the tick that returns
`SUCCESS` or `FAILURE`; nobody halts the node. The log says which behaviours were started, which
of them a tick found finished, and what was answered.

| here | there |
| --- | --- |
| `awaited`           | the state `onRunning` polls in its phase (request_recovery.cpp:43-46, 71-74) |
| `Happening.started` | `start_spin`, `start_backup` (:112-192); no goal when the server is not ready |
| `Happening.finished`| the branches of `onRunning` behind `received` (:49-64, 77-88) |
| `Event.goalResult`, `.goalResponse` | the answers to any goal that was sent, of this run or an earlier one |
| `Event.elsewhere`   | all that the rest of the agent does: it never touches this node |
-/

namespace RobotAgent.Recovery

open BehaviorTree (NodeStatus)
open Fms

inductive Behaviour where
  | spin
  | backup
deriving DecidableEq, Repr

/-- One entry of the log. -/
inductive Happening where
  | started (b : Behaviour) (goal : Option Nat)
  | finished (b : Behaviour) (goal : Option Nat) (ok : Bool)
  | response (g : Nat) (accepted : Bool)
  | result (g : Nat) (code : ResultCode)
deriving DecidableEq, Repr

/-- The behaviour a node waits for. -/
def awaited (r : RequestRecovery) : Option (Behaviour × RecovState) :=
  match r.phase with
  | .spin => r.spinState.map (Behaviour.spin, ·)
  | .backup => r.backupState.map (Behaviour.backup, ·)
  | .done | .failed => none

/-- What a tick does, seen from the node before and after. -/
def tickLog (before after : RequestRecovery) : List Happening :=
  match awaited before with
  | none => []
  | some (b, st) =>
    if st.resultReceived then
      .finished b st.goal st.resultSuccess ::
        ((awaited after).map fun a => .started a.1 a.2.goal).toList
    else []

def answers (g : Nat) : Happening → Bool
  | .response g' accepted => g' = g && !accepted
  | .result g' _ => g' = g
  | _ => false

/-- The goals of the run. -/
def goals (log : List Happening) : List Nat :=
  log.filterMap fun
    | .started _ goal => goal
    | _ => none

/-- Every goal of the run was rejected or has finished. -/
def AllAnswered (log : List Happening) : Prop := ∀ g ∈ goals log, log.any (answers g) = true

instance (log : List Happening) : Decidable (AllAnswered log) :=
  inferInstanceAs (Decidable (∀ g ∈ _, _))

structure RecoveryRun where
  world : World
  /-- what the node returned other than `RUNNING` -/
  returned : Option NodeStatus := none
  log : List Happening
  /-- ticks that found every goal of the run answered -/
  polls : Nat := 0

inductive Event where
  | tick (e : TickEnv)
  | goalResponse (g : Nat) (accepted : Bool)
  | goalResult (g : Nat) (code : ResultCode)
  | elsewhere (w : World) (goals : Nat)

/-- The entry is made by the node. -/
def own (leg : Leg) : Obs → Bool
  | .spinGoal leg' _ _ | .backUpGoal leg' _ _ => leg' = leg
  | .posted l _ => l = .requestRecovery leg
  | _ => false

section
variable (leg : Leg) (maxAttempts : Int)

def tick (e : TickEnv) (s : RecoveryRun) : RecoveryRun :=
  if s.returned.isSome then s
  else
    let r := returns (.requestRecovery leg) (RequestRecovery.onRunning e leg maxAttempts) s.world
    { s with
      world := r.2
      returned := if r.1 = .running then none else some r.1
      log := s.log ++ tickLog (s.world.recov leg) (r.2.recov leg) }

def step (s : RecoveryRun) : Event → RecoveryRun
  | .tick e =>
    { tick leg maxAttempts e s with
      polls := if AllAnswered s.log then s.polls + 1 else s.polls }
  | .goalResponse g accepted =>
    if g < s.world.nextGoal then
      { s with world := goalResponse g accepted s.world, log := s.log ++ [.response g accepted] }
    else s
  | .goalResult g code =>
    if g < s.world.nextGoal then
      { s with world := goalResult g code s.world, log := s.log ++ [.result g code] }
    else s
  | .elsewhere w goals =>
    { s with world := { w with
        recov := Function.update w.recov leg (s.world.recov leg)
        nextGoal := s.world.nextGoal + goals
        trace := s.world.trace ++ w.trace.filter (!own leg ·) } }

/-- The run starts in any world; its trace begins here. -/
def start (e : TickEnv) (w : World) : RecoveryRun :=
  let r := returns (.requestRecovery leg) (RequestRecovery.onStart e leg) { w with trace := [] }
  { world := r.2
    log := ((awaited (r.2.recov leg)).map fun a => Happening.started a.1 a.2.goal).toList }

def run (e : TickEnv) (w : World) (es : List Event) : RecoveryRun :=
  Run.run (step leg maxAttempts) (start leg e w) es

end

/-! ## What the log says -/

/-- The behaviours a tick found finished, and how. -/
def outcomes (log : List Happening) : List (Behaviour × Bool) :=
  log.filterMap fun
    | .finished b _ ok => some (b, ok)
    | _ => none

def failures (fs : List (Behaviour × Bool)) : Nat := fs.countP fun f => !f.2

def spinsStarted (log : List Happening) : Nat := log.countP fun
  | .started .spin _ => true
  | _ => false

/-- The result goal `g` came to, as the node knows it. -/
def lastResult (g : Nat) (log : List Happening) : Option ResultCode :=
  (log.filterMap fun
    | .result g' code => if g' = g then some code else none
    | _ => none).getLast?

/-- The behaviour that was started last, until it has finished. -/
def pending (log : List Happening) : Option (Behaviour × Option Nat) :=
  (log.filterMap fun
    | .started b goal => some (some (b, goal))
    | .finished _ _ _ => some none
    | _ => none).getLast?.join

/-- What an entry says is so: a backup starts right after a successful spin; what finishes was
pending, with the result of its own goal, or for want of a server that was ready. -/
def Genuine (pre : List Happening) : Happening → Prop
  | .started .spin _ => True
  | .started .backup _ => ∃ goal, pre.getLast? = some (.finished .spin goal true)
  | .finished b goal ok => pending pre = some (b, goal) ∧
    match goal with
    | none => ok = false
    | some g => ∃ code, lastResult g pre = some code ∧ (ok = true ↔ code = .succeeded)
  | .response _ _ | .result _ _ => True

/-- The goals the node sent, as an observer of the trace sees them. -/
def sentGoals (leg : Leg) (tr : List Obs) : List (Behaviour × Nat) :=
  tr.filterMap fun
    | .spinGoal leg' g _ => if leg' = leg then some (.spin, g) else none
    | .backUpGoal leg' g _ => if leg' = leg then some (.backup, g) else none
    | _ => none

def loggedGoals (log : List Happening) : List (Behaviour × Nat) :=
  log.filterMap fun
    | .started b (some g) => some (b, g)
    | _ => none

/-- The terminal events the node posted. -/
def terminalPosts (leg : Leg) (tr : List Obs) : List FsmEvent :=
  tr.filterMap fun
    | .posted l ev =>
      if l = .requestRecovery leg ∧ (ev = .recoveryDone ∨ ev = .recoveryFailed) then some ev
      else none
    | _ => none

/-! ## What a tick can do -/

/-- What `start_spin` and `start_backup` leave, for the goal they sent. -/
def launched : Option Nat → RecovState
  | none => RequestRecovery.notReady
  | some g => { goal := some g }

/-- The goal they send. -/
def newGoal (ready : Bool) (w : World) : Option Nat := if ready then some w.nextGoal else none

section
variable (e : TickEnv) (leg : Leg) (w : World)

open RequestRecovery

@[simp] theorem launched_goal (goal : Option Nat) : (launched goal).goal = goal := by
  cases goal <;> rfl

theorem startSpin_recov : (startSpin e leg w).recov leg =
    { w.recov leg with spinState := some (launched (newGoal e.spinReady w)) } := by
  unfold startSpin newGoal
  split <;> simp [launched]

theorem startBackup_recov : (startBackup e leg w).recov leg =
    { w.recov leg with backupState := some (launched (newGoal e.backupReady w)) } := by
  unfold startBackup newGoal
  split <;> simp [launched]

theorem startSpin_sentGoals : sentGoals leg (startSpin e leg w).trace =
    sentGoals leg w.trace ++ ((newGoal e.spinReady w).map (Behaviour.spin, ·)).toList := by
  unfold startSpin newGoal
  split <;> simp [sentGoals]

theorem startBackup_sentGoals : sentGoals leg (startBackup e leg w).trace =
    sentGoals leg w.trace ++ ((newGoal e.backupReady w).map (Behaviour.backup, ·)).toList := by
  unfold startBackup newGoal
  split <;> simp [sentGoals]

@[simp] theorem startSpin_terminalPosts :
    terminalPosts leg (startSpin e leg w).trace = terminalPosts leg w.trace := by
  unfold startSpin
  split <;> simp [terminalPosts]

@[simp] theorem startBackup_terminalPosts :
    terminalPosts leg (startBackup e leg w).trace = terminalPosts leg w.trace := by
  unfold startBackup
  split <;> simp [terminalPosts]

theorem nextGoal_le_startSpin : w.nextGoal ≤ (startSpin e leg w).nextGoal := by
  unfold startSpin
  split <;> simp

theorem nextGoal_le_startBackup : w.nextGoal ≤ (startBackup e leg w).nextGoal := by
  unfold startBackup
  split <;> simp

/-- What `onRunning` may find, and what it does then. -/
inductive Ticks (m : Int) : NodeStatus × World → Prop where
  | gone (ha : awaited (w.recov leg) = none)
      (hp : (w.recov leg).phase = .spin ∨ (w.recov leg).phase = .backup) : Ticks m (.running, w)
  | waiting (b : Behaviour) (st : RecovState) (ha : awaited (w.recov leg) = some (b, st))
      (hr : st.resultReceived = false) : Ticks m (.running, w)
  | spun (st : RecovState) (ha : awaited (w.recov leg) = some (.spin, st))
      (hr : st.resultReceived = true) (hg : st.resultSuccess = true) :
      Ticks m (.running, startBackup e leg (set leg { w.recov leg with phase := .backup } w))
  | backedUp (st : RecovState) (ha : awaited (w.recov leg) = some (.backup, st))
      (hr : st.resultReceived = true) (hg : st.resultSuccess = true) :
      Ticks m (.running, set leg { w.recov leg with phase := .done } w)
  | lost (b : Behaviour) (st : RecovState) (ha : awaited (w.recov leg) = some (b, st))
      (hr : st.resultReceived = true) (hg : st.resultSuccess = false) :
      Ticks m (.running, attemptFailed e leg m w)
  | done (hp : (w.recov leg).phase = .done) :
      Ticks m (.success, w.post (.requestRecovery leg) .recoveryDone)
  | failed (hp : (w.recov leg).phase = .failed) :
      Ticks m (.failure, w.post (.requestRecovery leg) .recoveryFailed)

theorem ticks (m : Int) : Ticks e leg w m (onRunning e leg m w) := by
  unfold onRunning
  split
  · next hp =>
    split
    · next hs => exact .gone (by simp [awaited, hp, hs]) (.inl hp)
    · next st hs =>
      have ha : awaited (w.recov leg) = some (.spin, st) := by simp [awaited, hp, hs]
      cases hr : st.resultReceived with
      | false => exact .waiting _ st ha hr
      | true =>
        cases hg : st.resultSuccess with
        | true => exact .spun st ha hr hg
        | false => exact .lost _ st ha hr hg
  · next hp =>
    split
    · next hs => exact .gone (by simp [awaited, hp, hs]) (.inr hp)
    · next st hs =>
      have ha : awaited (w.recov leg) = some (.backup, st) := by simp [awaited, hp, hs]
      cases hr : st.resultReceived with
      | false => exact .waiting _ st ha hr
      | true =>
        cases hg : st.resultSuccess with
        | true => exact .backedUp st ha hr hg
        | false => exact .lost _ st ha hr hg
  · next hp => exact .done hp
  · next hp => exact .failed hp

end

/-- A spin and a backup that both succeed. -/
def recoveredAtOnce : List Event :=
  [ .goalResponse 0 true
  , .goalResult 0 .succeeded
  , .tick (.up 1)
  , .goalResponse 1 true
  , .goalResult 1 .succeeded
  , .tick (.up 2)
  , .tick (.up 3) ]

end RobotAgent.Recovery
