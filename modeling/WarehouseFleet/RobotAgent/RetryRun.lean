import WarehouseFleet.BehaviorTree.Simulation
import WarehouseFleet.RobotAgent.RecoveryRun

/-!
# One activation of `NavToPickRetry` or `NavToDropRetry`

From the tick that starts the retry node in any world, over ticks and answers in any order, up to
the tick that returns SUCCESS or FAILURE; nobody halts the node. The calls of `start_spin` and
`start_backup` leave no trace when the server is not ready, so the run counts them (`counted`);
apart from that it is what the engine makes of `navRetry` (`tick_world`).

| here | there |
| --- | --- |
| `RetryRun.tree`, `.returned` | the status of the retry node (robot_agent.xml:31-36, 45-50) |
| `RetryRun.begun`    | calls of `start_spin`, `start_backup` (request_recovery.cpp:112-192) |
| `settled`           | every goal of the activation has been answered |
| `.elsewhere` of `Recovery.Event` | all that the rest of the agent does: faults, ports, other goals |
-/

namespace RobotAgent.Retry

open BehaviorTree (Action Outcome Path)
open Recovery (Behaviour tickLog)

/-- The behaviours a call of the leaf has started, seen from the node before and after. -/
def startedBy (before after : RequestRecovery) : List Behaviour :=
  (tickLog before after).filterMap fun
    | .started b _ => some b
    | _ => none

/-- The leaves, with a list of the behaviours they start: `RequestRecovery` starts a spin, and more
of them while it is RUNNING. -/
def counted (e : TickEnv) (l : Leaf) : Action (World × List Behaviour) where
  onStart x :=
    let r := (sem e l).onStart x.1
    (r.1, r.2, x.2 ++ match l with
      | .requestRecovery _ => [.spin]
      | _ => [])
  onRunning x :=
    let r := (sem e l).onRunning x.1
    (r.1, r.2, x.2 ++ match l with
      | .requestRecovery leg => startedBy (x.1.recov leg) (r.2.recov leg)
      | _ => [])
  onHalted x := ((sem e l).onHalted x.1, x.2)

theorem counted_maps (e : TickEnv) (l : Leaf) : (counted e l).Maps Prod.fst (sem e l) :=
  ⟨fun _ => rfl, fun _ => rfl, fun _ => rfl⟩

structure RetryRun where
  tree : Option Path := none
  /-- `SUCCESS` (`true`) or `FAILURE` -/
  returned : Option Bool := none
  world : World
  begun : List Behaviour := []
  /-- ticks that found every goal of the activation answered -/
  polls : Nat := 0

/-- The entry is made by a leaf of the retry node, or answers a goal. -/
def own (leg : Leg) : Obs → Bool
  | .navGoal n _ _ => n = .to leg
  | .spinGoal leg' _ _ | .backUpGoal leg' _ _ => leg' = leg
  | .posted l _ | .returned l _ => l = .navigateToPose (.to leg) ∨ l = .requestRecovery leg
  | .response _ _ | .result _ _ => true
  | _ => false

/-- The result of goal `g` has come. -/
def finished (g : Nat) (tr : List Obs) : Bool := tr.any fun
  | .result g' _ => g' = g
  | _ => false

/-- The goals that were sent have finished; a navigation may have been rejected. -/
def settled (leg : Leg) (tr : List Obs) : Bool := tr.all fun
  | .navGoal n g _ => n ≠ .to leg ||
      if .response g true ∈ tr then finished g tr else .response g false ∈ tr
  | .spinGoal leg' g _ | .backUpGoal leg' g _ => leg' ≠ leg || finished g tr
  | _ => true

section
variable (leg : Leg)

def done? : Outcome → Option Bool
  | .done b => some b
  | .running _ => none

def tick (e : TickEnv) (s : RetryRun) : RetryRun :=
  if s.returned.isSome then s
  else
    let r := BehaviorTree.tick (counted e) (navRetry leg) s.tree (s.world, s.begun)
    { s with tree := r.1.path?, returned := done? r.1, world := r.2.1, begun := r.2.2 }

def step (s : RetryRun) : Recovery.Event → RetryRun
  | .tick e =>
    { tick leg e s with polls := if settled leg s.world.trace then s.polls + 1 else s.polls }
  | .goalResponse g accepted =>
    if g < s.world.nextGoal then { s with world := goalResponse g accepted s.world } else s
  | .goalResult g code =>
    if g < s.world.nextGoal then { s with world := goalResult g code s.world } else s
  | .elsewhere w goals =>
    { s with world := { w with
        nav := Function.update w.nav (.to leg) (s.world.nav (.to leg))
        recov := Function.update w.recov leg (s.world.recov leg)
        nextGoal := s.world.nextGoal + goals
        trace := s.world.trace ++ w.trace.filter (!own leg ·) } }

/-- The activation starts in any world; its trace begins here. -/
def start (e : TickEnv) (w : World) : RetryRun := tick leg e { world := { w with trace := [] } }

def run (e : TickEnv) (w : World) (es : List Recovery.Event) : RetryRun :=
  Run.run (step leg) (start leg e w) es

/-- The counting apart, a tick of the activation is one of the engine. -/
theorem tick_world (e : TickEnv) {s : RetryRun} (h : s.returned = none) :
    (tick leg e s).tree = (BehaviorTree.tick (sem e) (navRetry leg) s.tree s.world).1.path? ∧
    (tick leg e s).returned = done? (BehaviorTree.tick (sem e) (navRetry leg) s.tree s.world).1 ∧
    (tick leg e s).world = (BehaviorTree.tick (sem e) (navRetry leg) s.tree s.world).2 := by
  have hmap := BehaviorTree.tick_map (counted_maps e) (navRetry leg) s.tree (s.world, s.begun)
  rw [hmap, tick, h]
  exact ⟨rfl, rfl, rfl⟩

end

/-! ## What an observer counts -/

/-- The goals `NavigateToPose` sent. -/
def navGoals (leg : Leg) (tr : List Obs) : Nat := tr.countP fun
  | .navGoal n _ _ => n = .to leg
  | _ => false

/-- The runs of `RequestRecovery`: only its `onStart` posts NAV_FAILED. -/
def recoveries (leg : Leg) (tr : List Obs) : Nat :=
  tr.count (.posted (.requestRecovery leg) .navFailed)

/-- The calls of the leaf that returned FAILURE. -/
def failed (l : Leaf) (tr : List Obs) : Nat := tr.count (.returned l .failure)

end RobotAgent.Retry
