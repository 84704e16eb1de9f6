import WarehouseFleet.BehaviorTree.Outline
import WarehouseFleet.RobotAgent.Agent

/-!
# Where the tree of the agent stands

`Point` names the leaves of TaskExecution with the try count of their retry node, `Point.next` is
the order in which `robot_agent.xml` makes them follow one another (`next_path`: it is the order
the engine computes). `Pos` is where the whole tree stands between two ticks.
-/

namespace RobotAgent

open BehaviorTree

/-! ## Points of TaskExecution -/

inductive Point where
  | requestTask
  | nav (leg : Leg) (tries : Nat)
  | recover (leg : Leg) (tries : Nat)
  | exec (leg : Leg)
  | report
deriving DecidableEq, Repr

/-- Index of the retry node, and of the ExecutePickDrop, of a leg in TaskExecution. -/
def Leg.retryChild : Leg → Nat
  | .pick => 1
  | .drop => 3

def Leg.execChild : Leg → Nat
  | .pick => 2
  | .drop => 4

namespace Point

def path : Point → Path
  | requestTask => .child 0 .leaf
  | nav leg k => .child leg.retryChild (.deco k (.child 0 .leaf))
  | recover leg k => .child leg.retryChild (.deco k (.child 1 .leaf))
  | exec leg => .child leg.execChild .leaf
  | report => .child 5 .leaf

def leaf : Point → Leaf
  | requestTask => .requestTask
  | nav leg _ => .navigateToPose (.to leg)
  | recover leg _ => .requestRecovery leg
  | exec leg => .executePickDrop leg
  | report => .reportStatus

/-- `num_attempts` of the retry nodes is 3. -/
def Valid : Point → Prop
  | nav _ k => k < 3
  | recover _ k => k < 3
  | _ => True

/-- The leaf after this one returned SUCCESS (`true`) or FAILURE, or the result of TaskExecution. -/
def next : Point → Bool → Point ⊕ Bool
  | requestTask, true => .inl (nav .pick 0)
  | requestTask, false => .inr false
  | nav leg _, true => .inl (exec leg)
  | nav leg k, false => .inl (recover leg k)
  | recover leg _, true => .inl (exec leg)
  | recover leg k, false => if k + 1 < 3 then .inl (nav leg (k + 1)) else .inr false
  | exec .pick, true => .inl (nav .drop 0)
  | exec .drop, true => .inl report
  | exec _, false => .inr false
  | report, b => .inr b

def toNext : Point ⊕ Bool → Next
  | .inl pt => .start pt.path
  | .inr b => .done b

theorem leafAt_path {pt : Point} (h : pt.Valid) : taskExecution.leafAt pt.path = some pt.leaf := by
  cases pt with
  | nav leg k =>
    have hk : k < 3 := h
    cases leg <;>
      simp [taskExecution, navRetry, path, leaf, Leg.retryChild, Tree.leafAt, leafAtChild, hk]
  | recover leg k =>
    have hk : k < 3 := h
    cases leg <;>
      simp [taskExecution, navRetry, path, leaf, Leg.retryChild, Tree.leafAt, leafAtChild, hk]
  | exec leg => cases leg <;> rfl
  | _ => rfl

/-- A retry node holds the leaves of its leg. -/
theorem leafAt_navRetry {leg : Leg} {p : Path} {l : Leaf} (h : (navRetry leg).leafAt p = some l) :
    ∃ k < 3, (p = .deco k (.child 0 .leaf) ∧ l = .navigateToPose (.to leg)) ∨
      (p = .deco k (.child 1 .leaf) ∧ l = .requestRecovery leg) := by
  match p, h with
  | .deco k p, h =>
    rw [navRetry, Tree.leafAt] at h
    split at h
    · next hk =>
      refine ⟨k, hk, ?_⟩
      match p, h with
      | .child 0 .leaf, h => exact Or.inl ⟨rfl, (Option.some.inj h).symm⟩
      | .child 1 .leaf, h => exact Or.inr ⟨rfl, (Option.some.inj h).symm⟩
    · cases h

theorem exists_point {p : Path} {l : Leaf} (h : taskExecution.leafAt p = some l) :
    ∃ pt : Point, pt.Valid ∧ pt.path = p ∧ pt.leaf = l := by
  have leg : ∀ leg q, (navRetry leg).leafAt q = some l →
      ∃ pt : Point, pt.Valid ∧ pt.path = .child leg.retryChild q ∧ pt.leaf = l := by
    intro leg q hq
    obtain ⟨k, hk, ⟨rfl, rfl⟩ | ⟨rfl, rfl⟩⟩ := leafAt_navRetry hq
    · exact ⟨nav leg k, hk, rfl, rfl⟩
    · exact ⟨recover leg k, hk, rfl, rfl⟩
  match p, h with
  | .child 0 .leaf, h => exact ⟨requestTask, trivial, rfl, Option.some.inj h⟩
  | .child 1 q, h => exact leg .pick q h
  | .child 2 .leaf, h => exact ⟨exec .pick, trivial, rfl, Option.some.inj h⟩
  | .child 3 q, h => exact leg .drop q h
  | .child 4 .leaf, h => exact ⟨exec .drop, trivial, rfl, Option.some.inj h⟩
  | .child 5 .leaf, h => exact ⟨report, trivial, rfl, Option.some.inj h⟩

/-- `next` is the order of leaf calls the engine derives from the tree. -/
theorem next_path (pt : Point) (b : Bool) :
    taskExecution.next pt.path b = toNext (pt.next b) := by
  cases pt with
  | nav leg k => cases leg <;> cases b <;> rfl
  | recover leg k =>
    cases leg <;> cases b with
    | true => rfl
    | false =>
      by_cases hk : k + 1 < 3 <;>
        simp [next, toNext, taskExecution, navRetry, path, Leg.retryChild, Tree.next, nextChain,
          Next.orElse, hk] <;> rfl
  | exec leg => cases leg <;> cases b <;> rfl
  | requestTask => cases b <;> rfl
  | report => cases b <;> rfl

theorem next_valid {pt pt' : Point} {b : Bool} (hv : pt.Valid) (h : pt.next b = .inl pt') :
    pt'.Valid := by
  match pt, b, hv, h with
  | requestTask, true, _, h => cases h; exact Nat.succ_pos 2
  | nav leg _, true, _, h => cases h; trivial
  | nav leg k, false, hv, h => cases h; exact hv
  | recover leg _, true, _, h => cases h; trivial
  | recover leg k, false, _, h =>
    rw [next] at h
    split at h
    · next hk => cases h; exact hk
    · cases h
  | exec .pick, true, _, h => cases h; exact Nat.succ_pos 2
  | exec .drop, true, _, h => cases h; trivial

theorem next_ne_requestTask (pt : Point) (b : Bool) : pt.next b ≠ .inl .requestTask := by
  match pt, b with
  | requestTask, true => simp [next]
  | requestTask, false => simp [next]
  | nav _ _, true => simp [next]
  | nav _ _, false => simp [next]
  | recover _ _, true => simp [next]
  | recover _ _, false => rw [next]; split <;> simp
  | exec .pick, true => simp [next]
  | exec .drop, true => simp [next]
  | exec _, false => simp [next]
  | report, _ => simp [next]

/-- Only the end of the drop leads to `ReportStatus`. -/
theorem eq_of_next_report {pt : Point} {b : Bool} (h : pt.next b = .inl .report) :
    pt = exec .drop ∧ b = true := by
  match pt, b, h with
  | exec .drop, true, _ => exact ⟨rfl, rfl⟩
  | recover leg k, false, h => rw [next] at h; split at h <;> cases h

end Point

/-! ## Positions of the whole tree -/

inductive Pos where
  /-- no node is RUNNING -/
  | idle
  /-- `NavToCharger` is RUNNING -/
  | charger
  /-- `ChargeBattery` is RUNNING -/
  | charging
  | task (pt : Point)
deriving DecidableEq, Repr

namespace Pos

def path : Pos → Option Path
  | idle => none
  | charger => some (.child 0 (.child 1 .leaf))
  | charging => some (.child 0 (.child 2 .leaf))
  | task pt => some (.child 1 pt.path)

/-- The tree can stand there: `ReportStatus` is never RUNNING. -/
def Valid : Pos → Prop
  | task .report => False
  | task pt => pt.Valid
  | _ => True

theorem valid_task {pt : Point} : (task pt).Valid ↔ pt.Valid ∧ pt ≠ .report := by
  cases pt <;> simp [Valid, Point.Valid]

/-- The RUNNING leaf. -/
def leaf : Pos → Option Leaf
  | idle => none
  | charger => some (.navigateToPose .toCharger)
  | charging => some .chargeBattery
  | task pt => some pt.leaf

theorem eq_of_leaf_requestTask {p : Pos} (h : p.leaf = some .requestTask) :
    p = task .requestTask := by
  match p, h with
  | task .requestTask, _ => rfl

/-- ChargeWhenLow is not RUNNING. -/
def away : Pos → Prop
  | charger => False
  | charging => False
  | _ => True

/-- Where TaskExecution stands. -/
def rest : Pos → Pos
  | charger => idle
  | charging => idle
  | p => p

theorem rest_of_away {p : Pos} (h : p.away) : p.rest = p := by
  cases p with
  | charger => exact h.elim
  | charging => exact h.elim
  | _ => rfl

theorem eq_of_rest_eq {p : Pos} {pt : Point} (h : p.rest = task pt) : p = task pt := by
  cases p with
  | task => exact h
  | _ => cases h

/-- The position with this path. -/
def ofPath : Option Path → Pos
  | some (.child 0 (.child 1 .leaf)) => charger
  | some (.child 0 (.child 2 .leaf)) => charging
  | some (.child 1 (.child 0 .leaf)) => task .requestTask
  | some (.child 1 (.child 1 (.deco k (.child 0 .leaf)))) => task (.nav .pick k)
  | some (.child 1 (.child 1 (.deco k (.child 1 .leaf)))) => task (.recover .pick k)
  | some (.child 1 (.child 2 .leaf)) => task (.exec .pick)
  | some (.child 1 (.child 3 (.deco k (.child 0 .leaf)))) => task (.nav .drop k)
  | some (.child 1 (.child 3 (.deco k (.child 1 .leaf)))) => task (.recover .drop k)
  | some (.child 1 (.child 4 .leaf)) => task (.exec .drop)
  | some (.child 1 (.child 5 .leaf)) => task .report
  | _ => idle

theorem ofPath_path (p : Pos) : ofPath p.path = p := by
  match p with
  | idle => rfl
  | charger => rfl
  | charging => rfl
  | task .requestTask => rfl
  | task (.nav .pick _) => rfl
  | task (.nav .drop _) => rfl
  | task (.recover .pick _) => rfl
  | task (.recover .drop _) => rfl
  | task (.exec .pick) => rfl
  | task (.exec .drop) => rfl
  | task .report => rfl

theorem path_injective {p q : Pos} (h : p.path = q.path) : p = q := by
  rw [← ofPath_path p, h, ofPath_path]

theorem task_path_injective {p q : Point} (h : p.path = q.path) : p = q := by
  have : (Pos.task p).path = (Pos.task q).path := by
    rw [Pos.path, h, Pos.path]
  exact task.inj (path_injective this)

theorem leafAt_path {p : Pos} (h : p.Valid) : p.path.bind robotAgentMain.leafAt = p.leaf := by
  match p, h with
  | idle, _ => rfl
  | charger, _ => rfl
  | charging, _ => rfl
  | task pt, h =>
    show robotAgentMain.leafAt (.child 1 pt.path) = some pt.leaf
    rw [← Point.leafAt_path (valid_task.mp h).1]
    rfl

end Pos

def State.pos (s : State) : Pos := Pos.ofPath s.tree

end RobotAgent
