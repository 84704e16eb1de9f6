import WarehouseFleet.Fleet.Links

/-!
# Where a task is

On its way from the server and back a task of robot `i` is on `task_assignment`, in one of the
three places of the agent, on `task_completion`, or processed. `pipeline` lists the tasks that are
somewhere, the furthest first: they are a sublist of what was published to the robot, so nothing
overtakes, turns up twice, or turns up at another robot. A message that is lost, or a task that
the agent drops, leaves a gap.
-/

namespace Fleet

open Fms
open FleetServer
open RobotAgent (Delivery held)

/-- The tasks of completions that robot `i` has signed. -/
def doneIds (i : Nat) (msgs : List TaskCompletion) : List String :=
  (msgs.filter (·.robotId = robotName i)).map (·.taskId)

def pipeline (i : Nat) (s : State) : List String :=
  doneIds i (processed s.server.server.trace) ++ doneIds i (s.completions i).queued ++
    (held (s.agents i).world.node).map Delivery.id ++ (s.assignments i).queued.map (·.taskId)

theorem doneIds_append (i : Nat) (msgs msgs' : List TaskCompletion) :
    doneIds i (msgs ++ msgs') = doneIds i msgs ++ doneIds i msgs' := by
  simp [doneIds]

section
variable {K : Type} {l : Launch K} {s : State}

theorem Linked.doneIds_processed (h : Linked l s) (i : Nat) :
    doneIds i (Fleet.processed s.server.server.trace) = doneIds i (s.completions i).delivered := by
  rw [doneIds, doneIds, h.processed i]

/-- Completions, processed or on their way, are of tasks the agent has completed. -/
theorem Linked.done_sublist (h : Linked l s) (i : Nat) :
    (doneIds i (Fleet.processed s.server.server.trace) ++
      doneIds i (s.completions i).queued).Sublist
      ((RobotAgent.completed (s.agents i).world.trace).map Delivery.id) := by
  rw [h.doneIds_processed, ← doneIds_append, ← (h.signs i).completed_ids (robotName_ne_empty i),
    ← h.completions i]
  exact ((s.completions i).sublist.filter _).map _

theorem Linked.pipeline_sublist (h : Linked l s) (i : Nat) : (pipeline i s).Sublist
    ((assignedTo l.numRobots i s.server.server.trace).map (·.taskId)) := by
  have hreceived : (RobotAgent.received (s.agents i).world.trace).map Delivery.id =
      (s.assignments i).delivered.map (·.taskId) := by
    rw [← h.received i, List.map_map]
    rfl
  have hheld : (doneIds i (Fleet.processed s.server.server.trace) ++
      doneIds i (s.completions i).queued ++
        (held (s.agents i).world.node).map Delivery.id).Sublist
      ((s.assignments i).delivered.map (·.taskId)) := by
    rw [← hreceived]
    refine ((h.done_sublist i).append (.refl _)).trans ?_
    rw [← List.map_append]
    exact (h.signs i).order.sublist.map _
  refine (hheld.append (.refl _)).trans ?_
  rw [← List.map_append, ← h.assigned i]
  exact (s.assignments i).sublist.map _

end

section
variable {K : Type} [Add K] [Sub K] [Mul K] [LT K] [DecidableLT K] [RatCast K] [Sqrt K]

/-- **No overtaking between the server and a robot**, there and back. -/
theorem pipeline_in_order (l : Launch K) (es : List Event) (i : Nat) :
    (pipeline i (l.run es)).Sublist
      ((assignedTo l.numRobots i (l.run es).server.server.trace).map (·.taskId)) :=
  (linked_run l es).pipeline_sublist i

/-- A task is in one place at a time, and at one robot. -/
structure Exclusive (s : State) : Prop where
  once : ∀ i, (pipeline i s).Nodup
  apart : ∀ i j, i ≠ j → (pipeline i s).Disjoint (pipeline j s)

/-- The server has not published two assignments with the same id. -/
def DistinctIds (s : State) : Prop :=
  ((Allocation.publishedAssignments s.server.server.trace).map (·.taskId)).Nodup

instance (s : State) : Decidable (DistinctIds s) := inferInstanceAs (Decidable (List.Nodup _))

/-- A task was published to one robot only. -/
theorem DistinctIds.robot {numRobots : Nat} {s : State} (h : DistinctIds s) {i j : Nat} {t : String}
    (hi : t ∈ (assignedTo numRobots i s.server.server.trace).map (·.taskId))
    (hj : t ∈ (assignedTo numRobots j s.server.server.trace).map (·.taskId)) : i = j := by
  obtain ⟨a, ha, rfl⟩ := List.mem_map.mp hi
  obtain ⟨b, hb, hid⟩ := List.mem_map.mp hj
  obtain ⟨ha, hrobot⟩ := List.mem_filter.mp ha
  obtain ⟨hb, hrobot'⟩ := List.mem_filter.mp hb
  obtain rfl : b = a := List.inj_on_of_nodup_map h hb ha hid
  exact Option.some.inj ((of_decide_eq_true hrobot).symm.trans (of_decide_eq_true hrobot'))

/-- **Each task is in one place.** -/
theorem custody_exclusive (l : Launch K) (es : List Event) (h : DistinctIds (l.run es)) :
    Exclusive (l.run es) where
  once i := by
    refine ((pipeline_in_order l es i).nodup ?_)
    exact h.sublist (List.filter_sublist.map _)
  apart i j hne t hi hj := hne <|
    h.robot ((pipeline_in_order l es i).subset hi) ((pipeline_in_order l es j).subset hj)

/-- The first robot has signed its task, the second has yet to get its own. -/
theorem custody_exclusive_shared : Exclusive (Launch.sample.run sharedRun) ∧
    pipeline 0 (Launch.sample.run sharedRun) = ["task_1"] ∧
    pipeline 1 (Launch.sample.run sharedRun) = ["task_2"] :=
  ⟨custody_exclusive Launch.sample sharedRun (by decide +kernel), by decide +kernel,
    by decide +kernel⟩

end

end Fleet
