import WarehouseFleet.Fleet.Custody
import WarehouseFleet.RobotAgent.Losses

/-!
# What can go missing

`pipeline` is a sublist of what was published to the robot, and here every gap has its event: an
assignment or a completion that the middleware loses, or a BT tick that overwrites `current_task_`.
Each such event makes one gap, and nothing ever closes it.
-/

namespace Fleet

open Fms
open FleetServer
open RobotAgent (answered atTick overwrites held completed Delivery)

/-- The robot has signed the completion. -/
def signedBy (i : Nat) (msg : TaskCompletion) : Bool := msg.robotId = robotName i

/-- The event costs robot `i` a task. -/
def losesTask (i : Nat) (s : State) : Event → Bool
  | .robot j ev => j = i && atTick overwrites (s.agents i) ev
  | .loseAssignment j k => j = i && (s.assignments i).drops (fun _ => true) k
  | .loseCompletion j k => j = i && (s.completions i).drops (signedBy i) k
  | _ => false

/-- `n` tasks of robot `i` are lost: on the way there, inside, and on the way back. -/
def Short (i n : Nat) (s : State) : Prop :=
  ∃ a b c, n = a + b + c ∧ (s.assignments i).Lacks (fun _ => true) a ∧
    (RobotAgent.received (s.agents i).world.trace).length = answered (s.agents i).world + b ∧
    (s.completions i).Lacks (signedBy i) c

section
variable {K : Type} {l : Launch K} {s : State} {i n : Nat}

/-- What is lost is missing from the pipeline. -/
theorem Short.published (h : Short i n s) (hl : Linked l s) :
    (assignedTo l.numRobots i s.server.server.trace).length = (pipeline i s).length + n := by
  obtain ⟨a, b, c, rfl, hthere, hinside, hback⟩ := h
  have harrived : (RobotAgent.received (s.agents i).world.trace).length =
      (s.assignments i).delivered.length := by
    rw [← hl.received i, List.length_map]
  have hcompleted : (completed (s.agents i).world.trace).length =
      (s.completions i).published.countP (signedBy i) := by
    rw [← List.length_map (f := Delivery.id), ← (hl.signs i).completed_ids (robotName_ne_empty i),
      ← hl.completions i, List.length_map, List.countP_eq_length_filter]
    rfl
  have hdone : ∀ msgs, (doneIds i msgs).length = msgs.countP (signedBy i) := fun msgs => by
    rw [doneIds, List.length_map, List.countP_eq_length_filter]
    rfl
  unfold Topic.Lacks at hthere hback
  simp only [List.countP_true] at hthere
  rw [answered, hcompleted] at hinside
  rw [pipeline, hl.doneIds_processed]
  simp only [List.length_append, List.length_map, hdone, ← hl.assigned i]
  omega

/-- The pipeline is complete if nothing is lost, and only then. -/
theorem Short.complete_iff (h : Short i n s) (hl : Linked l s) :
    pipeline i s = (assignedTo l.numRobots i s.server.server.trace).map (·.taskId) ↔ n = 0 := by
  have hlength := h.published hl
  constructor
  · intro heq
    rw [heq, List.length_map] at hlength
    omega
  · rintro rfl
    exact (hl.pipeline_sublist i).eq_of_length (by rw [List.length_map, hlength, Nat.add_zero])

/-! ## One step -/

/-- The topic of one robot changes, and may lose a message. -/
theorem lacks_update {α : Type} {p : α → Bool} {ts : Nat → Topic α} {t : Topic α} {j : Nat}
    {b : Bool} (h : (ts i).Lacks p n) (ht : j = i → t.Lacks p (n + b.toNat)) :
    (Function.update ts j t i).Lacks p (n + (j = i && b).toNat) := by
  by_cases hj : j = i
  · subst hj
    simpa using ht rfl
  · simpa [hj, Function.update_of_ne (Ne.symm hj)] using h

theorem Short.serverSteps (h : Short i n s) (numRobots : Nat) (server : Allocation.State) :
    Short i n (s.serverSteps numRobots server) := by
  obtain ⟨a, b, c, hn, hthere, hinside, hback⟩ := h
  exact ⟨a, b, c, hn, hthere.publish _, hinside, hback⟩

/-- A callback of robot `j`, and what has arrived there. -/
theorem Short.robotSteps (h : Short i n s) (hl : Linked l s) (j : Nat) (ev : RobotAgent.Event) :
    Short i (n + (j = i && atTick overwrites (s.agents i) ev).toNat)
      (s.robotSteps j (RobotAgent.step (s.agents j) ev)) := by
  obtain ⟨a, b, c, rfl, hthere, hinside, hback⟩ := h
  by_cases hj : j = i
  · subst hj
    obtain ⟨es, hes⟩ := hl.agents j
    obtain ⟨hv, hp⟩ := RobotAgent.positioned (l.robots j) es
    rw [← hes] at hv hp
    have hstep := RobotAgent.answered_step hv hp ev
    have hreceived := congrArg List.length (RobotAgent.received_step (s.agents j) ev)
    have hagent : (s.robotSteps j (RobotAgent.step (s.agents j) ev)).agents j =
        RobotAgent.step (s.agents j) ev := Function.update_self ..
    rw [List.length_append] at hreceived
    refine ⟨a, b + (atTick overwrites (s.agents j) ev).toNat, c, ?_, hthere, ?_, ?_⟩
    · rw [decide_eq_true rfl, Bool.true_and]
      omega
    · rw [hagent]
      omega
    · simpa [State.robotSteps] using hback.publish _
  · refine ⟨a, b, c, by simp [hj], hthere, ?_, ?_⟩
    · simpa [State.robotSteps, Function.update_of_ne (Ne.symm hj)] using hinside
    · simpa [State.robotSteps, Function.update_of_ne (Ne.symm hj)] using hback

end

section
variable {K : Type} [Add K] [Sub K] [Mul K] [LT K] [DecidableLT K] [RatCast K] [Sqrt K]
  {l : Launch K} {s : State} {i n : Nat}

theorem Short.step (h : Short i n s) (hl : Linked l s) (ev : Event) :
    Short i (n + (losesTask i s ev).toNat) (step l s ev) := by
  cases ev with
  | request th request => exact h.serverSteps _ _
  | dispatch th idNow stampNow => exact h.serverSteps _ _
  | insertTask th => exact h.serverSteps _ _
  | robot j ev =>
    cases ev with
    | taskAssignment msg => simpa [losesTask, atTick, Fleet.step] using h
    | _ => exact h.robotSteps hl j _
  | taskAssignment j =>
    rw [Fleet.step]
    split
    · exact h
    · next msg hmsg =>
      obtain ⟨a, b, c, hn, hthere, hinside, hback⟩ := h.robotSteps hl j (.taskAssignment msg)
      refine ⟨a, b, c, by simpa [losesTask, atTick] using hn, ?_, hinside, hback⟩
      have hthere : (s.assignments i).Lacks (fun _ => true) a := hthere
      simpa using lacks_update (b := false) hthere (by rintro rfl; exact hthere.deliver)
  | robotStatus j =>
    rw [Fleet.step]
    split
    · exact h
    · split <;> exact h
  | taskCompletion j =>
    obtain ⟨a, b, c, hn, hthere, hinside, hback⟩ := h
    rw [Fleet.step]
    split
    · exact ⟨a, b, c, hn, hthere, hinside, hback⟩
    · split
      · refine ⟨a, b, c, hn, hthere, hinside, ?_⟩
        simpa using lacks_update (b := false) hback (by rintro rfl; exact hback.deliver)
      · exact ⟨a, b, c, hn, hthere, hinside, hback⟩
  | loseAssignment j k =>
    obtain ⟨a, b, c, rfl, hthere, hinside, hback⟩ := h
    refine ⟨_, b, c, ?_, lacks_update (b := (s.assignments i).drops _ k) hthere
      (by rintro rfl; exact hthere.lose k), hinside, hback⟩
    rw [losesTask]
    omega
  | loseStatus j k => exact h
  | loseCompletion j k =>
    obtain ⟨a, b, c, rfl, hthere, hinside, hback⟩ := h
    refine ⟨a, b, _, ?_, hthere, hinside, lacks_update (b := (s.completions i).drops (signedBy i) k)
      hback (by rintro rfl; exact hback.lose k)⟩
    rw [losesTask]
    omega

theorem short_run (l : Launch K) (i : Nat) (es : List Event) :
    Short i (Run.count (Fleet.step l) (losesTask i) l.init es) (l.run es) := by
  have hinit : Linked l l.init ∧ Short i 0 l.init :=
    ⟨linked_init l, 0, 0, 0, rfl, rfl, rfl, rfl⟩
  have hrun : Linked l (l.run es) ∧
      Short i (0 + Run.count (Fleet.step l) (losesTask i) l.init es) (l.run es) :=
    Run.run_counted (I := fun n s => Linked l s ∧ Short i n s)
      (fun _ _ ev h => ⟨h.1.step ev, h.2.step h.1 ev⟩) hinit
  rw [← Nat.zero_add (Run.count _ _ _ _)]
  exact hrun.2

/-- **Nothing goes missing but by these events**, each of which costs one task: the pipeline is
complete exactly when the run has none of them. -/
theorem losses_counted (l : Launch K) (es : List Event) (i : Nat) :
    (assignedTo l.numRobots i (l.run es).server.server.trace).length =
        (pipeline i (l.run es)).length + Run.count (step l) (losesTask i) l.init es ∧
      (pipeline i (l.run es) =
          (assignedTo l.numRobots i (l.run es).server.server.trace).map (·.taskId) ↔
        Run.Along (step l) (fun s ev => losesTask i s ev = false) l.init es) := by
  have hshort := short_run l i es
  have hlinked := linked_run l es
  exact ⟨hshort.published hlinked, (hshort.complete_iff hlinked).trans Run.count_eq_zero⟩

end

end Fleet
