import WarehouseFleet.RobotAgent.TaskConservation

/-!
# How many tasks the agent answers for

The agent answers for the tasks it has completed and for those it holds. An arrival adds one, and a
BT tick that `overwrites` takes one away, for good; no other callback changes the number.
-/

namespace RobotAgent

open BehaviorTree
open Fms

/-- The number of tasks that are completed or held. -/
def answered (w : World) : Nat := (completed w.trace).length + (held w.node).length

section
variable {e : TickEnv} {p : Pos} {w w' : World} {r : NodeStatus × World}

theorem SameSlots.answered (h : SameSlots w w') :
    RobotAgent.answered w' = RobotAgent.answered w := by
  unfold RobotAgent.answered
  rw [h.completed, h.held]

theorem Interrupts.answered {d : Delivery} (h : Interrupts d w w') :
    RobotAgent.answered w' = RobotAgent.answered w := by
  unfold RobotAgent.answered
  rw [h.trace, h.held]

theorem answered_report : answered (ReportStatus.tick e w).2 = answered w := by
  unfold answered
  rw [completed_report, held_report, held]
  simp only [List.length_append]
  omega

theorem answered_arrival (msg : TaskAssignment) :
    answered (taskAssignmentCb msg w) = answered w + 1 := by
  simp [answered, Nat.add_assoc]

/-- `RequestTask` takes a task; the one in `current_task_` is gone. -/
theorem RequestTask.Runs.answered (h : RequestTask.Runs e w r) (hr : r.1 = .success) :
    RobotAgent.answered r.2 + w.node.currentTask.toList.length = RobotAgent.answered w := by
  unfold RobotAgent.answered
  cases h with
  | waiting => cases hr
  | resumed d hi =>
    rw [completed_take]
    show _ + (d :: w.node.pendingTasks).length + _ = _
    simp only [held, hi, List.length_append, List.length_cons, List.length_nil, Option.toList]
    omega
  | next d ds hi hp =>
    rw [completed_take]
    show _ + ([d] ++ w.node.interruptedTask.toList ++ ds).length + _ = _
    simp only [held, hp, List.length_append, List.length_cons, List.length_nil]
    omega

/-- A task waits for `RequestTask`. -/
def waits (w : World) : Bool := w.node.interruptedTask.isSome || !w.node.pendingTasks.isEmpty

theorem SameSlots.waits (h : SameSlots w w') : RobotAgent.waits w' = RobotAgent.waits w := by
  unfold RobotAgent.waits
  rw [h.interrupted, h.pending]

theorem RequestTask.Runs.cases_waits (h : RequestTask.Runs e w r) :
    waits w = false ∧ r = (.running, w) ∨ waits w = true ∧ r.1 = .success := by
  cases h with
  | waiting hi hp => exact .inl ⟨by simp [waits, hi, hp], rfl⟩
  | resumed d hi => exact .inr ⟨by simp [waits, hi], rfl⟩
  | next d ds hi hp => exact .inr ⟨by simp [waits, hp], rfl⟩

/-! ## A tick -/

/-- No task is overwritten: `current_task_` is empty when `RequestTask` takes a task. -/
theorem answered_turn (h : overwrites e p w = false) : ∃ start,
    Turn e p w start fun _ w' => answered w' = answered w := by
  refine ⟨_, slots_turn (R := fun _ => True) (fun _ _ hs h => hs.answered.trans h) rfl ?_
    (fun _ _ _ _ _ => trivial) fun _ h _ => answered_report.trans h⟩
  intro hy hp w' r hs h' hr
  obtain ⟨-, rfl⟩ | ⟨hwaits, hsuccess⟩ := hr.cases_waits
  · exact h'
  · rw [hs.waits, waits] at hwaits
    have hp : (p.rest = .idle || p = .task .requestTask) = true := by simpa using hp
    have hnone : w.node.currentTask = none := by
      simpa [overwrites, takesTask, hy, hp, hwaits] using h
    have hanswered := hr.answered hsuccess
    rw [hs.current, hnone] at hanswered
    exact hanswered.trans h'

/-- A tick that overwrites: once `RequestTask` has been ticked the agent answers for one task
less. -/
def overwritten (e : TickEnv) (p : Pos) (w : World) : TickOutline :=
  turnOutline e p w (fun pt w' => pt ≠ .report ∧ answered w' + 1 = answered w)
    fun _ w' => answered w' + 1 = answered w

theorem overwritten_holds (h : overwrites e p w = true) : (overwritten e p w).Holds e := by
  simp only [overwrites, takesTask, Bool.and_eq_true, Bool.or_eq_true, decide_eq_true_eq] at h
  obtain ⟨⟨⟨hyields, hrest⟩, hwait⟩, hcurrent⟩ := h
  have hwaits : waits w = true := by simpa [waits] using hwait
  have frame : ∀ {w₁ w₂}, SameSlots w₁ w₂ → answered w₁ + 1 = answered w →
      answered w₂ + 1 = answered w := fun hs h => by rw [hs.answered, h]
  -- a leaf of TaskExecution that is resumed is `RequestTask`
  have elsewhere : ∀ {pt w'}, pt ≠ .requestTask → ¬ (overwritten e p w).task (.task pt) w' := by
    rintro pt w' hne ⟨hp, -⟩
    obtain hrest | hrest := hrest
    · exact absurd (hp.trans hrest) (by simp)
    · rw [hrest] at hp
      exact hne (Pos.task.inj hp)
  refine
    { batteryOk := ?_, chargerStarted := ?_, chargerNotReady := ?_, charger := ?_, charging := ?_
      charged := ?_, requestTask := ?_
      navSent := fun leg k w₁ goal _ hs _ _ =>
        frame ((NavigateToPose.send_slots e w₁ _ goal).emit rfl) hs.2
      navNotSent := fun leg k w₁ _ hs _ => ⟨by simp, frame (SameSlots.refl.emit rfl) hs.2⟩
      nav := fun leg k w₁ r _ ht => (elsewhere (by simp) ht).elim
      recoverStarted := fun leg k w₁ _ hs =>
        frame ((RequestRecovery.onStart_slots e w₁ leg).emit rfl) hs.2
      recover := fun leg k w₁ r _ ht => (elsewhere (by simp) ht).elim
      execStarted := fun leg w₁ hs =>
        frame ((ExecutePickDrop.onStart_slots e w₁ leg).emit rfl) hs.2
      exec := fun leg w₁ r ht => (elsewhere (by simp) ht).elim
      report := fun w₁ hs => absurd rfl hs.1 }
  · rintro p' w' - ha ⟨rfl, rfl⟩ hsoc
    exact ⟨(Pos.rest_of_away ha).symm, .batteryOk p' w' ha hsoc⟩
  · rintro p' w' - ha ⟨rfl, rfl⟩ hsoc hr
    have hno := (not_yields_of_startsCharger (startsCharger_of ha hsoc hr)).2
    simp [hyields] at hno
  · rintro p' w' - ha ⟨rfl, rfl⟩ hsoc hr
    exact ⟨(Pos.rest_of_away ha).symm, .notReady p' w' ha hsoc hr⟩
  · rintro w' r ⟨rfl, rfl⟩ hr
    have hfails : navFails .toCharger w' = true := hyields
    cases hr with
    | fault hf => exact ⟨rfl, .charger w' _ (.fault hf)⟩
    | gone hf hs => exact ⟨rfl, .charger w' _ (.gone hf hs)⟩
    | waiting s hf hs hr =>
      obtain hr | ⟨ha, hd⟩ := hr
      · simp [navFails, hf, hs, hr] at hfails
      · simp [navFails, hf, hs, ha, hd] at hfails
    | rejected s hf hs hr ha => exact ⟨rfl, .charger w' _ (.rejected s hf hs hr ha)⟩
    | reached s hf hs hr ha hd hc => simp [navFails, hf, hs, ha, hc] at hfails
    | missed s hf hs hr ha hd hc => exact ⟨rfl, .charger w' _ (.missed s hf hs hr ha hd hc)⟩
  · rintro w' ⟨rfl, rfl⟩
    cases hyields
  · rintro w' ⟨rfl, rfl⟩
    cases hyields
  · intro w₁ r ht hr
    have hs : SameSlots w w₁ := by
      obtain ht | ht := ht
      · exact ht.2.slots
      · exact ht.2.slots
    have hsuccess : r.1 = .success := by
      obtain ⟨hnot, -⟩ | ⟨-, hsuccess⟩ := hr.cases_waits
      · rw [hs.waits, hwaits] at hnot
        cases hnot
      · exact hsuccess
    obtain ⟨d, hd⟩ := Option.isSome_iff_exists.mp hcurrent
    have hanswered := hr.answered hsuccess
    rw [hs.current, hd, hs.answered] at hanswered
    obtain ⟨st, w₂⟩ := r
    obtain rfl : st = .success := hsuccess
    exact ⟨by simp, frame (SameSlots.refl.emit rfl) hanswered⟩

/-! ## A step -/

theorem answered_step {s : State} (hv : s.pos.Valid) (hp : s.tree = s.pos.path) (ev : Event) :
    answered (step s ev).world + (atTick overwrites s ev).toNat =
      answered s.world + (arrival s ev).length := by
  cases ev with
  | taskAssignment msg => exact answered_arrival msg
  | btTick e =>
    cases h : overwrites e s.pos s.world with
    | false =>
      obtain ⟨start, hturn⟩ := answered_turn h
      obtain ⟨-, -, -, hanswered⟩ := hturn.btTick hv hp
      simp [atTick, h, arrival, step, hanswered]
    | true =>
      obtain ⟨_, -, -, hanswered⟩ := (overwritten_holds h).btTick hp hv ⟨rfl, rfl⟩
      have hanswered : answered (btTickCb e s).world + 1 = answered s.world := hanswered
      simpa [atTick, h, arrival, step] using hanswered
  | batteryUpdate now =>
    exact batteryUpdateCb_keeps (I := fun w => answered w = answered s.world)
      (fun _ _ hs h => hs.answered.trans h) (fun _ _ _ hs h => hs.answered.trans h) now s.world rfl
  | statusPublish now tf => exact (statusPublishCb_slots now tf s.world).answered
  | injectFault data => exact (faultServiceCb_slots data s.world).answered
  | goalResponse g accepted =>
    rw [step]
    split
    · exact (goalResponse_slots g accepted s.world).answered
    · rfl
  | goalResult g code =>
    rw [step]
    split
    · exact (goalResult_slots g code s.world).answered
    · rfl

end

end RobotAgent
