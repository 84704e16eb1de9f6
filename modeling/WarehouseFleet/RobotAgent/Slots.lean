import Mathlib.Data.List.Basic
import WarehouseFleet.BehaviorTree.Preserves
import WarehouseFleet.RobotAgent.Invariant

/-!
# The three places of a task

A task is in `pending_tasks_`, `current_task_` or `interrupted_task_`. Only `RequestTask` and
`ReportStatus` move tasks during a BT tick: all other callbacks leave the three as they are
(`SameSlots`). `InOrder` is the order in which tasks pass through them.
-/

namespace RobotAgent

open BehaviorTree
open Fms

/-! ## Frames -/

/-- The entry reports an arrival, a dequeued task or a completion. -/
def Obs.aboutTasks : Obs → Bool
  | .received _ => true
  | .dequeued _ => true
  | .completion _ _ => true
  | _ => false

/-- No task has moved from `w` to `w'`, and `RequestTask` has written no pose. -/
structure SameSlots (w w' : World) : Prop where
  pending : w'.node.pendingTasks = w.node.pendingTasks
  current : w'.node.currentTask = w.node.currentTask
  interrupted : w'.node.interruptedTask = w.node.interruptedTask
  pickPose : w'.node.pickPose = w.node.pickPose
  dropPose : w'.node.dropPose = w.node.dropPose
  trace : ∃ new, w'.trace = w.trace ++ new ∧ ∀ o ∈ new, o.aboutTasks = false

namespace SameSlots

variable {w w' w'' : World}

theorem refl : SameSlots w w := ⟨rfl, rfl, rfl, rfl, rfl, [], by simp, by simp⟩

theorem trans (h : SameSlots w w') (h' : SameSlots w' w'') : SameSlots w w'' := by
  obtain ⟨new, ht, hq⟩ := h.trace
  obtain ⟨new', ht', hq'⟩ := h'.trace
  refine ⟨h'.pending.trans h.pending, h'.current.trans h.current,
    h'.interrupted.trans h.interrupted, h'.pickPose.trans h.pickPose,
    h'.dropPose.trans h.dropPose, new ++ new', by rw [ht', ht, List.append_assoc], ?_⟩
  intro o ho
  rcases List.mem_append.mp ho with ho | ho
  · exact hq o ho
  · exact hq' o ho

theorem emit (h : SameSlots w w') {o : Obs} (ho : o.aboutTasks = false) :
    SameSlots w (w'.emit o) :=
  h.trans ⟨rfl, rfl, rfl, rfl, rfl, [o], rfl, by simpa using ho⟩

theorem post (h : SameSlots w w') {l : Leaf} {ev : FsmEvent} : SameSlots w (w'.post l ev) :=
  h.trans ⟨rfl, rfl, rfl, rfl, rfl, [.posted l ev], rfl, by simp [Obs.aboutTasks]⟩

/-- Only the slots, the poses and the trace count. -/
theorem of_eq (h : SameSlots w w') (hp : w''.node.pendingTasks = w'.node.pendingTasks)
    (hc : w''.node.currentTask = w'.node.currentTask)
    (hi : w''.node.interruptedTask = w'.node.interruptedTask)
    (hpick : w''.node.pickPose = w'.node.pickPose) (hdrop : w''.node.dropPose = w'.node.dropPose)
    (ht : w''.trace = w'.trace) : SameSlots w w'' :=
  h.trans ⟨hp, hc, hi, hpick, hdrop, [], by simp [ht], by simp⟩

end SameSlots

section
variable (e : TickEnv) (w : World)

theorem NavigateToPose.send_slots (n : NavNode) (goal : PoseStamped) :
    SameSlots w (send e n goal w) :=
  ⟨rfl, rfl, rfl, rfl, rfl, _, List.append_assoc .., by simp [Obs.aboutTasks]⟩

theorem NavigateToPose.onHalted_slots (n : NavNode) : SameSlots w (onHalted n w) :=
  ⟨rfl, rfl, rfl, rfl, rfl, _, rfl, by simp [Obs.aboutTasks]⟩

theorem NavigateToPose.finish_slots (n : NavNode) (ev : FsmEvent) : SameSlots w (finish n ev w) :=
  ⟨rfl, rfl, rfl, rfl, rfl, _, rfl, by simp [Obs.aboutTasks]⟩

theorem RequestRecovery.startSpin_slots (leg : Leg) : SameSlots w (startSpin e leg w) := by
  unfold startSpin
  split
  · exact ⟨rfl, rfl, rfl, rfl, rfl, _, rfl, by simp [Obs.aboutTasks]⟩
  · exact SameSlots.refl.of_eq rfl rfl rfl rfl rfl rfl

theorem RequestRecovery.startBackup_slots (leg : Leg) : SameSlots w (startBackup e leg w) := by
  unfold startBackup
  split
  · exact ⟨rfl, rfl, rfl, rfl, rfl, _, rfl, by simp [Obs.aboutTasks]⟩
  · exact SameSlots.refl.of_eq rfl rfl rfl rfl rfl rfl

theorem RequestRecovery.set_slots (leg : Leg) (r : RequestRecovery) : SameSlots w (set leg r w) :=
  SameSlots.refl.of_eq rfl rfl rfl rfl rfl rfl

theorem RequestRecovery.attemptFailed_slots (leg : Leg) (m : Int) :
    SameSlots w (attemptFailed e leg m w) := by
  dsimp only [attemptFailed]
  split
  · exact set_slots w leg _
  · exact (set_slots w leg _).trans (startSpin_slots e _ leg)

theorem ExecutePickDrop.onStart_slots (leg : Leg) : SameSlots w (onStart e leg w).2 :=
  SameSlots.refl.of_eq rfl rfl rfl rfl rfl rfl

theorem ChargeBattery.onStart_slots : SameSlots w (onStart w).2 :=
  (SameSlots.refl.of_eq rfl rfl rfl rfl rfl rfl :
    SameSlots w { w with node := { w.node with isCharging := true, isMoving := false } }).post

theorem ChargeBattery.onHalted_slots : SameSlots w (onHalted w) :=
  SameSlots.refl.of_eq rfl rfl rfl rfl rfl rfl

theorem RequestRecovery.onStart_slots (leg : Leg) : SameSlots w (onStart e leg w).2 :=
  (set_slots w leg _).post.trans (startSpin_slots e _ leg)

variable {e w}

theorem NavigateToPose.Runs.slots {n : NavNode} {r : NodeStatus × World}
    (h : NavigateToPose.Runs w n r) : SameSlots w r.2 := by
  cases h with
  | fault =>
    have hc : SameSlots w w.clearFault := SameSlots.refl.of_eq rfl rfl rfl rfl rfl rfl
    exact (hc.trans (onHalted_slots _ n)).post
  | gone => exact .refl
  | waiting => exact .refl
  | rejected => exact finish_slots w n _
  | reached => exact finish_slots w n _
  | missed => exact finish_slots w n _

theorem RequestRecovery.Runs.slots {leg : Leg} {r : NodeStatus × World}
    (h : RequestRecovery.Runs e w leg r) : SameSlots w r.2 := by
  cases h with
  | waiting => exact .refl
  | spun => exact (set_slots w leg _).trans (startBackup_slots e _ leg)
  | backedUp => exact set_slots w leg _
  | lost => exact attemptFailed_slots e w leg 3
  | done => exact SameSlots.refl.post
  | failed => exact SameSlots.refl.post

theorem ExecutePickDrop.Runs.slots {leg : Leg} {r : NodeStatus × World}
    (h : ExecutePickDrop.Runs e w leg r) : SameSlots w r.2 := by
  cases h with
  | waiting => exact .refl
  | picked => exact SameSlots.refl.post
  | dropped => exact .refl

end

theorem statusPublishCb_slots (now : Time) (tf : Option Pose) (w : World) :
    SameSlots w (statusPublishCb now tf w) := SameSlots.refl.emit rfl

theorem faultServiceCb_slots (data : Bool) (w : World) : SameSlots w (faultServiceCb data w) := by
  cases data <;> exact ⟨rfl, rfl, rfl, rfl, rfl, _, rfl, by simp [Obs.aboutTasks]⟩

theorem goalResponse_slots (g : Nat) (accepted : Bool) (w : World) :
    SameSlots w (goalResponse g accepted w) :=
  ⟨rfl, rfl, rfl, rfl, rfl, _, rfl, by simp [Obs.aboutTasks]⟩

theorem goalResult_slots (g : Nat) (code : ResultCode) (w : World) :
    SameSlots w (goalResult g code w) :=
  ⟨rfl, rfl, rfl, rfl, rfl, _, rfl, by simp [Obs.aboutTasks]⟩

/-- `battery_update_cb` moves task `d` from `current_task_` to `interrupted_task_`. -/
structure Interrupts (d : Delivery) (w w' : World) : Prop where
  was : w.node.currentTask = some d
  free : w.node.interruptedTask = none
  current : w'.node.currentTask = none
  interrupted : w'.node.interruptedTask = some d
  pending : w'.node.pendingTasks = w.node.pendingTasks
  trace : w'.trace = w.trace

theorem batteryUpdateCb_slots (now : Time) (w : World) :
    SameSlots w (batteryUpdateCb now w) ∨ ∃ d, Interrupts d w (batteryUpdateCb now w) := by
  simp only [batteryUpdateCb, saveInterrupted]
  split
  · next h =>
    simp only [Bool.and_eq_true, Option.isSome_iff_exists, Option.isNone_iff_eq_none] at h
    obtain ⟨⟨-, d, hd⟩, hi⟩ := h
    exact Or.inr ⟨d, hd, hi, rfl, hd, rfl, rfl⟩
  · exact Or.inl (SameSlots.refl.of_eq rfl rfl rfl rfl rfl rfl)

/-- A battery tick interrupts a task, or moves none. -/
theorem batteryUpdateCb_keeps {I : World → Prop} (frame : ∀ w w', SameSlots w w' → I w → I w')
    (interrupts : ∀ d w w', Interrupts d w w' → I w → I w') (now : Time) (w : World) (h : I w) :
    I (batteryUpdateCb now w) := by
  obtain hs | ⟨d, hs⟩ := batteryUpdateCb_slots now w
  · exact frame _ _ hs h
  · exact interrupts d _ _ hs h

/-! ## Invariants of the three places -/

/-- Kept by whatever moves tasks during a BT tick: `RequestTask` and `ReportStatus`. -/
structure TickInv (I : World → Prop) : Prop where
  frame : ∀ w w', SameSlots w w' → I w → I w'
  take : ∀ e w r, RequestTask.Runs e w r → I w → I r.2
  report : ∀ e w, I w → I (ReportStatus.tick e w).2

/-- Kept by arrivals and battery ticks, too. -/
structure SlotsInv (I : World → Prop) : Prop extends TickInv I where
  arrival : ∀ msg w, I w → I (taskAssignmentCb msg w)
  battery : ∀ now w, I w → I (batteryUpdateCb now w)

variable {I : World → Prop}

namespace TickInv

theorem returned (h : TickInv I) {w : World} {l : Leaf} {st : NodeStatus} (hw : I w) :
    I (w.emit (.returned l st)) :=
  h.frame w _ (SameSlots.refl.emit rfl) hw

theorem halted (h : TickInv I) {w : World} (l : Leaf) (hw : I w) : I (haltOnly l w) :=
  h.frame w _ (SameSlots.refl.emit rfl) hw

theorem leaf (h : TickInv I) (e : TickEnv) (l : Leaf) : (sem e l).Preserves I := by
  have run : ∀ f w, I (f w).2 → I (returns l f w).2 := fun _ _ hw => h.returned hw
  cases l with
  | batteryOK => exact ⟨fun w hw => run _ w hw, fun w hw => run _ w hw, fun _ hw => hw⟩
  | navigateToPose n =>
    refine ⟨fun w hw => run _ w ?_, fun w hw => run _ w ?_, fun w hw => h.halted _ ?_⟩
    · obtain ⟨heq, -⟩ | ⟨goal, -, -, heq⟩ := NavigateToPose.onStart_cases e w n
      · rw [heq]; exact hw
      · rw [heq]; exact h.frame w _ (NavigateToPose.send_slots e w n goal) hw
    · exact h.frame w _ (NavigateToPose.runs w n).slots hw
    · exact h.frame w _ (NavigateToPose.onHalted_slots w n) hw
  | chargeBattery =>
    refine ⟨fun w hw => run _ w ?_, fun w hw => run _ w ?_, fun w hw => h.halted _ ?_⟩
    · exact h.frame w _ (ChargeBattery.onStart_slots w) hw
    · obtain ⟨-, heq⟩ | ⟨-, heq⟩ := ChargeBattery.onRunning_cases w
      · rw [heq]; exact h.frame w _ (ChargeBattery.onHalted_slots w).post hw
      · rw [heq]; exact hw
    · exact h.frame w _ (ChargeBattery.onHalted_slots w) hw
  | requestTask =>
    exact ⟨fun w hw => run _ w (h.take e w _ (RequestTask.runs e w) hw),
      fun w hw => run _ w (h.take e w _ (RequestTask.runs e w) hw), fun w hw => h.halted _ hw⟩
  | requestRecovery leg =>
    refine ⟨fun w hw => run _ w ?_, fun w hw => run _ w ?_, fun w hw => h.halted _ ?_⟩
    · exact h.frame w _ (RequestRecovery.onStart_slots e w leg) hw
    · exact h.frame w _ (RequestRecovery.runs e w leg).slots hw
    · exact h.frame w _ (RequestRecovery.set_slots w leg _) hw
  | executePickDrop leg =>
    refine ⟨fun w hw => run _ w ?_, fun w hw => run _ w ?_, fun w hw => h.halted _ hw⟩
    · exact h.frame w _ (ExecutePickDrop.onStart_slots e w leg) hw
    · exact h.frame w _ (ExecutePickDrop.runs e w leg).slots hw
  | reportStatus =>
    exact ⟨fun w hw => run _ w (h.report e w hw), fun w hw => run _ w (h.report e w hw),
      fun _ hw => hw⟩

theorem btTick (h : TickInv I) {e : TickEnv} {s : State} (hs : I s.world) :
    I (btTickCb e s).world :=
  tick_preserves (h.leaf e) robotAgentMain s.tree s.world hs

end TickInv

namespace SlotsInv

theorem step (h : SlotsInv I) {s : State} {ev : Event} (hs : I s.world) :
    I (RobotAgent.step s ev).world := by
  cases ev with
  | taskAssignment msg => exact h.arrival msg _ hs
  | btTick e => exact h.btTick hs
  | batteryUpdate now => exact h.battery now _ hs
  | statusPublish now tf => exact h.frame _ _ (statusPublishCb_slots now tf _) hs
  | injectFault data => exact h.frame _ _ (faultServiceCb_slots data _) hs
  | goalResponse g accepted =>
    rw [RobotAgent.step]
    split
    · exact h.frame _ _ (goalResponse_slots g accepted _) hs
    · exact hs
  | goalResult g code =>
    rw [RobotAgent.step]
    split
    · exact h.frame _ _ (goalResult_slots g code _) hs
    · exact hs

theorem run (h : SlotsInv I) {s : State} {es : List Event} (hs : I s.world) :
    I (Run.run RobotAgent.step s es).world :=
  Run.run_invariant (I := fun s : State => I s.world) (fun _ _ hs => h.step hs) hs

end SlotsInv

/-- The trace only grows. -/
theorem prefix_inv (tr : List Obs) : SlotsInv fun w => tr <+: w.trace where
  frame w w' hs h := by
    obtain ⟨new, ht, -⟩ := hs.trace
    exact h.trans ⟨new, ht.symm⟩
  take e w r hr h := by
    cases hr with
    | waiting => exact h
    | resumed d => exact h.trans ⟨_, (RequestTask.take_trace e w d).symm⟩
    | next d ds => exact h.trans ⟨_, (RequestTask.take_trace e w d).symm⟩
  report e w h := h.trans ⟨_, (ReportStatus.tick_trace e w).symm⟩
  arrival msg w h := h.trans (List.prefix_append _ _)
  battery now w h := h

theorem Config.run_prefix (c : Config) (es fs : List Event) :
    (c.run es).world.trace <+: (c.run (es ++ fs)).world.trace := by
  rw [Config.run, Config.run, Run.run_append]
  exact (prefix_inv _).run List.prefix_rfl

/-- A condition on BT ticks only matters to what `RequestTask` and `ReportStatus` do. -/
theorem Kept.of_slots {P : TickEnv → Pos → World → Bool}
    (frame : ∀ w w', SameSlots w w' → I w → I w')
    (btTick : ∀ e p w, P e p w = false → I w → ∃ start, Turn e p w start fun _ => I)
    (arrival : ∀ msg w, I w → I (taskAssignmentCb msg w))
    (interrupts : ∀ d w w', Interrupts d w w' → I w → I w') : Kept P fun _ => I where
  btTick e p w _ := btTick e p w
  taskAssignment msg _ w _ := arrival msg w
  batteryUpdate now _ w _ := batteryUpdateCb_keeps frame interrupts now w
  statusPublish now tf _ w _ := frame _ _ (statusPublishCb_slots now tf w)
  injectFault data _ w _ := frame _ _ (faultServiceCb_slots data w)
  goalResponse g accepted _ w _ _ := frame _ _ (goalResponse_slots g accepted w)
  goalResult g code _ w _ _ := frame _ _ (goalResult_slots g code w)

/-! ## Ticks -/

theorem haltTask_slots (e : TickEnv) (p : Pos) (w : World) : SameSlots w (haltTask e p w) := by
  match p with
  | .task (.nav leg _) => exact (NavigateToPose.onHalted_slots w (.to leg)).emit rfl
  | .task (.recover leg _) => exact (RequestRecovery.set_slots w leg _).emit rfl
  | .task (.exec _) => exact SameSlots.refl.emit rfl
  | .task .requestTask => exact SameSlots.refl.emit rfl
  | .task .report => exact .refl
  | .idle => exact .refl
  | .charger => exact .refl
  | .charging => exact .refl

theorem Yielded.slots {e : TickEnv} {p : Pos} {w w' : World} (h : Yielded e p w w') :
    SameSlots w w' := by
  cases h with
  | batteryOk => exact SameSlots.refl.emit rfl
  | notReady => exact (SameSlots.refl.emit rfl).emit rfl
  | charger _ _ hr => exact hr.slots.emit rfl

section
variable {e : TickEnv} {p₀ : Pos} {w₀ : World} {I R : World → Prop}

/-- A tick for an invariant of the three places, when `RequestTask` needs to know the world the
tick started from, and `ReportStatus` needs `R`. -/
theorem slots_turn (frame : ∀ w w', SameSlots w w' → I w → I w') (hI : I w₀)
    (take : chargeYields e p₀ w₀ = true → p₀.rest = .idle ∨ p₀ = .task .requestTask →
      ∀ w r, SameSlots w₀ w → I w → RequestTask.Runs e w r → I r.2)
    (dropped : chargeYields e p₀ w₀ = true → p₀ = .task (.exec .drop) →
      ExecutePickDrop.elapsed e .drop w₀ = true → ∀ w, SameSlots w₀ w → R w)
    (report : ∀ w, I w → R w → I (ReportStatus.tick e w).2) :
    Turn e p₀ w₀ (fun pt w => I w ∧ (pt = .report → R w)) (fun _ w => I w) := by
  have keep : ∀ pt r, pt ≠ .exec .drop → I r.2 →
      leafPost (fun pt w => I w ∧ (pt = .report → R w)) (fun _ w => I w) pt r := by
    intro pt r hne h
    refine leafPost_of (Q := I) (fun b pt' w hn hw => ⟨hw, ?_⟩) (fun _ _ _ h => h) h
    rintro rfl
    exact absurd (Point.eq_of_next_report hn).1 hne
  have yielded : ∀ w, Yielded e p₀ w₀ w → I w := fun w hy => frame _ _ hy.slots hI
  have sent : ∀ w n goal, SameSlots w ((NavigateToPose.send e n goal w).emit
      (.returned (.navigateToPose n) .running)) := fun w n goal =>
    (NavigateToPose.send_slots e w n goal).emit rfl
  refine
    { chargerStarted := fun _ _ _ => frame _ _ ?_ hI
      chargerRunning := fun _ => frame _ _ (SameSlots.refl.emit rfl) hI
      chargerReached := fun s _ _ _ => frame _ _ ?_ hI
      charging := fun _ _ => frame _ _ (SameSlots.refl.emit rfl) hI
      charged := fun _ _ => frame _ _ (((ChargeBattery.onHalted_slots w₀).post).emit rfl) hI
      requestTask := fun w r hy hp hr => keep _ _ (by simp)
        (frame _ _ (SameSlots.refl.emit rfl) (take hy.yields hp w r hy.slots (yielded w hy) hr))
      navSent := fun leg k w goal _ hs _ _ => frame _ _ (sent w _ goal) hs.1
      navNotSent := fun leg k w _ hs _ => ⟨frame _ _ (SameSlots.refl.emit rfl) hs.1, by simp⟩
      nav := fun leg k w r _ hy _ hr =>
        keep _ _ (by simp) (frame _ _ (hr.slots.emit rfl) (yielded w hy))
      recoverStarted := fun leg k w _ hs =>
        frame _ _ ((RequestRecovery.onStart_slots e w leg).emit rfl) hs.1
      recover := fun leg k w r _ hy _ hr =>
        keep _ _ (by simp) (frame _ _ (hr.slots.emit rfl) (yielded w hy))
      execStarted := fun leg w hs =>
        frame _ _ ((ExecutePickDrop.onStart_slots e w leg).emit rfl) hs.1
      exec := fun leg w r hy hp hr => ?_
      report := fun w hs => frame _ _ (SameSlots.refl.emit rfl) (report w hs.1 (hs.2 rfl)) }
  · exact ((SameSlots.refl.emit rfl).trans (sent _ _ _)).trans (haltTask_slots e p₀ _)
  · exact (((NavigateToPose.finish_slots w₀ _ _).emit rfl).trans
      (ChargeBattery.onStart_slots _)).emit rfl
  · have hI' := frame _ _ (hr.slots.emit (o := .returned (.executePickDrop leg) r.1) rfl)
      (yielded w hy)
    cases hr with
    | waiting => exact hI'
    | picked hl => subst hl; exact ⟨hI', by simp⟩
    | dropped hl he =>
      subst hl
      have he₀ : ExecutePickDrop.elapsed e .drop w₀ = true := by
        rw [← he, ExecutePickDrop.elapsed, ExecutePickDrop.elapsed, hy.exec]
      exact ⟨hI', fun _ => dropped hy.yields hp he₀ _ (hy.slots.emit rfl)⟩

end

end RobotAgent
