import WarehouseFleet.RobotAgent.LegOrder
import WarehouseFleet.RobotAgent.View

/-!
# One task a pass

From the `RequestTask` that takes a task on to its `ReportStatus` the goals of the two legs carry
the poses of that task, and the two ExecutePickDrop nodes are done once each, the pick before the
first goal to the drop (`Pass`). The poses stay on the blackboard, the task may move to
`interrupted_task_` meanwhile: then `ReportStatus` publishes an empty id.
-/

namespace RobotAgent

open BehaviorTree
open Fms
open Trace (Each)

/-! ## What a pass is -/

/-- The leg an entry says is done. -/
def Obs.servedLeg : Obs → Option Leg
  | .returned (.executePickDrop leg) .success => some leg
  | _ => none

/-- No goal to the drop before DoPick is done. -/
def PickFirst (pre : List Obs) : Obs → Prop
  | .navGoal (.to .drop) _ _ => .returned (.executePickDrop .pick) .success ∈ pre
  | _ => True

/-- What has happened since `d` was dequeued, by when the legs are done. -/
structure Pass (d : Delivery) (legs : List Leg) (after : List Obs) : Prop where
  last : ∀ d', .dequeued d' ∉ after
  goals : ∀ leg g goal, .navGoal (.to leg) g goal ∈ after → goal.pose = leg.pose d
  pickFirst : Each PickFirst after
  served : after.filterMap Obs.servedLeg = legs

/-- A completion with an id is that of the last task that was dequeued, at the end of its pass. -/
def UnmixedReport (pre : List Obs) : Obs → Prop
  | .completion _ msg => msg.taskId ≠ "" → ∃ d before after,
      pre = before ++ .dequeued d :: after ∧ msg.taskId = d.msg.taskId ∧
        Pass d [.pick, .drop] after
  | _ => True

/-! ## The invariant -/

/-- The entry has to do with a pass. -/
def Obs.ofPass : Obs → Bool
  | .dequeued _ => true
  | .completion _ _ => true
  | .navGoal (.to _) _ _ => true
  | .returned (.executePickDrop _) .success => true
  | _ => false

/-- The task and its poses, with the entries of the pass. -/
def passView : View (Option Delivery × Option PoseStamped × Option PoseStamped) :=
  ⟨fun node => (node.currentTask, node.pickPose, node.dropPose), Obs.ofPass⟩

theorem passView_aside : passView.Aside where
  node _ _ _ _ := rfl
  posted _ _ _ := rfl
  returned l st h := by
    cases l with
    | executePickDrop leg =>
      cases st with
      | success => exact absurd rfl (h leg rfl)
      | _ => rfl
    | _ => rfl
  halted _ := rfl
  cancel _ := rfl
  chargerGoal _ _ := rfl
  spinGoal _ _ _ := rfl
  backUpGoal _ _ _ := rfl

/-- The legs that are done when a leaf of TaskExecution is reached. -/
def Point.served : Point → List Leg
  | .requestTask => []
  | .nav .pick _ | .recover .pick _ | .exec .pick => []
  | .nav .drop _ | .recover .drop _ | .exec .drop => [.pick]
  | .report => [.pick, .drop]

/-- The pass of task `d` is under way. -/
structure InPass (d : Delivery) (legs : List Leg) (w : World) : Prop where
  since : ∃ before after, w.trace = before ++ .dequeued d :: after ∧ Pass d legs after
  ports : ∀ leg, (w.goalPort (.to leg)).map (·.pose) = some (leg.pose d)
  current : w.node.currentTask = none ∨ w.node.currentTask = some d

structure Unmixed (p : Pos) (w : World) : Prop where
  reports : Each UnmixedReport w.trace
  pass : ∀ pt, p = .task pt → pt ≠ .requestTask → ∃ d, InPass d pt.served w

section
variable {d : Delivery} {legs : List Leg} {leg : Leg} {after new : List Obs} {w w' : World}
  {p p' : Pos} {pt pt' : Point}

theorem Pass.append (h : Pass d legs after) (hnew : ∀ o ∈ new, o.ofPass = false) :
    Pass d legs (after ++ new) where
  last d' := by
    rw [List.mem_append]
    rintro (ho | ho)
    · exact h.last d' ho
    · simpa [Obs.ofPass] using hnew _ ho
  goals leg g goal := by
    rw [List.mem_append]
    rintro (ho | ho)
    · exact h.goals leg g goal ho
    · simpa [Obs.ofPass] using hnew _ ho
  pickFirst := h.pickFirst.append fun o ho pre => by
    unfold PickFirst
    split
    · simpa [Obs.ofPass] using hnew _ ho
    · trivial
  served := by
    rw [List.filterMap_append, h.served, List.filterMap_eq_nil_iff.mpr, List.append_nil]
    intro o ho
    unfold Obs.servedLeg
    split
    · simpa [Obs.ofPass] using hnew _ ho
    · rfl

/-- A goal is sent. The drop comes after the pick. -/
theorem Pass.drive (h : Pass d legs after) {goal : PoseStamped} (hgoal : goal.pose = leg.pose d)
    (hleg : leg = .drop → .pick ∈ legs) (g : Nat) :
    Pass d legs (after ++ [.navGoal (.to leg) g goal]) where
  last d' := by simpa using h.last d'
  goals leg' g' goal' := by
    rw [List.mem_append, List.mem_singleton]
    rintro (ho | ho)
    · exact h.goals leg' g' goal' ho
    · obtain ⟨⟨rfl⟩, -, rfl⟩ : NavNode.to leg' = .to leg ∧ g' = g ∧ goal' = goal := by
        simpa using ho
      exact hgoal
  pickFirst := h.pickFirst.concat (by
    cases leg with
    | pick => trivial
    | drop =>
      have hmem := hleg rfl
      rw [← h.served] at hmem
      obtain ⟨o, ho, hserved⟩ := List.mem_filterMap.mp hmem
      unfold Obs.servedLeg at hserved
      split at hserved
      · obtain rfl := Option.some.inj hserved
        exact ho
      · cases hserved)
  served := by
    rw [List.filterMap_append, h.served]
    exact List.append_nil legs

theorem Pass.serve (h : Pass d legs after) (leg : Leg) :
    Pass d (legs ++ [leg]) (after ++ [.returned (.executePickDrop leg) .success]) where
  last d' := by simpa using h.last d'
  goals leg' g goal := by simpa using h.goals leg' g goal
  pickFirst := h.pickFirst.concat trivial
  served := by simp [h.served, Obs.servedLeg]

/-- The pass goes on when more happens to it. -/
theorem InPass.grow (h : InPass d legs w) {legs' : List Leg}
    (ht : w'.trace = w.trace ++ new)
    (hpass : ∀ after, Pass d legs after → Pass d legs' (after ++ new))
    (hports : ∀ leg, w'.goalPort (.to leg) = w.goalPort (.to leg))
    (hcur : w'.node.currentTask = none ∨ w'.node.currentTask = w.node.currentTask) :
    InPass d legs' w' where
  since := by
    obtain ⟨before, after, heq, hp⟩ := h.since
    exact ⟨before, after ++ new, by rw [ht, heq]; simp, hpass after hp⟩
  ports leg := by
    rw [hports]
    exact h.ports leg
  current := by
    obtain hcur | hcur := hcur
    · exact .inl hcur
    · rw [hcur]
      exact h.current

theorem passView_ports (hs : passView.Same w w') (leg : Leg) :
    w'.goalPort (.to leg) = w.goalPort (.to leg) := by
  have hposes := (Prod.mk.inj hs.node).2
  cases leg with
  | pick => exact (Prod.mk.inj hposes).1
  | drop => exact (Prod.mk.inj hposes).2

theorem InPass.same (h : InPass d legs w) (hs : passView.Same w w') : InPass d legs w' := by
  obtain ⟨new, ht, hnew⟩ := hs.trace
  exact h.grow ht (fun _ hp => hp.append hnew) (passView_ports hs)
    (.inr (Prod.mk.inj hs.node).1)

theorem unmixedReport_of {o : Obs} (ho : o.ofPass = false) (pre : List Obs) :
    UnmixedReport pre o := by
  unfold UnmixedReport
  split
  · cases ho
  · trivial

/-- The next leaf of the same leg, or of none. -/
theorem Unmixed.same (h : Unmixed p w) (hs : passView.Same w w')
    (hp : ∀ pt, p' = .task pt → pt ≠ .requestTask →
      ∃ pt', p = .task pt' ∧ pt' ≠ .requestTask ∧ pt'.served = pt.served) : Unmixed p' w' where
  reports := hs.each (fun _ => unmixedReport_of) h.reports
  pass pt hpt hne := by
    obtain ⟨pt', rfl, hne', hserved⟩ := hp pt hpt hne
    obtain ⟨d, hd⟩ := h.pass pt' rfl hne'
    exact ⟨d, hserved ▸ hd.same hs⟩

end

/-! ## The callbacks -/

section
variable {e : TickEnv} {n : NavNode} {leg : Leg} {k : Nat} {d : Delivery} {p : Pos}
  {pt pt' : Point}
  {w w' : World} {r : NodeStatus × World}

theorem navRuns_passView (hr : NavigateToPose.Runs w n r) : passView.Same w r.2 := by
  cases hf : w.node.faultInjected with
  | false => exact passView_aside.navRuns hr hf
  | true =>
    cases hr with
    | fault =>
      refine ⟨rfl, _, List.append_assoc .., fun o ho => ?_⟩
      simp only [List.mem_append, List.mem_map, List.mem_singleton] at ho
      rcases ho with ⟨g, -, rfl⟩ | rfl <;> rfl
    | gone hf' | waiting _ hf' | rejected _ hf' | reached _ hf' | missed _ hf' => simp [hf] at hf'

theorem Yielded.passView (hy : Yielded e p w w') : passView.Same w w' := by
  cases hy with
  | batteryOk => exact (View.Same.refl w).emit rfl
  | notReady => exact ((View.Same.refl w).emit rfl).emit rfl
  | charger _ w' hr => exact (navRuns_passView hr).emit rfl

theorem InPass.send (h : InPass d (Point.nav leg k).served w) {goal : PoseStamped}
    (hg : w.goalPort (.to leg) = some goal) :
    InPass d (Point.nav leg k).served (NavigateToPose.send e (.to leg) goal w) := by
  have hpose : ({ goal with stamp := e.now } : PoseStamped).pose = leg.pose d := by
    simpa [hg] using h.ports leg
  refine h.grow (NavigateToPose.send_trace ..) (fun after hp => ?_) (fun leg => ?_) (.inr rfl)
  · have hdrive : Pass d (Point.nav leg k).served
        (after ++ [.navGoal (.to leg) w.nextGoal { goal with stamp := e.now }]) :=
      hp.drive hpose (by rintro rfl; simp [Point.served]) w.nextGoal
    have hposted : ∀ o ∈ [Obs.posted (.navigateToPose (.to leg)) .navStarted],
        o.ofPass = false := by simp [Obs.ofPass]
    simpa using hdrive.append hposted
  · cases leg <;> rfl

theorem Unmixed.send (h : Unmixed (.task (.nav leg k)) w) {goal : PoseStamped}
    (hg : w.goalPort (.to leg) = some goal) :
    Unmixed (.task (.nav leg k)) (NavigateToPose.send e (.to leg) goal w) where
  reports := by
    rw [NavigateToPose.send_trace]
    refine h.reports.append fun o ho pre => ?_
    simp only [List.mem_cons, List.not_mem_nil, or_false] at ho
    rcases ho with rfl | rfl <;> trivial
  pass pt hpt hne := by
    obtain rfl := Pos.task.inj hpt
    obtain ⟨d, hd⟩ := h.pass _ rfl hne
    exact ⟨d, hd.send hg⟩

/-- The ExecutePickDrop of a leg returns SUCCESS. -/
theorem Unmixed.serve (h : Unmixed (.task (.exec leg)) w) :
    leafPost (fun pt => Unmixed (.task pt)) Unmixed (.exec leg)
      (.success, w.emit (.returned (.executePickDrop leg) .success)) := by
  obtain ⟨d, hd⟩ := h.pass (.exec leg) rfl (by simp)
  have hdone : InPass d ((Point.exec leg).served ++ [leg])
      (w.emit (.returned (.executePickDrop leg) .success)) :=
    hd.grow rfl (fun after hp => hp.serve leg) (fun leg => by cases leg <;> rfl) (.inr rfl)
  have hreports : Each UnmixedReport
      (w.emit (.returned (.executePickDrop leg) .success)).trace := h.reports.concat trivial
  cases leg with
  | pick =>
    refine ⟨hreports, fun pt hpt _ => ?_⟩
    obtain rfl := Pos.task.inj hpt
    exact ⟨d, hdone⟩
  | drop =>
    refine ⟨hreports, fun pt hpt _ => ?_⟩
    obtain rfl := Pos.task.inj hpt
    exact ⟨d, hdone⟩

/-- A task that is taken on begins its pass. -/
theorem inPass_take (e : TickEnv) (d : Delivery) (w : World) :
    InPass d [] (RequestTask.take e d w) where
  since := ⟨w.trace, [.posted .requestTask .taskReceived], RequestTask.take_trace e w d,
    { last := by simp
      goals := by simp
      pickFirst := Trace.each_nil.concat trivial
      served := rfl }⟩
  ports leg := by cases leg <;> rfl
  current := .inr rfl

theorem Unmixed.take (h : Each UnmixedReport w.trace) (e : TickEnv) (d : Delivery) :
    Unmixed (.task (.nav .pick 0)) (RequestTask.take e d w) where
  reports := by
    rw [RequestTask.take_trace]
    refine h.append fun o ho pre => ?_
    simp only [List.mem_cons, List.not_mem_nil, or_false] at ho
    rcases ho with rfl | rfl <;> trivial
  pass pt hpt _ := by
    obtain rfl := Pos.task.inj hpt
    exact ⟨d, inPass_take e d w⟩

theorem RequestTask.Runs.unmixed (h : RequestTask.Runs e w r) (hw : Each UnmixedReport w.trace)
    (hr : r.1 ≠ .running) : Unmixed (.task (.nav .pick 0)) r.2 := by
  cases h with
  | waiting => exact absurd rfl hr
  | resumed d => exact Unmixed.take (by exact hw) e d
  | next d ds => exact Unmixed.take (by exact hw) e d

/-- What `ReportStatus` publishes is the id of the task in `current_task_`. -/
theorem Unmixed.report (h : Unmixed (.task .report) w) (e : TickEnv) :
    Unmixed .idle (ReportStatus.tick e w).2 where
  reports := by
    obtain ⟨d, ⟨before, after, ht, hpass⟩, -, hcur⟩ := h.pass .report rfl (by simp)
    have hreport : UnmixedReport w.trace (.completion w.node.currentTask
        (ReportStatus.message e w)) := by
      intro hid
      obtain hnone | hd := hcur
      · simp [ReportStatus.message, hnone] at hid
      · exact ⟨d, before, after, ht, by simp [ReportStatus.message, hd], hpass⟩
    exact (h.reports.concat hreport).concat trivial
  pass pt hpt := by cases hpt

theorem Point.served_next {b : Bool} (hn : pt.next b = .inl pt') (hpt : pt ≠ .requestTask)
    (hexec : ∀ leg, pt ≠ .exec leg) : pt'.served = pt.served := by
  match pt, b, hn with
  | .requestTask, _, _ => exact absurd rfl hpt
  | .nav leg _, true, hn => cases hn; cases leg <;> rfl
  | .nav leg _, false, hn => cases hn; cases leg <;> rfl
  | .recover leg _, true, hn => cases hn; cases leg <;> rfl
  | .recover leg k, false, hn =>
    rw [Point.next] at hn
    split at hn
    · cases hn
      cases leg <;> rfl
    · cases hn
  | .exec leg, _, _ => exact absurd rfl (hexec leg)

theorem Unmixed.post (h : Unmixed (.task pt) r.2) (hpt : pt ≠ .requestTask)
    (hexec : ∀ leg, pt = .exec leg → r.1 = .running) :
    leafPost (fun pt => Unmixed (.task pt)) Unmixed pt r := by
  have hreach : r.1 ≠ .running → ∀ b,
      leafReach (fun pt => Unmixed (.task pt)) Unmixed (pt.next b) r.2 := by
    intro hr b
    cases hn : pt.next b with
    | inl pt' =>
      refine h.same (View.Same.refl _) fun pt₁ heq _ => ⟨pt, rfl, hpt, ?_⟩
      obtain rfl := Pos.task.inj heq
      exact (Point.served_next hn hpt fun leg hl => hr (hexec leg hl)).symm
    | inr b' => exact h.same (View.Same.refl _) fun _ heq => by cases heq
  obtain ⟨st, w⟩ := r
  cases st with
  | running => exact h
  | success => exact hreach (by simp) true
  | failure => exact hreach (by simp) false

theorem unmixed_turn {p₀ : Pos} {w₀ : World} (h : Unmixed p₀ w₀) :
    Turn e p₀ w₀ (fun pt => Unmixed (.task pt)) Unmixed := by
  have hv := passView_aside
  have leaves : ∀ {w' : World} (p' : Pos), (∀ pt, p' = .task pt → pt = .requestTask) →
      passView.Same w₀ w' → Unmixed p' w' := fun p' hp hs =>
    h.same hs fun pt heq hne => absurd (hp pt heq) hne
  have stays : ∀ {w w' : World} {pt pt' : Point}, Unmixed (.task pt) w → passView.Same w w' →
      pt ≠ .requestTask → pt.served = pt'.served → Unmixed (.task pt') w' := by
    intro w w' pt pt' hw hs hpt hserved
    refine hw.same hs fun pt₁ heq _ => ⟨pt, rfl, hpt, ?_⟩
    rw [hserved, Pos.task.inj heq]
  have returned : ∀ (w : World) (l : Leaf) (st : NodeStatus),
      (∀ leg, l = .executePickDrop leg → st ≠ .success) →
      passView.Same w (w.emit (.returned l st)) := fun w l st hl =>
    hv.returns (View.Same.refl w) hl
  constructor
  case chargerStarted => exact fun _ _ _ => leaves .charger (by simp) (hv.chargerStarted _)
  case chargerRunning => exact fun _ => leaves .charger (by simp) (returned _ _ _ (by simp))
  case chargerReached => exact fun _ _ _ _ => leaves .charging (by simp) hv.chargerReached
  case charging => exact fun _ _ => leaves .charging (by simp) (returned _ _ _ (by simp))
  case charged => exact fun _ _ => leaves .idle (by simp) hv.charged
  case requestTask =>
    intro w r hy _ hr
    have hw : Unmixed .idle w := leaves .idle (by simp) hy.passView
    have taken := hr.unmixed hw.reports
    cases hr with
    | waiting =>
      exact leaves (.task .requestTask) (fun pt heq => (Pos.task.inj heq).symm)
        (hy.passView.trans (returned _ _ _ (by simp)))
    | resumed d =>
      exact stays (taken (by simp)) (returned _ .requestTask .success (by simp)) (by simp) rfl
    | next d ds =>
      exact stays (taken (by simp)) (returned _ .requestTask .success (by simp)) (by simp) rfl
  case navSent =>
    exact fun leg k w goal _ hs hg _ => stays (hs.send hg) (returned _ _ _ (by simp)) (by simp) rfl
  case navNotSent =>
    exact fun leg k w _ hs _ =>
      stays hs (returned _ _ _ (by simp)) (by simp) (by cases leg <;> rfl)
  case nav =>
    rintro leg k w r _ hy rfl hr
    have hs := (hy.passView.trans (navRuns_passView hr)).trans
      (returned r.2 (.navigateToPose (.to leg)) r.1 (by simp))
    exact (stays h hs (by simp) rfl).post (by simp) (by simp)
  case recoverStarted =>
    exact fun leg k w _ hs =>
      stays hs (hv.recoverStart.trans (returned _ (.requestRecovery leg) .running (by simp)))
        (by simp) rfl
  case recover =>
    rintro leg k w r _ hy rfl hr
    have hs := (hy.passView.trans (hv.recoverRuns hr)).trans
      (returned r.2 (.requestRecovery leg) r.1 (by simp))
    exact (stays h hs (by simp) rfl).post (by simp) (by simp)
  case execStarted => exact fun leg w hs => stays hs hv.execStart (by simp) rfl
  case exec =>
    rintro leg w r hy rfl hr
    have hw : Unmixed (.task (.exec leg)) r.2 :=
      stays h (hy.passView.trans (hv.execRuns hr)) (by simp) rfl
    cases hr with
    | waiting =>
      have hs := returned w (.executePickDrop leg) .running (by simp)
      exact (stays hw hs (by simp) rfl).post (by simp) fun _ _ => rfl
    | picked => exact hw.serve
    | dropped => exact hw.serve
  case report =>
    exact fun w hs => (hs.report e).same (returned _ _ _ (by simp)) fun _ heq => by cases heq

end

/-! ## The other callbacks -/

theorem Unmixed.keep {p : Pos} {w w' : World} (h : Unmixed p w) (hs : passView.Same w w') :
    Unmixed p w' := h.same hs fun pt heq hne => ⟨pt, heq, hne, rfl⟩

/-- A battery tick may take the task away from its pass. -/
theorem batteryUpdateCb_unmixed {p : Pos} {w : World} (h : Unmixed p w) (now : Time) :
    Unmixed p (batteryUpdateCb now w) where
  reports := h.reports
  pass pt hpt hne := by
    obtain ⟨d, hd⟩ := h.pass pt hpt hne
    obtain ⟨b, cur, int, heq⟩ := batteryUpdateCb_node now w
    have htrace : (batteryUpdateCb now w).trace = w.trace ++ [] := (List.append_nil _).symm
    refine ⟨d, hd.grow htrace (fun _ hp => by simpa using hp) (fun leg => ?_) ?_⟩
    · cases leg <;> simp [World.goalPort, heq]
    · obtain hs | ⟨d', hs⟩ := batteryUpdateCb_slots now w
      · exact .inr hs.current
      · exact .inl hs.current

theorem unmixed_kept : Kept (fun _ _ _ => false) Unmixed where
  btTick e p w _ _ h := ⟨_, unmixed_turn h⟩
  taskAssignment msg p w _ h := h.keep ⟨rfl, _, rfl, by simp [passView, Obs.ofPass]⟩
  batteryUpdate now p w _ h := batteryUpdateCb_unmixed h now
  statusPublish now tf p w _ h := h.keep ((View.Same.refl w).emit rfl)
  injectFault data p w _ h := by
    cases data <;> exact h.keep ⟨rfl, _, rfl, by simp [passView, Obs.ofPass]⟩
  goalResponse g accepted p w _ _ h := h.keep ⟨rfl, _, rfl, by simp [passView, Obs.ofPass]⟩
  goalResult g code p w _ _ h := h.keep ⟨rfl, _, rfl, by simp [passView, Obs.ofPass]⟩

/-! ## Main result -/

/-- **No mixing of tasks**, in every run. -/
theorem passes_unmixed (c : Config) (es : List Event) :
    Each UnmixedReport (c.run es).world.trace := by
  have hinit : Unmixed .idle c.init.world := ⟨Trace.each_nil, fun _ hpt => by cases hpt⟩
  exact (unmixed_kept.run never_false hinit).pos.2.2.reports

end RobotAgent
