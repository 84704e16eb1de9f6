import WarehouseFleet.RobotAgent.Motion
import WarehouseFleet.RobotAgent.Slots
import WarehouseFleet.RobotAgent.View

/-!
# Which faults fail a navigation

`fault_injected_` is set by `inject_fault(true)` and cleared by the navigation that fails by it,
so whenever it is set, no navigation has consumed a fault since the last call (`Latched`). But
`inject_fault(false)` does not clear it: the last call may be one that was to clear the fault
(`failsByClearedFault`).
-/

namespace RobotAgent

open BehaviorTree
open Fms
open Trace (Each)

inductive FaultMark where
  | call (value : Bool)
  /-- a navigation failed by a fault -/
  | consumed
deriving DecidableEq, Repr

def Obs.faultMark : Obs → Option FaultMark
  | .fault value => some (.call value)
  | .posted (.navigateToPose _) .faultInjected => some .consumed
  | _ => none

/-- The last `inject_fault` call, or the failure by a fault that came after it. -/
def lastFault (tr : List Obs) : Option FaultMark := (tr.filterMap Obs.faultMark).getLast?

/-- A navigation fails by a fault only if the last call had value `true`, and no navigation has
consumed that fault already. -/
def Injected (pre : List Obs) : Obs → Prop
  | .posted (.navigateToPose _) .faultInjected => lastFault pre = some (.call true)
  | _ => True

/-- A navigation is ticked with a fault pending that `inject_fault(false)` was to clear. -/
def failsByClearedFault (e : TickEnv) (p : Pos) (w : World) : Bool :=
  failsByFault e p w && lastFault w.trace = some (.call false)

/-! ## The invariant -/

/-- The latch, with the calls and what has become of their faults. -/
def faultView : View Bool := ⟨(·.faultInjected), fun o => o.faultMark.isSome⟩

theorem faultView_aside : faultView.Aside where
  node _ _ _ _ := rfl
  posted l ev hev := by
    cases l <;> cases ev <;> first | rfl | exact absurd rfl hev
  returned _ _ _ := rfl
  halted _ := rfl
  cancel _ := rfl
  chargerGoal _ _ := rfl
  spinGoal _ _ _ := rfl
  backUpGoal _ _ _ := rfl

structure Latched (w : World) : Prop where
  injected : Each Injected w.trace
  called : w.node.faultInjected = true → ∃ value, lastFault w.trace = some (.call value)

section
variable {e : TickEnv} {n : NavNode} {p : Pos} {w w' : World} {r : NodeStatus × World}

theorem injected_of_unmarked {o : Obs} (ho : o.faultMark = none) (pre : List Obs) :
    Injected pre o := by
  unfold Injected
  split
  · cases ho
  · trivial

theorem faultView_unmarked {o : Obs} (ho : faultView.sees o = false) : o.faultMark = none := by
  simpa [faultView] using ho

theorem lastFault_same (hs : faultView.Same w w') : lastFault w'.trace = lastFault w.trace := by
  rw [lastFault, hs.filterMap fun _ => faultView_unmarked, lastFault]

theorem Latched.same (h : Latched w) (hs : faultView.Same w w') : Latched w' where
  injected := hs.each (fun _ ho => injected_of_unmarked (faultView_unmarked ho)) h.injected
  called hf := by
    rw [lastFault_same hs]
    exact h.called (hs.node.symm.trans hf)

/-- How a fault ends a navigation. -/
theorem faulted_trace (hr : NavigateToPose.Runs w n r) (hf : w.node.faultInjected = true) :
    r.1 = .failure ∧ r.2.node.faultInjected = false ∧ ∃ pre,
      r.2.trace = pre ++ [.posted (.navigateToPose n) .faultInjected] ∧
      lastFault pre = lastFault w.trace ∧ (Each Injected w.trace → Each Injected pre) := by
  cases hr with
  | fault =>
    refine ⟨rfl, rfl, _, rfl, ?_, fun h => h.append fun o ho => injected_of_unmarked ?_⟩
    · have hcancel : ∀ gs : List Nat, (gs.map Obs.cancel).filterMap Obs.faultMark = [] := fun gs =>
        List.filterMap_eq_nil_iff.mpr fun o ho => by
          obtain ⟨g, -, rfl⟩ := List.mem_map.mp ho
          rfl
      simp [NavigateToPose.onHalted, World.clearFault, lastFault, hcancel]
    · obtain ⟨g, -, rfl⟩ := List.mem_map.mp ho
      rfl
  | gone hf' | waiting _ hf' | rejected _ hf' | reached _ hf' | missed _ hf' => simp [hf] at hf'

theorem Latched.navRuns (h : Latched w) (hr : NavigateToPose.Runs w n r)
    (hc : w.node.faultInjected = true → lastFault w.trace ≠ some (.call false)) : Latched r.2 := by
  cases hf : w.node.faultInjected with
  | false => exact h.same (faultView_aside.navRuns hr hf)
  | true =>
    obtain ⟨-, hclear, pre, ht, hlast, hpre⟩ := faulted_trace hr hf
    refine ⟨ht ▸ (hpre h.injected).concat ?_, fun hf' => by simp [hclear] at hf'⟩
    obtain ⟨value, hcall⟩ := h.called hf
    show lastFault pre = some (.call true)
    rw [hlast, hcall]
    cases value with
    | false => exact absurd hcall (hc hf)
    | true => rfl

theorem lastFault_call (tr : List Obs) (data : Bool) :
    lastFault (tr ++ [.fault data]) = some (.call data) := by
  simp [lastFault, Obs.faultMark]

theorem Latched.fault (h : Latched w) (data : Bool) : Latched (faultServiceCb data w) := by
  have htrace : (faultServiceCb data w).trace = w.trace ++ [.fault data] := by cases data <;> rfl
  refine ⟨htrace ▸ h.injected.concat trivial, fun _ => ⟨data, ?_⟩⟩
  rw [htrace, lastFault_call]

end

/-! ## One tick -/

section
variable {e : TickEnv} {w : World} {r : NodeStatus × World}

theorem send_faultView (n : NavNode) (goal : PoseStamped) :
    faultView.Same w (NavigateToPose.send e n goal w) :=
  ⟨rfl, _, NavigateToPose.send_trace .., by simp [faultView, Obs.faultMark]⟩

theorem requestTask_faultView (h : RequestTask.Runs e w r) : faultView.Same w r.2 := by
  cases h with
  | waiting => exact .refl w
  | resumed d => exact ⟨rfl, _, RequestTask.take_trace e w d, by simp [faultView, Obs.faultMark]⟩
  | next d ds => exact ⟨rfl, _, RequestTask.take_trace e w d, by simp [faultView, Obs.faultMark]⟩

theorem report_faultView (e : TickEnv) (w : World) :
    faultView.Same w (ReportStatus.tick e w).2 :=
  ⟨rfl, _, ReportStatus.tick_trace e w, by simp [faultView, Obs.faultMark]⟩

theorem latched_turn {p₀ : Pos} {w₀ : World} (hP : failsByClearedFault e p₀ w₀ = false)
    (h : Latched w₀) : Turn e p₀ w₀ (fun _ => Latched) (fun _ => Latched) := by
  have hv := faultView_aside
  have post : ∀ pt r, Latched r.2 → leafPost (fun _ => Latched) (fun _ => Latched) pt r :=
    fun pt r => leafPost_of (fun _ _ _ _ h => h) (fun _ _ _ h => h)
  have returned : ∀ {w : World} (l : Leaf) (st : NodeStatus), Latched w →
      Latched (w.emit (.returned l st)) := fun l st hw => hw.same ((View.Same.refl _).emit rfl)
  have yielded : ∀ w, Yielded e p₀ w₀ w → Latched w := by
    intro w hy
    cases hy with
    | batteryOk => exact returned _ _ h
    | notReady => exact returned _ _ (returned _ _ h)
    | charger _ w' hr =>
      refine returned _ _ (h.navRuns hr fun hf => ?_)
      simpa [failsByClearedFault, failsByFault, hf] using hP
  constructor
  case chargerStarted => exact fun _ _ _ => h.same (hv.chargerStarted _)
  case chargerRunning => exact fun _ => returned _ _ h
  case chargerReached => exact fun _ _ _ _ => h.same hv.chargerReached
  case charging => exact fun _ _ => returned _ _ h
  case charged => exact fun _ _ => h.same hv.charged
  case requestTask =>
    exact fun w r hy _ hr =>
      post _ _ (returned _ _ ((yielded w hy).same (requestTask_faultView hr)))
  case navSent =>
    exact fun leg k w goal _ hs _ _ => returned _ _ (hs.same (send_faultView _ goal))
  case navNotSent => exact fun leg k w _ hs _ => returned _ _ hs
  case nav =>
    rintro leg k w r _ hy rfl hr
    refine post _ _ (returned _ _ ((yielded w hy).navRuns hr fun hf => ?_))
    rw [lastFault_same (hv.yielded hy (by simp))]
    rw [hy.node_of_away trivial] at hf
    simpa [failsByClearedFault, failsByFault, hf, hy.yields] using hP
  case recoverStarted =>
    exact fun leg k w _ hs => returned _ _ (hs.same hv.recoverStart)
  case recover =>
    exact fun leg k w r _ hy _ hr =>
      post _ _ (returned _ _ ((yielded w hy).same (hv.recoverRuns hr)))
  case execStarted => exact fun leg w hs => hs.same hv.execStart
  case exec =>
    exact fun leg w r hy _ hr => post _ _ (returned _ _ ((yielded w hy).same (hv.execRuns hr)))
  case report => exact fun w hs => returned _ _ (hs.same (report_faultView e w))

theorem latched_kept : Kept failsByClearedFault fun _ => Latched where
  btTick e p w _ hP h := ⟨_, latched_turn hP h⟩
  taskAssignment msg p w _ h := h.same ⟨rfl, _, rfl, by simp [faultView, Obs.faultMark]⟩
  batteryUpdate now p w _ h := by
    obtain ⟨b, cur, int, heq⟩ := batteryUpdateCb_node now w
    exact h.same ⟨by rw [heq]; rfl, [], by simp [batteryUpdateCb], by simp⟩
  statusPublish now tf p w _ h := h.same ((View.Same.refl w).emit rfl)
  injectFault data p w _ h := h.fault data
  goalResponse g accepted p w _ _ h := h.same ⟨rfl, _, rfl, by simp [faultView, Obs.faultMark]⟩
  goalResult g code p w _ _ h := h.same ⟨rfl, _, rfl, by simp [faultView, Obs.faultMark]⟩

/-! ## The fault that was cleared -/

/-- A navigation is about to fail by the fault, or has failed by it. -/
def Betrays (p : Pos) (w : World) : Prop :=
  ¬ Each Injected w.trace ∨ (∃ leg k, p = .task (.nav leg k)) ∧
    w.node.faultInjected = true ∧ lastFault w.trace = some (.call false)

theorem not_injected_of_prefix {w' : World} (h : ¬ Each Injected w.trace)
    (hp : w.trace <+: w'.trace) : ¬ Each Injected w'.trace := fun hw => h (hw.of_prefix hp)

theorem Betrays.left {p : Pos} (h : Betrays p w) (hp : ∀ leg k, p ≠ .task (.nav leg k)) :
    ¬ Each Injected w.trace := by
  obtain h | ⟨⟨leg, k, rfl⟩, -⟩ := h
  · exact h
  · exact absurd rfl (hp leg k)

/-- ChargeWhenLow is not RUNNING, and leaves the fault to the navigation of TaskExecution. -/
theorem betrays_of_away {p : Pos} {w' : World} (ha : p.away)
    (hb : failsByClearedFault e p w = true) (hs : faultView.Same w w') : Betrays p w' := by
  obtain ⟨hfails, hc⟩ := Bool.and_eq_true_iff.mp hb
  obtain ⟨hf, hp⟩ := Bool.and_eq_true_iff.mp hfails
  match p, ha, hp with
  | .task (.nav leg k), _, _ =>
    exact Or.inr ⟨⟨leg, k, rfl⟩, hs.node.trans hf, (lastFault_same hs).trans (of_decide_eq_true hc)⟩

/-- The failure is not that of a fault that was called for. -/
theorem navRuns_not_injected {n : NavNode} (hr : NavigateToPose.Runs w n r)
    (hf : w.node.faultInjected = true) (hc : lastFault w.trace = some (.call false)) :
    r.1 = .failure ∧ ¬ Each Injected r.2.trace := by
  obtain ⟨hst, -, pre, ht, hlast, -⟩ := faulted_trace hr hf
  refine ⟨hst, fun hw => ?_⟩
  have hcall : lastFault pre = some (.call true) := hw pre _ [] ht
  rw [hlast, hc] at hcall
  cases hcall

/-- A tick that begins so ends with a failure that was not called for. -/
def betrayedOutline (e : TickEnv) : TickOutline where
  before p w := failsByClearedFault e p w = true
  task p w := Betrays p w
  start _ w := ¬ Each Injected w.trace
  after _ w := ¬ Each Injected w.trace

theorem betrayedOutline_holds (e : TickEnv) : (betrayedOutline e).Holds e := by
  have hv := faultView_aside
  have grows : ∀ {w w' : World}, faultView.Same w w' → ¬ Each Injected w.trace →
      ¬ Each Injected w'.trace := by
    intro w w' hs h
    obtain ⟨new, ht, -⟩ := hs.trace
    exact not_injected_of_prefix h ⟨new, ht.symm⟩
  have returned : ∀ {w : World} (l : Leaf) (st : NodeStatus), ¬ Each Injected w.trace →
      ¬ Each Injected (w.emit (.returned l st)).trace := fun l st =>
    grows ((View.Same.refl _).emit rfl)
  have post : ∀ pt (r : NodeStatus × World), ¬ Each Injected r.2.trace →
      (betrayedOutline e).post pt r := fun pt r =>
    leafPost_of (Q := fun w => ¬ Each Injected w.trace) (fun _ _ _ _ h => h) (fun _ _ _ h => h)
  constructor
  case batteryOk =>
    exact fun p w _ ha hb _ => betrays_of_away ha hb ((View.Same.refl w).emit rfl)
  case chargerStarted =>
    intro p w _ ha hb hsoc hr
    have hy := (not_yields_of_startsCharger (startsCharger_of ha hsoc hr)).2
    obtain ⟨hfails, -⟩ := Bool.and_eq_true_iff.mp hb
    obtain ⟨-, hp⟩ := Bool.and_eq_true_iff.mp hfails
    match p, ha, hp with
    | .task (.nav leg k), _, hp => exact absurd (hp.symm.trans hy) (by decide)
  case chargerNotReady =>
    exact fun p w _ ha hb _ _ => betrays_of_away ha hb (((View.Same.refl w).emit rfl).emit rfl)
  case charger =>
    intro w r hb hr
    obtain ⟨hfails, hc⟩ := Bool.and_eq_true_iff.mp hb
    obtain ⟨hf, -⟩ := Bool.and_eq_true_iff.mp hfails
    obtain ⟨hst, hbad⟩ := navRuns_not_injected hr hf (of_decide_eq_true hc)
    rw [hst]
    exact Or.inl (returned _ _ hbad)
  case charging =>
    intro w hb
    simp [betrayedOutline, failsByClearedFault, failsByFault] at hb
  case charged =>
    intro w hb
    simp [betrayedOutline, failsByClearedFault, failsByFault] at hb
  case requestTask =>
    intro w r hw hr
    have hbad : ¬ Each Injected w.trace := by
      obtain hw | hw := hw
      · exact hw.left (by simp)
      · exact hw.left (by simp)
    exact post _ _ (returned _ _ (grows (requestTask_faultView hr) hbad))
  case navSent =>
    exact fun leg k w goal _ hs _ _ => returned _ _ (grows (send_faultView _ goal) hs)
  case navNotSent => exact fun leg k w _ hs _ => returned _ _ hs
  case nav =>
    intro leg k w r _ hw hr
    refine post _ _ (returned _ _ ?_)
    obtain hbad | ⟨-, hf, hc⟩ := hw
    · obtain ⟨new, ht, -⟩ := hr.slots.trace
      exact not_injected_of_prefix hbad ⟨new, ht.symm⟩
    · exact (navRuns_not_injected hr hf hc).2
  case recoverStarted => exact fun leg k w _ hs => returned _ _ (grows hv.recoverStart hs)
  case recover =>
    exact fun leg k w r _ hw hr =>
      post _ _ (returned _ _ (grows (hv.recoverRuns hr) (hw.left (by simp))))
  case execStarted => exact fun leg w hs => grows hv.execStart hs
  case exec =>
    exact fun leg w r hw hr =>
      post _ _ (returned _ _ (grows (hv.execRuns hr) (hw.left (by simp))))
  case report => exact fun w hs => returned _ _ (grows (report_faultView e w) hs)

end

/-! ## Main result -/

/-- **A cleared fault stays cleared** in the runs, and only in the runs, in which no navigation is
ticked with a fault pending that was to be cleared. -/
theorem faults_injected (c : Config) (es : List Event) :
    Each Injected (c.run es).world.trace ↔ Never failsByClearedFault c es := by
  constructor
  · intro h
    by_contra hne
    obtain ⟨pre, e, post, rfl, hP⟩ := exists_of_not_never hne
    obtain ⟨hv, hp⟩ := positioned c pre
    obtain ⟨p', -, -, hbad⟩ := (betrayedOutline_holds e).btTick hp hv hP
    rw [List.append_cons] at h
    refine hbad (h.of_prefix ?_)
    have hprefix := c.run_prefix (pre ++ [.btTick e]) post
    rwa [Config.run_concat] at hprefix
  · intro h
    exact (latched_kept.run h ⟨Trace.each_nil, fun hf => (by cases hf)⟩).pos.2.2.injected

/-- The fault is cleared before the robot sets out. -/
def clearedRun : List Event :=
  [ .injectFault true
  , .injectFault false
  , .taskAssignment (sampleTask "a" (poseAt 1 0) (poseAt 0 1))
  , .btTick (.up 0)
  , .btTick (.up 1) ]

/-- The navigation to the pick fails by it. -/
theorem cleared_fault_fails : ¬ Each Injected (Config.sample.run clearedRun).world.trace := by
  intro h
  have hfailed : (Config.sample.run clearedRun).world.trace =
      (Config.sample.run clearedRun).world.trace.take 11 ++
        .posted (.navigateToPose (.to .pick)) .faultInjected ::
          (Config.sample.run clearedRun).world.trace.drop 12 := by
    decide +kernel
  have hcall : lastFault ((Config.sample.run clearedRun).world.trace.take 11) =
      some (.call true) := h _ _ _ hfailed
  exact absurd hcall (by decide +kernel)

end RobotAgent
