import WarehouseFleet.RobotAgent.LeafCases
import WarehouseFleet.RobotAgent.Position

/-!
# One BT tick of the agent

`TickOutline` writes assertions around the leaf calls of one tick, by the position of the tree;
`TickOutline.Holds.btTick` turns checks of the single leaf callbacks into a statement about
`btTickCb`. Every invariant of the agent is derived from it.
-/

namespace RobotAgent

open BehaviorTree

/-! ## The outline of one BT tick -/

/-- `halt` of TaskExecution when the tree stands at `p`. -/
def haltTask (e : TickEnv) : Pos → World → World
  | .task pt, w => (sem e pt.leaf).onHalted w
  | _, w => w

/-- Halting TaskExecution stops the robot at most; no event reaches the FSM. -/
theorem haltTask_node (e : TickEnv) (p : Pos) (w : World) :
    ∃ b, (haltTask e p w).node = { w.node with isMoving := b } := by
  match p with
  | .task (.nav _ _) => exact ⟨false, rfl⟩
  | .idle => exact ⟨_, rfl⟩
  | .charger => exact ⟨_, rfl⟩
  | .charging => exact ⟨_, rfl⟩
  | .task .requestTask => exact ⟨_, rfl⟩
  | .task (.recover _ _) => exact ⟨_, rfl⟩
  | .task (.exec _) => exact ⟨_, rfl⟩
  | .task .report => exact ⟨_, rfl⟩

section
variable (e : TickEnv) (p : Pos) (w : World)

@[simp] theorem haltTask_fsm : (haltTask e p w).node.fsm = w.node.fsm := by
  obtain ⟨b, h⟩ := haltTask_node e p w
  rw [h]

@[simp] theorem haltTask_isCharging : (haltTask e p w).node.isCharging = w.node.isCharging := by
  obtain ⟨b, h⟩ := haltTask_node e p w
  rw [h]

end

/-- In the trace a halt leaves a `halted` entry, and cancelled goals. -/
theorem haltTask_trace (e : TickEnv) (p : Pos) (w : World) :
    ∃ new, (haltTask e p w).trace = w.trace ++ new ∧
      ∀ o ∈ new, (∃ l, o = .halted l) ∨ ∃ g, o = .cancel g := by
  match p with
  | .task (.nav leg _) =>
    refine ⟨_, List.append_assoc .., fun o ho => ?_⟩
    simp only [List.mem_append, List.mem_map, List.mem_singleton] at ho
    rcases ho with ⟨g, -, rfl⟩ | rfl
    · exact Or.inr ⟨g, rfl⟩
    · exact Or.inl ⟨_, rfl⟩
  | .task (.recover _ _) => exact ⟨_, rfl, by simp⟩
  | .task (.exec _) => exact ⟨_, rfl, by simp⟩
  | .task .requestTask => exact ⟨_, rfl, by simp⟩
  | .task .report => exact ⟨[], (List.append_nil _).symm, by simp⟩
  | .idle => exact ⟨[], (List.append_nil _).symm, by simp⟩
  | .charger => exact ⟨[], (List.append_nil _).symm, by simp⟩
  | .charging => exact ⟨[], (List.append_nil _).symm, by simp⟩

theorem haltResumed_path (e : TickEnv) (p : Pos) (w : World) :
    haltResumed (sem e) [taskExecution] 0 (memOf 1 p.path) w = haltTask e p w := by
  match p with
  | .idle => rfl
  | .charger => rfl
  | .charging => rfl
  | .task .requestTask => rfl
  | .task (.nav .pick _) => rfl
  | .task (.nav .drop _) => rfl
  | .task (.recover .pick _) => rfl
  | .task (.recover .drop _) => rfl
  | .task (.exec .pick) => rfl
  | .task (.exec .drop) => rfl
  | .task .report => rfl

/-- What holds at what follows a leaf of TaskExecution: `start` at a leaf that is started, `after`
when TaskExecution, and with it the tree, is done. -/
def leafReach (start : Point → World → Prop) (after : Pos → World → Prop) :
    Point ⊕ Bool → World → Prop
  | .inl pt, w => start pt w
  | .inr _, w => after .idle w

/-- What a callback of the leaf at `pt` has to establish. -/
def leafPost (start : Point → World → Prop) (after : Pos → World → Prop) (pt : Point) :
    NodeStatus × World → Prop
  | (.running, w) => after (.task pt) w
  | (.success, w) => leafReach start after (pt.next true) w
  | (.failure, w) => leafReach start after (pt.next false) w

/-- Assertions around one BT tick: before it; when ChargeWhenLow has returned FAILURE and
TaskExecution goes on at a position; when a leaf of TaskExecution is about to be started; and
after the tick. -/
structure TickOutline where
  before : Pos → World → Prop
  task : Pos → World → Prop
  start : Point → World → Prop
  after : Pos → World → Prop

namespace TickOutline

/-- What a callback of the leaf at `pt` has to establish. -/
abbrev post (A : TickOutline) : Point → NodeStatus × World → Prop := leafPost A.start A.after

/-- What `NavToCharger` has to establish when it was RUNNING. -/
def chargerPost (A : TickOutline) : NodeStatus × World → Prop
  | (.running, w) => A.after .charger w
  | (.success, w) => A.after .charging (returns .chargeBattery ChargeBattery.onStart w).2
  | (.failure, w) => A.task .idle w

/-- The leaf callbacks a tick is made of, each checked against the assertions around it. -/
structure Holds (A : TickOutline) (e : TickEnv) : Prop where
  batteryOk : ∀ p w, p.Valid → p.away → A.before p w → 20 ≤ w.node.battery.soc →
    A.task p (w.emit (.returned .batteryOK .success))
  chargerStarted : ∀ p w, p.Valid → p.away → A.before p w → w.node.battery.soc < 20 →
    e.navReady .toCharger = true → A.after .charger (haltTask e p
      ((NavigateToPose.send e .toCharger w.node.chargerPose
        (w.emit (.returned .batteryOK .failure))).emit
          (.returned (.navigateToPose .toCharger) .running)))
  chargerNotReady : ∀ p w, p.Valid → p.away → A.before p w → w.node.battery.soc < 20 →
    e.navReady .toCharger = false → A.task p
      ((w.emit (.returned .batteryOK .failure)).emit
        (.returned (.navigateToPose .toCharger) .failure))
  charger : ∀ w r, A.before .charger w → NavigateToPose.Runs w .toCharger r →
    A.chargerPost (r.1, r.2.emit (.returned (.navigateToPose .toCharger) r.1))
  charging : ∀ w, A.before .charging w → w.node.battery.soc < 95 →
    A.after .charging (w.emit (.returned .chargeBattery .running))
  charged : ∀ w, A.before .charging w → 95 ≤ w.node.battery.soc →
    A.after .idle (({ w with node := { w.node with isCharging := false } }.post .chargeBattery
      .batteryFull).emit (.returned .chargeBattery .success))
  requestTask : ∀ w r, A.task .idle w ∨ A.task (.task .requestTask) w → RequestTask.Runs e w r →
    A.post .requestTask (r.1, r.2.emit (.returned .requestTask r.1))
  navSent : ∀ leg k w goal, k < 3 → A.start (.nav leg k) w → w.goalPort (.to leg) = some goal →
    e.navReady (.to leg) = true → A.after (.task (.nav leg k))
      ((NavigateToPose.send e (.to leg) goal w).emit
        (.returned (.navigateToPose (.to leg)) .running))
  navNotSent : ∀ leg k w, k < 3 → A.start (.nav leg k) w →
    w.goalPort (.to leg) = none ∨ e.navReady (.to leg) = false →
    A.start (.recover leg k) (w.emit (.returned (.navigateToPose (.to leg)) .failure))
  nav : ∀ leg k w r, k < 3 → A.task (.task (.nav leg k)) w → NavigateToPose.Runs w (.to leg) r →
    A.post (.nav leg k) (r.1, r.2.emit (.returned (.navigateToPose (.to leg)) r.1))
  recoverStarted : ∀ leg k w, k < 3 → A.start (.recover leg k) w →
    A.after (.task (.recover leg k))
      (returns (.requestRecovery leg) (RequestRecovery.onStart e leg) w).2
  recover : ∀ leg k w r, k < 3 → A.task (.task (.recover leg k)) w →
    RequestRecovery.Runs e w leg r →
    A.post (.recover leg k) (r.1, r.2.emit (.returned (.requestRecovery leg) r.1))
  execStarted : ∀ leg w, A.start (.exec leg) w →
    A.after (.task (.exec leg)) (returns (.executePickDrop leg) (ExecutePickDrop.onStart e leg) w).2
  exec : ∀ leg w r, A.task (.task (.exec leg)) w → ExecutePickDrop.Runs e w leg r →
    A.post (.exec leg) (r.1, r.2.emit (.returned (.executePickDrop leg) r.1))
  report : ∀ w, A.start .report w →
    A.after .idle (returns .reportStatus (ReportStatus.tick e) w).2

variable {A : TickOutline} {e : TickEnv}

/-! ### TaskExecution -/

/-- What holds when the leaf at a point is started: `RequestTask` is the first. -/
def startAt (A : TickOutline) : Point → World → Prop
  | .requestTask => A.task .idle
  | pt => A.start pt

theorem Holds.start (h : A.Holds e) {pt : Point} {w : World} (hv : pt.Valid)
    (hw : A.startAt pt w) : A.post pt ((sem e pt.leaf).onStart w) := by
  cases pt with
  | requestTask => exact h.requestTask w _ (Or.inl hw) (RequestTask.runs e w)
  | nav leg k =>
    show A.post _ (returns _ (NavigateToPose.onStart e (.to leg)) w)
    obtain ⟨heq, hn⟩ | ⟨goal, hg, hr, heq⟩ := NavigateToPose.onStart_cases e w (.to leg)
    · rw [returns, heq]
      exact h.navNotSent leg k w hv hw hn
    · rw [returns, heq]
      exact h.navSent leg k w goal hv hw hg hr
  | recover leg k => exact h.recoverStarted leg k w hv hw
  | exec leg => exact h.execStarted leg w hw
  | report => exact h.report w hw

theorem Holds.resume (h : A.Holds e) {pt : Point} {w : World} (hv : (Pos.task pt).Valid)
    (hw : A.task (.task pt) w) : A.post pt ((sem e pt.leaf).onRunning w) := by
  cases pt with
  | requestTask => exact h.requestTask w _ (Or.inr hw) (RequestTask.runs e w)
  | nav leg k => exact h.nav leg k w _ hv hw (NavigateToPose.runs w (.to leg))
  | recover leg k => exact h.recover leg k w _ hv hw (RequestRecovery.runs e w leg)
  | exec leg => exact h.exec leg w _ hw (ExecutePickDrop.runs e w leg)
  | report => exact hv.elim

/-- The outline of TaskExecution, at the paths of its points. -/
def taskOutline (A : TickOutline) : Outline World where
  start q w := ∃ pt : Point, pt.Valid ∧ pt.path = q ∧ A.startAt pt w
  resume q w := ∃ pt : Point, (Pos.task pt).Valid ∧ pt.path = q ∧ A.task (.task pt) w
  running q w := ∃ pt : Point, (Pos.task pt).Valid ∧ pt.path = q ∧ A.after (.task pt) w
  done _ w := A.after .idle w

theorem reach_taskOutline {pt : Point} {b : Bool} {w : World} (hv : pt.Valid)
    (h : leafReach A.start A.after (pt.next b) w) :
    A.taskOutline.reach (Point.toNext (pt.next b)) w := by
  cases hn : pt.next b with
  | inl pt' =>
    rw [hn] at h
    refine ⟨pt', Point.next_valid hv hn, rfl, ?_⟩
    cases pt' with
    | requestTask => exact absurd hn (Point.next_ne_requestTask pt b)
    | _ => exact h
  | inr b' =>
    rw [hn] at h
    exact h

/-- `ReportStatus` never returns RUNNING. -/
theorem valid_of_running {pt : Point} {w w' : World} (hv : pt.Valid)
    (h : (sem e pt.leaf).onStart w = (.running, w') ∨
      (sem e pt.leaf).onRunning w = (.running, w')) : (Pos.task pt).Valid := by
  refine Pos.valid_task.mpr ⟨hv, ?_⟩
  rintro rfl
  rcases h with h | h <;> cases congrArg Prod.fst h

theorem taskOutline_holds (h : A.Holds e) : A.taskOutline.Holds (sem e) taskExecution := by
  intro q l hl
  obtain ⟨pt, hv, rfl, rfl⟩ := Point.exists_point hl
  have key : ∀ w r, (sem e pt.leaf).onStart w = r ∨ (sem e pt.leaf).onRunning w = r →
      A.post pt r → A.taskOutline.after pt.path (taskExecution.next pt.path) r := by
    rintro w ⟨st, w'⟩ hor hr
    cases st with
    | running => exact ⟨pt, valid_of_running hv hor, rfl, hr⟩
    | success =>
      show A.taskOutline.reach (taskExecution.next pt.path true) w'
      rw [Point.next_path]
      exact reach_taskOutline hv hr
    | failure =>
      show A.taskOutline.reach (taskExecution.next pt.path false) w'
      rw [Point.next_path]
      exact reach_taskOutline hv hr
  constructor
  · rintro w ⟨pt', -, hp, hw⟩
    obtain rfl := Pos.task_path_injective hp
    exact key w _ (Or.inl rfl) (h.start hv hw)
  · rintro w ⟨pt', hv', hp, hw⟩
    obtain rfl := Pos.task_path_injective hp
    exact key w _ (Or.inr rfl) (h.resume hv' hw)

/-- TaskExecution ticked where it stood. -/
theorem Holds.tickTask (h : A.Holds e) {p : Pos} {w : World} (hv : p.Valid)
    (hw : A.task p.rest w) :
    A.taskOutline.result (tick (sem e) taskExecution (memOf 1 p.path) w) := by
  have idle : A.task .idle w →
      A.taskOutline.result (tick (sem e) taskExecution none w) := fun hw =>
    Outline.tick_idle rfl (taskOutline_holds h) ⟨.requestTask, trivial, rfl, hw⟩
  match p, hv with
  | .idle, _ => exact idle hw
  | .charger, _ => exact idle hw
  | .charging, _ => exact idle hw
  | .task pt, hv =>
    exact Outline.tick_resumed rfl (taskOutline_holds h)
      (Point.leafAt_path (Pos.valid_task.mp hv).1) ⟨pt, hv, rfl, hw⟩

/-! ### ChargeWhenLow -/

/-- The outline of ChargeWhenLow in a tick that finds the tree at `p`. -/
def chargeOutline (A : TickOutline) (e : TickEnv) (p : Pos) : Outline World where
  start q w := match q with
    | .child 0 (.deco 0 .leaf) => p.away ∧ A.before p w
    | .child 1 .leaf => p.away ∧ ∃ w₀, A.before p w₀ ∧ w₀.node.battery.soc < 20 ∧
        w = w₀.emit (.returned .batteryOK .failure)
    | .child 2 .leaf => p = .charger ∧ A.chargerPost (.success, w)
    | _ => False
  resume q w := match q with
    | .child 1 .leaf => p = .charger ∧ A.before .charger w
    | .child 2 .leaf => p = .charging ∧ A.before .charging w
    | _ => False
  running q w := match q with
    | .child 1 .leaf => A.after .charger (haltTask e p w)
    | .child 2 .leaf => A.after .charging (haltTask e p w)
    | _ => False
  done b w := if b then A.after .idle (haltTask e p w) else A.task p.rest w

theorem leafAt_chargeWhenLow {q : Path} {l : Leaf} (h : chargeWhenLow.leafAt q = some l) :
    (q = .child 0 (.deco 0 .leaf) ∧ l = .batteryOK) ∨
    (q = .child 1 .leaf ∧ l = .navigateToPose .toCharger) ∨
    (q = .child 2 .leaf ∧ l = .chargeBattery) := by
  match q, h with
  | .child 0 (.deco 0 .leaf), h => exact Or.inl ⟨rfl, (Option.some.inj h).symm⟩
  | .child 1 .leaf, h => exact Or.inr (Or.inl ⟨rfl, (Option.some.inj h).symm⟩)
  | .child 2 .leaf, h => exact Or.inr (Or.inr ⟨rfl, (Option.some.inj h).symm⟩)

theorem chargeOutline_holds (h : A.Holds e) {p : Pos} (hv : p.Valid) :
    (A.chargeOutline e p).Holds (sem e) chargeWhenLow := by
  intro q l hl
  obtain ⟨rfl, rfl⟩ | ⟨rfl, rfl⟩ | ⟨rfl, rfl⟩ := leafAt_chargeWhenLow hl
  · refine ⟨?_, fun w hw => hw.elim⟩
    rintro w ⟨ha, hw⟩
    by_cases hsoc : 20 ≤ w.node.battery.soc
    · simp only [sem, Action.sync, returns, BatteryOK.tick, if_pos hsoc]
      show A.task p.rest _
      rw [Pos.rest_of_away ha]
      exact h.batteryOk p w hv ha hw hsoc
    · simp only [sem, Action.sync, returns, BatteryOK.tick, if_neg hsoc]
      exact ⟨ha, w, hw, not_le.mp hsoc, rfl⟩
  · constructor
    · rintro w ⟨ha, w₀, hw, hsoc, rfl⟩
      show (A.chargeOutline e p).after _ _ (returns _ (NavigateToPose.onStart e .toCharger) _)
      obtain ⟨heq, hn⟩ | ⟨goal, hg, hr, heq⟩ := NavigateToPose.onStart_cases e
        (w₀.emit (.returned .batteryOK .failure)) .toCharger
      · rw [returns, heq]
        show A.task p.rest _
        rw [Pos.rest_of_away ha]
        exact h.chargerNotReady p w₀ hv ha hw hsoc (hn.resolve_left (by simp [World.goalPort]))
      · obtain rfl := Option.some.inj hg
        rw [returns, heq]
        exact h.chargerStarted p w₀ hv ha hw hsoc hr
    · rintro w ⟨rfl, hw⟩
      have hr := h.charger w _ hw (NavigateToPose.runs w .toCharger)
      show (A.chargeOutline e .charger).after _ _
        (returns _ (NavigateToPose.onRunning .toCharger) w)
      rw [returns]
      generalize NavigateToPose.onRunning .toCharger w = r at hr
      match r, hr with
      | (.running, _), hr => exact hr
      | (.success, _), hr => exact ⟨rfl, hr⟩
      | (.failure, _), hr => exact hr
  · constructor
    · rintro w ⟨rfl, hw⟩
      exact hw
    · rintro w ⟨rfl, hw⟩
      show (A.chargeOutline e .charging).after _ _ (returns _ ChargeBattery.onRunning w)
      obtain ⟨hsoc, heq⟩ | ⟨hsoc, heq⟩ := ChargeBattery.onRunning_cases w
      · rw [returns, heq]
        exact h.charged w hw hsoc
      · rw [returns, heq]
        exact h.charging w hw hsoc

/-- ChargeWhenLow ticked where it stood. -/
theorem Holds.tickCharge (h : A.Holds e) {p : Pos} {w : World} (hv : p.Valid)
    (hw : A.before p w) :
    (A.chargeOutline e p).result (tick (sem e) chargeWhenLow (memOf 0 p.path) w) := by
  have hc := chargeOutline_holds h hv
  match p, hv with
  | .idle, _ => exact Outline.tick_idle rfl hc ⟨trivial, hw⟩
  | .task _, _ => exact Outline.tick_idle rfl hc ⟨trivial, hw⟩
  | .charger, _ =>
    exact Outline.tick_resumed (l := .navigateToPose .toCharger) rfl hc rfl ⟨rfl, hw⟩
  | .charging, _ => exact Outline.tick_resumed (l := .chargeBattery) rfl hc rfl ⟨rfl, hw⟩

/-- How ChargeWhenLow may end its tick. -/
theorem chargeOutline_result {p : Pos} {r : Outcome × World}
    (h : (A.chargeOutline e p).result r) :
    (r.1 = .done false ∧ A.task p.rest r.2) ∨
    ∃ p' : Pos, p'.Valid ∧ (r.1.inChild 0).path? = p'.path ∧ r.1 ≠ .done false ∧
      A.after p' (haltTask e p r.2) := by
  match r, h with
  | (.done true, _), h => exact Or.inr ⟨.idle, trivial, rfl, by simp, h⟩
  | (.done false, _), h => exact Or.inl ⟨rfl, h⟩
  | (.running q, _), h =>
    simp only [chargeOutline, Outline.result] at h
    split at h
    · exact Or.inr ⟨.charger, trivial, rfl, by simp, h⟩
    · exact Or.inr ⟨.charging, trivial, rfl, by simp, h⟩
    · exact h.elim

/-! ### The rule -/

/-- **The tick rule.** -/
theorem Holds.btTick (h : A.Holds e) {s : State} {p : Pos} (hp : s.tree = p.path) (hv : p.Valid)
    (hw : A.before p s.world) :
    ∃ p' : Pos, p'.Valid ∧ (btTickCb e s).tree = p'.path ∧ A.after p' (btTickCb e s).world := by
  have htwo : ∀ j q, p.path = some (.child j q) → j < 2 := by
    intro j q hq
    cases p <;> simp [Pos.path] at hq <;> omega
  have hc := chargeOutline_result (h.tickCharge hv hw)
  rw [btTickCb, hp, robotAgentMain, tick_reactive_pair _ _ _ _ htwo]
  simp only [haltResumed_path]
  generalize tick (sem e) chargeWhenLow (memOf 0 p.path) s.world = r at hc
  obtain ⟨o, w⟩ := r
  obtain ⟨rfl, ht⟩ | ⟨p', hv', hpath, hne, hafter⟩ := hc
  · replace ht := h.tickTask hv ht
    dsimp only
    generalize tick (sem e) taskExecution (memOf 1 p.path) w = r at ht
    obtain ⟨o, w'⟩ := r
    cases o with
    | done b => exact ⟨.idle, trivial, rfl, ht⟩
    | running q =>
      obtain ⟨pt, hv', hq, ht⟩ := ht
      exact ⟨.task pt, hv', by rw [← hq]; rfl, ht⟩
  · refine ⟨p', hv', ?_⟩
    cases o with
    | done b =>
      obtain rfl : b = true := by simpa using hne
      exact ⟨hpath, hafter⟩
    | running q => exact ⟨hpath, hafter⟩

end TickOutline

end RobotAgent
