import WarehouseFleet.RobotAgent.Charging
import WarehouseFleet.RobotAgent.Slots

/-!
# What the FSM says about the tree

The FSM ignores an event that does not fit its state, and the tree goes on. So IDLE may be
published while a node works (`falselyIdle` is how that begins), and a pass of TaskExecution may
end with the FSM somewhere else than in IDLE (`strands`). In runs without such ticks the FSM and
the tree agree: `idle_is_free` and `free_is_idle`.
-/

namespace RobotAgent

open BehaviorTree
open Fms

/-! ## IDLE means free -/

/-- The leaves that move the robot or handle its load. -/
def Leaf.busy : Leaf → Bool
  | .navigateToPose _ => true
  | .requestRecovery _ => true
  | .executePickDrop _ => true
  | _ => false

/-- The tick retries a navigation after a failed recovery, which has taken the FSM to IDLE. -/
def retriesIdle (e : TickEnv) (p : Pos) (w : World) : Bool :=
  chargeYields e p w && match p with
    | .task (.recover leg k) =>
      (w.recov leg).phase = .failed && w.node.fsm = .recovering && k + 1 < 3
    | _ => false

/-- The tick starts a navigation that leaves the FSM in IDLE. -/
def falselyIdle (e : TickEnv) (p : Pos) (w : World) : Bool :=
  startsCharger e p w && w.node.fsm = .idle || retriesIdle e p w

/-- Whenever IDLE is published, no busy node is RUNNING. -/
def IdleIsFree (c : Config) (es : List Event) : Prop :=
  ∀ es₁ now tf es₂, es = es₁ ++ .statusPublish now tf :: es₂ →
    (statusMessage now tf (c.run es₁).world.node).state = RobotStatus.stateIdle →
    ∀ l, l.busy = true → ¬ (c.run es₁).running l

def Pos.busy : Pos → Bool
  | .charger => true
  | .task (.nav _ _) => true
  | .task (.recover _ _) => true
  | .task (.exec _) => true
  | _ => false

theorem Pos.busy_of_leaf {p : Pos} {l : Leaf} (h : p.leaf = some l) (hl : l.busy = true) :
    p.busy = true := by
  match p, h with
  | .charger, _ => rfl
  | .charging, h => cases h; cases hl
  | .task .requestTask, h => cases h; cases hl
  | .task (.nav _ _), _ => rfl
  | .task (.recover _ _), _ => rfl
  | .task (.exec _), _ => rfl
  | .task .report, h => cases h; cases hl

/-- The events that lead to IDLE. -/
def FsmEvent.frees : FsmEvent → Bool
  | .reportSent => true
  | .recoveryFailed => true
  | .batteryFull => true
  | _ => false

theorem process_ne_idle {s : RobotState} (ev : FsmEvent) (hev : ev.frees = false)
    (hs : s ≠ .idle) : (process s ev).1 ≠ .idle := by
  cases s <;> cases ev <;> simp_all [process, transition, FsmEvent.frees]

theorem process_taskReceived (s : RobotState) : (process s .taskReceived).1 ≠ .idle := by
  cases s <;> simp [process, transition]

theorem process_recoveryFailed {s : RobotState} (hs : s ≠ .idle) (hr : s ≠ .recovering) :
    (process s .recoveryFailed).1 ≠ .idle := by
  cases s <;> simp_all [process, transition]

theorem NavigateToPose.Runs.ne_idle {n : NavNode} {w : World} {r : NodeStatus × World}
    (h : NavigateToPose.Runs w n r) (hw : w.node.fsm ≠ .idle) : r.2.node.fsm ≠ .idle := by
  cases h with
  | fault => exact process_ne_idle .faultInjected rfl hw
  | gone => exact hw
  | waiting => exact hw
  | rejected => exact process_ne_idle .navFailed rfl hw
  | reached => exact process_ne_idle .navSucceeded rfl hw
  | missed => exact process_ne_idle .navFailed rfl hw

def BusyNotIdle (p : Pos) (w : World) : Prop := p.busy = true → w.node.fsm ≠ .idle

/-- At the leaves of TaskExecution before ReportStatus the FSM is not in IDLE. -/
def StartNotIdle (pt : Point) (w : World) : Prop := pt ≠ .report → w.node.fsm ≠ .idle

theorem busyNotIdle_post {pt : Point} {r : NodeStatus × World} (h : r.2.node.fsm ≠ .idle) :
    leafPost StartNotIdle BusyNotIdle pt r :=
  leafPost_of (Q := fun w => w.node.fsm ≠ .idle) (fun _ _ _ _ h _ => h) (fun _ _ _ h _ => h) h

theorem busyNotIdle_turn {e : TickEnv} {p₀ : Pos} {w₀ : World}
    (hP : falselyIdle e p₀ w₀ = false) (h : BusyNotIdle p₀ w₀) :
    Turn e p₀ w₀ StartNotIdle BusyNotIdle := by
  have task : ∀ w pt, Yielded e p₀ w₀ w → p₀ = .task pt → p₀.busy = true → w.node.fsm ≠ .idle := by
    rintro w pt hy rfl hb
    rw [hy.node_of_away trivial]
    exact h hb
  obtain ⟨hstart, hretry⟩ := Bool.or_eq_false_iff.mp hP
  constructor
  case chargerStarted =>
    intro ha hsoc hr _
    have hfsm : w₀.node.fsm ≠ .idle := by simpa [startsCharger_of ha hsoc hr] using hstart
    rw [haltTask_fsm]
    exact process_ne_idle .navStarted rfl hfsm
  case chargerRunning =>
    rintro rfl _
    exact h rfl
  case chargerReached => exact fun _ _ _ _ hb => by cases hb
  case charging => exact fun _ _ hb => by cases hb
  case charged => exact fun _ _ hb => by cases hb
  case requestTask =>
    intro w r hy _ hr
    cases hr with
    | waiting => exact fun hb => by cases hb
    | resumed => exact fun _ => process_taskReceived _
    | next => exact fun _ => process_taskReceived _
  case navSent => exact fun _ _ _ _ _ hs _ _ _ => process_ne_idle .navStarted rfl (hs (by simp))
  case navNotSent => exact fun _ _ _ _ hs _ _ => hs (by simp)
  case nav =>
    rintro leg k w r _ hy rfl hr
    exact busyNotIdle_post (hr.ne_idle (task w _ hy rfl rfl))
  case recoverStarted =>
    intro leg k w _ hs _
    have := process_ne_idle .navFailed rfl (hs (by simp))
    simpa [RequestRecovery.onStart] using this
  case recover =>
    rintro leg k w r _ hy rfl hr
    have hw := task w _ hy rfl rfl
    cases hr with
    | waiting => exact busyNotIdle_post hw
    | spun => exact busyNotIdle_post (by simpa using hw)
    | backedUp => exact busyNotIdle_post (by simpa using hw)
    | lost => exact busyNotIdle_post (by simpa using hw)
    | done => exact busyNotIdle_post (process_ne_idle .recoveryDone rfl hw)
    | failed hp =>
      -- RECOVERY_FAILED leads from RECOVERING to IDLE: only the last try may end so
      by_cases hrec : w.node.fsm = .recovering
      · have hk : ¬ k + 1 < 3 := by
          rw [hy.recov] at hp
          rw [hy.node_of_away trivial] at hrec
          simpa [retriesIdle, hy.yields, hp, hrec] using hretry
        show leafReach _ _ (Point.next _ false) _
        rw [Point.next, if_neg hk]
        exact fun hb => by cases hb
      · exact busyNotIdle_post (process_recoveryFailed hw hrec)
  case execStarted => exact fun _ _ hs _ => hs (by simp)
  case exec =>
    rintro leg w r hy rfl hr
    have hw := task w _ hy rfl rfl
    cases hr with
    | waiting => exact busyNotIdle_post hw
    | picked => exact busyNotIdle_post (process_ne_idle .executionDone rfl hw)
    | dropped => exact busyNotIdle_post hw
  case report => exact fun _ _ hb => by cases hb

theorem busyNotIdle_kept : Kept falselyIdle BusyNotIdle where
  btTick e p w _ hP h := ⟨_, busyNotIdle_turn hP h⟩
  taskAssignment msg p w _ h := h
  batteryUpdate now p w _ h := by
    obtain ⟨b, cur, int, heq⟩ := batteryUpdateCb_node now w
    rw [BusyNotIdle, heq]
    exact h
  statusPublish now tf p w _ h := h
  injectFault data p w _ h := by cases data <;> exact h
  goalResponse g accepted p w _ _ h := h
  goalResult g code p w _ _ h := h

/-- **A robot that advertises itself as IDLE is free**, in a run in which no navigation is started
in IDLE. -/
theorem idle_is_free (c : Config) (es : List Event) (h : Never falselyIdle c es) :
    IdleIsFree c es := by
  rintro es₁ now tf es₂ rfl hst l hl hrun
  have hinv := busyNotIdle_kept.run (Run.along_append.mp h).1 (by intro hb; cases hb)
  exact hinv.pos.2.2 (Pos.busy_of_leaf (hinv.running.mp hrun) hl) (RobotState.id_eq_zero_iff.mp hst)

theorem idle_is_free_delivered :
    IdleIsFree Config.sample (.statusPublish 0 none :: deliveredRun ++ [.statusPublish 0 none]) :=
  idle_is_free _ _ (by decide +kernel)

/-- LOW_BATTERY is posted at the dock only: on the way there the FSM stays in IDLE. -/
theorem idle_under_way :
    ¬ IdleIsFree (Config.sampleAt 15) [.btTick (.up 0), .statusPublish 0 none] := fun h =>
  h [.btTick (.up 0)] 0 none [] rfl (by decide +kernel) (.navigateToPose .toCharger) rfl
    (by decide +kernel)

/-! ## Free means IDLE -/

/-- The tick ends a pass, or the way to the charger, with an event that does not lead the FSM to
IDLE: REPORT_SENT, the last RECOVERY_FAILED, or the failure of `NavToCharger` when no task waits. -/
def strands (e : TickEnv) (p : Pos) (w : World) : Bool :=
  chargeYields e p w && match p with
    | .task (.exec .drop) =>
      ExecutePickDrop.elapsed e .drop w && (process w.node.fsm .reportSent).1 ≠ .idle
    | .task (.recover leg k) =>
      (w.recov leg).phase = .failed && k + 1 = 3 && (process w.node.fsm .recoveryFailed).1 ≠ .idle
    | .charger =>
      w.node.interruptedTask.isNone && w.node.pendingTasks.isEmpty && w.node.fsm ≠ .idle
    | _ => false

/-- A robot that waits for a task, or whose tree has finished, is in IDLE. -/
def FreeIsIdle (s : State) : Prop :=
  s.running .requestTask ∨ s.tree = none → s.world.node.fsm = .idle

instance (s : State) : Decidable (FreeIsIdle s) :=
  inferInstanceAs (Decidable (_ ∨ _ → _))

def WaitsIdle (p : Pos) (w : World) : Prop :=
  p = .idle ∨ p = .task .requestTask → w.node.fsm = .idle

/-- REPORT_SENT will lead to IDLE. -/
def StartReport (pt : Point) (w : World) : Prop :=
  pt = .report → (process w.node.fsm .reportSent).1 = .idle

theorem NavigateToPose.Runs.idle {n : NavNode} {w w' : World}
    (h : NavigateToPose.Runs w n (.failure, w')) (hw : w.node.fsm = .idle) :
    w'.node.fsm = .idle := by
  generalize hr : (NodeStatus.failure, w') = r at h
  cases h with
  | waiting => cases hr
  | reached => cases hr
  | _ => cases hr; simp [finish, World.clearFault, onHalted, hw, process, transition]

/-- At a leaf that leads neither to the end of TaskExecution nor to ReportStatus there is nothing
to show. -/
theorem waitsIdle_post {pt : Point} {r : NodeStatus × World} (hpt : pt ≠ .requestTask)
    (hrun : ∀ b, r.1 ≠ .running → ∃ pt', pt.next b = .inl pt' ∧ pt' ≠ .report) :
    leafPost StartReport WaitsIdle pt r := by
  have hreach : ∀ b, r.1 ≠ .running →
      leafReach StartReport WaitsIdle (pt.next b) r.2 := by
    intro b hr
    obtain ⟨pt', hn, hne⟩ := hrun b hr
    rw [hn]
    exact fun h => absurd h hne
  obtain ⟨st, w⟩ := r
  cases st with
  | running =>
    rintro (h | h)
    · cases h
    · exact absurd (Pos.task.inj h) hpt
  | success => exact hreach true (by simp)
  | failure => exact hreach false (by simp)

theorem waitsIdle_turn {e : TickEnv} {p₀ : Pos} {w₀ : World} (hP : strands e p₀ w₀ = false)
    (hco : Coherent p₀ w₀) (h : WaitsIdle p₀ w₀) : Turn e p₀ w₀ StartReport WaitsIdle := by
  constructor
  case chargerStarted => exact fun _ _ _ h => by simp at h
  case chargerRunning => exact fun _ h => by simp at h
  case chargerReached => exact fun _ _ _ _ h => by simp at h
  case charging => exact fun _ _ h => by simp at h
  case charged =>
    rintro rfl _ _
    show (process w₀.node.fsm .batteryFull).1 = .idle
    rw [hco.fsm]
    rfl
  case requestTask =>
    intro w r hy hp hr
    cases hr with
    | waiting hi hpend =>
      intro _
      show w.node.fsm = .idle
      by_cases ha : p₀.away
      · rw [hy.node_of_away ha]
        exact h (hp.imp_left fun hr => (Pos.rest_of_away ha).symm.trans hr)
      · rw [hy.slots.interrupted] at hi
        rw [hy.slots.pending] at hpend
        have hyields := hy.yields
        cases hy with
        | batteryOk _ _ ha' => exact absurd ha' ha
        | notReady _ _ ha' => exact absurd ha' ha
        | charger _ _ hr => exact hr.idle (by simpa [strands, hyields, hi, hpend] using hP)
    | resumed => exact fun h => by cases h
    | next => exact fun h => by cases h
  case navSent => exact fun _ _ _ _ _ _ _ _ h => by simp at h
  case navNotSent => exact fun _ _ _ _ _ _ h => by cases h
  case nav =>
    rintro leg k w r _ _ _ hr
    refine waitsIdle_post (by simp) fun b _ => ?_
    cases b <;> exact ⟨_, rfl, by simp⟩
  case recoverStarted => exact fun _ _ _ _ _ h => by simp at h
  case recover =>
    rintro leg k w r hk hy rfl hr
    cases hr with
    | failed hp =>
      show leafReach _ _ (Point.next _ false) _
      rw [Point.next]
      split
      · exact fun h => by cases h
      · next hk =>
        intro _
        have hk : k + 1 = 3 := by omega
        show (process w.node.fsm .recoveryFailed).1 = .idle
        rw [hy.recov] at hp
        rw [hy.node_of_away trivial]
        simpa [strands, hy.yields, hp, hk] using hP
    | done => exact fun h => by cases h
    | _ => exact waitsIdle_post (by simp) fun _ h => absurd rfl h
  case execStarted => exact fun _ _ _ h => by simp at h
  case exec =>
    rintro leg w r hy rfl hr
    cases hr with
    | waiting => exact waitsIdle_post (by simp) fun _ h => absurd rfl h
    | picked hl => subst hl; exact fun h => by cases h
    | dropped hl he =>
      subst hl
      intro _
      show (process w.node.fsm .reportSent).1 = .idle
      rw [ExecutePickDrop.elapsed, hy.exec, ← ExecutePickDrop.elapsed] at he
      rw [hy.node_of_away trivial]
      simpa [strands, hy.yields, he] using hP
  case report => exact fun _ hs _ => hs rfl

theorem waitsIdle_kept : Kept strands fun p w => Coherent p w ∧ WaitsIdle p w where
  btTick e p w _ hP h :=
    ⟨_, ((coherent_turn h.1).mono fun _ _ h => h.1).and (waitsIdle_turn hP h.1 h.2)⟩
  taskAssignment msg p w hv h := ⟨coherent_kept.taskAssignment msg p w hv h.1, h.2⟩
  batteryUpdate now p w hv h := by
    refine ⟨coherent_kept.batteryUpdate now p w hv h.1, ?_⟩
    obtain ⟨b, cur, int, heq⟩ := batteryUpdateCb_node now w
    rw [WaitsIdle, heq]
    exact h.2
  statusPublish now tf p w hv h := ⟨coherent_kept.statusPublish now tf p w hv h.1, h.2⟩
  injectFault data p w hv h :=
    ⟨coherent_kept.injectFault data p w hv h.1, by cases data <;> exact h.2⟩
  goalResponse g accepted p w hv hg h :=
    ⟨coherent_kept.goalResponse g accepted p w hv hg h.1, h.2⟩
  goalResult g code p w hv hg h := ⟨coherent_kept.goalResult g code p w hv hg h.1, h.2⟩

/-- **A robot with nothing to do is IDLE**, in a run in which every pass ends with an event that
leads there. -/
theorem free_is_idle (c : Config) (es : List Event) (h : Never strands c es) :
    FreeIsIdle (c.run es) := by
  have hinv := waitsIdle_kept.run h
    ⟨⟨by simp [RobotState.Quiet, Config.init], rfl⟩, fun _ => rfl⟩
  obtain ⟨hv, hp, -, hw⟩ := hinv.pos
  rintro (hrun | hnone)
  · exact hw (Or.inr (Pos.eq_of_leaf_requestTask (hinv.running.mp hrun)))
  · exact hw (Or.inl (Pos.path_injective (hp.symm.trans hnone)))

theorem free_is_idle_delivered : FreeIsIdle (Config.sample.run deliveredRun) :=
  free_is_idle _ _ (by decide +kernel)

/-- RECOVERY_DONE leads to ASSIGNED, and the drop goes on from there: REPORT_SENT is ignored, and
`RequestTask` waits for a task that the server will not send. -/
theorem stranded_in_assigned :
    ¬ FreeIsIdle (Config.sample.run (recoveredRun ++ [.btTick (.up 12)])) := by
  decide +kernel

end RobotAgent
