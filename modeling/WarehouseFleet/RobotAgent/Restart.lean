import WarehouseFleet.RobotAgent.Lifecycle
import WarehouseFleet.RobotAgent.MotionFlag

/-!
# What a restart leaves behind

None of the lifecycle callbacks writes `fsm_`, `is_moving_`, `is_charging_` or `fault_injected_`
(`restarted`). An engine that halts the RUNNING node in `~Tree` clears the two motion flags through
that node (`Held`); the FSM and the fault stay what they were when the node was deactivated, though
the new tree starts from the beginning. PHASE2_PLAN.md (:541) has `on_cleanup` reset the FSM.
-/

namespace RobotAgent

open BehaviorTree
open Fms

/-! ## Flags that the RUNNING node clears -/

structure Clear (w : World) : Prop where
  isMoving : w.node.isMoving = false
  isCharging : w.node.isCharging = false

/-- The node that is to clear a flag is RUNNING. -/
structure Held (p : Pos) (w : World) : Prop where
  moving : w.node.isMoving = true → p.nav?.isSome
  sent : ∀ n, p.nav? = some n → w.nav n ≠ none
  charging : w.node.isCharging = true → p = .charging

theorem held_of_clear {p : Pos} {w : World} (hp : p.nav? = none) (h : Clear w) : Held p w where
  moving hm := absurd (h.isMoving.symm.trans hm) (by decide)
  sent n hn := by simp [hp] at hn
  charging hc := absurd (h.isCharging.symm.trans hc) (by decide)

theorem Held.clear {p : Pos} {w : World} (h : Held p w) (hp : p.nav? = none)
    (hc : p ≠ .charging) : Clear w where
  isMoving := Bool.eq_false_iff.mpr fun hm => by simpa [hp] using h.moving hm
  isCharging := Bool.eq_false_iff.mpr fun hch => hc (h.charging hch)

theorem Held.emit {p : Pos} {w : World} (h : Held p w) (o : Obs) : Held p (w.emit o) :=
  ⟨h.moving, h.sent, h.charging⟩

section
variable {e : TickEnv} {p : Pos} {w w' : World} {r : NodeStatus × World} {leg : Leg}

theorem Clear.of_eq (h : Clear w) (hm : w'.node.isMoving = w.node.isMoving)
    (hc : w'.node.isCharging = w.node.isCharging) : Clear w' :=
  ⟨hm.trans h.isMoving, hc.trans h.isCharging⟩

theorem NavigateToPose.Runs.isCharging {n : NavNode} (h : NavigateToPose.Runs w n r) :
    r.2.node.isCharging = w.node.isCharging := by cases h <;> rfl

theorem RequestTask.Runs.isCharging (h : RequestTask.Runs e w r) :
    r.2.node.isCharging = w.node.isCharging := by cases h <;> rfl

theorem RequestRecovery.Runs.isCharging (h : RequestRecovery.Runs e w leg r) :
    r.2.node.isCharging = w.node.isCharging := by
  cases h with
  | spun => simp
  | lost => simp
  | _ => rfl

theorem ExecutePickDrop.Runs.isCharging (h : ExecutePickDrop.Runs e w leg r) :
    r.2.node.isCharging = w.node.isCharging := by cases h <;> rfl

/-- A navigation that ends clears `is_moving_`. -/
theorem Held.navEnds {n : NavNode} (h : Held p w) (hp : p.nav? = some n)
    (hr : NavigateToPose.Runs w n r) (hend : r.1 ≠ .running) : Clear r.2 where
  isMoving := hr.stops (h.sent n hp) hend
  isCharging := Bool.eq_false_iff.mpr fun hc => by
    rw [h.charging (hr.isCharging.symm.trans hc)] at hp
    cases hp

theorem Held.yielded (h : Held p w) (hy : Yielded e p w w') : Held p.rest w' := by
  cases hy with
  | batteryOk _ _ ha => rw [Pos.rest_of_away ha]; exact h.emit _
  | notReady _ _ ha => rw [Pos.rest_of_away ha]; exact (h.emit _).emit _
  | charger _ w' hr =>
    have hend := h.navEnds rfl hr (by simp)
    exact held_of_clear rfl ⟨hend.isMoving, hend.isCharging⟩

theorem Pos.rest_ne_charging (p : Pos) : p.rest ≠ .charging := by cases p <;> simp [Pos.rest]

theorem held_post {pt : Point} (hpt : (Pos.task pt).nav? = none) (h : Clear r.2) :
    leafPost (fun _ => Clear) Held pt r :=
  leafPost_at (fun _ _ _ _ h => h) (fun _ => held_of_clear rfl) (fun _ => held_of_clear hpt) h

theorem held_turn {p₀ : Pos} {w₀ : World} (h : Held p₀ w₀) :
    Turn e p₀ w₀ (fun _ => Clear) Held := by
  -- TaskExecution goes on at a leaf that is no navigation
  have clear : ∀ {w}, Yielded e p₀ w₀ w → p₀.rest.nav? = none → Clear w := fun hy hnone =>
    (h.yielded hy).clear hnone p₀.rest_ne_charging
  constructor
  case chargerStarted =>
    intro ha _ _
    refine ⟨fun _ => rfl, fun n hn => ?_, fun hc => ?_⟩
    · obtain rfl : NavNode.toCharger = n := Option.some.inj hn
      rw [haltTask_toCharger]
      simp
    · rw [haltTask_isCharging] at hc
      obtain rfl := h.charging hc
      exact ha.elim
  case chargerRunning =>
    rintro rfl
    exact h.emit _
  case chargerReached =>
    intro _ _ _ _
    exact ⟨fun hm => absurd hm Bool.false_ne_true, fun _ hn => (nomatch hn), fun _ => rfl⟩
  case charging =>
    rintro rfl _
    exact h.emit _
  case charged =>
    rintro rfl _
    exact held_of_clear rfl ⟨Bool.eq_false_iff.mpr fun hm => absurd (h.moving hm) (by decide), rfl⟩
  case requestTask =>
    intro w r hy hp hr
    have hrest : p₀.rest.nav? = none := by
      obtain hp | rfl := hp
      · rw [hp]; rfl
      · rfl
    exact held_post rfl ((clear hy hrest).of_eq hr.isMoving hr.isCharging)
  case navSent =>
    intro leg k w goal _ hs _ _
    refine ⟨fun _ => rfl, fun n hn => ?_, fun hc => ?_⟩
    · obtain rfl : NavNode.to leg = n := Option.some.inj hn
      simp
    · exact absurd (hs.isCharging.symm.trans hc) (by decide)
  case navNotSent => exact fun _ _ _ _ hs _ => ⟨hs.isMoving, hs.isCharging⟩
  case nav =>
    rintro leg k w r _ hy rfl hr
    have hw := h.yielded hy
    by_cases hrun : r.1 = .running
    · obtain ⟨st, w'⟩ := r
      obtain rfl : w' = w := hr.eq_of_running hrun
      obtain rfl : st = .running := hrun
      exact hw.emit _
    · have hend := hw.navEnds rfl hr hrun
      obtain ⟨st, w'⟩ := r
      cases st with
      | running => exact absurd rfl hrun
      | success => exact ⟨hend.isMoving, hend.isCharging⟩
      | failure => exact ⟨hend.isMoving, hend.isCharging⟩
  case recoverStarted =>
    intro leg k w _ hs
    exact held_of_clear rfl
      (hs.of_eq (by simp [RequestRecovery.onStart]) (by simp [RequestRecovery.onStart]))
  case recover =>
    rintro leg k w r _ hy rfl hr
    exact held_post rfl ((clear hy rfl).of_eq hr.isMoving hr.isCharging)
  case execStarted => exact fun _ _ hs => held_of_clear rfl ⟨hs.isMoving, hs.isCharging⟩
  case exec =>
    rintro leg w r hy rfl hr
    exact held_post rfl ((clear hy rfl).of_eq hr.isMoving hr.isCharging)
  case report => exact fun _ hs => held_of_clear rfl ⟨hs.isMoving, hs.isCharging⟩

end

theorem held_kept : Kept (fun _ _ _ => false) Held where
  btTick e p w _ _ h := ⟨_, held_turn h⟩
  taskAssignment msg p w _ h := ⟨h.moving, h.sent, h.charging⟩
  batteryUpdate now p w _ h := by
    obtain ⟨b, cur, int, heq⟩ := batteryUpdateCb_node now w
    exact ⟨by rw [heq]; exact h.moving, h.sent, by rw [heq]; exact h.charging⟩
  statusPublish now tf p w _ h := h.emit _
  injectFault data p w _ h := by cases data <;> exact ⟨h.moving, h.sent, h.charging⟩
  goalResponse g accepted p w _ _ h :=
    ⟨h.moving, fun n hn => by simpa [goalResponse] using h.sent n hn, h.charging⟩
  goalResult g code p w _ _ h :=
    ⟨h.moving, fun n hn => by simpa [goalResult] using h.sent n hn, h.charging⟩

/-! ## `~Tree` -/

/-- The node that is RUNNING is halted. -/
theorem haltTree_path (p : Pos) (w : World) : haltTree p.path w = match p.leaf with
    | none => w
    | some l => (sem (.down 0) l).onHalted w := by
  match p with
  | .idle => rfl
  | .charger => rfl
  | .charging => rfl
  | .task .requestTask => rfl
  | .task (.nav .pick _) => rfl
  | .task (.nav .drop _) => rfl
  | .task (.recover .pick _) => rfl
  | .task (.recover .drop _) => rfl
  | .task (.exec .pick) => rfl
  | .task (.exec .drop) => rfl
  | .task .report => rfl

theorem haltTree_node (p : Pos) (w : World) : ∃ moving charging,
    (haltTree p.path w).node = { w.node with isMoving := moving, isCharging := charging } := by
  rw [haltTree_path]
  match p with
  | .idle => exact ⟨_, _, rfl⟩
  | .charger => exact ⟨_, _, rfl⟩
  | .charging => exact ⟨_, _, rfl⟩
  | .task pt =>
    obtain ⟨moving, hnode⟩ := haltTask_node (.down 0) (.task pt) w
    exact ⟨moving, _, hnode⟩

theorem Held.haltTree {p : Pos} {w : World} (h : Held p w) : Clear (haltTree p.path w) := by
  have away : p ≠ .charging → w.node.isCharging = false := fun hp =>
    Bool.eq_false_iff.mpr fun hc => hp (h.charging hc)
  rw [haltTree_path]
  match p with
  | .idle => exact h.clear rfl (by simp)
  | .charger => exact ⟨rfl, away (by simp)⟩
  | .charging => exact ⟨Bool.eq_false_iff.mpr fun hm => absurd (h.moving hm) (by decide), rfl⟩
  | .task (.nav leg k) => exact ⟨rfl, away (by simp)⟩
  | .task .requestTask => exact (h.clear rfl (by simp)).of_eq rfl rfl
  | .task (.recover _ _) => exact (h.clear rfl (by simp)).of_eq rfl rfl
  | .task (.exec _) => exact (h.clear rfl (by simp)).of_eq rfl rfl
  | .task .report => exact h.clear rfl (by simp)

/-! ## A restart -/

/-- What the lifecycle callbacks leave as it is. -/
structure Flags where
  fsm : RobotState
  isMoving : Bool
  isCharging : Bool
  faultInjected : Bool
deriving DecidableEq, Repr

def RobotAgentNode.flags (node : RobotAgentNode) : Flags :=
  ⟨node.fsm, node.isMoving, node.isCharging, node.faultInjected⟩

/-- The call sets `fault_injected_`. -/
def Event.setsFault : Event → Bool
  | .injectFault data => data
  | _ => false

namespace Lifecycle

variable {halts : Bool} {s s' : Lifecycle} {es : List Event}

/-- The four transitions, with what else happens in between. -/
def restart (es₁ es₂ es₃ : List Event) (c : Config) (now : Time) : List LifecycleEvent :=
  .deactivate :: es₁.map .callback ++ .cleanup :: es₂.map .callback ++
    .configure c true :: es₃.map .callback ++ [.activate now]

/-- The FSM and the flags agree with a tree in which no node is RUNNING. -/
structure Consistent (s : Lifecycle) : Prop where
  active : s.primary = .active
  tree : s.agent.tree = none
  flags : s.agent.world.node.flags = ⟨.idle, false, false, false⟩

/-- While the node is not active, its callbacks came to `es`. -/
structure Waited (s s' : Lifecycle) (es : List Event) : Prop where
  primary : s'.primary = s.primary
  faultSrv : s'.faultSrv = true
  tree : s'.agent.tree = s.agent.tree
  flags : s'.agent.world.node.flags = { s.agent.world.node.flags with
    faultInjected := s.agent.world.node.flags.faultInjected || es.any Event.setsFault }

theorem waited_nil (h : s.faultSrv = true) : Waited s s [] :=
  ⟨rfl, h, rfl, by simp [RobotAgentNode.flags]⟩

theorem Waited.keep (h : Waited s s' es) {ev : Event} (hev : ev.setsFault = false) {agent : State}
    (htree : agent.tree = s'.agent.tree)
    (hflags : agent.world.node.flags = s'.agent.world.node.flags) :
    Waited s { s' with agent } (es ++ [ev]) :=
  ⟨h.primary, h.faultSrv, htree.trans h.tree, hflags.trans (by simp [h.flags, hev])⟩

theorem Waited.step (halts : Bool) (h : Waited s s' es) (hs : s.primary ≠ .active) (ev : Event) :
    Waited s (step halts s' (.callback ev)) (es ++ [ev]) := by
  have idle : ∀ ev, s'.enabled ev = decide (s'.primary = .active) → s'.enabled ev = false :=
    fun ev hev => by simp [hev, h.primary, hs]
  rw [Lifecycle.step]
  cases ev with
  | injectFault data =>
    rw [if_pos (show s'.enabled (.injectFault data) = true from h.faultSrv)]
    refine ⟨h.primary, h.faultSrv, h.tree, ?_⟩
    have hflags := h.flags
    simp only [RobotAgentNode.flags, Flags.mk.injEq] at hflags
    cases data <;>
      simp [RobotAgent.step, faultServiceCb, RobotAgentNode.flags, hflags, Event.setsFault]
  | btTick e => rw [idle _ rfl]; exact h.keep rfl rfl rfl
  | batteryUpdate now => rw [idle _ rfl]; exact h.keep rfl rfl rfl
  | statusPublish now tf => rw [idle _ rfl]; exact h.keep rfl rfl rfl
  | taskAssignment msg =>
    split
    · exact h.keep rfl rfl rfl
    · exact h.keep rfl rfl rfl
  | goalResponse g accepted =>
    split
    · rw [RobotAgent.step]
      split <;> exact h.keep rfl rfl rfl
    · exact h.keep rfl rfl rfl
  | goalResult g code =>
    split
    · rw [RobotAgent.step]
      split <;> exact h.keep rfl rfl rfl
    · exact h.keep rfl rfl rfl

def wait (halts : Bool) (es : List Event) (s : Lifecycle) : Lifecycle :=
  Run.run (step halts) s (es.map .callback)

theorem waited_wait (halts : Bool) (s : Lifecycle) (h : s.faultSrv = true)
    (hs : s.primary ≠ .active) (es : List Event) : Waited s (wait halts es s) es := by
  induction es using List.reverseRecOn with
  | nil => exact waited_nil h
  | append_singleton es ev ih =>
    rw [wait, List.map_append, Run.run_append]
    exact ih.step halts hs ev

theorem held_step (h : s.agent.Inv Held) (ev : LifecycleEvent) :
    (step true s ev).agent.Inv Held := by
  obtain ⟨p, hv, hp, hI⟩ := h
  cases ev with
  | configure c loads =>
    rw [step]
    split
    · cases loads <;> exact ⟨p, hv, hp, hI.moving, hI.sent, hI.charging⟩
    · exact ⟨p, hv, hp, hI⟩
  | activate now =>
    rw [step]
    split
    · exact ⟨p, hv, hp, hI.moving, hI.sent, hI.charging⟩
    · exact ⟨p, hv, hp, hI⟩
  | deactivate =>
    rw [step]
    split <;> exact ⟨p, hv, hp, hI⟩
  | cleanup =>
    rw [step]
    split
    · have hclear := hI.haltTree
      rw [← hp] at hclear
      exact ⟨.idle, trivial, rfl, held_of_clear rfl ⟨hclear.isMoving, hclear.isCharging⟩⟩
    · exact ⟨p, hv, hp, hI⟩
  | callback ev =>
    rw [step]
    split
    · exact held_kept.step ⟨p, hv, hp, hI⟩ (by cases ev <;> rfl)
    · exact ⟨p, hv, hp, hI⟩

theorem held_run (h : s.agent.Inv Held) (es : List LifecycleEvent) :
    (Run.run (step true) s es).agent.Inv Held :=
  Run.run_invariant (I := fun s : Lifecycle => s.agent.Inv Held) (fun _ ev h => held_step h ev) h

theorem held_constructed : constructed.agent.Inv Held :=
  ⟨.idle, trivial, rfl, held_of_clear rfl ⟨rfl, rfl⟩⟩

theorem onCleanup_flags (h : halts = true → s.agent.Inv Held) :
    (onCleanup halts s).agent.world.node.flags =
      { s.agent.world.node.flags with
        isMoving := !halts && s.agent.world.node.flags.isMoving
        isCharging := !halts && s.agent.world.node.flags.isCharging } := by
  cases halts with
  | false => rfl
  | true =>
    obtain ⟨p, -, hp, hI⟩ := h rfl
    have hclear := hI.haltTree
    obtain ⟨moving, charging, hnode⟩ := haltTree_node p s.agent.world
    show (haltTree s.agent.tree s.agent.world).node.flags = _
    rw [← hp] at hclear hnode
    have hm := hclear.isMoving
    have hc := hclear.isCharging
    rw [hnode] at hm hc ⊢
    simp only [RobotAgentNode.flags] at hm hc ⊢
    simp [hm, hc]

/-- The four callbacks keep the FSM state and the fault; `~Tree` may clear the motion flags. -/
theorem restarted (hs : s.primary = .active) (hsrv : s.faultSrv = true)
    (hheld : halts = true → s.agent.Inv Held) (es₁ es₂ es₃ : List Event) (c : Config) (now : Time) :
    ∃ s', Run.run (step halts) s (restart es₁ es₂ es₃ c now) = s' ∧
      s'.primary = .active ∧ s'.agent.tree = none ∧ s'.agent.world.node.flags =
        { fsm := s.agent.world.node.fsm
          isMoving := !halts && s.agent.world.node.isMoving
          isCharging := !halts && s.agent.world.node.isCharging
          faultInjected := s.agent.world.node.faultInjected ||
            (es₁ ++ es₂ ++ es₃).any Event.setsFault } := by
  have hdeactivate : step halts s .deactivate = onDeactivate s := if_pos hs
  have hw₁ : Waited (onDeactivate s) (wait halts es₁ (onDeactivate s)) es₁ :=
    waited_wait halts (onDeactivate s) hsrv (by simp [onDeactivate]) es₁
  have hheld₁ : halts = true → (wait halts es₁ (onDeactivate s)).agent.Inv Held := by
    rintro rfl
    exact held_run (s := onDeactivate s) (hheld rfl) _
  obtain ⟨s₁, hs₁⟩ : ∃ s₁, wait halts es₁ (onDeactivate s) = s₁ := ⟨_, rfl⟩
  rw [hs₁] at hw₁ hheld₁
  have hcleanup : step halts s₁ .cleanup = onCleanup halts s₁ := if_pos hw₁.primary
  have hflags₁ := onCleanup_flags hheld₁
  have hw₂ : Waited (onCleanup halts s₁) (wait halts es₂ (onCleanup halts s₁)) es₂ :=
    waited_wait halts (onCleanup halts s₁) hw₁.faultSrv (by simp [onCleanup]) es₂
  obtain ⟨s₂, hs₂⟩ : ∃ s₂, wait halts es₂ (onCleanup halts s₁) = s₂ := ⟨_, rfl⟩
  rw [hs₂] at hw₂
  have hconfigure : step halts s₂ (.configure c true) = onConfigure c true s₂ :=
    if_pos hw₂.primary
  have hw₃ : Waited (onConfigure c true s₂) (wait halts es₃ (onConfigure c true s₂)) es₃ :=
    waited_wait halts (onConfigure c true s₂) rfl (by simp [onConfigure]) es₃
  obtain ⟨s₃, hs₃⟩ : ∃ s₃, wait halts es₃ (onConfigure c true s₂) = s₃ := ⟨_, rfl⟩
  rw [hs₃] at hw₃
  have hactivate : step halts s₃ (.activate now) = onActivate now s₃ := if_pos hw₃.primary
  refine ⟨onActivate now s₃, ?_, rfl, hw₃.tree.trans hw₂.tree, ?_⟩
  · rw [← hactivate, ← hs₃, ← hconfigure, ← hs₂, ← hcleanup, ← hs₁, ← hdeactivate, restart,
      Run.run_append, Run.run_append, Run.run_append]
    rfl
  · have hflags₃ : (onActivate now s₃).agent.world.node.flags = s₃.agent.world.node.flags := rfl
    have hflags₂ : (onConfigure c true s₂).agent.world.node.flags = s₂.agent.world.node.flags := rfl
    rw [hflags₃, hw₃.flags, hflags₂, hw₂.flags, hflags₁, hw₁.flags]
    simp [RobotAgentNode.flags, onDeactivate, Bool.or_assoc]

/-- A node that is or was configured has its service. -/
theorem faultSrv_run (es : List LifecycleEvent) :
    (run halts es).primary ≠ .unconfigured → (run halts es).faultSrv = true := by
  refine Run.run_invariant
    (I := fun s : Lifecycle => s.primary ≠ .unconfigured → s.faultSrv = true) ?_
    (fun h => absurd rfl h)
  intro s ev h
  cases ev with
  | configure c loads =>
    rw [step]
    split
    · exact fun _ => rfl
    · exact h
  | activate now | deactivate =>
    rw [step]
    split
    · next hs => exact fun _ => h (by simp [hs])
    · exact h
  | cleanup =>
    rw [step]
    split
    · exact fun hne => absurd rfl hne
    · exact h
  | callback ev =>
    rw [step]
    split <;> exact h

/-- Nothing is left that a restart would have to reset. -/
def AtRest (halts : Bool) (node : RobotAgentNode) : Prop :=
  node.fsm = .idle ∧ node.faultInjected = false ∧
    (halts = true ∨ node.isMoving = false ∧ node.isCharging = false)

/-- **A restart gives a consistent agent** exactly when the FSM was IDLE and no fault was pending
when the node was deactivated, and none is injected until it is active again. -/
theorem lifecycle_restart (halts : Bool) (es : List LifecycleEvent) (es₁ es₂ es₃ : List Event)
    (c : Config) (now : Time) (h : (run halts es).primary = .active) :
    Consistent (run halts (es ++ restart es₁ es₂ es₃ c now)) ↔
      AtRest halts (run halts es).agent.world.node ∧
        ∀ ev ∈ es₁ ++ es₂ ++ es₃, ev.setsFault = false := by
  have hsrv : (run halts es).faultSrv = true := faultSrv_run es (by simp [h])
  have hheld : halts = true → (run halts es).agent.Inv Held := by
    rintro rfl
    exact held_run held_constructed es
  obtain ⟨s', hs', hactive, htree, hflags⟩ := restarted h hsrv hheld es₁ es₂ es₃ c now
  have hrun : run halts (es ++ restart es₁ es₂ es₃ c now) = s' := by
    rw [run, Run.run_append]
    exact hs'
  have hiff : Consistent s' ↔ s'.agent.world.node.flags = ⟨.idle, false, false, false⟩ :=
    ⟨Consistent.flags, fun hf => ⟨hactive, htree, hf⟩⟩
  rw [hrun, hiff, hflags, Flags.mk.injEq, Bool.or_eq_false_iff, List.any_eq_false, AtRest]
  cases halts <;> simp only [Bool.not_eq_true] <;> grind

/-- A robot that waits for a task is restarted. -/
theorem lifecycle_restart_idle : Consistent (run true
    ([.configure .sample true, .activate 0, .callback (.btTick (.up 1))] ++
      restart [] [.injectFault false] [] .sample 2)) :=
  (lifecycle_restart true _ [] [.injectFault false] [] .sample 2 (by decide +kernel)).mpr
    ⟨⟨by decide +kernel, by decide +kernel, .inl rfl⟩, by decide⟩

/-- The robot is deactivated, and restarted, on its way to the pick. -/
def drivingRun : List LifecycleEvent :=
  [ .configure .sample true
  , .activate 0
  , .callback (.taskAssignment (sampleTask "a" (poseAt 1 0) (poseAt 0 1)))
  , .callback (.btTick (.up 1)) ]

theorem stale_after_restart :
    ((run true drivingRun).primary = .active ∧
      ¬ Consistent (run true (drivingRun ++ restart [] [] [] .sample 2))) ∧
    ((run false drivingRun).primary = .active ∧
      ¬ Consistent (run false (drivingRun ++ restart [] [] [] .sample 2))) := by
  refine ⟨⟨by decide +kernel, fun h => ?_⟩, ⟨by decide +kernel, fun h => ?_⟩⟩
  · exact absurd (congrArg Flags.fsm h.flags) (by decide +kernel)
  · exact absurd (congrArg Flags.fsm h.flags) (by decide +kernel)

end Lifecycle

end RobotAgent
