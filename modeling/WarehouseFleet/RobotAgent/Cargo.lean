import WarehouseFleet.BehaviorTree.Simulation
import WarehouseFleet.RobotAgent.Agent

/-!
# What a task carries along

The type, the payload, the priority and the deadline of a task travel with it, and no callback of
the agent reads them. `bare` is a task, a world, a run without these four: an agent that gets bare
tasks does what it does with the full ones, so they decide nothing.
-/

namespace Fms

/-- The assignment without its type, payload, priority and deadline. -/
def TaskAssignment.bare (a : TaskAssignment) : TaskAssignment :=
  { a with taskType := 0, payloadId := "", priority := 0, deadlineSecs := 0 }

end Fms

namespace RobotAgent

open BehaviorTree
open Fms

def Delivery.bare (d : Delivery) : Delivery := { d with msg := d.msg.bare }

def Obs.bare : Obs → Obs
  | .received d => .received d.bare
  | .dequeued d => .dequeued d.bare
  | .completion d msg => .completion (d.map Delivery.bare) msg
  | o => o

def RobotAgentNode.bare (node : RobotAgentNode) : RobotAgentNode :=
  { node with
    pendingTasks := node.pendingTasks.map Delivery.bare
    currentTask := node.currentTask.map Delivery.bare
    interruptedTask := node.interruptedTask.map Delivery.bare }

def World.bare (w : World) : World :=
  { w with node := w.node.bare, trace := w.trace.map Obs.bare }

def State.bare (s : State) : State := { s with world := s.world.bare }

def Event.bare : Event → Event
  | .taskAssignment msg => .taskAssignment msg.bare
  | ev => ev

/-! ## The leaves -/

section
variable (e : TickEnv) (w : World)

@[simp] theorem bare_nav : w.bare.nav = w.nav := rfl
@[simp] theorem bare_recov : w.bare.recov = w.recov := rfl

theorem bare_emit (o : Obs) : (w.emit o).bare = w.bare.emit o.bare := by
  simp [World.bare, World.emit]

theorem bare_post (l : Leaf) (ev : FsmEvent) : (w.post l ev).bare = w.bare.post l ev :=
  bare_emit _ _

/-- What a leaf does to a bare world is what it does to the full one, without the cargo. -/
def Blind (f : World → NodeStatus × World) : Prop :=
  ∀ w, f w.bare = Prod.map id World.bare (f w)

theorem Blind.returns {f : World → NodeStatus × World} (h : Blind f) (l : Leaf) :
    Blind (returns l f) := by
  intro w
  simp only [RobotAgent.returns, h w, Prod.map_apply, Prod.map_fst, Prod.map_snd, id_eq, bare_emit]
  rfl

theorem halted_bare {g : World → World} (h : ∀ w, (g w).bare = g w.bare) (l : Leaf) (w : World) :
    haltOnly l (g w.bare) = (haltOnly l (g w)).bare := by
  rw [haltOnly, haltOnly, bare_emit, h]
  rfl

theorem BatteryOK.blind (threshold : ℚ) : Blind (tick threshold) := fun _ => rfl

namespace ChargeBattery

theorem bare_onHalted : (onHalted w).bare = onHalted w.bare := rfl

theorem blind_onStart : Blind onStart := by
  intro w
  simp only [onStart, Prod.map_apply, id_eq, bare_post]
  rfl

theorem blind_onRunning : Blind onRunning := by
  intro w
  have hbattery : w.bare.node.battery = w.node.battery := rfl
  unfold onRunning
  rw [hbattery]
  split
  · simp only [Prod.map_apply, id_eq, bare_post]
    rfl
  · rfl

end ChargeBattery

namespace NavigateToPose

variable (n : NavNode)

theorem bare_send (goal : PoseStamped) : (send e n goal w).bare = send e n goal w.bare := by
  simp [send, World.bare, World.post, World.emit, RobotAgentNode.bare, Obs.bare]

theorem bare_finish (ev : FsmEvent) : (finish n ev w).bare = finish n ev w.bare :=
  bare_post _ _ _

theorem bare_onHalted : (onHalted n w).bare = onHalted n w.bare := by
  simp [onHalted, World.bare, RobotAgentNode.bare, Obs.bare]

theorem blind_onStart : Blind (onStart e n) := by
  intro w
  have hgoal : w.bare.goalPort n = w.goalPort n := by rcases n with _ | _ | _ <;> rfl
  rw [onStart, onStart, hgoal]
  cases w.goalPort n with
  | none => rfl
  | some goal =>
    by_cases hready : e.navReady n
    · simp [hready, bare_send]
    · simp [hready]

theorem blind_onRunning : Blind (onRunning n) := by
  intro w
  have hfault : w.bare.node.faultInjected = w.node.faultInjected := rfl
  have hclear : w.bare.clearFault = w.clearFault.bare := rfl
  unfold onRunning
  rw [hfault, hclear, bare_nav]
  split
  · simp only [Prod.map_apply, id_eq, bare_post, bare_onHalted]
  · split
    · rfl
    · split_ifs
      all_goals simp only [Prod.map_apply, id_eq, bare_finish]

end NavigateToPose

namespace RequestRecovery

variable (leg : Leg) (r : RequestRecovery)

theorem bare_set : (set leg r w).bare = set leg r w.bare := rfl

theorem bare_startSpin : (startSpin e leg w).bare = startSpin e leg w.bare := by
  unfold startSpin
  split
  · exact bare_emit _ _
  · rfl

theorem bare_startBackup : (startBackup e leg w).bare = startBackup e leg w.bare := by
  unfold startBackup
  split
  · exact bare_emit _ _
  · rfl

theorem bare_attemptFailed (maxAttempts : Int) :
    (attemptFailed e leg maxAttempts w).bare = attemptFailed e leg maxAttempts w.bare := by
  unfold attemptFailed
  rw [bare_recov]
  by_cases h : maxAttempts ≤ (w.recov leg).attempt + 1
  · simp only [if_pos h, bare_set]
  · simp only [if_neg h, bare_startSpin, bare_set]

theorem blind_onStart : Blind (onStart e leg) := by
  intro w
  simp only [onStart, Prod.map_apply, id_eq, bare_startSpin, bare_post, bare_set, bare_recov]

theorem bare_onHalted : (onHalted leg w).bare = onHalted leg w.bare := rfl

theorem blind_onRunning (maxAttempts : Int) : Blind (onRunning e leg maxAttempts) := by
  intro w
  simp only [onRunning, bare_recov]
  split
  · split
    · rfl
    · split_ifs
      all_goals simp only [Prod.map_apply, id_eq, bare_startBackup, bare_set, bare_attemptFailed]
  · split
    · rfl
    · split_ifs
      all_goals simp only [Prod.map_apply, id_eq, bare_set, bare_attemptFailed]
  · simp only [Prod.map_apply, id_eq, bare_post]
  · simp only [Prod.map_apply, id_eq, bare_post]

end RequestRecovery

namespace RequestTask

theorem bare_take (d : Delivery) : (take e d w).bare = take e d.bare w.bare := by
  simp only [take, bare_post, bare_emit]
  rfl

theorem takeTask_bare (node : RobotAgentNode) : takeTask node.bare =
    Prod.map (Option.map Delivery.bare) RobotAgentNode.bare (takeTask node) := by
  obtain ⟨_, _, pending, _, interrupted, _⟩ := node
  cases interrupted with
  | some d => rfl
  | none => cases pending <;> rfl

theorem blind_onRunning : Blind (onRunning e) := by
  intro w
  have htake : takeTask w.bare.node = _ := takeTask_bare w.node
  unfold onRunning
  rw [htake]
  obtain ⟨d, node⟩ := takeTask w.node
  cases d with
  | none => rfl
  | some d =>
    simp only [Prod.map_apply, Option.map_some, id_eq, bare_take]
    rfl

end RequestTask

namespace ExecutePickDrop

variable (leg : Leg)

theorem blind_onStart : Blind (onStart e leg) := by
  intro w
  have hduration : w.bare.durationPort leg = w.durationPort leg := by cases leg <;> rfl
  simp only [onStart, hduration]
  rfl

theorem blind_onRunning : Blind (onRunning e leg) := by
  intro w
  have helapsed : elapsed e leg w.bare = elapsed e leg w := rfl
  simp only [onRunning, helapsed]
  split
  · simp only [Prod.map_apply, id_eq, apply_ite World.bare, bare_post]
  · rfl

end ExecutePickDrop

theorem ReportStatus.blind_tick : Blind (tick e) := by
  intro w
  have hmessage : message e w.bare = message e w := by
    cases h : w.node.currentTask with
    | none => simp [message, World.bare, RobotAgentNode.bare, h]
    | some d =>
      simp [message, World.bare, RobotAgentNode.bare, Delivery.bare, TaskAssignment.bare, h]
  simp only [tick, hmessage, Prod.map_apply, id_eq, bare_post]
  simp only [World.bare, World.emit, RobotAgentNode.bare, List.map_append]
  rfl

/-- The leaves are blind to the cargo. -/
theorem sem_bare (l : Leaf) : (sem e l).Maps World.bare (sem e l) := by
  cases l with
  | batteryOK =>
    have h := (BatteryOK.blind 20).returns .batteryOK
    exact ⟨h, h, fun _ => rfl⟩
  | navigateToPose n =>
    refine ⟨(NavigateToPose.blind_onStart e n).returns _,
      (NavigateToPose.blind_onRunning n).returns _, ?_⟩
    exact halted_bare (NavigateToPose.bare_onHalted · n) _
  | chargeBattery =>
    exact ⟨ChargeBattery.blind_onStart.returns _, ChargeBattery.blind_onRunning.returns _,
      halted_bare ChargeBattery.bare_onHalted _⟩
  | requestTask =>
    have h := (RequestTask.blind_onRunning e).returns .requestTask
    exact ⟨h, h, halted_bare (g := id) (fun _ => rfl) _⟩
  | requestRecovery leg =>
    exact ⟨(RequestRecovery.blind_onStart e leg).returns _,
      (RequestRecovery.blind_onRunning e leg 3).returns _,
      halted_bare (RequestRecovery.bare_onHalted · leg) _⟩
  | executePickDrop leg =>
    exact ⟨(ExecutePickDrop.blind_onStart e leg).returns _,
      (ExecutePickDrop.blind_onRunning e leg).returns _, halted_bare (g := id) (fun _ => rfl) _⟩
  | reportStatus =>
    have h := (ReportStatus.blind_tick e).returns .reportStatus
    exact ⟨h, h, fun _ => rfl⟩

end

/-! ## The callbacks -/

theorem btTickCb_bare (e : TickEnv) (s : State) : btTickCb e s.bare = (btTickCb e s).bare := by
  have h := tick_map (sem_bare e) robotAgentMain s.tree s.world
  simp only [btTickCb, State.bare] at h ⊢
  rw [h]
  rfl

theorem saveInterrupted_bare (node : RobotAgentNode) :
    saveInterrupted node.bare = (saveInterrupted node).bare := by
  have hguard : (node.bare.battery.isLow && node.bare.currentTask.isSome &&
      node.bare.interruptedTask.isNone) = (node.battery.isLow && node.currentTask.isSome &&
        node.interruptedTask.isNone) := by
    simp [RobotAgentNode.bare]
  rw [saveInterrupted, saveInterrupted, hguard]
  split <;> rfl

theorem batteryUpdateCb_bare (now : Time) (w : World) :
    batteryUpdateCb now w.bare = (batteryUpdateCb now w).bare := by
  simp only [batteryUpdateCb, World.bare, ← saveInterrupted_bare]
  rfl

theorem received_bare (tr : List Obs) :
    received (tr.map Obs.bare) = (received tr).map Delivery.bare := by
  rw [received, received, List.filterMap_map, List.map_filterMap]
  congr 1
  funext o
  cases o <;> rfl

theorem taskAssignmentCb_bare (msg : TaskAssignment) (w : World) :
    taskAssignmentCb msg.bare w.bare = (taskAssignmentCb msg w).bare := by
  simp [taskAssignmentCb, received_bare, World.bare, World.emit, RobotAgentNode.bare,
    Delivery.bare, Obs.bare]

theorem statusPublishCb_bare (now : Time) (tf : Option Pose) (w : World) :
    statusPublishCb now tf w.bare = (statusPublishCb now tf w).bare := by
  have hmessage : statusMessage now tf w.bare.node = statusMessage now tf w.node := by
    cases h : w.node.currentTask with
    | none => simp [statusMessage, World.bare, RobotAgentNode.bare, h]
    | some d =>
      simp [statusMessage, World.bare, RobotAgentNode.bare, Delivery.bare, TaskAssignment.bare, h]
  rw [statusPublishCb, statusPublishCb, hmessage, bare_emit]
  rfl

theorem faultServiceCb_bare (data : Bool) (w : World) :
    faultServiceCb data w.bare = (faultServiceCb data w).bare := by
  unfold faultServiceCb
  rw [bare_emit]
  cases data <;> rfl

theorem goalResponse_bare (g : Nat) (accepted : Bool) (w : World) :
    goalResponse g accepted w.bare = (goalResponse g accepted w).bare := by
  unfold goalResponse
  rw [bare_emit]
  rfl

theorem goalResult_bare (g : Nat) (code : ResultCode) (w : World) :
    goalResult g code w.bare = (goalResult g code w).bare := by
  unfold goalResult
  rw [bare_emit]
  rfl

/-- A step of the agent with bare tasks is the step with the full ones, without the cargo. -/
theorem step_bare (s : State) (ev : Event) : step s.bare ev.bare = (step s ev).bare := by
  have world : ∀ {w w'}, w' = World.bare w → State.mk s.tree w' = (State.mk s.tree w).bare :=
    fun h => congrArg _ h
  cases ev with
  | taskAssignment msg => exact world (taskAssignmentCb_bare msg s.world)
  | btTick e => exact btTickCb_bare e s
  | batteryUpdate now => exact world (batteryUpdateCb_bare now s.world)
  | statusPublish now tf => exact world (statusPublishCb_bare now tf s.world)
  | injectFault data => exact world (faultServiceCb_bare data s.world)
  | goalResponse g accepted =>
    rw [step, apply_ite State.bare]
    exact ite_congr rfl (fun _ => world (goalResponse_bare g accepted s.world)) fun _ => rfl
  | goalResult g code =>
    rw [step, apply_ite State.bare]
    exact ite_congr rfl (fun _ => world (goalResult_bare g code s.world)) fun _ => rfl

end RobotAgent
