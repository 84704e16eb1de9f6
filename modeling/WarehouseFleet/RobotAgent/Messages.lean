import WarehouseFleet.RobotAgent.TaskOrder
import WarehouseFleet.RobotAgent.View

/-!
# What an agent says in its messages

`ReportStatus` and `status_publish_cb` publish under `robot_name_`, which nothing writes after
`on_configure`. A completion names a task the robot has received, or no task and no robot
(report_status.cpp:20-27); its result is `RESULT_SUCCESS` in both cases (:28), so
`RESULT_FAILED` and `RESULT_CANCELLED` are never published.
-/

namespace RobotAgent

open BehaviorTree
open Fms
open Trace (Each)

/-- The completions that were published. -/
def completions (tr : List Obs) : List TaskCompletion :=
  tr.filterMap fun
    | .completion _ msg => some msg
    | _ => none

/-- The statuses that were published. -/
def statuses (tr : List Obs) : List RobotStatus :=
  tr.filterMap fun
    | .status msg => some msg
    | _ => none

/-- What an agent called `name` publishes after `pre`. -/
def Signed (name : String) (pre : List Obs) : Obs → Prop
  | .completion none msg =>
    msg.taskId = "" ∧ msg.robotId = "" ∧ msg.result = TaskCompletion.resultSuccess
  | .completion (some d) msg =>
    d ∈ received pre ∧ msg.taskId = d.id ∧ msg.robotId = name ∧
      msg.result = TaskCompletion.resultSuccess
  | .status msg =>
    msg.robotId = name ∧
      (msg.currentTaskId = "" ∨ ∃ d ∈ received pre, d.id = msg.currentTaskId) ∧
      ∃ state : RobotState, msg.state = state.id ∧ msg.statusMessage = state.name
  | _ => True

structure Signs (name : String) (w : World) : Prop where
  robotName : w.node.robotName = name
  order : InOrder w
  signed : Each (Signed name) w.trace

/-! ## The leaves that publish nothing -/

/-- The name of the robot, with the messages it publishes. -/
def nameplate : View String where
  node := RobotAgentNode.robotName
  sees
    | .completion _ _ => true
    | .status _ => true
    | _ => false

theorem nameplate_apart : nameplate.Apart where
  node _ _ _ _ := rfl
  posted _ _ _ := rfl
  returned _ _ _ := rfl
  halted _ := rfl
  cancel _ := rfl
  chargerGoal _ _ := rfl
  spinGoal _ _ _ := rfl
  backUpGoal _ _ _ := rfl
  clearFault _ := rfl
  faultPosted _ := rfl

section
variable {name : String} {e : TickEnv} {w w' : World} {n : NavNode} {leg : Leg} {l : Leaf}
  {r : NodeStatus × World}

theorem nameplate_taskRuns (h : RequestTask.Runs e w r) : nameplate.Same w r.2 := by
  cases h with
  | waiting => exact .refl w
  | resumed d hi => exact ⟨rfl, _, RequestTask.take_trace .., by simp [nameplate]⟩
  | next d ds hi hp => exact ⟨rfl, _, RequestTask.take_trace .., by simp [nameplate]⟩

/-- A leaf other than `ReportStatus` neither publishes nor renames the robot. -/
theorem nameplate_leaf (hl : l ≠ .reportStatus) (w₀ : World) :
    (sem e l).Preserves (nameplate.Same w₀) := by
  have returned : ∀ f w, nameplate.Same w (f w).2 → nameplate.Same w₀ w →
      nameplate.Same w₀ (returns l f w).2 :=
    fun f w hf h => (h.trans hf).emit rfl
  have halted : ∀ w w', nameplate.Same w w' → nameplate.Same w₀ w →
      nameplate.Same w₀ (haltOnly l w') :=
    fun _ _ hh h => (h.trans hh).emit rfl
  cases l with
  | batteryOK =>
    exact ⟨fun w h => returned _ w (.refl w) h, fun w h => returned _ w (.refl w) h, fun _ h => h⟩
  | navigateToPose n =>
    refine ⟨fun w h => returned _ w ?_ h,
      fun w h => returned _ w (nameplate_apart.navRuns (NavigateToPose.runs w n)) h,
      fun w h => halted w _ (nameplate_apart.onHalted w) h⟩
    obtain ⟨heq, -⟩ | ⟨goal, -, -, heq⟩ := NavigateToPose.onStart_cases e w n
    · rw [heq]; exact .refl w
    · rw [heq]
      exact ⟨rfl, _, NavigateToPose.send_trace .., by simp [nameplate]⟩
  | chargeBattery =>
    have flags := fun w charging => nameplate_apart.flags w w.node.isMoving charging
    refine ⟨fun w h => returned _ w
        (nameplate_apart.post (nameplate_apart.flags w false true) _ _) h,
      fun w h => returned _ w ?_ h, fun w h => halted w _ (flags w false) h⟩
    obtain ⟨-, heq⟩ | ⟨-, heq⟩ := ChargeBattery.onRunning_cases w
    · rw [heq]; exact nameplate_apart.post (flags w false) _ _
    · rw [heq]; exact .refl w
  | requestTask =>
    have tick := fun w h => returned (RequestTask.onRunning e) w
      (nameplate_taskRuns (RequestTask.runs e w)) h
    exact ⟨tick, tick, fun w h => halted w _ (.refl w) h⟩
  | requestRecovery leg =>
    exact ⟨fun w h => returned _ w nameplate_apart.recoverStart h,
      fun w h => returned _ w (nameplate_apart.recoverRuns (RequestRecovery.runs e w leg)) h,
      fun w h => halted w _ ((View.Same.refl w).set _) h⟩
  | executePickDrop leg =>
    exact ⟨fun w h => returned _ w ⟨rfl, [], by simp [ExecutePickDrop.onStart], by simp⟩ h,
      fun w h => returned _ w (nameplate_apart.execRuns (ExecutePickDrop.runs e w leg)) h,
      fun w h => halted w _ (.refl w) h⟩
  | reportStatus => exact absurd rfl hl

end

/-! ## The callbacks -/

section
variable {name : String} {w w' : World}

theorem signed_of_unseen {o : Obs} (h : nameplate.sees o = false) (pre : List Obs) :
    Signed name pre o := by
  cases o with
  | completion _ _ => simp [nameplate] at h
  | status _ => simp [nameplate] at h
  | _ => trivial

theorem Signs.same (h : Signs name w) (hs : nameplate.Same w w') (horder : InOrder w') :
    Signs name w' :=
  ⟨hs.node.trans h.robotName, horder, hs.each (fun _ ho pre => signed_of_unseen ho pre) h.signed⟩

/-- The task in `current_task_` has been received. -/
theorem InOrder.currentTask_mem (h : InOrder w) {d : Delivery} (hd : w.node.currentTask = some d) :
    d ∈ received w.trace :=
  h.sublist.subset (List.mem_append_right _ (by simp [held, hd]))

theorem Signs.report (e : TickEnv) (h : Signs name w) : Signs name (ReportStatus.tick e w).2 := by
  refine ⟨h.robotName, h.order.report e, Each.concat (Each.concat h.signed ?_) trivial⟩
  cases hc : w.node.currentTask with
  | none => simp [Signed, ReportStatus.message, hc]
  | some d => simp [Signed, ReportStatus.message, hc, h.order.currentTask_mem hc, h.robotName,
      Delivery.id]

theorem signs_leaf (e : TickEnv) (l : Leaf) : (sem e l).Preserves (Signs name) := by
  have horder := inOrder_inv.leaf e l
  by_cases hl : l = .reportStatus
  · have tick : ∀ w, Signs name w →
        Signs name (returns .reportStatus (ReportStatus.tick e) w).2 := fun w h =>
      have hr := h.report e
      ⟨hr.robotName, inOrder_inv.returned hr.order, hr.signed.concat trivial⟩
    subst hl
    exact ⟨tick, tick, fun _ h => h⟩
  · have hname := nameplate_leaf (e := e) hl
    exact ⟨fun w h => h.same ((hname w).onStart w (.refl w)) (horder.onStart w h.order),
      fun w h => h.same ((hname w).onRunning w (.refl w)) (horder.onRunning w h.order),
      fun w h => h.same ((hname w).onHalted w (.refl w)) (horder.onHalted w h.order)⟩

theorem Signs.statusPublish (h : Signs name w) (now : Time) (tf : Option Pose) :
    Signs name (statusPublishCb now tf w) := by
  refine ⟨h.robotName, inOrder_inv.frame _ _ (statusPublishCb_slots now tf w) h.order,
    h.signed.concat ⟨h.robotName, ?_, w.node.fsm, rfl, rfl⟩⟩
  cases hc : w.node.currentTask with
  | none => exact .inl (by simp [statusMessage, hc])
  | some d =>
    exact .inr ⟨d, h.order.currentTask_mem hc, by simp [statusMessage, hc, Delivery.id]⟩

/-- Between BT ticks only `status_publish_cb` publishes. -/
theorem nameplate_step (s : State) {ev : Event} (htick : ∀ e, ev ≠ .btTick e)
    (hstatus : ∀ now tf, ev ≠ .statusPublish now tf) :
    nameplate.Same s.world (RobotAgent.step s ev).world := by
  cases ev with
  | taskAssignment msg => exact ⟨rfl, _, rfl, by simp [nameplate]⟩
  | btTick e => exact absurd rfl (htick e)
  | batteryUpdate now =>
    obtain ⟨_, _, _, hnode⟩ := batteryUpdateCb_node now s.world
    exact ⟨by simp only [RobotAgent.step, hnode, nameplate], [], (List.append_nil _).symm, by simp⟩
  | statusPublish now tf => exact absurd rfl (hstatus now tf)
  | injectFault data => cases data <;> exact ⟨rfl, _, rfl, by simp [nameplate]⟩
  | goalResponse g accepted =>
    rw [RobotAgent.step]
    split
    · exact ⟨rfl, _, rfl, by simp [nameplate]⟩
    · exact .refl _
  | goalResult g code =>
    rw [RobotAgent.step]
    split
    · exact ⟨rfl, _, rfl, by simp [nameplate]⟩
    · exact .refl _

theorem Signs.step {s : State} (h : Signs name s.world) (ev : Event) :
    Signs name (RobotAgent.step s ev).world := by
  have horder : InOrder (RobotAgent.step s ev).world := inOrder_inv.step h.order
  cases ev with
  | btTick e => exact tick_preserves (signs_leaf e) robotAgentMain s.tree s.world h
  | statusPublish now tf => exact h.statusPublish now tf
  | _ => exact h.same (nameplate_step s (by simp) (by simp)) horder

theorem Config.signs (c : Config) (es : List Event) : Signs c.robotName (c.run es).world :=
  Run.run_invariant (I := fun s : State => Signs c.robotName s.world) (fun _ ev h => h.step ev)
    ⟨rfl, ⟨by simp [Config.init, completed, held], .inl rfl, rfl⟩, Trace.each_nil⟩

/-! ## What a reader of the messages can rely on -/

theorem mem_completions {tr : List Obs} {msg : TaskCompletion} :
    msg ∈ completions tr ↔ ∃ d, .completion d msg ∈ tr := by
  simp only [completions, List.mem_filterMap]
  constructor
  · rintro ⟨o, ho, h⟩
    cases o with
    | completion d msg' => exact ⟨d, Option.some.inj h ▸ ho⟩
    | _ => simp at h
  · exact fun ⟨d, h⟩ => ⟨_, h, rfl⟩

theorem mem_statuses {tr : List Obs} {msg : RobotStatus} :
    msg ∈ statuses tr ↔ .status msg ∈ tr := by
  simp only [statuses, List.mem_filterMap]
  constructor
  · rintro ⟨o, ho, h⟩
    cases o with
    | status msg' => exact Option.some.inj h ▸ ho
    | _ => simp at h
  · exact fun h => ⟨_, h, rfl⟩

theorem received_subset_of_prefix {tr tr' : List Obs} (h : tr <+: tr') :
    received tr ⊆ received tr' :=
  (h.sublist.filterMap _).subset

/-- A completion is of a task the robot has received, or of none and signed by none. -/
structure Completes (name : String) (tr : List Obs) (msg : TaskCompletion) : Prop where
  result : msg.result = TaskCompletion.resultSuccess
  task : msg.taskId = "" ∧ msg.robotId = "" ∨
    ∃ d ∈ received tr, msg.taskId = d.id ∧ msg.robotId = name

theorem Signs.completes (h : Signs name w) {msg : TaskCompletion}
    (hmsg : msg ∈ completions w.trace) : Completes name w.trace msg := by
  obtain ⟨d, hd⟩ := mem_completions.mp hmsg
  obtain ⟨pre, post, htr⟩ := List.append_of_mem hd
  have hsigned := h.signed pre _ post htr
  have hpre : received pre ⊆ received w.trace := received_subset_of_prefix ⟨_, htr.symm⟩
  cases d with
  | none => exact ⟨hsigned.2.2, .inl ⟨hsigned.1, hsigned.2.1⟩⟩
  | some d => exact ⟨hsigned.2.2.2, .inr ⟨d, hpre hsigned.1, hsigned.2.1, hsigned.2.2.1⟩⟩

/-- The completions signed with the name of the robot are those of tasks. -/
theorem Signs.completed_ids (h : Signs name w) (hname : name ≠ "") :
    ((completions w.trace).filter (·.robotId = name)).map (·.taskId) =
      (completed w.trace).map Delivery.id := by
  have hsigned : ∀ o ∈ w.trace, ∃ pre, Signed name pre o := fun o ho => by
    obtain ⟨pre, post, htr⟩ := List.append_of_mem ho
    exact ⟨pre, h.signed pre o post htr⟩
  generalize w.trace = tr at hsigned ⊢
  induction tr with
  | nil => rfl
  | cons o tr ih =>
    have htail := ih fun o' ho' => hsigned o' (List.mem_cons_of_mem _ ho')
    obtain ⟨pre, ho⟩ := hsigned o List.mem_cons_self
    cases o with
    | completion d msg =>
      cases d with
      | none => simpa [completions, completed, ho.2.1, hname.symm] using htail
      | some d => simpa [completions, completed, ho.2.2.1, ho.2.1] using htail
    | _ => simpa [completions, completed] using htail

/-- A status names a task the robot has received, or none; it shows one state, twice. -/
structure Describes (name : String) (tr : List Obs) (msg : RobotStatus) : Prop where
  robotId : msg.robotId = name
  task : msg.currentTaskId = "" ∨ ∃ d ∈ received tr, d.id = msg.currentTaskId
  state : ∃ state : RobotState, msg.state = state.id ∧ msg.statusMessage = state.name

theorem Signs.status (h : Signs name w) {msg : RobotStatus} (hmsg : msg ∈ statuses w.trace) :
    Describes name w.trace msg := by
  obtain ⟨pre, post, htr⟩ := List.append_of_mem (mem_statuses.mp hmsg)
  obtain ⟨hname, htask, hstate⟩ := h.signed pre _ post htr
  refine ⟨hname, htask.imp_right fun ⟨d, hd, hid⟩ => ⟨d, ?_, hid⟩, hstate⟩
  exact received_subset_of_prefix ⟨_, htr.symm⟩ hd

end

end RobotAgent
