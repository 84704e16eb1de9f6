import WarehouseFleet.RobotAgent.Service

/-!
# The way home

Whatever has become of a robot, it can come home if the servers do their part from then on: a
recovery that hangs, a task in hand that was given up, an FSM that is out of step, a fault that is
pending. What gets it out of all of that is the battery. It runs low, the root halts TaskExecution
wherever that stands and the task in hand is kept; the robot charges, the FSM with it; then it
serves what it holds, task after task (`home_reachable`).
-/

namespace RobotAgent

open BehaviorTree
open Fms

/-- The robot is done with what it held in `w₀`, and waits for a task. -/
structure Home (w₀ : World) (s : State) : Prop where
  waits : s.running .requestTask
  fsm : s.world.node.fsm = .idle
  isMoving : s.world.node.isMoving = false
  isCharging : s.world.node.isCharging = false
  soc : 20 ≤ s.world.node.battery.soc
  held : held s.world.node = []
  completed : completed s.world.trace = completed w₀.trace ++ RobotAgent.held w₀.node
  /-- One completion for each task that was held, and no other. -/
  published : publishedIds s.world.trace =
    publishedIds w₀.trace ++ (RobotAgent.held w₀.node).map Delivery.id

/-! ## Goals that have been sent -/

/-- The goals the navigations know of have been sent. -/
def GoalsSent (w : World) : Prop := ∀ n st, w.nav n = some st → st.goal < w.nextGoal

section
variable {e : TickEnv} {w w' : World}

theorem GoalsSent.of_eq (h : GoalsSent w) (hnav : w'.nav = w.nav)
    (hgoal : w.nextGoal ≤ w'.nextGoal) : GoalsSent w' := fun n st hst =>
  (h n st (hnav ▸ hst)).trans_le hgoal

theorem GoalsSent.forgets (h : GoalsSent w) (n : NavNode)
    (hnav : w'.nav = Function.update w.nav n none) (hgoal : w'.nextGoal = w.nextGoal) :
    GoalsSent w' := by
  intro n' st hst
  rw [hnav, Function.update_apply] at hst
  split at hst
  · cases hst
  · exact hgoal ▸ h n' st hst

theorem GoalsSent.sends (h : GoalsSent w) (n : NavNode) (goal : PoseStamped) :
    GoalsSent (NavigateToPose.send e n goal w) := by
  intro n' st hst
  rw [NavigateToPose.send_nav, Function.update_apply] at hst
  split at hst
  · rw [← Option.some.inj hst]
    exact Nat.lt_succ_self _
  · exact (h n' st hst).trans (Nat.lt_succ_self _)

theorem GoalsSent.startSpin (h : GoalsSent w) (leg : Leg) :
    GoalsSent (RequestRecovery.startSpin e leg w) := by
  refine h.of_eq (by simp) ?_
  unfold RequestRecovery.startSpin
  split
  · exact Nat.le_succ _
  · exact le_rfl

theorem GoalsSent.startBackup (h : GoalsSent w) (leg : Leg) :
    GoalsSent (RequestRecovery.startBackup e leg w) := by
  unfold RequestRecovery.startBackup
  split
  · exact h.of_eq rfl (Nat.le_succ _)
  · exact h.of_eq rfl le_rfl

theorem GoalsSent.set (h : GoalsSent w) (leg : Leg) (r : RequestRecovery) :
    GoalsSent (RequestRecovery.set leg r w) := h.of_eq rfl le_rfl

theorem GoalsSent.navRuns (h : GoalsSent w) {n : NavNode} {r : NodeStatus × World}
    (hr : NavigateToPose.Runs w n r) : GoalsSent r.2 := by
  cases hr with
  | fault => exact h.forgets n rfl rfl
  | _ => exact h.of_eq rfl le_rfl

theorem GoalsSent.recoverRuns (h : GoalsSent w) {leg : Leg} {r : NodeStatus × World}
    (hr : RequestRecovery.Runs e w leg r) : GoalsSent r.2 := by
  cases hr with
  | spun => exact (h.set leg _).startBackup leg
  | lost =>
    dsimp only [RequestRecovery.attemptFailed]
    split
    · exact h.set leg _
    · exact (h.set leg _).startSpin leg
  | _ => exact h.of_eq rfl le_rfl

theorem goalsSent_leaf (e : TickEnv) (l : Leaf) : (sem e l).Preserves GoalsSent := by
  have run : ∀ f w, GoalsSent (f w).2 → GoalsSent (returns l f w).2 := fun _ _ h =>
    h.of_eq rfl le_rfl
  cases l with
  | navigateToPose n =>
    refine ⟨fun w hw => run _ w ?_, fun w hw => run _ w (hw.navRuns (NavigateToPose.runs w n)),
      fun w hw => hw.forgets n rfl rfl⟩
    obtain ⟨heq, -⟩ | ⟨goal, -, -, heq⟩ := NavigateToPose.onStart_cases e w n
    · rw [heq]
      exact hw
    · rw [heq]
      exact hw.sends n goal
  | requestRecovery leg =>
    have posted : ∀ w r, GoalsSent w → GoalsSent ((RequestRecovery.set leg r w).post
        (.requestRecovery leg) .navFailed) := fun w r hw => hw.of_eq rfl le_rfl
    refine ⟨fun w hw => run _ w ((posted w _ hw).startSpin leg),
      fun w hw => run _ w (hw.recoverRuns (RequestRecovery.runs e w leg)),
      fun w hw => hw.of_eq rfl le_rfl⟩
  | requestTask =>
    have taken : ∀ w, GoalsSent w → GoalsSent (RequestTask.onRunning e w).2 := by
      intro w hw
      have hr := RequestTask.runs e w
      generalize RequestTask.onRunning e w = r at hr ⊢
      cases hr <;> exact hw.of_eq rfl le_rfl
    exact ⟨fun w hw => run _ w (taken w hw), fun w hw => run _ w (taken w hw),
      fun w hw => hw.of_eq rfl le_rfl⟩
  | executePickDrop leg =>
    refine ⟨fun w hw => run _ w (hw.of_eq rfl le_rfl), fun w hw => run _ w ?_,
      fun w hw => hw.of_eq rfl le_rfl⟩
    have hr := ExecutePickDrop.runs e w leg
    generalize ExecutePickDrop.onRunning e leg w = r at hr ⊢
    cases hr <;> exact hw.of_eq rfl le_rfl
  | chargeBattery =>
    refine ⟨fun w hw => run _ w (hw.of_eq rfl le_rfl), fun w hw => run _ w ?_,
      fun w hw => hw.of_eq rfl le_rfl⟩
    obtain ⟨-, heq⟩ | ⟨-, heq⟩ := ChargeBattery.onRunning_cases w
    · rw [heq]
      exact hw.of_eq rfl le_rfl
    · rw [heq]
      exact hw
  | _ =>
    exact ⟨fun w hw => hw.of_eq rfl le_rfl, fun w hw => hw.of_eq rfl le_rfl, fun w hw => hw⟩

theorem goalsSent_step (s : State) (ev : Event) (h : GoalsSent s.world) :
    GoalsSent (step s ev).world := by
  have answered : ∀ {w' : World} {f : NavState → NavState}, (∀ st, (f st).goal = st.goal) →
      (w'.nav = fun n => (s.world.nav n).map f) → w'.nextGoal = s.world.nextGoal →
      GoalsSent w' := by
    intro w' f hf hnav hgoal n st hst
    rw [hnav] at hst
    obtain ⟨st', hst', rfl⟩ := Option.map_eq_some_iff.mp hst
    rw [hf, hgoal]
    exact h n st' hst'
  cases ev with
  | btTick e => exact tick_preserves (goalsSent_leaf e) robotAgentMain s.tree s.world h
  | injectFault data => cases data <;> exact h.of_eq rfl le_rfl
  | goalResponse g accepted =>
    rw [step]
    split
    · exact answered (NavState.onResponse_goal g accepted) rfl rfl
    · exact h
  | goalResult g code =>
    rw [step]
    split
    · exact answered (NavState.onResult_goal g code) rfl rfl
    · exact h
  | _ => exact h.of_eq rfl le_rfl

theorem goalsSent_run (c : Config) (es : List Event) : GoalsSent (c.run es).world :=
  Run.run_invariant (I := fun s : State => GoalsSent s.world) goalsSent_step
    (by simp [GoalsSent, Config.init])

end

/-! ## The battery runs low -/

/-- The robot is not at the charger, and owes this. -/
structure Roams (all : List Delivery) (ids : List String) (w : World) : Prop where
  free : Free w
  owes : Owes all ids w

/-- The battery is low, and nothing is in hand. -/
structure Spent (all : List Delivery) (ids : List String) (w : World) : Prop where
  roams : Roams all ids w
  low : w.node.battery.soc < 20
  current : w.node.currentTask = none

section
variable {all : List Delivery} {ids : List String} {t : Time} {p : Pos} {s : State} {w w' : World}

/-- The battery of a robot that does not charge is empty after 5000 seconds. -/
theorem batteryUpdateCb_empty {now : Time} (hcharging : w.node.isCharging = false)
    (hnow : 5000 ≤ seconds (now - w.node.lastBatteryUpdate)) :
    (batteryUpdateCb now w).node.battery.soc < 20 := by
  have hrate : 1 / 50 ≤ w.node.drainRate := by
    rw [RobotAgentNode.drainRate, if_neg (by simp [hcharging])]
    split <;> norm_num [BatteryModel.drainMoving, BatteryModel.drainIdle]
  have hgone : w.node.battery.soc ≤
      w.node.drainRate * seconds (now - w.node.lastBatteryUpdate) := by
    have := w.node.battery.le_hundred
    nlinarith
  rw [batteryUpdateCb_battery, BatteryModel.setSoc]
  exact max_lt (by norm_num) ((min_le_left _ _).trans_lt (by linarith))

/-- A task in hand is kept when the battery is low. -/
theorem saveInterrupted_current {node : RobotAgentNode} (hlow : node.battery.soc < 20)
    (h : node.currentTask = none ∨ node.interruptedTask = none) :
    (saveInterrupted node).currentTask = none := by
  have hisLow : node.battery.isLow = true := by
    exact decide_eq_true hlow
  rw [saveInterrupted]
  split
  · rfl
  · next hkept =>
    cases hcurrent : node.currentTask with
    | none => rfl
    | some d => simp [hisLow, hcurrent, h.resolve_left (by simp [hcurrent])] at hkept

theorem Roams.spends (h : Roams all ids w) (t : Time) : ∃ now, t ≤ now ∧
    Spent all ids (batteryUpdateCb now w) ∧
    (batteryUpdateCb now w).node.faultInjected = w.node.faultInjected := by
  obtain ⟨now, ht, hnow⟩ := exists_later t w.node.lastBatteryUpdate 5000
  have hlow := batteryUpdateCb_empty h.free.isCharging hnow
  obtain ⟨_, _, _, hnode⟩ := batteryUpdateCb_node now w
  have hroams : Roams all ids (batteryUpdateCb now w) :=
    ⟨h.free.of_eq (by rw [hnode]) (by rw [hnode]), h.owes.batteryUpdate now⟩
  refine ⟨now, ht, ⟨hroams, hlow, saveInterrupted_current ?_ h.owes.notBoth⟩, by rw [hnode]⟩
  rw [batteryUpdateCb, saveInterrupted_battery] at hlow
  exact hlow

/-! ## To the charger -/

/-- The robot is at the charger, and has no task in hand. -/
structure Docked (all : List Delivery) (ids : List String) (w : World) : Prop where
  charges : Charges w
  owes : Owes all ids w
  fault : w.node.faultInjected = false
  current : w.node.currentTask = none

theorem haltTask_nextGoal (e : TickEnv) (p : Pos) (w : World) :
    (haltTask e p w).nextGoal = w.nextGoal := by
  match p with
  | .task pt => cases pt <;> rfl
  | .idle => rfl
  | .charger => rfl
  | .charging => rfl

/-- A robot whose battery is low leaves for the charger, whatever it was at. -/
theorem Spent.leaves (h : Spent all ids w) (ha : p.away) (t : Time) :
    Leads (fun _ => Stands .charger fun w' => Spent all ids w' ∧
      w'.node.faultInjected = w.node.faultInjected ∧
      ∃ g < w'.nextGoal, w'.nav .toCharger = some { goal := g }) t ⟨p.path, w⟩ := by
  have hsame : duty.Same w (haltTask (.ready t) p ((NavigateToPose.send (.ready t) .toCharger
      w.node.chargerPose (w.emit (.returned .batteryOK .failure))).emit
        (.returned (.navigateToPose .toCharger) .running))) := duty_aside.chargerStarted _
  refine .tick le_rfl (btTick_leaves ha h.low rfl) ⟨⟨⟨?_, h.roams.owes.same hsame⟩, ?_, ?_⟩,
    duty_fault hsame, w.nextGoal, ?_, ?_⟩
  · exact h.roams.free.emit.send.emit.of_eq (haltTask_fsm ..) (haltTask_isCharging ..)
  · rw [duty_battery hsame]
    exact h.low
  · exact (duty_slots hsame).current.trans h.current
  · rw [haltTask_nextGoal]
    exact Nat.lt_succ_self _
  · rw [haltTask_toCharger]
    simp

/-- The navigation is over, one way or the other. -/
def Over (n : NavNode) (w : World) : Prop := (NavigateToPose.onRunning n w).1 ≠ .running

/-- The goal of a navigation is answered as far as it is not answered already. -/
theorem Leads.settles {P : Time → State → Prop} {n : NavNode}
    (hgoal : ∀ st, s.world.nav n = some st → st.goal < s.world.nextGoal)
    (h : ∀ w', duty.Same s.world w' → w'.node = s.world.node → Over n w' →
      Leads P t ⟨s.tree, w'⟩) : Leads P t s := by
  -- a goal that has had its response is finished, if it was accepted
  have finishes : ∀ w', duty.Same s.world w' → w'.node = s.world.node →
      (∀ st, w'.nav n = some st → st.responseReceived = true ∧ st.goal < w'.nextGoal) →
      Leads P t ⟨s.tree, w'⟩ := by
    intro w' hs hnode hst
    by_cases hover : Over n w'
    · exact h w' hs hnode hover
    · obtain ⟨st, hn, hacc, hopen⟩ : ∃ st, w'.nav n = some st ∧ st.goalAccepted = true ∧
          st.resultReceived = false := by
        have hr := NavigateToPose.runs w' n
        rw [Over, not_not] at hover
        generalize NavigateToPose.onRunning n w' = r at hr hover
        cases hr with
        | waiting st _ hn hwait =>
          exact ⟨st, hn, hwait.resolve_left (by simp [(hst st hn).1])⟩
        | _ => cases hover
      have hresult : step ⟨s.tree, w'⟩ (.goalResult st.goal .succeeded) =
          ⟨s.tree, goalResult st.goal .succeeded w'⟩ := by
        rw [step, if_pos (hst st hn).2]
      refine .quiet (.goalResult st.goal .succeeded) rfl ⟨rfl, n, st, hn, rfl, hacc, hopen⟩ ?_
      rw [hresult]
      refine h _ (hs.trans (goalResult_same ..)) hnode ?_
      have hn' : (goalResult st.goal .succeeded w').nav n =
          some { st with resultReceived := true, resultCode := .succeeded } := by
        simp [goalResult, hn, NavState.onResult]
      simp only [Over, NavigateToPose.onRunning, hn', (hst st hn).1, hacc]
      split <;> simp
  by_cases hopen : ∃ st, s.world.nav n = some st ∧ st.responseReceived = false
  · obtain ⟨st, hn, hresponse⟩ := hopen
    have hstep : step s (.goalResponse st.goal true) =
        ⟨s.tree, goalResponse st.goal true s.world⟩ := by
      rw [step, if_pos (hgoal st hn)]
    refine .quiet (.goalResponse st.goal true) rfl ⟨rfl, n, st, hn, rfl, hresponse⟩ ?_
    rw [hstep]
    refine finishes _ (goalResponse_same ..) rfl fun st' hst' => ?_
    simp only [goalResponse, World.emit_nav, hn, Option.map_some, Option.some.injEq] at hst'
    rw [← hst', NavState.onResponse_goal, NavState.onResponse, if_pos rfl]
    exact ⟨rfl, hgoal st hn⟩
  · refine finishes s.world (.refl _) rfl fun st hn => ⟨?_, hgoal st hn⟩
    by_contra hresponse
    exact hopen ⟨st, hn, Bool.eq_false_iff.mpr hresponse⟩

/-- Answers to goals leave the robot as it is. -/
theorem Spent.answered (h : Spent all ids w) (hs : duty.Same w w') (hnode : w'.node = w.node) :
    Spent all ids w' := by
  refine ⟨⟨?_, h.roams.owes.same hs⟩, ?_, ?_⟩
  · exact h.roams.free.of_eq (by rw [hnode]) (by rw [hnode])
  · rw [hnode]
    exact h.low
  · rw [hnode]
    exact h.current

theorem Spent.docks (h : Spent all ids w) (hf : w.node.faultInjected = false)
    (hr : NavigateToPose.onRunning .toCharger w =
      (.success, NavigateToPose.finish .toCharger .navSucceeded w)) (t : Time) :
    Leads (fun _ => Stands .charging (Docked all ids)) t ⟨Pos.charger.path, w⟩ := by
  have hsame := duty_aside.chargerReached (w := w)
  have hfree : Free (NavigateToPose.finish .toCharger .navSucceeded w) :=
    ⟨process_quiet h.roams.free.fsm (by decide), h.roams.free.isCharging⟩
  exact .tick le_rfl (btTick_docks hr rfl) ⟨hfree.emit.charge, h.roams.owes.same hsame,
    (duty_fault hsame).trans hf, (duty_slots hsame).current.trans h.current⟩

/-- TaskExecution has its turn while the robot has no task in hand: it takes one, or waits. -/
theorem Roams.tickTask (h : Roams all ids w) (hnone : w.node.currentTask = none)
    (hf : w.node.faultInjected = false) (t : Time) : ∃ (pt : Point) (w' : World),
    tick (sem (.ready t)) taskExecution none w = (.running pt.path, w') ∧
    Roams all ids w' ∧ w'.node.faultInjected = false := by
  have hr := RequestTask.runs (.ready t) w
  cases hwaiting : held w.node with
  | nil =>
    have hwaits : RequestTask.onRunning (.ready t) w = (.running, w) := by
      generalize RequestTask.onRunning (.ready t) w = r at hr
      cases hr with
      | waiting => rfl
      | resumed d hi => simp [held, hi] at hwaiting
      | next d ds hi hp => simp [held, hp] at hwaiting
    refine ⟨.requestTask, w.emit (.returned .requestTask .running), tickTask_waits ?_,
      ⟨h.free.emit, h.owes.same ((View.Same.refl w).emit rfl)⟩, hf⟩
    simp [sem, returns, RequestTask.onStart, hwaits]
  | cons d waiting =>
    obtain ⟨ho, -⟩ := h.owes.take hnone hr
    have hfree := h.free.requestTaskRuns hr
    obtain ⟨interrupted, pending, htook⟩ := takes_of hr hnone hwaiting
    rw [htook] at ho hfree
    generalize hw₁ : (RequestTask.take (.ready t) d { w with node := { w.node with
      interruptedTask := interrupted, pendingTasks := pending } }) = w₁ at htook ho hfree
    let w₂ := w₁.emit (.returned .requestTask .success)
    let goal := RequestTask.poseStamped (.ready t) d.msg.pickPose
    have hport : w₂.goalPort (.to .pick) = some goal := by
      subst hw₁
      rfl
    have hsame : duty.Same w₁ ((NavigateToPose.send (.ready t) (.to .pick) goal w₂).emit
        (.returned (.navigateToPose (.to .pick)) .running)) :=
      (((View.Same.refl w₁).emit rfl).trans (duty_send ..)).emit rfl
    have htake : (sem (.ready t) .requestTask).onStart w = (.success, w₂) := by
      simp [sem, returns, RequestTask.onStart, htook, w₂]
    refine ⟨.nav .pick 0, _, tickTask_takes htake ?_, ⟨hfree.emit.send.emit, ho.same hsame⟩, ?_⟩
    · simp only [sem, returns, NavigateToPose.onStart, hport]
      rfl
    · rw [duty_fault hsame]
      subst hw₁
      exact hf

/-- A navigation that fails leaves no fault pending. -/
theorem NavigateToPose.Runs.clears {n : NavNode} {r : NodeStatus × World} (hr : Runs w n r)
    (hfail : r.1 = .failure) : r.2.node.faultInjected = false := by
  cases hr with
  | fault => rfl
  | gone hf => exact hf
  | waiting => cases hfail
  | rejected _ hf => exact hf
  | reached => cases hfail
  | missed _ hf => exact hf

/-- The way to the charger fails. -/
theorem Spent.misses (h : Spent all ids w) {r : NodeStatus × World}
    (hr : NavigateToPose.onRunning .toCharger w = r) (hfail : r.1 = .failure) (t : Time) :
    Leads (fun _ s => ∃ p : Pos, p.away ∧
      Stands p (fun w => Roams all ids w ∧ w.node.faultInjected = false) s) t
      ⟨Pos.charger.path, w⟩ := by
  have hruns : NavigateToPose.Runs w .toCharger r := hr ▸ NavigateToPose.runs w .toCharger
  have hslots : SameSlots w (r.2.emit (.returned (.navigateToPose .toCharger) .failure)) :=
    hruns.slots.emit rfl
  have hroams : Roams all ids (r.2.emit (.returned (.navigateToPose .toCharger) .failure)) :=
    ⟨(h.roams.free.navRuns hruns).emit, h.roams.owes.slots hslots⟩
  obtain ⟨pt, w', htick, hroams', hfault⟩ :=
    hroams.tickTask (hslots.current.trans h.current) (hruns.clears hfail) t
  exact (Leads.tick (p := .task pt) (Q := fun w => Roams all ids w ∧ w.node.faultInjected = false)
    le_rfl (btTick_misses hr hfail htick) ⟨hroams', hfault⟩).trans fun _ _ hs =>
      .here ⟨.task pt, trivial, hs⟩

theorem Roams.docks_clear (h : Roams all ids w) (ha : p.away)
    (hf : w.node.faultInjected = false) (t : Time) :
    Leads (fun _ => Stands .charging (Docked all ids)) t ⟨p.path, w⟩ := by
  obtain ⟨now, ht, hspent, hfault⟩ := h.spends t
  refine .timed (.batteryUpdate now) rfl ht trivial ((hspent.leaves ha now).trans ?_)
  rintro t ⟨_, w'⟩ ⟨rfl, hspent', hfault', g, hg, hn⟩
  refine Leads.reached hn hg fun w'' hs hnode _ hn' => ?_
  have hclear : w''.node.faultInjected = false :=
    (duty_fault hs).trans (hfault'.trans (hfault.trans hf))
  exact (hspent'.answered hs hnode).docks hclear (onRunning_reached hclear hn') t

/-- A robot that is on its way to the charger already. -/
theorem Roams.docks_charger (h : Roams all ids w)
    (hgoal : ∀ st, w.nav .toCharger = some st → st.goal < w.nextGoal) (t : Time) :
    Leads (fun _ => Stands .charging (Docked all ids)) t ⟨Pos.charger.path, w⟩ := by
  obtain ⟨now, ht, hspent, -⟩ := h.spends t
  refine .timed (.batteryUpdate now) rfl ht trivial ?_
  refine Leads.settles (n := .toCharger) hgoal fun w' hs hnode hover => ?_
  have hspent' : Spent all ids w' := hspent.answered hs hnode
  have hr := NavigateToPose.runs w' .toCharger
  cases hst : (NavigateToPose.onRunning .toCharger w').1 with
  | running => exact absurd hst hover
  | failure =>
    refine (hspent'.misses rfl hst now).trans ?_
    rintro t ⟨_, w''⟩ ⟨p, ha, rfl, hroams, hf⟩
    exact hroams.docks_clear ha hf t
  | success =>
    generalize hr' : NavigateToPose.onRunning .toCharger w' = r at hr hst
    cases hr with
    | reached _ hf => exact hspent'.docks hf hr' now
    | _ => cases hst

theorem Roams.docks (h : Roams all ids w) (ha : p.away) (t : Time) :
    Leads (fun _ => Stands .charging (Docked all ids)) t ⟨p.path, w⟩ := by
  obtain ⟨now, ht, hspent, -⟩ := h.spends t
  refine .timed (.batteryUpdate now) rfl ht trivial ((hspent.leaves ha now).trans ?_)
  rintro t ⟨_, w'⟩ ⟨rfl, hspent', -, g, hg, hn⟩
  refine hspent'.roams.docks_charger (fun st hst => ?_) t
  rw [← Option.some.inj (hn.symm.trans hst)]
  exact hg

/-! ## And home -/

/-- The battery of a robot that charges is full after 100 seconds. -/
theorem batteryUpdateCb_full {now : Time} (hcharging : w.node.isCharging = true)
    (hnow : 100 ≤ seconds (now - w.node.lastBatteryUpdate)) :
    (batteryUpdateCb now w).node.battery.soc = 100 := by
  have hsoc : (100 : ℚ) ≤ w.node.battery.soc -
      w.node.drainRate * seconds (now - w.node.lastBatteryUpdate) := by
    have := w.node.battery.nonneg
    simp only [RobotAgentNode.drainRate, hcharging, if_true, BatteryModel.chargeRate]
    linarith
  rw [batteryUpdateCb_battery, BatteryModel.setSoc]
  simp only [min_eq_right hsoc]
  norm_num

theorem saveInterrupted_full {node : RobotAgentNode} (hsoc : 20 ≤ node.battery.soc) :
    saveInterrupted node = node := by
  have hisLow : node.battery.isLow = false := decide_eq_false (not_lt.mpr hsoc)
  simp [saveInterrupted, hisLow]

/-- A robot that charges is free when its battery is full. -/
theorem charges_full (hw : Charges w) (ho : Owes all ids w) (t : Time) :
    Leads (fun _ => Stands .idle fun w' => Roams all ids w' ∧ w'.node.fsm = .idle ∧
      w'.node.isMoving = false ∧ 20 ≤ w'.node.battery.soc ∧
      w'.node.faultInjected = w.node.faultInjected ∧
      w'.node.currentTask = w.node.currentTask) t ⟨Pos.charging.path, w⟩ := by
  obtain ⟨now, ht, hnow⟩ := exists_later t w.node.lastBatteryUpdate 100
  have hfull := batteryUpdateCb_full hw.isCharging hnow
  have hnode : (batteryUpdateCb now w).node = { w.node with
      lastBatteryUpdate := now
      battery := (batteryUpdateCb now w).node.battery } := by
    rw [batteryUpdateCb, saveInterrupted_battery] at hfull
    rw [batteryUpdateCb, saveInterrupted_full (by rw [hfull]; norm_num)]
  have hidle : (process (batteryUpdateCb now w).node.fsm .batteryFull).1 = .idle := by
    rw [hnode]
    simp only [hw.fsm]
    rfl
  have ho' := (ho.batteryUpdate now).same duty_aside.charged
  refine .timed (.batteryUpdate now) rfl ht trivial ?_
  refine Leads.tick (p := .idle) le_rfl (btTick_charged (by rw [hfull]; norm_num))
    ⟨⟨⟨?_, rfl⟩, ho'⟩, hidle, ?_, ?_, ?_, ?_⟩
  · show RobotState.Quiet (process _ _).1
    simp [hidle, RobotState.Quiet]
  · show (batteryUpdateCb now w).node.isMoving = false
    rw [hnode]
    exact hw.isMoving
  · show 20 ≤ (batteryUpdateCb now w).node.battery.soc
    rw [hfull]
    norm_num
  · show (batteryUpdateCb now w).node.faultInjected = _
    rw [hnode]
  · show (batteryUpdateCb now w).node.currentTask = _
    rw [hnode]

/-- Nothing is left to do, and `RequestTask` waits. -/
theorem Rested.waits (h : Rested [] w) (ho : Owes all ids w) (t : Time) :
    Leads (fun _ => Stands (.task .requestTask) fun w => Rested [] w ∧ Owes all ids w) t
      ⟨none, w⟩ := by
  have hr := RequestTask.runs (.ready t) (w.emit (.returned .batteryOK .success))
  have hwaits : RequestTask.onRunning (.ready t) (w.emit (.returned .batteryOK .success)) =
      (.running, w.emit (.returned .batteryOK .success)) := by
    have hnone := h.held
    generalize RequestTask.onRunning (.ready t) (w.emit (.returned .batteryOK .success)) = r at hr
    cases hr with
    | waiting => rfl
    | resumed d hi =>
      rw [World.emit_node] at hi
      simp [RobotAgent.held, hi] at hnone
    | next d ds hi hp =>
      rw [World.emit_node] at hp
      simp [RobotAgent.held, hp] at hnone
  have hstart : (sem (.ready t) .requestTask).onStart (w.emit (.returned .batteryOK .success)) =
      (.running, (w.emit (.returned .batteryOK .success)).emit
        (.returned .requestTask .running)) := by
    simp [sem, returns, RequestTask.onStart, hwaits]
  exact .tick le_rfl (btTick_task (p := .idle) trivial h.soc (tickTask_waits hstart))
    ⟨{ h with }, (ho.same ((View.Same.refl w).emit rfl)).same ((View.Same.refl _).emit rfl)⟩

theorem Docked.home (h : Docked all ids w) (t : Time) :
    Leads (fun _ => Stands (.task .requestTask) fun w => Rested [] w ∧ Owes all ids w) t
      ⟨Pos.charging.path, w⟩ := by
  refine (charges_full h.charges h.owes t).trans ?_
  rintro t ⟨_, w'⟩ ⟨rfl, hroams, hfsm, hmoving, hsoc, hfault, hcurrent⟩
  have hrested : Rested (held w'.node) w' := ⟨hfsm, hmoving, hroams.free.isCharging, hsoc,
    hfault.trans h.fault, hcurrent.trans h.current, rfl⟩
  refine (hrested.serves_all hroams.owes t).trans ?_
  rintro t ⟨_, w''⟩ ⟨rfl, hrested', ho⟩
  exact hrested'.waits ho t

/-- From any position. -/
theorem Owes.home (h : Owes all ids w) (hcoherent : Coherent p w) (hgoals : GoalsSent w)
    (t : Time) : Leads (fun _ => Stands (.task .requestTask) fun w => Rested [] w ∧ Owes all ids w)
      t ⟨p.path, w⟩ := by
  have docked : Leads (fun _ => Stands .charging (Docked all ids)) t ⟨p.path, w⟩ := by
    cases p with
    | charger => exact Roams.docks_charger ⟨hcoherent, h⟩ (hgoals .toCharger) t
    | charging =>
      refine (charges_full hcoherent h t).trans ?_
      rintro t ⟨_, w'⟩ ⟨rfl, hroams, -⟩
      exact hroams.docks (p := .idle) trivial t
    | idle => exact Roams.docks (p := .idle) ⟨hcoherent, h⟩ trivial t
    | task pt => exact Roams.docks (p := .task pt) ⟨hcoherent, h⟩ trivial t
  refine docked.trans ?_
  rintro t ⟨_, w'⟩ ⟨rfl, hdocked⟩
  exact hdocked.home t

end

theorem home_of_stands {w₀ : World} {s : State} (h : Stands (.task .requestTask) (fun w =>
    Rested [] w ∧ Owes (completed w₀.trace ++ held w₀.node)
      (publishedIds w₀.trace ++ (held w₀.node).map Delivery.id) w) s) : Home w₀ s := by
  obtain ⟨htree, hrested, ho⟩ := h
  have hheld := hrested.held
  refine ⟨?_, hrested.fsm, hrested.isMoving, hrested.isCharging, hrested.soc, hheld, ?_, ?_⟩
  · rw [State.running, htree]
    exact Pos.leafAt_path (p := .task .requestTask) trivial
  · simpa [hheld] using ho.completed
  · simpa [hheld] using ho.published

/-- A run of a robot can be brought home. -/
theorem home_leads (c : Config) (es : List Event) (t : Time) :
    Leads (fun _ => Home (c.run es).world) t (c.run es) := by
  obtain ⟨-, htree, hcoherent⟩ := (coherent_run c es).pos
  have horder : InOrder (c.run es).world :=
    inOrder_inv.run (s := c.init) ⟨by simp [Config.init, completed, held], .inl rfl, rfl⟩
  have hs : c.run es = ⟨(c.run es).pos.path, (c.run es).world⟩ := by rw [← htree]
  rw [hs]
  refine (Owes.home ⟨rfl, rfl, horder.notBoth⟩ hcoherent (goalsSent_run c es) t).trans ?_
  exact fun _ _ h => .here (home_of_stands h)

/-- **A robot can always come home**, from any state of any run, with nobody's help but that of
its action servers: they accept its goals and succeed with them. It completes the tasks it held,
each once and in order, and waits in IDLE, with charge enough, for the next. -/
theorem home_reachable (c : Config) (es : List Event) (t : Time) :
    ∃ fs, Run.Along step Helps (c.run es) fs ∧ (t :: fs.filterMap Event.clock).Pairwise (· ≤ ·) ∧
      Home (c.run es).world (c.run (es ++ fs)) := by
  obtain ⟨fs, -, hhelps, htimes, hhome⟩ := (home_leads c es t).exists_run
  have hrun : c.run (es ++ fs) = Run.run step (c.run es) fs := Run.run_append ..
  exact ⟨fs, hhelps, htimes, hrun ▸ hhome⟩

end RobotAgent
