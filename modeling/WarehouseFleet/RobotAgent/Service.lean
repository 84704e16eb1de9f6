import Mathlib.Data.Rat.Floor
import WarehouseFleet.RobotAgent.MotionFlag
import WarehouseFleet.RobotAgent.TaskOrder
import WarehouseFleet.RobotAgent.Ticks
import WarehouseFleet.RobotAgent.View

/-!
# A robot that is helped

`Leads`: what a robot can get to when the servers do their part. A robot that is `Rested`, and has
charge enough, serves the tasks that wait for it, each from `RequestTask` to `ReportStatus`
(`Rested.serves_all`). `Owes` keeps the account: what is done and what is held stay the same in
all, so no task is lost on the way, and none is done twice.
-/

namespace RobotAgent

open BehaviorTree
open Fms

/-! ## What the environment does -/

/-- All action servers are ready. -/
def TickEnv.ready (now : Time) : TickEnv where
  now := now
  stampNow := now
  reportNow := now
  navReady _ := true
  spinReady := true
  backupReady := true

/-- The time a callback reads. -/
def Event.clock : Event → Option Time
  | .btTick e => some e.now
  | .batteryUpdate now => some now
  | .statusPublish now _ => some now
  | _ => none

/-- The environment helps: the servers are ready; a goal that a node waits for is accepted, and
then reached. Nobody has a task for the robot, or a fault. -/
def Helps (s : State) : Event → Prop
  | .taskAssignment _ => False
  | .btTick e => e = .ready e.now
  | .batteryUpdate _ => True
  | .statusPublish _ _ => True
  | .injectFault _ => False
  | .goalResponse g accepted => accepted = true ∧ ∃ n st, s.world.nav n = some st ∧ st.goal = g ∧
      st.responseReceived = false
  | .goalResult g code => code = .succeeded ∧ ∃ n st, s.world.nav n = some st ∧ st.goal = g ∧
      st.goalAccepted = true ∧ st.resultReceived = false

/-- With such an environment, and a clock that goes on from a time, a robot can get there. -/
abbrev Leads (P : Time → State → Prop) : Time → State → Prop :=
  Run.Leads step Event.clock Helps P

/-! ## Time enough -/

theorem exists_later (t t₀ : Time) (secs : ℚ) : ∃ t' : Time, t ≤ t' ∧ secs ≤ seconds (t' - t₀) := by
  refine ⟨max t (t₀ + ⌈secs * 1000000000⌉), le_max_left _ _, ?_⟩
  have hlater : ⌈secs * 1000000000⌉ ≤ max t (t₀ + ⌈secs * 1000000000⌉) - t₀ :=
    le_sub_iff_add_le'.mpr (le_max_right _ _)
  rw [seconds, le_div_iff₀ (by norm_num)]
  exact (Int.le_ceil _).trans (Int.cast_le.mpr hlater)

/-! ## What the robot owes -/

/-- Nothing in the node but the FSM and the two flags, and nothing about tasks in the trace. -/
def duty : View RobotAgentNode where
  node node := { node with fsm := .idle, isMoving := false, isCharging := false }
  sees := Obs.aboutTasks

theorem duty_aside : duty.Aside where
  node _ _ _ _ := rfl
  posted _ _ _ := rfl
  returned _ _ _ := rfl
  halted _ := rfl
  cancel _ := rfl
  chargerGoal _ _ := rfl
  spinGoal _ _ _ := rfl
  backUpGoal _ _ _ := rfl

section
variable {w w' : World}

theorem duty_slots (h : duty.Same w w') : SameSlots w w' where
  pending := congrArg (·.pendingTasks) h.node
  current := congrArg (·.currentTask) h.node
  interrupted := congrArg (·.interruptedTask) h.node
  pickPose := congrArg (·.pickPose) h.node
  dropPose := congrArg (·.dropPose) h.node
  trace := h.trace

theorem duty_battery (h : duty.Same w w') : w'.node.battery = w.node.battery :=
  congrArg (·.battery) h.node

theorem duty_fault (h : duty.Same w w') : w'.node.faultInjected = w.node.faultInjected :=
  congrArg (·.faultInjected) h.node

theorem duty_send (e : TickEnv) (n : NavNode) (goal : PoseStamped) (w : World) :
    duty.Same w (NavigateToPose.send e n goal w) :=
  ⟨rfl, _, NavigateToPose.send_trace .., by simp [duty, Obs.aboutTasks]⟩

end

/-- The tasks that are done and those that are held make up `all`, and so do the ids. -/
structure Owes (all : List Delivery) (ids : List String) (w : World) : Prop where
  completed : completed w.trace ++ held w.node = all
  published : publishedIds w.trace ++ (held w.node).map Delivery.id = ids
  notBoth : w.node.currentTask = none ∨ w.node.interruptedTask = none

section
variable {all : List Delivery} {ids : List String} {e : TickEnv} {w w' : World}

theorem Owes.slots (h : Owes all ids w) (hs : SameSlots w w') : Owes all ids w' := by
  refine ⟨?_, ?_, ?_⟩
  · rw [hs.completed, hs.held]
    exact h.completed
  · rw [hs.publishedIds, hs.held]
    exact h.published
  · rw [hs.current, hs.interrupted]
    exact h.notBoth

theorem Owes.same (h : Owes all ids w) (hs : duty.Same w w') : Owes all ids w' :=
  h.slots (duty_slots hs)

theorem Owes.batteryUpdate (h : Owes all ids w) (now : Time) :
    Owes all ids (batteryUpdateCb now w) := by
  refine batteryUpdateCb_keeps (fun _ _ hs h => h.slots hs) ?_ now w h
  intro d w w' hs h
  refine ⟨?_, ?_, .inl hs.current⟩
  · rw [hs.trace, hs.held]
    exact h.completed
  · rw [hs.trace, hs.held]
    exact h.published

/-- The next task is taken; the robot has had none in hand. -/
theorem Owes.take {r : NodeStatus × World} (h : Owes all ids w) (hnone : w.node.currentTask = none)
    (hr : RequestTask.Runs e w r) : Owes all ids r.2 ∧ held r.2.node = held w.node := by
  have hheld : held r.2.node = held w.node := by
    cases hr with
    | waiting => rfl
    | resumed d hi => simp [held, hnone, hi]
    | next d ds hi hp => simp [held, hnone, hi, hp]
  refine ⟨⟨?_, ?_, ?_⟩, hheld⟩
  · rw [hheld, ← h.completed]
    cases hr <;> simp
  · rw [hheld, ← h.published]
    cases hr <;> simp
  · cases hr with
    | waiting => exact h.notBoth
    | resumed d hi => exact .inr rfl
    | next d ds hi hp => exact .inr hi

/-- The task in hand is reported. -/
theorem Owes.report (h : Owes all ids w) {d : Delivery} (hd : w.node.currentTask = some d) :
    Owes all ids (ReportStatus.tick e w).2 := by
  refine ⟨?_, ?_, .inl rfl⟩
  · rw [completed_report, held_report, ← h.completed, held, hd]
    simp
  · rw [publishedIds_report, held_report, ← h.published, held, hd]
    simp [ReportStatus.message, hd, Delivery.id]

end

/-! ## A task is served -/

/-- The tree stands at a position, in such a world. -/
def Stands (p : Pos) (Q : World → Prop) (s : State) : Prop := s.tree = p.path ∧ Q s.world

/-- The robot is free, and these tasks wait for it. -/
structure Rested (waiting : List Delivery) (w : World) : Prop where
  fsm : w.node.fsm = .idle
  isMoving : w.node.isMoving = false
  isCharging : w.node.isCharging = false
  soc : 20 ≤ w.node.battery.soc
  fault : w.node.faultInjected = false
  current : w.node.currentTask = none
  held : held w.node = waiting

/-- The robot has this task in hand, and nothing is in its way. -/
structure Serves (d : Delivery) (waiting : List Delivery) (w : World) : Prop where
  soc : 20 ≤ w.node.battery.soc
  fault : w.node.faultInjected = false
  current : w.node.currentTask = some d
  held : held w.node = d :: waiting
  pickPose : w.node.pickPose ≠ none
  dropPose : w.node.dropPose ≠ none

/-- It is on its way to a leg of the task. -/
structure Drives (leg : Leg) (d : Delivery) (waiting : List Delivery) (w : World) : Prop where
  serves : Serves d waiting w
  fsm : w.node.fsm = .navigating
  isCharging : w.node.isCharging = false
  goal : ∃ g < w.nextGoal, w.nav (.to leg) = some { goal := g }

/-- It is at work there. -/
structure Handles (d : Delivery) (waiting : List Delivery) (w : World) : Prop where
  serves : Serves d waiting w
  fsm : w.node.fsm = .executing
  isMoving : w.node.isMoving = false
  isCharging : w.node.isCharging = false

section
variable {all : List Delivery} {ids : List String} {d : Delivery} {waiting : List Delivery}
  {leg : Leg} {e : TickEnv} {t t' : Time} {s : State} {w w' : World}

theorem Leads.tick {p : Pos} {Q : World → Prop} (ht : t ≤ t')
    (h : btTickCb (.ready t') s = ⟨p.path, w'⟩) (hQ : Q w') :
    Leads (fun _ => Stands p Q) t s := by
  refine .timed (.btTick (.ready t')) rfl ht rfl (.here ?_)
  rw [step, h]
  exact ⟨rfl, hQ⟩

theorem Serves.same (h : Serves d waiting w) (hs : duty.Same w w') : Serves d waiting w' := by
  have hslots := duty_slots hs
  refine ⟨?_, ?_, ?_, ?_, ?_, ?_⟩
  · rw [duty_battery hs]
    exact h.soc
  · rw [duty_fault hs]
    exact h.fault
  · rw [hslots.current]
    exact h.current
  · rw [hslots.held]
    exact h.held
  · rw [hslots.pickPose]
    exact h.pickPose
  · rw [hslots.dropPose]
    exact h.dropPose

theorem Serves.goalPort (h : Serves d waiting w) (leg : Leg) :
    ∃ goal, w.goalPort (.to leg) = some goal := by
  cases leg with
  | pick => exact Option.ne_none_iff_exists'.mp h.pickPose
  | drop => exact Option.ne_none_iff_exists'.mp h.dropPose

/-- The robot sets off to a leg. -/
theorem Serves.sets_off (h : Serves d waiting w) (ho : Owes all ids w) (leg : Leg) (t : Time)
    (hfsm : (process w.node.fsm .navStarted).1 = .navigating)
    (hcharging : w.node.isCharging = false) :
    ∃ w', (sem (.ready t) (.navigateToPose (.to leg))).onStart w = (.running, w') ∧
      Drives leg d waiting w' ∧ Owes all ids w' := by
  obtain ⟨goal, hgoal⟩ := h.goalPort leg
  have hsame : duty.Same w ((NavigateToPose.send (.ready t) (.to leg) goal w).emit
      (.returned (.navigateToPose (.to leg)) .running)) := (duty_send ..).emit rfl
  refine ⟨_, ?_, ⟨h.same hsame, hfsm, hcharging, w.nextGoal, Nat.lt_succ_self _, ?_⟩, ho.same hsame⟩
  · simp [sem, returns, NavigateToPose.onStart, hgoal, TickEnv.ready]
  · simp

/-- `RequestTask` takes the first task that waits. -/
theorem takes_of {r : NodeStatus × World} (hr : RequestTask.Runs e w r)
    (hnone : w.node.currentTask = none) (hheld : held w.node = d :: waiting) :
    ∃ interrupted pending, r = (.success, RequestTask.take e d { w with node := { w.node with
      interruptedTask := interrupted, pendingTasks := pending } }) := by
  cases hr with
  | waiting hi hp => simp [held, hnone, hi, hp] at hheld
  | resumed d' hi =>
    simp only [held, hnone, hi, Option.toList, List.nil_append, List.cons_append] at hheld
    obtain ⟨rfl, -⟩ := List.cons.inj hheld
    exact ⟨_, _, rfl⟩
  | next d' ds hi hp =>
    simp only [held, hnone, hi, hp, Option.toList, List.nil_append] at hheld
    obtain ⟨rfl, -⟩ := List.cons.inj hheld
    exact ⟨_, _, rfl⟩

/-- A free robot takes a task, and is on its way in the same tick. -/
theorem Rested.takes (h : Rested (d :: waiting) w) (ho : Owes all ids w) (t : Time) :
    Leads (fun _ => Stands (.task (.nav .pick 0)) fun w =>
      Drives .pick d waiting w ∧ Owes all ids w) t ⟨none, w⟩ := by
  let w₁ := w.emit (.returned .batteryOK .success)
  have ho₁ : Owes all ids w₁ := ho.same ((View.Same.refl w).emit rfl)
  have hr := RequestTask.runs (.ready t) w₁
  obtain ⟨ho₂, hheld⟩ := ho₁.take h.current hr
  obtain ⟨interrupted, pending, htook⟩ := takes_of hr h.current h.held
  rw [htook] at ho₂ hheld
  generalize hw₂ : (RequestTask.take (.ready t) d { w₁ with node := { w₁.node with
    interruptedTask := interrupted, pendingTasks := pending } }) = w₂ at htook ho₂ hheld
  have hserves : Serves d waiting w₂ := by
    subst hw₂
    exact ⟨h.soc, h.fault, rfl, hheld.trans h.held, by simp [RequestTask.take],
      by simp [RequestTask.take]⟩
  have hreturned : duty.Same w₂ (w₂.emit (.returned .requestTask .success)) :=
    (View.Same.refl w₂).emit rfl
  have hfsm : w₂.node.fsm = .assigned := by
    subst hw₂
    show (process w.node.fsm .taskReceived).1 = _
    rw [h.fsm]
    rfl
  obtain ⟨w', hsent, hdrives, ho'⟩ := (hserves.same hreturned).sets_off (ho₂.same hreturned) .pick t
    (by rw [World.emit_node, hfsm]; rfl) (by subst hw₂; exact h.isCharging)
  have htake : (sem (.ready t) .requestTask).onStart w₁ =
      (.success, w₂.emit (.returned .requestTask .success)) := by
    simp [sem, returns, RequestTask.onStart, htook]
  exact .tick le_rfl (btTick_task (p := .idle) trivial h.soc (tickTask_takes htake hsent))
    ⟨hdrives, ho'⟩

/-- What a `NavigateToPose` node knows of goal `g` when it has been reached. -/
def NavState.reached (g : Nat) : NavState where
  goal := g
  responseReceived := true
  goalAccepted := true
  resultReceived := true
  resultCode := .succeeded
  goalHandle := some g

theorem goalResponse_same (g : Nat) (accepted : Bool) (w : World) :
    duty.Same w (goalResponse g accepted w) := ⟨rfl, [.response g accepted], rfl, by simp [duty,
      Obs.aboutTasks]⟩

theorem goalResult_same (g : Nat) (code : ResultCode) (w : World) :
    duty.Same w (goalResult g code w) := ⟨rfl, [.result g code], rfl, by simp [duty,
      Obs.aboutTasks]⟩

/-- A goal that has just been sent is accepted, and reached. -/
theorem Leads.reached {P : Time → State → Prop} {n : NavNode} {g : Nat}
    (hn : s.world.nav n = some { goal := g }) (hg : g < s.world.nextGoal)
    (h : ∀ w', duty.Same s.world w' → w'.node = s.world.node → w'.nextGoal = s.world.nextGoal →
      w'.nav n = some (.reached g) → Leads P t ⟨s.tree, w'⟩) : Leads P t s := by
  have hresponse : step s (.goalResponse g true) = ⟨s.tree, goalResponse g true s.world⟩ := by
    rw [step, if_pos hg]
  have hresult : step ⟨s.tree, goalResponse g true s.world⟩ (.goalResult g .succeeded) =
      ⟨s.tree, goalResult g .succeeded (goalResponse g true s.world)⟩ := by
    rw [step, if_pos (show g < (goalResponse g true s.world).nextGoal from hg)]
  refine .quiet (.goalResponse g true) rfl ⟨rfl, n, _, hn, rfl, rfl⟩ ?_
  rw [hresponse]
  refine .quiet (.goalResult g .succeeded) rfl ⟨rfl, n, (NavState.onResponse g true { goal := g }),
    ?_, ?_, ?_, ?_⟩ ?_
  · simp [goalResponse, hn]
  · simp [NavState.onResponse]
  · simp [NavState.onResponse]
  · simp [NavState.onResponse]
  · rw [hresult]
    refine h _ ((goalResponse_same ..).trans (goalResult_same ..)) rfl rfl ?_
    simp [goalResult, goalResponse, hn, NavState.onResponse, NavState.onResult, NavState.reached]

/-- The navigation has come to its end, and it is a good one. -/
theorem onRunning_reached {n : NavNode} {g : Nat} (hf : w.node.faultInjected = false)
    (hn : w.nav n = some (.reached g)) :
    NavigateToPose.onRunning n w = (.success, NavigateToPose.finish n .navSucceeded w) := by
  simp [NavigateToPose.onRunning, hf, hn, NavState.reached]

theorem Drives.arrives (h : Drives leg d waiting w) (ho : Owes all ids w) (t : Time) :
    Leads (fun _ => Stands (.task (.exec leg)) fun w => Handles d waiting w ∧ Owes all ids w) t
      ⟨(Pos.task (.nav leg 0)).path, w⟩ := by
  obtain ⟨g, hg, hn⟩ := h.goal
  refine .reached hn hg fun w' hs hnode _ hn' => ?_
  let w₁ := w'.emit (.returned .batteryOK .success)
  let w₂ := (NavigateToPose.finish (.to leg) .navSucceeded w₁).emit
    (.returned (.navigateToPose (.to leg)) .success)
  have hserves : Serves d waiting w₁ := h.serves.same (hs.emit rfl)
  have hdone : duty.Same w₁ w₂ := (duty_aside.finish (by decide)).emit rfl
  have hstarted : duty.Same w₂
      (returns (.executePickDrop leg) (ExecutePickDrop.onStart (.ready t) leg) w₂).2 :=
    duty_aside.execStart
  have hall := ((hs.emit (o := .returned .batteryOK .success) rfl).trans hdone).trans hstarted
  have harrives : (sem (.ready t) (.navigateToPose (.to leg))).onRunning w₁ = (.success, w₂) := by
    simp only [sem, returns, onRunning_reached (w := w₁) hserves.fault hn', w₂]
  have hsoc : 20 ≤ w'.node.battery.soc := hserves.soc
  refine .tick le_rfl (btTick_task (p := .task (.nav leg 0)) trivial hsoc
    (tickTask_arrives harrives rfl)) ⟨⟨h.serves.same hall, ?_, rfl, ?_⟩, ho.same hall⟩
  · show (process w'.node.fsm .navSucceeded).1 = _
    rw [hnode, h.fsm]
    rfl
  · show w'.node.isCharging = false
    rw [hnode, h.isCharging]

/-- After the pick the robot sets off to the drop. -/
theorem Handles.picks (h : Handles d waiting w) (ho : Owes all ids w) (t : Time) :
    Leads (fun _ => Stands (.task (.nav .drop 0)) fun w =>
      Drives .drop d waiting w ∧ Owes all ids w) t ⟨(Pos.task (.exec .pick)).path, w⟩ := by
  obtain ⟨t', ht, helapsed⟩ := exists_later t (w.exec .pick).startTime (w.exec .pick).durationSecs
  let w₁ := w.emit (.returned .batteryOK .success)
  let w₂ := (w₁.post (.executePickDrop .pick) .executionDone).emit
    (.returned (.executePickDrop .pick) .success)
  have hpicked : (sem (.ready t') (.executePickDrop .pick)).onRunning w₁ = (.success, w₂) := by
    have : ExecutePickDrop.elapsed (.ready t') .pick w₁ = true := decide_eq_true helapsed
    simp [sem, returns, ExecutePickDrop.onRunning, this, w₂]
  have hsame : duty.Same w w₂ :=
    (duty_aside.post ((View.Same.refl w).emit rfl) _ (by decide)).emit rfl
  obtain ⟨w', hsent, hdrives, ho'⟩ := (h.serves.same hsame).sets_off (ho.same hsame) .drop t'
    (by
      show (process (process w.node.fsm .executionDone).1 .navStarted).1 = _
      rw [h.fsm]
      rfl) h.isCharging
  exact .tick ht (btTick_task (p := .task (.exec .pick)) trivial h.serves.soc
    (tickTask_picked hpicked hsent)) ⟨hdrives, ho'⟩

/-- After the drop it reports, and is free. -/
theorem Handles.drops (h : Handles d waiting w) (ho : Owes all ids w) (t : Time) :
    Leads (fun _ => Stands .idle fun w => Rested waiting w ∧ Owes all ids w) t
      ⟨(Pos.task (.exec .drop)).path, w⟩ := by
  obtain ⟨t', ht, helapsed⟩ := exists_later t (w.exec .drop).startTime (w.exec .drop).durationSecs
  let w₁ := w.emit (.returned .batteryOK .success)
  let w₂ := w₁.emit (.returned (.executePickDrop .drop) .success)
  have hdropped : (sem (.ready t') (.executePickDrop .drop)).onRunning w₁ = (.success, w₂) := by
    have : ExecutePickDrop.elapsed (.ready t') .drop w₁ = true := decide_eq_true helapsed
    simp [sem, returns, ExecutePickDrop.onRunning, this, w₂]
  have hsame : duty.Same w w₂ := ((View.Same.refl w).emit rfl).emit rfl
  have ho' : Owes all ids (returns .reportStatus (ReportStatus.tick (.ready t')) w₂).2 :=
    ((ho.same hsame).report (h.serves.same hsame).current).same ((View.Same.refl _).emit rfl)
  refine .tick ht (btTick_task (p := .task (.exec .drop)) trivial h.serves.soc
    (tickTask_dropped hdropped rfl)) ⟨⟨?_, h.isMoving, h.isCharging, h.serves.soc, h.serves.fault,
      rfl, ?_⟩, ho'⟩
  · show (process w.node.fsm .reportSent).1 = _
    rw [h.fsm]
    rfl
  · have hheld := h.serves.held
    rw [held, h.serves.current] at hheld
    show held (ReportStatus.tick (.ready t') w₂).2.node = _
    rw [held_report]
    exact (List.cons.inj hheld).2

/-- One task after the other, until none is left. -/
theorem Rested.serves_all (h : Rested waiting w) (ho : Owes all ids w) (t : Time) :
    Leads (fun _ => Stands .idle fun w => Rested [] w ∧ Owes all ids w) t ⟨none, w⟩ := by
  induction waiting generalizing w t with
  | nil => exact .here ⟨rfl, h, ho⟩
  | cons d waiting ih =>
    refine (h.takes ho t).trans ?_
    rintro t ⟨_, w⟩ ⟨rfl, hdrives, ho⟩
    refine (hdrives.arrives ho t).trans ?_
    rintro t ⟨_, w⟩ ⟨rfl, hhandles, ho⟩
    refine (hhandles.picks ho t).trans ?_
    rintro t ⟨_, w⟩ ⟨rfl, hdrives, ho⟩
    refine (hdrives.arrives ho t).trans ?_
    rintro t ⟨_, w⟩ ⟨rfl, hhandles, ho⟩
    refine (hhandles.drops ho t).trans ?_
    rintro t ⟨_, w⟩ ⟨rfl, hrested, ho⟩
    exact ih hrested ho t

end

end RobotAgent
