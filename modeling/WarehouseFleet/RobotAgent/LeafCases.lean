import WarehouseFleet.RobotAgent.Leaves

/-!
# What a leaf callback can do

One inversion lemma for each callback that branches. They say everything the callback does, so
that no later proof unfolds it.
-/

namespace RobotAgent

open BehaviorTree (NodeStatus)
open Fms

variable (e : TickEnv) (w : World)

@[simp] theorem returns_fst (l : Leaf) (f : World → NodeStatus × World) :
    (returns l f w).1 = (f w).1 := rfl

@[simp] theorem returns_snd (l : Leaf) (f : World → NodeStatus × World) :
    (returns l f w).2 = (f w).2.emit (.returned l (f w).1) := rfl

theorem ChargeBattery.onRunning_cases :
    (95 ≤ w.node.battery.soc ∧ ChargeBattery.onRunning w =
      (.success, { w with node := { w.node with isCharging := false } }.post .chargeBattery
        .batteryFull)) ∨
    (w.node.battery.soc < 95 ∧ ChargeBattery.onRunning w = (.running, w)) := by
  by_cases h : 95 ≤ w.node.battery.soc
  · exact Or.inl ⟨h, by simp [onRunning, BatteryModel.isFull, BatteryModel.fullThreshold, h]⟩
  · exact Or.inr ⟨not_le.mp h, by
      simp [onRunning, BatteryModel.isFull, BatteryModel.fullThreshold, h]⟩

namespace NavigateToPose

variable (n : NavNode)

theorem onStart_cases :
    (onStart e n w = (.failure, w) ∧ (w.goalPort n = none ∨ e.navReady n = false)) ∨
    (∃ goal, w.goalPort n = some goal ∧ e.navReady n = true ∧
      onStart e n w = (.running, send e n goal w)) := by
  unfold onStart
  cases w.goalPort n with
  | none => exact Or.inl ⟨rfl, Or.inl rfl⟩
  | some goal =>
    by_cases h : e.navReady n
    · exact Or.inr ⟨goal, rfl, h, by simp [h]⟩
    · exact Or.inl ⟨by simp [h], Or.inr (by simpa using h)⟩

/-- What `onRunning` may find, and what it does then. -/
inductive Runs : NodeStatus × World → Prop where
  | fault (hf : w.node.faultInjected = true) : Runs
      (.failure, (onHalted n w.clearFault).post (.navigateToPose n) .faultInjected)
  | gone (hf : w.node.faultInjected = false) (hs : w.nav n = none) : Runs (.failure, w)
  | waiting (s : NavState) (hf : w.node.faultInjected = false) (hs : w.nav n = some s)
      (hr : s.responseReceived = false ∨ s.goalAccepted = true ∧ s.resultReceived = false) :
      Runs (.running, w)
  | rejected (s : NavState) (hf : w.node.faultInjected = false) (hs : w.nav n = some s)
      (hr : s.responseReceived = true) (ha : s.goalAccepted = false) :
      Runs (.failure, finish n .navFailed w)
  | reached (s : NavState) (hf : w.node.faultInjected = false) (hs : w.nav n = some s)
      (hr : s.responseReceived = true) (ha : s.goalAccepted = true)
      (hd : s.resultReceived = true) (hc : s.resultCode = .succeeded) :
      Runs (.success, finish n .navSucceeded w)
  | missed (s : NavState) (hf : w.node.faultInjected = false) (hs : w.nav n = some s)
      (hr : s.responseReceived = true) (ha : s.goalAccepted = true)
      (hd : s.resultReceived = true) (hc : s.resultCode ≠ .succeeded) :
      Runs (.failure, finish n .navFailed w)

theorem runs : Runs w n (onRunning n w) := by
  unfold onRunning
  split
  · next hf => exact .fault hf
  · next hf =>
    replace hf : w.node.faultInjected = false := by simpa using hf
    split
    · next hs => exact .gone hf hs
    · next s hs =>
      split
      · next hr => exact .waiting s hf hs (Or.inl (by simpa using hr))
      · next hr =>
        split
        · next ha => exact .rejected s hf hs (by simpa using hr) (by simpa using ha)
        · next ha =>
          replace hr : s.responseReceived = true := by simpa using hr
          replace ha : s.goalAccepted = true := by simpa using ha
          split
          · next hd => exact .waiting s hf hs (Or.inr ⟨ha, by simpa using hd⟩)
          · next hd =>
            replace hd : s.resultReceived = true := by simpa using hd
            split
            · next hc => exact .reached s hf hs hr ha hd hc
            · next hc => exact .missed s hf hs hr ha hd hc

@[simp] theorem onHalted_nav : (onHalted n w).nav = Function.update w.nav n none := rfl

@[simp] theorem send_nav (goal : PoseStamped) : (send e n goal w).nav =
    Function.update w.nav n (some { goal := w.nextGoal }) := rfl

theorem send_trace (goal : PoseStamped) : (send e n goal w).trace = w.trace ++
    [.navGoal n w.nextGoal { goal with stamp := e.now }, .posted (.navigateToPose n) .navStarted] :=
  List.append_assoc ..

variable {w n} {r : NodeStatus × World}

/-- A navigation that goes on changes nothing. -/
theorem Runs.eq_of_running (h : Runs w n r) (hr : r.1 = .running) : r.2 = w := by
  cases h with
  | waiting => rfl
  | _ => cases hr

theorem Runs.recov (h : Runs w n r) : r.2.recov = w.recov := by cases h <;> rfl

theorem Runs.exec (h : Runs w n r) : r.2.exec = w.exec := by cases h <;> rfl

/-- A navigation leaves the other nodes alone. -/
theorem Runs.nav_of_ne (h : Runs w n r) {n' : NavNode} (hn : n' ≠ n) : r.2.nav n' = w.nav n' := by
  cases h with
  | fault => exact Function.update_of_ne hn _ _
  | _ => rfl

end NavigateToPose

namespace RequestTask

section
variable (d : Delivery)

@[simp] theorem take_currentTask : (take e d w).node.currentTask = some d := rfl
@[simp] theorem take_pendingTasks :
    (take e d w).node.pendingTasks = w.node.pendingTasks := rfl
@[simp] theorem take_interruptedTask :
    (take e d w).node.interruptedTask = w.node.interruptedTask := rfl
theorem take_trace :
    (take e d w).trace = w.trace ++ [.dequeued d, .posted .requestTask .taskReceived] :=
  List.append_assoc ..

end

/-- What `onRunning` may find, and what it does then. -/
inductive Runs : NodeStatus × World → Prop where
  | waiting (hi : w.node.interruptedTask = none) (hp : w.node.pendingTasks = []) :
      Runs (.running, w)
  | resumed (d : Delivery) (hi : w.node.interruptedTask = some d) :
      Runs (.success, take e d { w with node := { w.node with interruptedTask := none } })
  | next (d : Delivery) (ds : List Delivery) (hi : w.node.interruptedTask = none)
      (hp : w.node.pendingTasks = d :: ds) :
      Runs (.success, take e d { w with node := { w.node with pendingTasks := ds } })

theorem runs : Runs e w (onRunning e w) := by
  cases hi : w.node.interruptedTask with
  | some d =>
    have h : takeTask w.node = (some d, { w.node with interruptedTask := none }) := by
      simp only [takeTask, hi]
    rw [onRunning, h]
    exact .resumed d hi
  | none =>
    cases hp : w.node.pendingTasks with
    | nil =>
      have h : takeTask w.node = (none, w.node) := by simp only [takeTask, hi, hp]
      rw [onRunning, h]
      exact .waiting hi hp
    | cons d ds =>
      have h : takeTask w.node = (some d, { w.node with pendingTasks := ds }) := by
        simp only [takeTask, hi, hp]
      rw [onRunning, h]
      exact .next d ds hi hp

end RequestTask

theorem ReportStatus.tick_trace : (ReportStatus.tick e w).2.trace = w.trace ++
    [.completion w.node.currentTask (ReportStatus.message e w),
      .posted .reportStatus .reportSent] :=
  List.append_assoc ..

namespace ExecutePickDrop

variable (leg : Leg)

/-- What `onRunning` may find, and what it does then. -/
inductive Runs : NodeStatus × World → Prop where
  | waiting (hw : elapsed e leg w = false) : Runs (.running, w)
  | picked (hl : leg = .pick) (hw : elapsed e leg w = true) :
      Runs (.success, w.post (.executePickDrop leg) .executionDone)
  | dropped (hl : leg = .drop) (hw : elapsed e leg w = true) : Runs (.success, w)

theorem runs : Runs e w leg (onRunning e leg w) := by
  unfold onRunning
  cases hw : elapsed e leg w with
  | false => exact .waiting hw
  | true =>
    cases leg with
    | pick => exact .picked rfl hw
    | drop => exact .dropped rfl hw

end ExecutePickDrop

namespace RequestRecovery

variable (leg : Leg)

/-- The spin or the backup that the node waits for has failed. -/
def attemptLost : Prop :=
  ((w.recov leg).phase = .spin ∧ ∃ st, (w.recov leg).spinState = some st ∧
    st.resultReceived = true ∧ st.resultSuccess = false) ∨
  ((w.recov leg).phase = .backup ∧ ∃ st, (w.recov leg).backupState = some st ∧
    st.resultReceived = true ∧ st.resultSuccess = false)

/-- What `onRunning` may find, and what it does then. -/
inductive Runs : NodeStatus × World → Prop where
  | waiting (hp : (w.recov leg).phase = .spin ∨ (w.recov leg).phase = .backup) :
      Runs (.running, w)
  | spun (st : RecovState) (hp : (w.recov leg).phase = .spin)
      (hs : (w.recov leg).spinState = some st) (hr : st.resultReceived = true) :
      Runs (.running, startBackup e leg (set leg { w.recov leg with phase := .backup } w))
  | backedUp (st : RecovState) (hp : (w.recov leg).phase = .backup)
      (hs : (w.recov leg).backupState = some st) (hr : st.resultReceived = true) :
      Runs (.running, set leg { w.recov leg with phase := .done } w)
  | lost (hl : attemptLost w leg) : Runs (.running, attemptFailed e leg 3 w)
  | done (hp : (w.recov leg).phase = .done) :
      Runs (.success, w.post (.requestRecovery leg) .recoveryDone)
  | failed (hp : (w.recov leg).phase = .failed) :
      Runs (.failure, w.post (.requestRecovery leg) .recoveryFailed)

theorem runs : Runs e w leg (onRunning e leg 3 w) := by
  unfold onRunning
  split
  · next hp =>
    split
    · exact .waiting (Or.inl hp)
    · next st hs =>
      cases hr : st.resultReceived with
      | false => exact .waiting (Or.inl hp)
      | true =>
        cases hg : st.resultSuccess with
        | true => exact .spun st hp hs hr
        | false => exact .lost (Or.inl ⟨hp, st, hs, hr, hg⟩)
  · next hp =>
    split
    · exact .waiting (Or.inr hp)
    · next st hs =>
      cases hr : st.resultReceived with
      | false => exact .waiting (Or.inr hp)
      | true =>
        cases hg : st.resultSuccess with
        | true => exact .backedUp st hp hs hr
        | false => exact .lost (Or.inr ⟨hp, st, hs, hr, hg⟩)
  · next hp => exact .done hp
  · next hp => exact .failed hp

/-! Recovery moves nothing but its own state, and sends goals. -/

@[simp] theorem set_node (r : RequestRecovery) : (set leg r w).node = w.node := rfl
@[simp] theorem set_nav (r : RequestRecovery) : (set leg r w).nav = w.nav := rfl
@[simp] theorem set_exec (r : RequestRecovery) : (set leg r w).exec = w.exec := rfl
@[simp] theorem set_nextGoal (r : RequestRecovery) : (set leg r w).nextGoal = w.nextGoal := rfl
@[simp] theorem set_trace (r : RequestRecovery) : (set leg r w).trace = w.trace := rfl
@[simp] theorem set_recov (r : RequestRecovery) :
    (set leg r w).recov = Function.update w.recov leg r := rfl

@[simp] theorem startSpin_node : (startSpin e leg w).node = w.node := by
  unfold startSpin; split <;> rfl

@[simp] theorem startSpin_nav : (startSpin e leg w).nav = w.nav := by
  unfold startSpin; split <;> rfl

@[simp] theorem startSpin_exec : (startSpin e leg w).exec = w.exec := by
  unfold startSpin; split <;> rfl

@[simp] theorem startBackup_node : (startBackup e leg w).node = w.node := by
  unfold startBackup; split <;> rfl

@[simp] theorem attemptFailed_node (m : Int) : (attemptFailed e leg m w).node = w.node := by
  dsimp only [attemptFailed]; split <;> simp

end RequestRecovery

end RobotAgent
