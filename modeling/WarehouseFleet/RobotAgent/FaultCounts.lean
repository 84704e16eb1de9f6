import WarehouseFleet.RobotAgent.Faults

/-!
# How many navigations the injected faults fail

`fault_injected_` is one flag, so calls that come before the flag is consumed share one failure.
The navigations that failed by a fault, with the failure that is still to come, are at most as
many as the calls of `inject_fault(true)`: only these calls set the flag, and the navigation that
fails by it clears it. That it may be a call that was to be cleared (`Faults`) changes nothing
here.
-/

namespace RobotAgent

open BehaviorTree
open Fms

def faultMarks (tr : List Obs) : List FaultMark := tr.filterMap Obs.faultMark

/-- The calls of `inject_fault` with this value. -/
def injections (value : Bool) (tr : List Obs) : Nat := (faultMarks tr).count (.call value)

/-- The navigations that failed by a fault. -/
def faultFailures (tr : List Obs) : Nat := (faultMarks tr).count .consumed

/-- The failure that is still to come. -/
def reserve (node : RobotAgentNode) : Nat := if node.faultInjected then 1 else 0

/-- There have been so many calls, and no more failures than these account for. -/
structure Spends (calls : Bool → Nat) (w : World) : Prop where
  called : ∀ value, injections value w.trace = calls value
  failures : faultFailures w.trace + reserve w.node ≤ calls true

section
variable {calls : Bool → Nat} {e : TickEnv} {w w' : World} {n : NavNode} {leg : Leg} {l : Leaf}
  {r : NodeStatus × World}

theorem Spends.same (h : Spends calls w) (hs : faultView.Same w w') : Spends calls w' := by
  have hmarks : faultMarks w'.trace = faultMarks w.trace :=
    hs.filterMap fun _ => faultView_unmarked
  have hflag : w'.node.faultInjected = w.node.faultInjected := hs.node
  refine ⟨fun value => ?_, ?_⟩
  · rw [injections, hmarks]
    exact h.called value
  · rw [faultFailures, reserve, hmarks, hflag]
    exact h.failures

/-- The navigation consumes the fault. -/
theorem faultMarks_faulted (n : NavNode) (w : World) :
    faultMarks ((NavigateToPose.onHalted n w.clearFault).post (.navigateToPose n)
      .faultInjected).trace = faultMarks w.trace ++ [.consumed] := by
  have hcancel : ∀ gs : List Nat, (gs.map Obs.cancel).filterMap Obs.faultMark = [] := fun gs =>
    List.filterMap_eq_nil_iff.mpr fun o ho => by
      obtain ⟨g, -, rfl⟩ := List.mem_map.mp ho
      rfl
  simp [faultMarks, NavigateToPose.onHalted, World.clearFault, hcancel, Obs.faultMark]

theorem Spends.navRuns (h : Spends calls w) (hr : NavigateToPose.Runs w n r) :
    Spends calls r.2 := by
  cases hf : w.node.faultInjected with
  | false => exact h.same (faultView_aside.navRuns hr hf)
  | true =>
    cases hr with
    | fault =>
      refine ⟨fun value => ?_, ?_⟩
      · rw [injections, faultMarks_faulted, List.count_append]
        exact h.called value
      · -- the failure that was to come has come
        have hpaid := h.failures
        rw [reserve, if_pos hf] at hpaid
        rw [faultFailures, faultMarks_faulted, List.count_append]
        exact hpaid
    | gone hf' | waiting _ hf' | rejected _ hf' | reached _ hf' | missed _ hf' => simp [hf] at hf'

theorem faultView_onHalted : faultView.Same w (NavigateToPose.onHalted n w) := by
  refine ⟨rfl, _, rfl, fun o ho => ?_⟩
  obtain ⟨g, -, rfl⟩ := List.mem_map.mp ho
  rfl

theorem spends_leaf (e : TickEnv) (l : Leaf) : (sem e l).Preserves (Spends calls) := by
  have hv := faultView_aside
  have returned : ∀ f w, Spends calls (f w).2 → Spends calls (returns l f w).2 :=
    fun f w h => h.same ((View.Same.refl _).emit rfl)
  have halted : ∀ w w', faultView.Same w w' → Spends calls w → Spends calls (haltOnly l w') :=
    fun w w' hs h => h.same (hs.emit rfl)
  cases l with
  | batteryOK => exact ⟨fun w h => returned _ w h, fun w h => returned _ w h, fun _ h => h⟩
  | navigateToPose n =>
    refine ⟨fun w h => returned _ w ?_,
      fun w h => returned _ w (h.navRuns (NavigateToPose.runs w n)),
      fun w h => halted w _ faultView_onHalted h⟩
    obtain ⟨heq, -⟩ | ⟨goal, -, -, heq⟩ := NavigateToPose.onStart_cases e w n
    · rw [heq]; exact h
    · rw [heq]; exact h.same (send_faultView n goal)
  | chargeBattery =>
    refine ⟨fun w h => returned _ w (h.same (hv.post (hv.flags w false true) _ (by decide))),
      fun w h => returned _ w ?_, fun w h => halted w _ (hv.flags w w.node.isMoving false) h⟩
    obtain ⟨-, heq⟩ | ⟨-, heq⟩ := ChargeBattery.onRunning_cases w
    · rw [heq]; exact h.same (hv.post (hv.flags w w.node.isMoving false) _ (by decide))
    · rw [heq]; exact h
  | requestTask =>
    have tick := fun w h => returned (RequestTask.onRunning e) w
      (Spends.same h (requestTask_faultView (RequestTask.runs e w)))
    exact ⟨tick, tick, fun w h => halted w _ (.refl w) h⟩
  | requestRecovery leg =>
    exact ⟨fun w h => returned _ w (h.same hv.recoverStart),
      fun w h => returned _ w (h.same (hv.recoverRuns (RequestRecovery.runs e w leg))),
      fun w h => halted w _ ((View.Same.refl w).set _) h⟩
  | executePickDrop leg =>
    exact ⟨fun w h => h.same hv.execStart,
      fun w h => returned _ w (h.same (hv.execRuns (ExecutePickDrop.runs e w leg))),
      fun w h => halted w _ (.refl w) h⟩
  | reportStatus =>
    have tick := fun w h => returned (ReportStatus.tick e) w (Spends.same h (report_faultView e w))
    exact ⟨tick, tick, fun _ h => h⟩

/-- Between BT ticks only `inject_fault` sets the flag. -/
theorem Spends.step {s : State} (h : Spends calls s.world) {ev : Event}
    (hev : ∀ data, ev ≠ .injectFault data) : Spends calls (RobotAgent.step s ev).world := by
  cases ev with
  | btTick e => exact tick_preserves (spends_leaf e) robotAgentMain s.tree s.world h
  | injectFault data => exact absurd rfl (hev data)
  | taskAssignment msg => exact h.same ⟨rfl, _, rfl, by simp [faultView, Obs.faultMark]⟩
  | batteryUpdate now =>
    obtain ⟨_, _, _, hnode⟩ := batteryUpdateCb_node now s.world
    exact h.same ⟨by simp only [RobotAgent.step, hnode, faultView], [],
      (List.append_nil _).symm, by simp⟩
  | statusPublish now tf => exact h.same ((View.Same.refl _).emit rfl)
  | goalResponse g accepted =>
    rw [RobotAgent.step]
    split
    · exact h.same ⟨rfl, _, rfl, by simp [faultView, Obs.faultMark]⟩
    · exact h
  | goalResult g code =>
    rw [RobotAgent.step]
    split
    · exact h.same ⟨rfl, _, rfl, by simp [faultView, Obs.faultMark]⟩
    · exact h

theorem Spends.injectFault (h : Spends calls w) (data : Bool) :
    Spends (fun value => calls value + if value = data then 1 else 0) (faultServiceCb data w) := by
  have hmarks : faultMarks (faultServiceCb data w).trace = faultMarks w.trace ++ [.call data] := by
    cases data <;> simp [faultMarks, faultServiceCb, Obs.faultMark]
  have hone : ∀ value,
      [FaultMark.call data].count (.call value) = if value = data then 1 else 0 := by
    intro value
    cases value <;> cases data <;> rfl
  have hpaid := h.failures
  refine ⟨fun value => ?_, ?_⟩
  · rw [injections, hmarks, List.count_append, ← injections, h.called, hone]
  · rw [faultFailures, hmarks, List.count_append, ← faultFailures]
    cases data with
    | false => exact hpaid
    | true =>
      -- the flag may be set already
      have hset : reserve (faultServiceCb true w).node ≤ 1 := Nat.le_of_eq rfl
      have hnone : [FaultMark.call true].count .consumed = 0 := rfl
      simp only [if_pos]
      omega

end

end RobotAgent
