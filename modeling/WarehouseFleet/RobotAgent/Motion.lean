import WarehouseFleet.RobotAgent.Invariant

/-!
# Who owns the goals in flight

A goal is live from its sending until it is rejected, finished or asked to cancel. Between two
callbacks every live goal is the current goal of a RUNNING node (`Owned`), unless a BT tick
`orphans` one: `onHalted` of a NavigateToPose node cancels through the goal handle, which comes
with the goal response only, and `onHalted` of a RequestRecovery node cancels nothing.
-/

namespace RobotAgent

open BehaviorTree
open Fms

/-! ## Live goals -/

/-- The goal an entry sends. -/
def Obs.sends : Obs → Option Nat
  | .navGoal _ g _ => some g
  | .spinGoal _ g _ => some g
  | .backUpGoal _ g _ => some g
  | _ => none

/-- The goal an entry ends: rejected, finished or asked to cancel. -/
def Obs.closes : Obs → Option Nat
  | .response g false => some g
  | .result g _ => some g
  | .cancel g => some g
  | _ => none

def Closed (tr : List Obs) (g : Nat) : Prop := ∃ o ∈ tr, o.closes = some g

def Live (tr : List Obs) (g : Nat) : Prop := (∃ o ∈ tr, o.sends = some g) ∧ ¬ Closed tr g

theorem Closed.append {tr : List Obs} {g : Nat} (h : Closed tr g) (new : List Obs) :
    Closed (tr ++ new) g := by
  obtain ⟨o, ho, hc⟩ := h
  exact ⟨o, List.mem_append_left _ ho, hc⟩

instance (tr : List Obs) (g : Nat) : Decidable (Closed tr g) :=
  inferInstanceAs (Decidable (∃ o ∈ tr, o.closes = some g))

instance (tr : List Obs) (g : Nat) : Decidable (Live tr g) :=
  inferInstanceAs (Decidable ((∃ o ∈ tr, o.sends = some g) ∧ ¬ Closed tr g))

/-- A goal that is live after more entries was sent by them, or live before. -/
theorem Live.of_append {tr new : List Obs} {g : Nat} (h : Live (tr ++ new) g) :
    (∃ o ∈ new, o.sends = some g) ∨ Live tr g := by
  obtain ⟨⟨o, ho, hs⟩, hc⟩ := h
  rcases List.mem_append.mp ho with ho | ho
  · exact Or.inr ⟨⟨o, ho, hs⟩, fun h => hc (h.append new)⟩
  · exact Or.inl ⟨o, ho, hs⟩

/-! ## Who owns a goal -/

/-- What the node waits for: the spin or the backup. -/
def RequestRecovery.current (r : RequestRecovery) : Option RecovState :=
  match r.phase with
  | .spin => r.spinState
  | .backup => r.backupState
  | _ => none

def RequestRecovery.goal (r : RequestRecovery) : Option Nat := r.current.bind (·.goal)

/-- Neither a response nor a result has come for the goal. -/
def NavState.unanswered (s : NavState) : Bool := !s.responseReceived && !s.resultReceived

/-- The RUNNING node has a live goal that it cannot cancel. A recovery can cancel none. -/
def uncancellable : Pos → World → Bool
  | .charger, w => (w.nav .toCharger).any NavState.unanswered
  | .task (.nav leg _), w => (w.nav (.to leg)).any NavState.unanswered
  | .task (.recover leg _), w => (w.recov leg).goal.any fun g => Live w.trace g
  | _, _ => false

/-- The RUNNING node is a NavigateToPose node, and it is ticked with a fault pending. -/
def failsByFault (e : TickEnv) (p : Pos) (w : World) : Bool :=
  w.node.faultInjected && match p with
    | .charger => true
    | .task (.nav _ _) => chargeYields e p w
    | _ => false

/-- The tick halts the RUNNING node, or fails it by a fault, while it has a goal that it cannot
cancel. -/
def orphans (e : TickEnv) (p : Pos) (w : World) : Bool :=
  (startsCharger e p w || failsByFault e p w) && uncancellable p w

/-- Every live goal belongs to a RUNNING node. -/
def MotionOwned (s : State) : Prop :=
  ∀ g, Live s.world.trace g →
    (∃ n st, s.running (.navigateToPose n) ∧ s.world.nav n = some st ∧ st.goal = g) ∨
    ∃ leg, s.running (.requestRecovery leg) ∧ (s.world.recov leg).goal = some g

/-! ## The invariant -/

/-- What a `NavigateToPose` node knows of its goal is true. -/
structure NavState.Told (tr : List Obs) (s : NavState) : Prop where
  rejected : s.responseReceived = true → s.goalAccepted = false → Closed tr s.goal
  accepted : s.responseReceived = true → s.goalAccepted = true → s.goalHandle = some s.goal
  finished : s.resultReceived = true → Closed tr s.goal

/-- What a `RequestRecovery` node knows of a goal is true. -/
def RecovState.Told (tr : List Obs) (s : RecovState) : Prop :=
  s.resultReceived = true → ∀ g, s.goal = some g → Closed tr g

structure Informed (w : World) : Prop where
  nav : ∀ n s, w.nav n = some s → s.Told w.trace
  spin : ∀ leg s, (w.recov leg).spinState = some s → s.Told w.trace
  backup : ∀ leg s, (w.recov leg).backupState = some s → s.Told w.trace

/-- The goal of the node at a position. -/
def ownGoal : Pos → World → Option Nat
  | .charger, w => (w.nav .toCharger).map (·.goal)
  | .task (.nav leg _), w => (w.nav (.to leg)).map (·.goal)
  | .task (.recover leg _), w => (w.recov leg).goal
  | _, _ => none

/-- The goal of a node does not change with what it knows of it. -/
theorem ownGoal_eq {w w' : World} (hn : ∀ n, (w'.nav n).map (·.goal) = (w.nav n).map (·.goal))
    (hr : ∀ leg, (w'.recov leg).goal = (w.recov leg).goal) (p : Pos) :
    ownGoal p w' = ownGoal p w := by
  match p with
  | .charger => exact hn .toCharger
  | .task (.nav leg _) => exact hn (.to leg)
  | .task (.recover leg _) => exact hr leg
  | .idle => rfl
  | .charging => rfl
  | .task .requestTask => rfl
  | .task (.exec _) => rfl
  | .task .report => rfl

structure Owned (p : Pos) (w : World) : Prop where
  own : ∀ g, Live w.trace g → ownGoal p w = some g
  informed : Informed w

/-- No goal is live. -/
structure Still (w : World) : Prop where
  none : ∀ g, ¬ Live w.trace g
  informed : Informed w

theorem Still.owned {w : World} (h : Still w) (p : Pos) : Owned p w :=
  ⟨fun g hg => absurd hg (h.none g), h.informed⟩

/-- The goal of the node at the position, if it has one, is closed. -/
theorem Owned.still {p : Pos} {w : World} (h : Owned p w)
    (hc : ∀ g, ownGoal p w = some g → Closed w.trace g) : Still w :=
  ⟨fun g hg => hg.2 (hc g (h.own g hg)), h.informed⟩

theorem Owned.still_of_none {p : Pos} {w : World} (h : Owned p w) (hn : ownGoal p w = none) :
    Still w :=
  h.still fun g hg => by simp [hn] at hg

/-! ## Frames -/

theorem NavState.Told.append {tr : List Obs} {s : NavState} (h : s.Told tr) (new : List Obs) :
    s.Told (tr ++ new) :=
  ⟨fun h₁ h₂ => (h.rejected h₁ h₂).append new, h.accepted, fun h₁ => (h.finished h₁).append new⟩

theorem RecovState.Told.append {tr : List Obs} {s : RecovState} (h : s.Told tr) (new : List Obs) :
    s.Told (tr ++ new) := fun h₁ g hg => (h h₁ g hg).append new

/-- The nodes know the same goals in `w'`, and no goal has been sent. -/
structure SameGoals (w w' : World) : Prop where
  nav : w'.nav = w.nav
  recov : w'.recov = w.recov
  trace : ∃ new, w'.trace = w.trace ++ new ∧ ∀ o ∈ new, o.sends = none

namespace SameGoals

variable {w w' w'' : World}

theorem trans (h : SameGoals w w') (h' : SameGoals w' w'') : SameGoals w w'' := by
  obtain ⟨new, ht, hq⟩ := h.trace
  obtain ⟨new', ht', hq'⟩ := h'.trace
  refine ⟨h'.nav.trans h.nav, h'.recov.trans h.recov, new ++ new',
    by rw [ht', ht, List.append_assoc], fun o ho => ?_⟩
  exact (List.mem_append.mp ho).elim (hq o) (hq' o)

/-- The node, and what else is no goal, has changed. -/
theorem of_eq (hn : w'.nav = w.nav) (hr : w'.recov = w.recov) (ht : w'.trace = w.trace) :
    SameGoals w w' := ⟨hn, hr, [], by simp [ht], by simp⟩

theorem emit {o : Obs} (ho : o.sends = none) : SameGoals w (w.emit o) :=
  ⟨rfl, rfl, [o], rfl, by simpa using ho⟩

theorem post {l : Leaf} {ev : FsmEvent} : SameGoals w (w.post l ev) :=
  ⟨rfl, rfl, [.posted l ev], rfl, by simp [Obs.sends]⟩

theorem live (h : SameGoals w w') {g : Nat} (hg : Live w'.trace g) : Live w.trace g := by
  obtain ⟨new, ht, hq⟩ := h.trace
  rw [ht] at hg
  obtain ⟨o, ho, hs⟩ | hg := hg.of_append
  · simp [hq o ho] at hs
  · exact hg

theorem informed (h : SameGoals w w') (hw : Informed w) : Informed w' := by
  obtain ⟨new, ht, -⟩ := h.trace
  refine ⟨fun n s hs => ?_, fun leg s hs => ?_, fun leg s hs => ?_⟩ <;> rw [ht]
  · exact (hw.nav n s (h.nav ▸ hs)).append new
  · exact (hw.spin leg s (h.recov ▸ hs)).append new
  · exact (hw.backup leg s (h.recov ▸ hs)).append new

theorem still (h : SameGoals w w') (hw : Still w) : Still w' :=
  ⟨fun g hg => hw.none g (h.live hg), h.informed hw.informed⟩

theorem ownGoal (h : SameGoals w w') (p : Pos) : ownGoal p w' = RobotAgent.ownGoal p w :=
  ownGoal_eq (fun n => by rw [h.nav]) (fun leg => by rw [h.recov]) p

theorem owned (h : SameGoals w w') {p : Pos} (hw : Owned p w) : Owned p w' :=
  ⟨fun g hg => (h.ownGoal p).trans (hw.own g (h.live hg)), h.informed hw.informed⟩

end SameGoals

/-! ## Halting -/

/-- A live goal that has been answered has a handle, and is cancelled. -/
theorem NavState.Told.toCancel {tr : List Obs} {s : NavState} (h : s.Told tr)
    (hl : Live tr s.goal) (hu : s.unanswered = false) :
    NavigateToPose.toCancel s = some s.goal := by
  have hres : s.resultReceived = false := by
    by_contra hres
    exact hl.2 (h.finished (by simpa using hres))
  have hresp : s.responseReceived = true := by simpa [NavState.unanswered, hres] using hu
  have hacc : s.goalAccepted = true := by
    by_contra hacc
    exact hl.2 (h.rejected hresp (by simpa using hacc))
  rw [NavigateToPose.toCancel, hres, h.accepted hresp hacc]
  rfl

/-- After `onHalted` the goal of the node is not live. -/
theorem NavigateToPose.onHalted_live {n : NavNode} {w : World} {g : Nat} (hw : Informed w)
    (hu : (w.nav n).any NavState.unanswered = false) (h : Live (onHalted n w).trace g) :
    Live w.trace g ∧ (w.nav n).map (·.goal) ≠ some g := by
  have hl : Live w.trace g := by
    obtain ⟨o, ho, hs⟩ | hl := Live.of_append h
    · obtain ⟨g', -, rfl⟩ := List.mem_map.mp ho
      cases hs
    · exact hl
  refine ⟨hl, fun hown => ?_⟩
  obtain ⟨s, hs, rfl⟩ := Option.map_eq_some_iff.mp hown
  have hc := (hw.nav n s hs).toCancel hl (by simpa [hs] using hu)
  exact h.2 ⟨.cancel s.goal, List.mem_append_right _ (by simp [hs, hc]), rfl⟩

theorem NavigateToPose.onHalted_informed {n : NavNode} {w : World} (hw : Informed w) :
    Informed (onHalted n w) := by
  refine ⟨fun n' s hs => ?_, fun leg s hs => ?_, fun leg s hs => ?_⟩
  · by_cases hn : n' = n
    · subst hn
      simp [onHalted] at hs
    · rw [onHalted_nav, Function.update_of_ne hn] at hs
      exact (hw.nav n' s hs).append _
  · exact (hw.spin leg s hs).append _
  · exact (hw.backup leg s hs).append _

/-- The goal a recovery waits for is closed when its result has come. -/
theorem Informed.closed {w : World} (hw : Informed w) {leg : Leg} {st : RecovState} {g : Nat}
    (hst : (w.recov leg).current = some st) (hres : st.resultReceived = true)
    (hg : (w.recov leg).goal = some g) : Closed w.trace g := by
  rw [RequestRecovery.goal, hst, Option.bind_some] at hg
  have htold : st.Told w.trace := by
    unfold RequestRecovery.current at hst
    split at hst
    · exact hw.spin leg st hst
    · exact hw.backup leg st hst
    · cases hst
  exact htold hres g hg

/-- Halting TaskExecution: what is live afterwards was live before, and no goal of the halted node
from the world `w₀` in which the tick began. -/
theorem haltTask_live {e : TickEnv} {p : Pos} {w₀ w : World} {g : Nat} (hw : Informed w)
    (hn : ∀ leg, w.nav (.to leg) = w₀.nav (.to leg)) (ha : p.away)
    (hu : uncancellable p w₀ = false) (h : Live (haltTask e p w).trace g) :
    Live w.trace g ∧ (Live w₀.trace g → ownGoal p w₀ ≠ some g) := by
  have quiet : ∀ {w'} l, Live (haltOnly l w').trace g → Live w'.trace g := fun l h =>
    (SameGoals.emit (o := .halted l) rfl).live h
  match p with
  | .task (.nav leg _) =>
    have hu' : (w.nav (.to leg)).any NavState.unanswered = false := hn leg ▸ hu
    obtain ⟨hl, hne⟩ := NavigateToPose.onHalted_live hw hu' (quiet _ h)
    exact ⟨hl, fun _ => by rw [ownGoal, ← hn leg]; exact hne⟩
  | .task (.recover leg _) =>
    refine ⟨quiet _ h, fun hl hg => ?_⟩
    have hg : (w₀.recov leg).goal = some g := hg
    simp [uncancellable, hg, hl] at hu
  | .task .requestTask => exact ⟨quiet _ h, fun _ => by simp [ownGoal]⟩
  | .task (.exec _) => exact ⟨quiet _ h, fun _ => by simp [ownGoal]⟩
  | .task .report => exact ⟨h, fun _ => by simp [ownGoal]⟩
  | .idle => exact ⟨h, fun _ => by simp [ownGoal]⟩

theorem RequestRecovery.set_informed {leg : Leg} {r : RequestRecovery} {w : World}
    (hw : Informed w) (hs : ∀ st, r.spinState = some st → st.Told w.trace)
    (hb : ∀ st, r.backupState = some st → st.Told w.trace) : Informed (set leg r w) := by
  refine ⟨hw.nav, fun leg' st hst => ?_, fun leg' st hst => ?_⟩
  · by_cases hl : leg' = leg
    · subst hl
      exact hs st (by simpa using hst)
    · rw [set_recov, Function.update_of_ne hl] at hst
      exact hw.spin leg' st hst
  · by_cases hl : leg' = leg
    · subst hl
      exact hb st (by simpa using hst)
    · rw [set_recov, Function.update_of_ne hl] at hst
      exact hw.backup leg' st hst

theorem haltTask_informed {e : TickEnv} {p : Pos} {w : World} (hw : Informed w) :
    Informed (haltTask e p w) := by
  have quiet : ∀ {w'} l, Informed w' → Informed (haltOnly l w') := fun l h =>
    (SameGoals.emit (o := .halted l) rfl).informed h
  match p with
  | .task (.nav leg _) => exact quiet _ (NavigateToPose.onHalted_informed hw)
  | .task (.recover leg _) =>
    exact quiet _ (RequestRecovery.set_informed hw (fun _ h => by cases h) fun _ h => by cases h)
  | .task .requestTask => exact quiet _ hw
  | .task (.exec _) => exact quiet _ hw
  | .task .report => exact hw
  | .idle => exact hw
  | .charger => exact hw
  | .charging => exact hw

/-! ## The callbacks -/

theorem NavigateToPose.finish_goals (n : NavNode) (ev : FsmEvent) (w : World) :
    SameGoals w (finish n ev w) := ⟨rfl, rfl, _, rfl, by simp [Obs.sends]⟩

/-- A navigation that ends leaves no live goal, unless a fault ends it too early. -/
theorem NavigateToPose.Runs.still {n : NavNode} {w : World} {r : NodeStatus × World}
    (h : Runs w n r) (hne : r.1 ≠ .running)
    (hown : ∀ g, Live w.trace g → (w.nav n).map (·.goal) = some g) (hw : Informed w)
    (hu : w.node.faultInjected = true → (w.nav n).any NavState.unanswered = false) :
    Still r.2 := by
  have stops : ∀ s, w.nav n = some s → Closed w.trace s.goal → Still w := by
    intro s hs hc
    refine ⟨fun g hg => hg.2 ?_, hw⟩
    have hg := hown g hg
    rw [hs] at hg
    exact Option.some.inj hg ▸ hc
  cases h with
  | fault hf =>
    have hc : SameGoals w w.clearFault := .of_eq rfl rfl rfl
    refine SameGoals.post.still ⟨fun g hg => ?_, onHalted_informed (hc.informed hw)⟩
    obtain ⟨hl, hne⟩ := onHalted_live (hc.informed hw) (hu hf) hg
    exact hne (hown g hl)
  | gone hf hs =>
    refine ⟨fun g hg => ?_, hw⟩
    simpa [hs] using hown g hg
  | waiting => exact absurd rfl hne
  | rejected s hf hs hr ha =>
    exact (finish_goals n _ w).still (stops s hs ((hw.nav n s hs).rejected hr ha))
  | reached s hf hs hr ha hd =>
    exact (finish_goals n _ w).still (stops s hs ((hw.nav n s hs).finished hd))
  | missed s hf hs hr ha hd =>
    exact (finish_goals n _ w).still (stops s hs ((hw.nav n s hs).finished hd))

theorem NavigateToPose.send_informed {e : TickEnv} {n : NavNode} {goal : PoseStamped} {w : World}
    (hw : Informed w) : Informed (send e n goal w) := by
  refine ⟨fun n' s hs => ?_, fun leg s hs => ?_, fun leg s hs => ?_⟩ <;> rw [send_trace]
  · by_cases hn : n' = n
    · subst hn
      obtain rfl : { goal := w.nextGoal } = s := by simpa using hs
      exact ⟨fun h => (by cases h), fun h => (by cases h), fun h => (by cases h)⟩
    · rw [send_nav, Function.update_of_ne hn] at hs
      exact (hw.nav n' s hs).append _
  · exact (hw.spin leg s hs).append _
  · exact (hw.backup leg s hs).append _

/-- Only the new goal is live that was not live before. -/
theorem NavigateToPose.send_live {e : TickEnv} {n : NavNode} {goal : PoseStamped} {w : World}
    {g : Nat} (h : Live (send e n goal w).trace g) : g = w.nextGoal ∨ Live w.trace g := by
  rw [send_trace] at h
  obtain ⟨o, ho, hs⟩ | hl := h.of_append
  · simp only [List.mem_cons, List.not_mem_nil, or_false] at ho
    rcases ho with rfl | rfl
    · exact Or.inl (Option.some.inj hs).symm
    · cases hs
  · exact Or.inr hl

/-- A recovery that owns every goal it has sent. -/
theorem RequestRecovery.owned_of {leg : Leg} {r : RequestRecovery} {w w' : World} {new : List Obs}
    (k : Nat) (hw : Still w) (hn : w'.nav = w.nav) (hr : w'.recov = Function.update w.recov leg r)
    (ht : w'.trace = w.trace ++ new) (hsend : ∀ o ∈ new, ∀ g, o.sends = some g → r.goal = some g)
    (hs : ∀ st, r.spinState = some st → st.Told w.trace)
    (hb : ∀ st, r.backupState = some st → st.Told w.trace) :
    Owned (.task (.recover leg k)) w' := by
  have hinf : Informed (set leg r w) := set_informed hw.informed hs hb
  refine ⟨fun g hg => ?_, fun n s h => ?_, fun leg' s h => ?_, fun leg' s h => ?_⟩
  · rw [ht] at hg
    obtain ⟨o, ho, hs⟩ | hg := hg.of_append
    · rw [ownGoal, hr, Function.update_self]
      exact hsend o ho g hs
    · exact absurd hg (hw.none g)
  · rw [ht]
    exact (hinf.nav n s (hn ▸ h)).append new
  · rw [ht]
    exact (hinf.spin leg' s (by rw [set_recov, ← hr]; exact h)).append new
  · rw [ht]
    exact (hinf.backup leg' s (by rw [set_recov, ← hr]; exact h)).append new

theorem RequestRecovery.told_notReady (tr : List Obs) : notReady.Told tr := by
  intro _ g hg
  cases hg

theorem RequestRecovery.told_sent (tr : List Obs) (g : Option Nat) :
    RecovState.Told tr { goal := g } := by
  intro h
  cases h

theorem RequestRecovery.startSpin_owned {e : TickEnv} {leg : Leg} {w : World} (k : Nat)
    (hw : Still w) (hp : (w.recov leg).phase = .spin) :
    Owned (.task (.recover leg k)) (startSpin e leg w) := by
  unfold startSpin
  split
  · refine owned_of k hw rfl rfl rfl ?_ (fun st h => ?_) (hw.informed.backup leg)
    · rintro o ho g hs
      obtain rfl := List.mem_singleton.mp ho
      simpa [goal, current, hp, Obs.sends] using hs
    · obtain rfl := Option.some.inj h
      exact told_sent _ _
  · refine owned_of k hw rfl rfl (List.append_nil _).symm (by simp) (fun st h => ?_)
      (hw.informed.backup leg)
    obtain rfl := Option.some.inj h
    exact told_notReady _

theorem RequestRecovery.startBackup_owned {e : TickEnv} {leg : Leg} {w : World} (k : Nat)
    (hw : Still w) (hp : (w.recov leg).phase = .backup) :
    Owned (.task (.recover leg k)) (startBackup e leg w) := by
  unfold startBackup
  split
  · refine owned_of k hw rfl rfl rfl ?_ (hw.informed.spin leg) (fun st h => ?_)
    · rintro o ho g hs
      obtain rfl := List.mem_singleton.mp ho
      simpa [goal, current, hp, Obs.sends] using hs
    · obtain rfl := Option.some.inj h
      exact told_sent _ _
  · refine owned_of k hw rfl rfl (List.append_nil _).symm (by simp)
      (hw.informed.spin leg) (fun st h => ?_)
    obtain rfl := Option.some.inj h
    exact told_notReady _

/-- Writing the phase and the attempt keeps everything still. -/
theorem Still.set {leg : Leg} {w : World} (hw : Still w) (r : RequestRecovery)
    (hs : r.spinState = (w.recov leg).spinState) (hb : r.backupState = (w.recov leg).backupState) :
    Still (RequestRecovery.set leg r w) :=
  ⟨hw.none, RequestRecovery.set_informed hw.informed (fun st h => hw.informed.spin leg st (hs ▸ h))
    fun st h => hw.informed.backup leg st (hb ▸ h)⟩

theorem RequestRecovery.onStart_owned {e : TickEnv} {leg : Leg} {w : World} (k : Nat)
    (hw : Still w) : Owned (.task (.recover leg k)) (onStart e leg w).2 :=
  startSpin_owned k (SameGoals.post.still (hw.set _ (by rfl) (by rfl))) (by simp)

theorem RequestRecovery.attemptFailed_owned {e : TickEnv} {leg : Leg} {w : World} (k : Nat)
    (hw : Still w) : Owned (.task (.recover leg k)) (attemptFailed e leg 3 w) := by
  dsimp only [attemptFailed]
  split
  · exact Still.owned (hw.set _ (by rfl) (by rfl)) _
  · exact startSpin_owned k (hw.set _ (by rfl) (by rfl)) (by simp)

/-- A recovery whose goal is closed leaves the world still. -/
theorem Owned.still_of_result {leg : Leg} {k : Nat} {w : World}
    (h : Owned (.task (.recover leg k)) w) {st : RecovState} (hst : (w.recov leg).current = some st)
    (hr : st.resultReceived = true) : Still w :=
  h.still fun _ hg => h.informed.closed hst hr hg

theorem RequestRecovery.Runs.owned {e : TickEnv} {leg : Leg} {w : World} {r : NodeStatus × World}
    {k : Nat} (h : Runs e w leg r) (hw : Owned (.task (.recover leg k)) w) :
    Owned (.task (.recover leg k)) r.2 ∧ (r.1 ≠ .running → Still r.2) := by
  cases h with
  | waiting => exact ⟨hw, fun h => absurd rfl h⟩
  | spun st hp hs hr =>
    have hstill := hw.still_of_result (by simpa [current, hp] using hs) hr
    exact ⟨startBackup_owned k (hstill.set _ (by rfl) (by rfl)) (by simp), fun h => absurd rfl h⟩
  | backedUp st hp hs hr =>
    have hstill := hw.still_of_result (by simpa [current, hp] using hs) hr
    exact ⟨Still.owned (hstill.set _ (by rfl) (by rfl)) _, fun h => absurd rfl h⟩
  | lost hl =>
    have hstill : Still w := by
      rcases hl with ⟨hp, st, hs, hr, -⟩ | ⟨hp, st, hs, hr, -⟩
      · exact hw.still_of_result (by simpa [current, hp] using hs) hr
      · exact hw.still_of_result (by simpa [current, hp] using hs) hr
    exact ⟨attemptFailed_owned k hstill, fun h => absurd rfl h⟩
  | done hp =>
    have hstill : Still w := hw.still fun g hg => by simp [ownGoal, goal, current, hp] at hg
    exact ⟨(SameGoals.post.still hstill).owned _, fun _ => SameGoals.post.still hstill⟩
  | failed hp =>
    have hstill : Still w := hw.still fun g hg => by simp [ownGoal, goal, current, hp] at hg
    exact ⟨(SameGoals.post.still hstill).owned _, fun _ => SameGoals.post.still hstill⟩

/-! ## One tick -/

theorem Still.emit {w : World} (h : Still w) {o : Obs} (ho : o.sends = Option.none) :
    Still (w.emit o) := (SameGoals.emit ho).still h

theorem Owned.emit {p : Pos} {w : World} (h : Owned p w) {o : Obs} (ho : o.sends = none) :
    Owned p (w.emit o) := (SameGoals.emit ho).owned h

theorem ChargeBattery.onStart_goals (w : World) : SameGoals w (onStart w).2 :=
  ⟨rfl, rfl, [.posted .chargeBattery .lowBattery], rfl, by simp [Obs.sends]⟩

theorem RequestTask.Runs.goals {e : TickEnv} {w : World} {r : NodeStatus × World}
    (h : Runs e w r) : SameGoals w r.2 := by
  cases h with
  | waiting => exact .of_eq rfl rfl rfl
  | resumed d => exact ⟨rfl, rfl, _, take_trace .., by simp [Obs.sends]⟩
  | next d ds => exact ⟨rfl, rfl, _, take_trace .., by simp [Obs.sends]⟩

theorem ExecutePickDrop.onStart_goals (e : TickEnv) (leg : Leg) (w : World) :
    SameGoals w (onStart e leg w).2 := .of_eq rfl rfl rfl

theorem ReportStatus.tick_goals (e : TickEnv) (w : World) : SameGoals w (tick e w).2 :=
  ⟨rfl, rfl, _, tick_trace .., by simp [Obs.sends]⟩

theorem haltTask_toCharger (e : TickEnv) (p : Pos) (w : World) :
    (haltTask e p w).nav .toCharger = w.nav .toCharger := by
  match p with
  | .task (.nav leg _) =>
    show (NavigateToPose.onHalted (.to leg) w).nav .toCharger = _
    simp
  | .task (.recover _ _) => rfl
  | .idle => rfl
  | .charger => rfl
  | .charging => rfl
  | .task .requestTask => rfl
  | .task (.exec _) => rfl
  | .task .report => rfl

/-- The charger's goal is the only one after a navigation there has preempted TaskExecution. -/
theorem chargerStarted_owned {e : TickEnv} {p : Pos} {w : World} (h : Owned p w) (ha : p.away)
    (hu : uncancellable p w = false) (goal : PoseStamped) : Owned .charger (haltTask e p
      ((NavigateToPose.send e .toCharger goal (w.emit (.returned .batteryOK .failure))).emit
        (.returned (.navigateToPose .toCharger) .running))) := by
  let w₁ := w.emit (.returned .batteryOK .failure)
  let w₂ := NavigateToPose.send e .toCharger goal w₁
  let w₃ := w₂.emit (.returned (.navigateToPose .toCharger) .running)
  have h₁ : SameGoals w w₁ := .emit rfl
  have h₃ : SameGoals w₂ w₃ := .emit rfl
  have hinf : Informed w₃ := h₃.informed (NavigateToPose.send_informed (h₁.informed h.informed))
  refine ⟨fun g hg => ?_, haltTask_informed hinf⟩
  obtain ⟨hl, hne⟩ := haltTask_live hinf (fun leg => by simp [w₃, w₂, w₁]) ha hu hg
  rcases NavigateToPose.send_live (h₃.live hl) with rfl | hl
  · show ((haltTask e p w₃).nav .toCharger).map (·.goal) = _
    rw [haltTask_toCharger]
    simp [w₃, w₂, w₁]
  · -- an older goal was that of the halted node
    exact absurd (h.own g (h₁.live hl)) (hne (h₁.live hl))

/-- A node that sends a goal owns it. -/
theorem NavigateToPose.send_owned {e : TickEnv} {leg : Leg} {k : Nat} {goal : PoseStamped}
    {w : World} (hw : Still w) : Owned (.task (.nav leg k)) (send e (.to leg) goal w) := by
  refine ⟨fun g hg => ?_, send_informed hw.informed⟩
  rcases send_live hg with rfl | hg
  · simp [ownGoal]
  · exact absurd hg (hw.none g)

theorem owned_post {pt : Point} {r : NodeStatus × World} (hrun : Owned (.task pt) r.2)
    (hdone : r.1 ≠ .running → Still r.2) : leafPost (fun _ => Still) Owned pt r := by
  have hreach : ∀ n, r.1 ≠ .running → leafReach (fun _ => Still) Owned n r.2 := by
    intro n hr
    cases n with
    | inl pt => exact hdone hr
    | inr b => exact (hdone hr).owned .idle
  obtain ⟨st, w⟩ := r
  cases st with
  | running => exact hrun
  | success => exact hreach _ (by simp)
  | failure => exact hreach _ (by simp)

theorem still_post {pt : Point} {r : NodeStatus × World} (h : Still r.2) :
    leafPost (fun _ => Still) Owned pt r := owned_post (h.owned _) fun _ => h

/-- When ChargeWhenLow has given way, the goals are those TaskExecution had. -/
theorem Yielded.owned {e : TickEnv} {p : Pos} {w w' : World} (hy : Yielded e p w w')
    (hP : orphans e p w = false) (h : Owned p w) : Owned p.rest w' := by
  cases hy with
  | batteryOk _ _ ha => rw [Pos.rest_of_away ha]; exact h.emit rfl
  | notReady _ _ ha => rw [Pos.rest_of_away ha]; exact (h.emit rfl).emit rfl
  | charger _ w' hr =>
    have hstill : Still w' := hr.still (by simp) h.own h.informed fun hf => by
      simpa [orphans, failsByFault, uncancellable, hf] using hP
    exact (hstill.emit rfl).owned _

theorem owned_turn {e : TickEnv} {p₀ : Pos} {w₀ : World} (hP : orphans e p₀ w₀ = false)
    (h : Owned p₀ w₀) : Turn e p₀ w₀ (fun _ => Still) Owned := by
  constructor
  case chargerStarted =>
    intro ha hsoc hr
    refine chargerStarted_owned h ha ?_ _
    simpa [orphans, startsCharger_of ha hsoc hr] using hP
  case chargerRunning =>
    rintro rfl
    exact h.emit rfl
  case chargerReached =>
    rintro s rfl hs hd
    have hstill : Still w₀ := h.still fun g hg => by
      obtain rfl : s.goal = g := by simpa [ownGoal, hs] using hg
      exact (h.informed.nav _ s hs).finished hd
    have hf := (NavigateToPose.finish_goals .toCharger .navSucceeded w₀).still hstill
    exact (((ChargeBattery.onStart_goals _).still (hf.emit rfl)).emit rfl).owned _
  case charging =>
    rintro rfl _
    exact h.emit rfl
  case charged =>
    rintro rfl _
    have hoff : SameGoals w₀ { w₀ with node := { w₀.node with isCharging := false } } :=
      .of_eq rfl rfl rfl
    exact (SameGoals.emit rfl).owned ((hoff.trans .post).owned ⟨h.own, h.informed⟩)
  case requestTask =>
    intro w r hy hp hr
    have hw : Still w := by
      rcases hp with hp | rfl
      · exact (hp ▸ hy.owned hP h : Owned .idle w).still_of_none rfl
      · exact (hy.owned hP h).still_of_none rfl
    exact still_post ((hr.goals.still hw).emit rfl)
  case navSent => exact fun leg k w goal _ hs _ _ => (NavigateToPose.send_owned hs).emit rfl
  case navNotSent => exact fun leg k w _ hs _ => hs.emit rfl
  case nav =>
    rintro leg k w r hk hy rfl hr
    have hw := hy.owned hP h
    by_cases hrun : r.1 = .running
    · rw [← hr.eq_of_running hrun] at hw
      exact owned_post (hw.emit rfl) fun hne => absurd hrun hne
    · refine still_post ((hr.still hrun hw.own hw.informed fun hf => ?_).emit rfl)
      rw [hy.node_of_away trivial] at hf
      rw [hy.nav_to]
      simpa [orphans, failsByFault, uncancellable, hf, hy.yields] using hP
  case recoverStarted => exact fun leg k w _ hs => (RequestRecovery.onStart_owned k hs).emit rfl
  case recover =>
    rintro leg k w r hk hy rfl hr
    obtain ⟨hrun, hdone⟩ := hr.owned (hy.owned hP h)
    exact owned_post (hrun.emit rfl) fun hne => (hdone hne).emit rfl
  case execStarted =>
    exact fun leg w hs => (((ExecutePickDrop.onStart_goals e leg w).still hs).emit rfl).owned _
  case exec =>
    rintro leg w r hy rfl hr
    have hw : Still w := (hy.owned hP h).still_of_none rfl
    cases hr with
    | waiting => exact still_post (hw.emit rfl)
    | picked => exact still_post ((SameGoals.post.still hw).emit rfl)
    | dropped => exact still_post (hw.emit rfl)
  case report =>
    exact fun w hs => (((ReportStatus.tick_goals e w).still hs).emit rfl).owned _

/-! ## Answers -/

theorem NavState.onResponse_goal (g : Nat) (accepted : Bool) (s : NavState) :
    (s.onResponse g accepted).goal = s.goal := by
  unfold onResponse; split <;> rfl

theorem NavState.onResult_goal (g : Nat) (code : ResultCode) (s : NavState) :
    (s.onResult g code).goal = s.goal := by
  unfold onResult; split <;> rfl

theorem RecovState.onResult_goal (g : Nat) (code : ResultCode) (s : RecovState) :
    (s.onResult g code).goal = s.goal := by
  unfold onResult; split <;> rfl

theorem RequestRecovery.onResult_goal (g : Nat) (code : ResultCode) (r : RequestRecovery) :
    (r.onResult g code).goal = r.goal := by
  obtain ⟨phase, attempt, spin, backup⟩ := r
  cases phase <;> cases spin <;> cases backup <;>
    simp [goal, current, onResult, RecovState.onResult_goal]

theorem NavState.Told.onResponse {tr : List Obs} {s : NavState} (h : s.Told tr) (g : Nat)
    (accepted : Bool) : (s.onResponse g accepted).Told (tr ++ [.response g accepted]) := by
  unfold NavState.onResponse
  split
  · next hg =>
    refine ⟨fun _ ha => ?_, fun _ ha => ?_, fun hr => (h.finished hr).append _⟩
    · obtain rfl : accepted = false := ha
      exact ⟨.response g false, by simp, by rw [← hg]; rfl⟩
    · obtain rfl : accepted = true := ha
      simp [hg]
  · exact h.append _

theorem NavState.Told.onResult {tr : List Obs} {s : NavState} (h : s.Told tr) (g : Nat)
    (code : ResultCode) : (s.onResult g code).Told (tr ++ [.result g code]) := by
  unfold NavState.onResult
  split
  · next hg =>
    exact ⟨fun hr ha => (h.rejected hr ha).append _, h.accepted,
      fun _ => ⟨.result g code, by simp, by rw [← hg]; rfl⟩⟩
  · exact h.append _

theorem RecovState.Told.onResult {tr : List Obs} {s : RecovState} (h : s.Told tr) (g : Nat)
    (code : ResultCode) : (s.onResult g code).Told (tr ++ [.result g code]) := by
  unfold RecovState.onResult
  split
  · next hg =>
    intro _ g' hg'
    obtain rfl : g = g' := Option.some.inj (hg.symm.trans hg')
    exact ⟨.result g code, by simp, rfl⟩
  · exact h.append _

/-- After an answer to goal `g` every goal is where it was. -/
theorem Owned.answer {p : Pos} {w w' : World} (h : Owned p w) {o : Obs} (ho : o.sends = none)
    (ht : w'.trace = w.trace ++ [o]) (hown : ownGoal p w' = ownGoal p w) (hinf : Informed w') :
    Owned p w' := by
  refine ⟨fun g hg => hown.trans (h.own g ?_), hinf⟩
  rw [ht] at hg
  obtain ⟨o', ho', hs⟩ | hl := hg.of_append
  · obtain rfl := List.mem_singleton.mp ho'
    simp [ho] at hs
  · exact hl

theorem goalResponse_owned {p : Pos} {w : World} (g : Nat) (accepted : Bool) (h : Owned p w) :
    Owned p (goalResponse g accepted w) := by
  have hgoal : ∀ n, ((goalResponse g accepted w).nav n).map (·.goal) = (w.nav n).map (·.goal) :=
    fun n => by simp [goalResponse, NavState.onResponse_goal, Function.comp_def]
  refine h.answer (o := .response g accepted) rfl rfl (ownGoal_eq hgoal (fun _ => rfl) p)
    ⟨fun n s hs => ?_, fun leg s hs => ?_, fun leg s hs => ?_⟩
  · obtain ⟨s', hs', rfl⟩ := Option.map_eq_some_iff.mp hs
    exact (h.informed.nav n s' hs').onResponse g accepted
  · exact (h.informed.spin leg s hs).append _
  · exact (h.informed.backup leg s hs).append _

theorem goalResult_owned {p : Pos} {w : World} (g : Nat) (code : ResultCode) (h : Owned p w) :
    Owned p (goalResult g code w) := by
  have hgoal : ∀ n, ((goalResult g code w).nav n).map (·.goal) = (w.nav n).map (·.goal) :=
    fun n => by simp [goalResult, NavState.onResult_goal, Function.comp_def]
  have hrecov : ∀ leg, ((goalResult g code w).recov leg).goal = (w.recov leg).goal :=
    fun leg => RequestRecovery.onResult_goal g code (w.recov leg)
  refine h.answer (o := .result g code) rfl rfl (ownGoal_eq hgoal hrecov p)
    ⟨fun n s hs => ?_, fun leg s hs => ?_, fun leg s hs => ?_⟩
  · obtain ⟨s', hs', rfl⟩ := Option.map_eq_some_iff.mp hs
    exact (h.informed.nav n s' hs').onResult g code
  · obtain ⟨s', hs', rfl⟩ := Option.map_eq_some_iff.mp hs
    exact (h.informed.spin leg s' hs').onResult g code
  · obtain ⟨s', hs', rfl⟩ := Option.map_eq_some_iff.mp hs
    exact (h.informed.backup leg s' hs').onResult g code

theorem taskAssignmentCb_goals (msg : TaskAssignment) (w : World) :
    SameGoals w (taskAssignmentCb msg w) := ⟨rfl, rfl, _, rfl, by simp [Obs.sends]⟩

theorem batteryUpdateCb_goals (now : Time) (w : World) : SameGoals w (batteryUpdateCb now w) :=
  .of_eq rfl rfl rfl

theorem faultServiceCb_goals (data : Bool) (w : World) : SameGoals w (faultServiceCb data w) := by
  cases data <;> exact ⟨rfl, rfl, _, rfl, by simp [Obs.sends]⟩

theorem owned_kept : Kept orphans Owned where
  btTick _ _ _ _ hP h := ⟨_, owned_turn hP h⟩
  taskAssignment msg _ w _ h := (taskAssignmentCb_goals msg w).owned h
  batteryUpdate now _ w _ h := (batteryUpdateCb_goals now w).owned h
  statusPublish _ _ _ _ _ h := h.emit rfl
  injectFault data _ w _ h := (faultServiceCb_goals data w).owned h
  goalResponse g accepted _ _ _ _ h := goalResponse_owned g accepted h
  goalResult g code _ _ _ _ h := goalResult_owned g code h

/-! ## Main result -/

/-- **Motion ownership** holds in a run in which no node loses a goal that it cannot cancel. -/
theorem motion_owned (c : Config) (es : List Event) (h : Never orphans c es) :
    MotionOwned (c.run es) := by
  have hinit : Owned .idle c.init.world :=
    ⟨fun g hg => (by simp [Live, Config.init] at hg), fun _ _ h => (by cases h),
      fun _ _ h => (by cases h), fun _ _ h => (by cases h)⟩
  have hinv := owned_kept.run h hinit
  have hrun := fun l => (hinv.running (l := l)).mpr
  intro g hg
  have hown := hinv.pos.2.2.own g hg
  generalize (c.run es).pos = p at hown hrun
  match p, hown with
  | .charger, hown =>
    obtain ⟨st, hst, hg⟩ := Option.map_eq_some_iff.mp hown
    exact Or.inl ⟨.toCharger, st, hrun _ rfl, hst, hg⟩
  | .task (.nav leg _), hown =>
    obtain ⟨st, hst, hg⟩ := Option.map_eq_some_iff.mp hown
    exact Or.inl ⟨.to leg, st, hrun _ rfl, hst, hg⟩
  | .task (.recover leg _), hown => exact Or.inr ⟨leg, hrun _ rfl, hown⟩

/-- `NavToPick` was halted and has cancelled its goal; that of `NavToCharger` is live. -/
theorem motion_owned_preempted : MotionOwned ((Config.sampleAt 20).run preemptedRun) ∧
    Closed ((Config.sampleAt 20).run preemptedRun).world.trace 0 ∧
    Live ((Config.sampleAt 20).run preemptedRun).world.trace 1 :=
  ⟨motion_owned _ _ (by decide +kernel), by decide +kernel, by decide +kernel⟩

/-- The charger is due before the response to the first goal has come. -/
def orphanedRun : List Event :=
  [ .taskAssignment (sampleTask "a" (poseAt 1 0) (poseAt 0 1))
  , .btTick (.up 0)
  , .batteryUpdate 1000000000
  , .btTick (.up 1) ]

/-- Goal 0 was never cancelled, and goal 1 drives the robot to its charger. -/
theorem orphaned_goal : ¬ MotionOwned ((Config.sampleAt 20).run orphanedRun) := by
  intro h
  have hlive : Live ((Config.sampleAt 20).run orphanedRun).world.trace 0 := by decide +kernel
  have hcharger : ((Config.sampleAt 20).run orphanedRun).running (.navigateToPose .toCharger) := by
    decide +kernel
  have hgoal :
      (((Config.sampleAt 20).run orphanedRun).world.nav .toCharger).map (·.goal) = some 1 := by
    decide +kernel
  rcases h 0 hlive with ⟨n, st, hrun, hst, hg⟩ | ⟨leg, hrun, -⟩
  · obtain rfl : NavNode.toCharger = n := by simpa using hcharger.symm.trans hrun
    rw [hst] at hgoal
    exact absurd (hg.symm.trans (Option.some.inj hgoal)) (by decide)
  · exact absurd (hcharger.symm.trans hrun) (by simp)

end RobotAgent
