import WarehouseFleet.RobotAgent.RecoveryOutcome
import WarehouseFleet.RobotAgent.RetryRun

/-!
# What an activation has counted, and what it has heard of its goals

`Within` bounds the counts; a call of a leaf moves the bounds by what it leaves in the trace
(`Grows`). A RUNNING leaf knows each answer to the goal it waits for (`NavKnows`, `RecovKnows`), so
once the goals are `settled` it does not wait any longer.
-/

namespace RobotAgent.Retry

open BehaviorTree (NodeStatus)
open Recovery (Behaviour launched newGoal)

/-! ## Counts -/

/-- Bounds on what has been counted; the failures are exact. -/
structure Counts where
  navs : Nat
  recoveries : Nat
  navFailures : Nat
  recoveryFailures : Nat
  spins : Nat
  backups : Nat

structure Within (leg : Leg) (x : World × List Behaviour) (c : Counts) : Prop where
  navs : navGoals leg x.1.trace ≤ c.navs
  recoveries : Retry.recoveries leg x.1.trace ≤ c.recoveries
  navFailures : failed (.navigateToPose (.to leg)) x.1.trace = c.navFailures
  recoveryFailures : failed (.requestRecovery leg) x.1.trace = c.recoveryFailures
  spins : x.2.count .spin ≤ c.spins
  backups : x.2.count .backup ≤ c.backups

/-- A call with these entries, that starts these behaviours, keeps within the bounds `c'`. -/
structure Grows (leg : Leg) (c : Counts) (new : List Obs) (bs : List Behaviour) (c' : Counts) :
    Prop where
  navs : c.navs + navGoals leg new ≤ c'.navs
  recoveries : c.recoveries + Retry.recoveries leg new ≤ c'.recoveries
  navFailures : c.navFailures + failed (.navigateToPose (.to leg)) new = c'.navFailures
  recoveryFailures : c.recoveryFailures + failed (.requestRecovery leg) new = c'.recoveryFailures
  spins : c.spins + bs.count .spin ≤ c'.spins
  backups : c.backups + bs.count .backup ≤ c'.backups

theorem Within.grow {leg : Leg} {x x' : World × List Behaviour} {c c' : Counts}
    (h : Within leg x c) {new : List Obs} {bs : List Behaviour} (hg : Grows leg c new bs c')
    (ht : x'.1.trace = x.1.trace ++ new) (hb : x'.2 = x.2 ++ bs) : Within leg x' c' := by
  obtain ⟨h₁, h₂, h₃, h₄, h₅, h₆⟩ := h
  obtain ⟨g₁, g₂, g₃, g₄, g₅, g₆⟩ := hg
  constructor
  · rw [ht, navGoals, List.countP_append]
    exact (Nat.add_le_add_right h₁ _).trans g₁
  · rw [ht, Retry.recoveries, List.count_append]
    exact (Nat.add_le_add_right h₂ _).trans g₂
  · rw [ht, failed, List.count_append, ← failed, ← failed, h₃, g₃]
  · rw [ht, failed, List.count_append, ← failed, ← failed, h₄, g₄]
  · rw [hb, List.count_append]
    exact (Nat.add_le_add_right h₅ _).trans g₅
  · rw [hb, List.count_append]
    exact (Nat.add_le_add_right h₆ _).trans g₆

/-- What is counted is no state of the node. -/
theorem Within.set {leg : Leg} {x : World × List Behaviour} {c : Counts} (h : Within leg x c)
    (r : RequestRecovery) : Within leg (RequestRecovery.set leg r x.1, x.2) c :=
  ⟨h.navs, h.recoveries, h.navFailures, h.recoveryFailures, h.spins, h.backups⟩

/-! ## Answers -/

/-- The goal an entry answers. -/
def answered : Obs → Option Nat
  | .response g _ | .result g _ => some g
  | _ => none

/-- Entries that are not counted, and answer nothing. -/
structure Uncounted (leg : Leg) (new : List Obs) : Prop where
  navs : navGoals leg new = 0
  recoveries : Retry.recoveries leg new = 0
  navFailures : failed (.navigateToPose (.to leg)) new = 0
  recoveryFailures : failed (.requestRecovery leg) new = 0
  unanswered : ∀ o ∈ new, answered o = none

section
variable {leg : Leg}

theorem uncounted_nil (leg : Leg) : Uncounted leg [] :=
  ⟨rfl, rfl, rfl, rfl, fun _ ho => absurd ho List.not_mem_nil⟩

/-- Of what a leaf returns only FAILURE is counted. -/
theorem uncounted_returned (leg : Leg) (l : Leaf) {st : NodeStatus} (h : st ≠ .failure) :
    Uncounted leg [.returned l st] := by
  constructor <;> simp [navGoals, Retry.recoveries, failed, answered, h]

theorem Uncounted.grows {new : List Obs} (h : Uncounted leg new) {o : Obs} {bs : List Behaviour}
    {c c' : Counts} (hg : Grows leg c [o] bs c') : Grows leg c (new ++ [o]) bs c' := by
  obtain ⟨g₁, g₂, g₃, g₄, g₅, g₆⟩ := hg
  constructor
  · rw [navGoals, List.countP_append, ← navGoals, h.navs, Nat.zero_add]
    exact g₁
  · rw [Retry.recoveries, List.count_append, ← Retry.recoveries, h.recoveries, Nat.zero_add]
    exact g₂
  · rw [Retry.failed, List.count_append, ← Retry.failed, h.navFailures, Nat.zero_add]
    exact g₃
  · rw [Retry.failed, List.count_append, ← Retry.failed, h.recoveryFailures, Nat.zero_add]
    exact g₄
  · exact g₅
  · exact g₆

theorem Uncounted.grows_nil {new : List Obs} (h : Uncounted leg new) (c : Counts) :
    Grows leg c new [] c :=
  ⟨by rw [h.navs]; rfl, by rw [h.recoveries]; rfl, by rw [h.navFailures]; rfl,
    by rw [h.recoveryFailures]; rfl, le_rfl, le_rfl⟩

end

/-- Only goals that were sent have been answered. -/
def Past (w : World) : Prop := ∀ o ∈ w.trace, ∀ g, answered o = some g → g < w.nextGoal

theorem Past.grow {w w' : World} (h : Past w) {new : List Obs} (ht : w'.trace = w.trace ++ new)
    (hnew : ∀ o ∈ new, answered o = none) (hg : w.nextGoal ≤ w'.nextGoal) : Past w' := by
  intro o ho g hog
  rw [ht] at ho
  obtain ho | ho := List.mem_append.mp ho
  · exact (h o ho g hog).trans_le hg
  · simp [hnew o ho] at hog

theorem Past.set {w : World} (h : Past w) (leg : Leg) (r : RequestRecovery) :
    Past (RequestRecovery.set leg r w) := h

/-- A RUNNING `NavigateToPose` knows every answer to its goal. -/
structure NavKnows (leg : Leg) (tr : List Obs) (s : NavState) : Prop where
  sent : ∃ goal, Obs.navGoal (.to leg) s.goal goal ∈ tr
  response : ∀ accepted, Obs.response s.goal accepted ∈ tr → s.responseReceived = true
  accepted : s.goalAccepted = true → Obs.response s.goal true ∈ tr
  result : ∀ code, Obs.result s.goal code ∈ tr → s.resultReceived = true

/-- `RequestRecovery` has sent goal `g`. -/
def Begun (leg : Leg) (g : Nat) (tr : List Obs) : Prop :=
  (∃ goal, .spinGoal leg g goal ∈ tr) ∨ ∃ goal, .backUpGoal leg g goal ∈ tr

theorem Begun.mono {leg : Leg} {g : Nat} {tr tr' : List Obs} (h : Begun leg g tr)
    (hsub : tr ⊆ tr') : Begun leg g tr' := by
  obtain ⟨goal, ho⟩ | ⟨goal, ho⟩ := h
  · exact .inl ⟨goal, hsub ho⟩
  · exact .inr ⟨goal, hsub ho⟩

/-- A RUNNING `RequestRecovery` knows the result of the goal it waits for. -/
structure RecovKnows (leg : Leg) (tr : List Obs) (st : RecovState) : Prop where
  sent : ∀ g, st.goal = some g → Begun leg g tr
  result : ∀ g, st.goal = some g → ∀ code, Obs.result g code ∈ tr → st.resultReceived = true
  notReady : st.goal = none → st.resultReceived = true

section
variable {leg : Leg} {tr : List Obs}

theorem exists_of_finished {g : Nat} (h : finished g tr = true) :
    ∃ code, Obs.result g code ∈ tr := by
  obtain ⟨o, ho, hg⟩ := List.any_eq_true.mp h
  cases o with
  | result g' code =>
    obtain rfl : g' = g := by simpa using hg
    exact ⟨code, ho⟩
  | _ => simp at hg

/-- A navigation whose goal is settled does not wait. -/
theorem NavKnows.settled {s : NavState} (h : NavKnows leg tr s) (hs : settled leg tr = true) :
    s.responseReceived = true ∧ (s.goalAccepted = true → s.resultReceived = true) := by
  obtain ⟨goal, hsent⟩ := h.sent
  have hgoal := List.all_eq_true.mp hs _ hsent
  simp only [ne_eq, not_true_eq_false, decide_false, Bool.false_or] at hgoal
  split at hgoal
  · next hacc =>
    obtain ⟨code, hres⟩ := exists_of_finished hgoal
    exact ⟨h.response _ hacc, fun _ => h.result code hres⟩
  · next hacc =>
    exact ⟨h.response _ (by simpa using hgoal), fun ha => absurd (h.accepted ha) hacc⟩

theorem RecovKnows.settled {st : RecovState} (h : RecovKnows leg tr st)
    (hs : settled leg tr = true) : st.resultReceived = true := by
  cases hg : st.goal with
  | none => exact h.notReady hg
  | some g =>
    have hfin : finished g tr = true := by
      obtain ⟨goal, hsent⟩ | ⟨goal, hsent⟩ := h.sent g hg
      · simpa using List.all_eq_true.mp hs _ hsent
      · simpa using List.all_eq_true.mp hs _ hsent
    obtain ⟨code, hres⟩ := exists_of_finished hfin
    exact h.result g hg code hres

theorem NavKnows.append {s : NavState} (h : NavKnows leg tr s) {new : List Obs}
    (hnew : ∀ o ∈ new, answered o ≠ some s.goal) : NavKnows leg (tr ++ new) s where
  sent := h.sent.imp fun _ ho => List.mem_append_left _ ho
  response accepted ho := (List.mem_append.mp ho).elim (h.response accepted)
    fun ho => absurd rfl (hnew _ ho)
  accepted ha := List.mem_append_left _ (h.accepted ha)
  result code ho := (List.mem_append.mp ho).elim (h.result code) fun ho => absurd rfl (hnew _ ho)

theorem RecovKnows.append {st : RecovState} (h : RecovKnows leg tr st) {new : List Obs}
    (hnew : ∀ o ∈ new, ∀ g, st.goal = some g → answered o ≠ some g) :
    RecovKnows leg (tr ++ new) st where
  sent g hg := (h.sent g hg).mono (List.subset_append_left ..)
  result g hg code ho := (List.mem_append.mp ho).elim (h.result g hg code)
    fun ho => absurd rfl (hnew _ ho g hg)
  notReady := h.notReady

theorem NavKnows.onResponse {s : NavState} (h : NavKnows leg tr s) (g : Nat) (accepted : Bool) :
    NavKnows leg (tr ++ [.response g accepted]) (s.onResponse g accepted) := by
  unfold NavState.onResponse
  split
  · next hg =>
    refine ⟨h.sent.imp fun _ ho => List.mem_append_left _ ho, fun _ _ => rfl, fun ha => ?_,
      fun code ho => h.result code (by simpa using ho)⟩
    obtain rfl : accepted = true := ha
    simp [hg]
  · next hg => exact h.append (by simpa [answered] using Ne.symm hg)

theorem NavKnows.onResult {s : NavState} (h : NavKnows leg tr s) (g : Nat) (code : ResultCode) :
    NavKnows leg (tr ++ [.result g code]) (s.onResult g code) := by
  unfold NavState.onResult
  split
  · next hg =>
    exact ⟨h.sent.imp fun _ ho => List.mem_append_left _ ho,
      fun accepted ho => h.response accepted (by simpa using ho),
      fun ha => List.mem_append_left _ (h.accepted ha), fun _ _ => rfl⟩
  · next hg => exact h.append (by simpa [answered] using Ne.symm hg)

/-- A response is no result. -/
theorem RecovKnows.response {st : RecovState} (h : RecovKnows leg tr st) (g : Nat)
    (accepted : Bool) : RecovKnows leg (tr ++ [.response g accepted]) st where
  sent g hg := (h.sent g hg).mono (List.subset_append_left ..)
  result g hg code ho := h.result g hg code (by simpa using ho)
  notReady := h.notReady

theorem RecovKnows.onResult {st : RecovState} (h : RecovKnows leg tr st) (g : Nat)
    (code : ResultCode) : RecovKnows leg (tr ++ [.result g code]) (st.onResult g code) := by
  unfold RecovState.onResult
  split
  · exact ⟨fun g hg => (h.sent g hg).mono (List.subset_append_left ..), fun _ _ _ _ => rfl,
      fun _ => rfl⟩
  · next hg =>
    refine h.append fun o ho g' hg' ha => hg ?_
    obtain rfl := List.mem_singleton.mp ho
    rw [hg', ← ha, answered]

theorem Past.answer {w w' : World} (h : Past w) {o : Obs} {g : Nat} (ht : w'.trace = w.trace ++ [o])
    (ho : answered o = some g) (hg : g < w.nextGoal) (hgoal : w.nextGoal ≤ w'.nextGoal) :
    Past w' := by
  intro o' ho' g' hg'
  rw [ht] at ho'
  obtain ho' | ho' := List.mem_append.mp ho'
  · exact (h o' ho' g' hg').trans_le hgoal
  · obtain rfl := List.mem_singleton.mp ho'
    obtain rfl : g = g' := Option.some.inj (ho.symm.trans hg')
    exact hg.trans_le hgoal

theorem Past.unanswered {w : World} (h : Past w) {new : List Obs}
    (hnew : ∀ o ∈ new, answered o = none) {o : Obs} (ho : o ∈ w.trace ++ new) :
    answered o ≠ some w.nextGoal := by
  obtain ho | ho := List.mem_append.mp ho
  · exact fun hg => lt_irrefl _ (h o ho _ hg)
  · simp [hnew o ho]

/-- Nothing has been heard of a goal that has just been sent. -/
theorem Past.navKnows {w : World} (h : Past w) {new : List Obs}
    (hnew : ∀ o ∈ new, answered o = none) {goal : Fms.PoseStamped}
    (hsent : .navGoal (.to leg) w.nextGoal goal ∈ new) :
    NavKnows leg (w.trace ++ new) { goal := w.nextGoal } where
  sent := ⟨goal, List.mem_append_right _ hsent⟩
  response _ ho := absurd rfl (h.unanswered hnew ho)
  accepted ha := absurd ha Bool.false_ne_true
  result _ ho := absurd rfl (h.unanswered hnew ho)

theorem Past.recovKnows {w : World} (h : Past w) {new : List Obs}
    (hnew : ∀ o ∈ new, answered o = none) {ready : Bool}
    (hsent : ready = true → Begun leg w.nextGoal new) :
    RecovKnows leg (w.trace ++ new) (launched (newGoal ready w)) := by
  cases ready with
  | false => exact ⟨nofun, nofun, fun _ => rfl⟩
  | true =>
    refine ⟨fun g hg => ?_, fun g hg code ho => ?_, nofun⟩
    · obtain rfl : w.nextGoal = g := Option.some.inj hg
      exact (hsent rfl).mono (List.subset_append_right ..)
    · obtain rfl : w.nextGoal = g := Option.some.inj hg
      exact absurd rfl (h.unanswered hnew ho)

end

end RobotAgent.Retry
