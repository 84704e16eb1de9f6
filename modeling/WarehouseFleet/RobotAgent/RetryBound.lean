import WarehouseFleet.RobotAgent.Position
import WarehouseFleet.RobotAgent.RetryCounts

/-!
# Retries are bounded

Three counters nest in a leg: the failures of the retry node, the attempts of `RequestRecovery`, and
the spin and backup of one attempt. Where the activation stands (`At`) bounds what it has counted so
far, and how many ticks can have found every goal answered: each of those moves it on, by at least
one of the 24 steps there are.
-/

namespace RobotAgent.Retry

open BehaviorTree
open Recovery (Behaviour awaited launched newGoal)

/-! ## Where the activation stands -/

/-- `NavigateToPose` is about to be started, after `k` failures. -/
structure NavDue (leg : Leg) (k polls : Nat) (x : World × List Behaviour) : Prop where
  counts : Within leg x ⟨k, k, k, k, 3 * k, 3 * k⟩
  past : Past x.1
  polls : polls ≤ 8 * k

/-- `NavigateToPose` is RUNNING. -/
structure Driving (leg : Leg) (k polls : Nat) (x : World × List Behaviour) : Prop where
  counts : Within leg x ⟨k + 1, k, k, k, 3 * k, 3 * k⟩
  past : Past x.1
  polls : polls ≤ 8 * k
  knows : ∀ s, x.1.nav (.to leg) = some s → NavKnows leg x.1.trace s

/-- `RequestRecovery` is about to be started. -/
structure RecoverDue (leg : Leg) (k polls : Nat) (x : World × List Behaviour) : Prop where
  counts : Within leg x ⟨k + 1, k, k + 1, k, 3 * k, 3 * k⟩
  past : Past x.1
  polls : polls ≤ 8 * k + 1

/-- The backup comes after the spin of the same attempt. -/
def late : Behaviour → Nat
  | .spin => 0
  | .backup => 1

/-- `RequestRecovery` waits for `b` in its attempt `a`. -/
structure Awaits (leg : Leg) (k polls : Nat) (b : Behaviour) (a : Nat) (st : RecovState)
    (x : World × List Behaviour) : Prop where
  lt : a < 3
  attempt : (x.1.recov leg).attempt = a
  awaited : awaited (x.1.recov leg) = some (b, st)
  knows : RecovKnows leg x.1.trace st
  counts : Within leg x ⟨k + 1, k + 1, k + 1, k, 3 * k + a + 1, 3 * k + a + late b⟩
  past : Past x.1
  polls : polls ≤ 8 * k + 1 + 2 * a + late b

/-- `RequestRecovery` is RUNNING; when its attempts are `spent`, the next tick returns. -/
inductive Recovering (leg : Leg) (k polls : Nat) (x : World × List Behaviour) : Prop where
  | waits (b : Behaviour) (a : Nat) (st : RecovState) (h : Awaits leg k polls b a st x)
  | spent (hp : (x.1.recov leg).phase = .done ∨ (x.1.recov leg).phase = .failed)
      (counts : Within leg x ⟨k + 1, k + 1, k + 1, k, 3 * k + 3, 3 * k + 3⟩)
      (past : Past x.1) (polls : polls ≤ 8 * k + 7)

/-- The retry node has returned. -/
def Ended (leg : Leg) (b : Bool) (x : World × List Behaviour) : Prop :=
  ∃ n m, Within leg x ⟨3, 3, n, m, 9, 9⟩ ∧ (b = false → n = 3 ∧ m = 3)

theorem Within.ended {leg : Leg} {x : World × List Behaviour} {c : Counts} (h : Within leg x c)
    (hc : c.navs ≤ 3 ∧ c.recoveries ≤ 3 ∧ c.spins ≤ 9 ∧ c.backups ≤ 9) : Ended leg true x :=
  ⟨c.navFailures, c.recoveryFailures, ⟨h.navs.trans hc.1, h.recoveries.trans hc.2.1, h.navFailures,
    h.recoveryFailures, h.spins.trans hc.2.2.1, h.backups.trans hc.2.2.2⟩, nofun⟩

section
variable {leg : Leg} {k polls polls' : Nat} {x : World × List Behaviour}

/-- What a call of `NavigateToPose` has to establish. -/
def navPost (leg : Leg) (k polls : Nat) : NodeStatus × World × List Behaviour → Prop
  | (.running, x) => Driving leg k polls x
  | (.success, x) => Ended leg true x
  | (.failure, x) => RecoverDue leg k polls x

/-- What a call of `RequestRecovery` has to establish. -/
def recoverPost (leg : Leg) (k polls : Nat) : NodeStatus × World × List Behaviour → Prop
  | (.running, x) => Recovering leg k polls x
  | (.success, x) => Ended leg true x
  | (.failure, x) => if k + 1 < 3 then NavDue leg (k + 1) polls x else Ended leg false x

theorem NavDue.onStart (h : NavDue leg k polls x) (e : TickEnv) :
    navPost leg k polls ((counted e (.navigateToPose (.to leg))).onStart x) := by
  simp only [counted, sem, returns]
  obtain ⟨heq, -⟩ | ⟨goal, -, -, heq⟩ := NavigateToPose.onStart_cases e x.1 (.to leg)
  · rw [heq]
    have hgrow : Grows leg ⟨k, k, k, k, 3 * k, 3 * k⟩
        [.returned (.navigateToPose (.to leg)) .failure] [] ⟨k + 1, k, k + 1, k, 3 * k, 3 * k⟩ := by
      constructor <;> simp [navGoals, Retry.recoveries, Retry.failed]
    exact ⟨h.counts.grow hgrow rfl rfl, h.past.grow rfl (by simp [answered]) le_rfl,
      h.polls.trans (Nat.le_succ _)⟩
  · rw [heq]
    let new : List Obs := [.navGoal (.to leg) x.1.nextGoal { goal with stamp := e.now },
      .posted (.navigateToPose (.to leg)) .navStarted,
      .returned (.navigateToPose (.to leg)) .running]
    have htrace : ((NavigateToPose.send e (.to leg) goal x.1).emit
        (.returned (.navigateToPose (.to leg)) .running)).trace = x.1.trace ++ new := by
      simp [NavigateToPose.send_trace, new]
    have hnew : ∀ o ∈ new, answered o = none := by simp [new, answered]
    have hgrow : Grows leg ⟨k, k, k, k, 3 * k, 3 * k⟩ new [] ⟨k + 1, k, k, k, 3 * k, 3 * k⟩ := by
      constructor <;> simp [new, navGoals, Retry.recoveries, Retry.failed]
    refine ⟨h.counts.grow hgrow htrace rfl, h.past.grow htrace hnew (Nat.le_succ _), h.polls, ?_⟩
    intro s hs
    obtain rfl : { goal := x.1.nextGoal } = s := by simpa using hs
    show NavKnows leg (World.trace _) _
    rw [htrace]
    exact h.past.navKnows hnew (List.mem_cons_self ..)

/-- What the call of a RUNNING navigation leaves in the trace. -/
theorem navRuns_trace {w : World} {r : NodeStatus × World}
    (h : NavigateToPose.Runs w (.to leg) r) :
    ∃ new, r.2.trace = w.trace ++ new ∧ Uncounted leg new ∧ r.2.nextGoal = w.nextGoal := by
  have posted : ∀ ev, Uncounted leg [.posted (.navigateToPose (.to leg)) ev] := fun ev => by
    constructor <;> simp [navGoals, Retry.recoveries, Retry.failed, answered]
  cases h with
  | fault =>
    let gs := ((w.nav (.to leg)).bind NavigateToPose.toCancel).toList
    refine ⟨gs.map .cancel ++ [.posted (.navigateToPose (.to leg)) .faultInjected],
      by simp [NavigateToPose.onHalted, World.clearFault, gs], ?_, rfl⟩
    constructor <;>
      simp [navGoals, Retry.recoveries, Retry.failed, answered, Function.comp_def, or_imp,
        forall_and, List.count_eq_zero]
  | gone | waiting =>
    exact ⟨[], (List.append_nil _).symm, uncounted_nil leg, rfl⟩
  | rejected | reached | missed => exact ⟨_, rfl, posted _, rfl⟩

/-- A navigation that waits has a goal that is not settled. -/
theorem Driving.waits (h : Driving leg k polls x) {r : NodeStatus × World}
    (hr : NavigateToPose.Runs x.1 (.to leg) r) (hrun : r.1 = .running) :
    settled leg x.1.trace = false := by
  cases hr with
  | waiting s hf hs hw =>
    refine Bool.eq_false_iff.mpr fun hset => ?_
    obtain ⟨hresp, hres⟩ := (h.knows s hs).settled hset
    obtain hw | ⟨hacc, hw⟩ := hw
    · exact absurd (hresp.symm.trans hw) (by decide)
    · exact absurd ((hres hacc).symm.trans hw) (by decide)
  | _ => cases hrun

theorem Driving.onRunning (h : Driving leg k polls x) (e : TickEnv) (hk : k < 3)
    (hpolls : polls' ≤ polls + 1) (hs : settled leg x.1.trace = false → polls' ≤ polls) :
    navPost leg k polls' ((counted e (.navigateToPose (.to leg))).onRunning x) := by
  have hr := NavigateToPose.runs x.1 (.to leg)
  obtain ⟨new, htrace, hnew, hgoal⟩ := navRuns_trace hr
  simp only [counted, sem, returns]
  generalize NavigateToPose.onRunning (.to leg) x.1 = r at hr htrace hgoal ⊢
  obtain ⟨st, w⟩ := r
  have ht : (w.emit (.returned (.navigateToPose (.to leg)) st)).trace =
      x.1.trace ++ (new ++ [.returned (.navigateToPose (.to leg)) st]) := by
    rw [World.emit_trace, htrace, List.append_assoc]
  have hpast : Past (w.emit (.returned (.navigateToPose (.to leg)) st)) :=
    h.past.grow ht (by simpa [or_imp, forall_and, answered] using hnew.unanswered) hgoal.ge
  cases st with
  | running =>
    obtain rfl : w = x.1 := hr.eq_of_running rfl
    have hret : Uncounted leg [.returned (.navigateToPose (.to leg)) .running] :=
      uncounted_returned leg _ (by decide)
    exact ⟨h.counts.grow (hret.grows_nil _) rfl rfl, hpast, (hs (h.waits hr rfl)).trans h.polls,
      fun s hs => (h.knows s hs).append (by simp [answered])⟩
  | success =>
    have hret : Uncounted leg [.returned (.navigateToPose (.to leg)) .success] :=
      uncounted_returned leg _ (by decide)
    exact (h.counts.grow (hnew.grows (hret.grows_nil _)) ht rfl).ended (by dsimp only; omega)
  | failure =>
    have hgrow : Grows leg ⟨k + 1, k, k, k, 3 * k, 3 * k⟩
        [.returned (.navigateToPose (.to leg)) .failure] [] ⟨k + 1, k, k + 1, k, 3 * k, 3 * k⟩ := by
      constructor <;> simp [navGoals, Retry.recoveries, Retry.failed]
    exact ⟨h.counts.grow (hnew.grows hgrow) ht rfl, hpast,
      hpolls.trans (Nat.add_le_add_right h.polls 1)⟩

/-! ### The calls of `RequestRecovery` -/

theorem startedBy_of {r r' : RequestRecovery} {b : Behaviour} {st : RecovState}
    (ha : awaited r = some (b, st)) (hr : st.resultReceived = true) :
    startedBy r r' = ((awaited r').map (·.1)).toList := by
  rw [startedBy, Recovery.tickLog_of ha hr]
  cases awaited r' <;> simp

/-- A call that finds nothing finished starts nothing. -/
theorem startedBy_nil {r r' : RequestRecovery}
    (h : ∀ b st, awaited r = some (b, st) → st.resultReceived = false) : startedBy r r' = [] := by
  cases ha : awaited r with
  | none => simp [startedBy, Recovery.tickLog, ha]
  | some a => simp [startedBy, Recovery.tickLog, ha, h a.1 a.2 ha]

/-- `start_spin` or `start_backup` takes `w` to `w'`. -/
structure Begins (leg : Leg) (b : Behaviour) (ready : Bool) (w w' : World) : Prop where
  awaited : awaited (w'.recov leg) = some (b, launched (newGoal ready w))
  attempt : (w'.recov leg).attempt = (w.recov leg).attempt
  nextGoal : w.nextGoal ≤ w'.nextGoal
  trace : ∃ new, w'.trace = w.trace ++ new ∧ Uncounted leg new ∧
    (ready = true → Begun leg w.nextGoal new)

theorem begins_spin (e : TickEnv) {w : World} (hp : (w.recov leg).phase = .spin) :
    Begins leg .spin e.spinReady w (RequestRecovery.startSpin e leg w) where
  awaited := Recovery.awaited_startSpin e hp
  attempt := by rw [Recovery.startSpin_recov]
  nextGoal := Recovery.nextGoal_le_startSpin e leg w
  trace := by
    unfold RequestRecovery.startSpin
    split
    · refine ⟨_, rfl, ?_, fun _ => .inl ⟨_, List.mem_singleton_self _⟩⟩
      constructor <;> simp [navGoals, Retry.recoveries, Retry.failed, answered]
    · next h =>
      exact ⟨[], (List.append_nil _).symm, uncounted_nil leg, fun hr => absurd hr h⟩

theorem begins_backup (e : TickEnv) {w : World} (hp : (w.recov leg).phase = .backup) :
    Begins leg .backup e.backupReady w (RequestRecovery.startBackup e leg w) where
  awaited := by
    rw [Recovery.startBackup_recov]
    exact Recovery.awaited_backup hp rfl
  attempt := by rw [Recovery.startBackup_recov]
  nextGoal := Recovery.nextGoal_le_startBackup e leg w
  trace := by
    unfold RequestRecovery.startBackup
    split
    · refine ⟨_, rfl, ?_, fun _ => .inr ⟨_, List.mem_singleton_self _⟩⟩
      constructor <;> simp [navGoals, Retry.recoveries, Retry.failed, answered]
    · next h =>
      exact ⟨[], (List.append_nil _).symm, uncounted_nil leg, fun hr => absurd hr h⟩

/-- A spin or a backup has been started, and the node waits for it. -/
theorem Begins.recovering {b : Behaviour} {ready : Bool} {w w' : World}
    (h : Begins leg b ready w w') {bs : List Behaviour} {a : Nat} (ha : a < 3)
    (hatt : (w.recov leg).attempt = a) {c : Counts} (counts : Within leg (w, bs) c)
    (hgrow : Grows leg c [.returned (.requestRecovery leg) .running] [b]
      ⟨k + 1, k + 1, k + 1, k, 3 * k + a + 1, 3 * k + a + late b⟩)
    (past : Past w) (hpolls : polls ≤ 8 * k + 1 + 2 * a + late b) :
    Recovering leg k polls (w'.emit (.returned (.requestRecovery leg) .running), bs ++ [b]) := by
  obtain ⟨new, htrace, hnew, hsent⟩ := h.trace
  have ht : (w'.emit (.returned (.requestRecovery leg) .running)).trace =
      w.trace ++ (new ++ [.returned (.requestRecovery leg) .running]) := by
    rw [World.emit_trace, htrace, List.append_assoc]
  have hun : ∀ o ∈ new ++ [.returned (.requestRecovery leg) .running], answered o = none := by
    simpa [or_imp, forall_and, answered] using hnew.unanswered
  refine .waits b a _ ⟨ha, h.attempt.trans hatt, h.awaited, ?_,
    counts.grow (hnew.grows hgrow) ht rfl, past.grow ht hun h.nextGoal, hpolls⟩
  show RecovKnows leg (World.trace _) _
  rw [ht]
  exact past.recovKnows hun fun hr => (hsent hr).mono (List.subset_append_left ..)

/-- Another spin. -/
theorem recovering_spin (e : TickEnv) {w : World} {bs : List Behaviour} {a : Nat} (ha : a < 3)
    (hp : (w.recov leg).phase = .spin) (hatt : (w.recov leg).attempt = a)
    (counts : Within leg (w, bs) ⟨k + 1, k + 1, k + 1, k, 3 * k + a, 3 * k + a⟩) (past : Past w)
    (hpolls : polls ≤ 8 * k + 1 + 2 * a) :
    Recovering leg k polls ((RequestRecovery.startSpin e leg w).emit
      (.returned (.requestRecovery leg) .running), bs ++ [.spin]) := by
  refine (begins_spin e hp).recovering ha hatt counts ?_ past hpolls
  constructor <;> simp [navGoals, Retry.recoveries, Retry.failed, late]

theorem RecoverDue.onStart (h : RecoverDue leg k polls x) (e : TickEnv) :
    recoverPost leg k polls ((counted e (.requestRecovery leg)).onStart x) := by
  generalize hw : (RequestRecovery.set leg { x.1.recov leg with attempt := 0, phase := .spin }
    x.1).post (.requestRecovery leg) .navFailed = w₁
  have htrace : w₁.trace = x.1.trace ++ [.posted (.requestRecovery leg) .navFailed] := by
    rw [← hw]; simp
  have hgrow : Grows leg ⟨k + 1, k, k + 1, k, 3 * k, 3 * k⟩
      [.posted (.requestRecovery leg) .navFailed] []
      ⟨k + 1, k + 1, k + 1, k, 3 * k + 0, 3 * k + 0⟩ := by
    constructor <;> simp [navGoals, Retry.recoveries, Retry.failed]
  have hgoal : x.1.nextGoal ≤ w₁.nextGoal := by rw [← hw]; exact le_rfl
  simp only [counted, sem, returns, RequestRecovery.onStart, hw]
  refine recovering_spin (a := 0) e (Nat.succ_pos 2) (by rw [← hw]; simp) (by rw [← hw]; simp)
    (h.counts.grow hgrow htrace (List.append_nil _).symm) (h.past.grow htrace ?_ hgoal) h.polls
  simp [answered]

/-- The behaviour has failed: another spin, or the attempts are over. -/
theorem Awaits.lost {b : Behaviour} {a : Nat} {st : RecovState}
    (h : Awaits leg k polls b a st x) (e : TickEnv) (hr : st.resultReceived = true)
    (hpolls : polls' ≤ polls + 1) :
    Recovering leg k polls' ((RequestRecovery.attemptFailed e leg 3 x.1).emit
      (.returned (.requestRecovery leg) .running), x.2 ++ startedBy (x.1.recov leg)
        ((RequestRecovery.attemptFailed e leg 3 x.1).recov leg)) := by
  obtain ⟨ha, hatt, haw, -, counts, past, hp⟩ := h
  have hb : late b ≤ 1 := by cases b <;> decide
  rw [startedBy_of haw hr]
  dsimp only [RequestRecovery.attemptFailed]
  split
  · next hmax =>
    have hgrow : Grows leg ⟨k + 1, k + 1, k + 1, k, 3 * k + a + 1, 3 * k + a + late b⟩
        [.returned (.requestRecovery leg) .running] []
        ⟨k + 1, k + 1, k + 1, k, 3 * k + 3, 3 * k + 3⟩ := by
      constructor <;> simp [navGoals, Retry.recoveries, Retry.failed] <;> omega
    refine .spent (.inr (by simp)) (counts.grow hgrow rfl ?_)
      (past.grow rfl (by simp [answered]) le_rfl) (by omega)
    simp [Recovery.awaited]
  · next hmax =>
    rw [hatt] at hmax ⊢
    let w := RequestRecovery.set leg
      { x.1.recov leg with attempt := (a : Int) + 1, phase := .spin } x.1
    have hphase : (w.recov leg).phase = .spin := by simp [w]
    have hgrow : Grows leg ⟨k + 1, k + 1, k + 1, k, 3 * k + a + 1, 3 * k + a + late b⟩ [] []
        ⟨k + 1, k + 1, k + 1, k, 3 * k + (a + 1), 3 * k + (a + 1)⟩ := by
      constructor <;> simp [navGoals, Retry.recoveries, Retry.failed]
      all_goals omega
    show Recovering leg k polls' (_, x.2 ++
      ((Recovery.awaited ((RequestRecovery.startSpin e leg w).recov leg)).map (·.1)).toList)
    rw [Recovery.awaited_startSpin e hphase]
    exact recovering_spin e (by omega) hphase (by simp)
      ((counts.set _).grow hgrow (List.append_nil _).symm (List.append_nil _).symm) (past.set leg _)
      (by omega)

theorem Awaits.onRunning {b : Behaviour} {a : Nat} {st : RecovState}
    (h : Awaits leg k polls b a st x) (e : TickEnv) (hpolls : polls' ≤ polls + 1)
    (hs : settled leg x.1.trace = false → polls' ≤ polls) :
    recoverPost leg k polls' ((counted e (.requestRecovery leg)).onRunning x) := by
  have hticks := Recovery.ticks e leg x.1 3
  simp only [counted, sem, returns]
  generalize RequestRecovery.onRunning e leg 3 x.1 = r at hticks ⊢
  cases hticks with
  | gone ha => simp [h.awaited] at ha
  | done hp | failed hp => exact absurd h.awaited (by simp [Recovery.awaited, hp])
  | waiting b' st' ha hr =>
    obtain ⟨rfl, rfl⟩ : b = b' ∧ st = st' := by simpa [ha] using h.awaited.symm
    have hnil : startedBy (x.1.recov leg) (x.1.recov leg) = [] :=
      startedBy_nil fun b' st' ha' => by simp_all
    have hunsettled : settled leg x.1.trace = false :=
      Bool.eq_false_iff.mpr fun hset => by simp [h.knows.settled hset] at hr
    have hret : Uncounted leg [.returned (.requestRecovery leg) .running] :=
      uncounted_returned leg _ (by decide)
    show Recovering leg k polls' (_, x.2 ++ startedBy (x.1.recov leg) (x.1.recov leg))
    rw [hnil]
    exact .waits b a st
      { h with
        knows := h.knows.append (by simp [answered])
        counts := h.counts.grow (hret.grows_nil _) rfl rfl
        past := h.past.grow rfl hret.unanswered le_rfl
        polls := (hs hunsettled).trans h.polls }
  | spun st' ha hr hg =>
    obtain ⟨rfl, rfl⟩ : b = .spin ∧ st = st' := by simpa [ha] using h.awaited.symm
    let w := RequestRecovery.set leg { x.1.recov leg with phase := .backup } x.1
    have hbegins : Begins leg .backup e.backupReady w (RequestRecovery.startBackup e leg w) :=
      begins_backup e (by simp [w])
    have hatt : (w.recov leg).attempt = a := by simpa [w] using h.attempt
    have hgrow : Grows leg ⟨k + 1, k + 1, k + 1, k, 3 * k + a + 1, 3 * k + a + late .spin⟩
        [.returned (.requestRecovery leg) .running] [.backup]
        ⟨k + 1, k + 1, k + 1, k, 3 * k + a + 1, 3 * k + a + late .backup⟩ := by
      constructor <;> simp [navGoals, Retry.recoveries, Retry.failed, late]
    show Recovering leg k polls' (_, x.2 ++ startedBy (x.1.recov leg)
      ((RequestRecovery.startBackup e leg w).recov leg))
    rw [startedBy_of ha hr, hbegins.awaited]
    exact hbegins.recovering h.lt hatt (h.counts.set _) hgrow (h.past.set leg _)
      (hpolls.trans (Nat.add_le_add_right h.polls 1))
  | backedUp st' ha hr hg =>
    obtain ⟨rfl, rfl⟩ : b = .backup ∧ st = st' := by simpa [ha] using h.awaited.symm
    have hlt := h.lt
    have hp := h.polls
    have hgrow : Grows leg ⟨k + 1, k + 1, k + 1, k, 3 * k + a + 1, 3 * k + a + late .backup⟩
        [.returned (.requestRecovery leg) .running] []
        ⟨k + 1, k + 1, k + 1, k, 3 * k + 3, 3 * k + 3⟩ := by
      constructor <;> simp [navGoals, Retry.recoveries, Retry.failed, late] <;> omega
    simp only [late] at hp
    refine .spent (.inl (by simp)) (h.counts.grow hgrow rfl ?_)
      (h.past.grow rfl (by simp [answered]) le_rfl) (by omega)
    rw [startedBy_of ha hr]
    simp [Recovery.awaited]
  | lost b' st' ha hr hg =>
    obtain ⟨rfl, rfl⟩ : b = b' ∧ st = st' := by simpa [ha] using h.awaited.symm
    exact h.lost e hr hpolls

theorem Recovering.onRunning (h : Recovering leg k polls x) (e : TickEnv) (hk : k < 3)
    (hpolls : polls' ≤ polls + 1) (hs : settled leg x.1.trace = false → polls' ≤ polls) :
    recoverPost leg k polls' ((counted e (.requestRecovery leg)).onRunning x) := by
  cases h with
  | waits b a st h => exact h.onRunning e hpolls hs
  | spent hp counts past hle =>
    have hnone : awaited (x.1.recov leg) = none := by
      obtain hp | hp := hp <;> simp [awaited, hp]
    have hnil : startedBy (x.1.recov leg) (x.1.recov leg) = [] :=
      startedBy_nil fun b st ha => by simp [hnone] at ha
    have hticks := Recovery.ticks e leg x.1 3
    simp only [counted, sem, returns]
    generalize RequestRecovery.onRunning e leg 3 x.1 = r at hticks ⊢
    cases hticks with
    | gone _ hp' => obtain hp | hp := hp <;> simp [hp] at hp'
    | waiting b st ha | lost b st ha => simp [hnone] at ha
    | spun st ha | backedUp st ha => simp [hnone] at ha
    | done =>
      have hgrow : Grows leg ⟨k + 1, k + 1, k + 1, k, 3 * k + 3, 3 * k + 3⟩
          [.posted (.requestRecovery leg) .recoveryDone, .returned (.requestRecovery leg) .success]
          [] ⟨k + 1, k + 1, k + 1, k, 3 * k + 3, 3 * k + 3⟩ := by
        constructor <;> simp [navGoals, Retry.recoveries, Retry.failed]
      show Ended leg true (_, x.2 ++ startedBy (x.1.recov leg) (x.1.recov leg))
      rw [hnil]
      exact (counts.grow hgrow (List.append_assoc ..) rfl).ended (by dsimp only; omega)
    | failed =>
      have hgrow : Grows leg ⟨k + 1, k + 1, k + 1, k, 3 * k + 3, 3 * k + 3⟩
          [.posted (.requestRecovery leg) .recoveryFailed,
            .returned (.requestRecovery leg) .failure] []
          ⟨k + 1, k + 1, k + 1, k + 1, 3 * k + 3, 3 * k + 3⟩ := by
        constructor <;> simp [navGoals, Retry.recoveries, Retry.failed]
      let w := (x.1.post (.requestRecovery leg) .recoveryFailed).emit
        (.returned (.requestRecovery leg) .failure)
      have hx : Within leg (w, x.2) ⟨k + 1, k + 1, k + 1, k + 1, 3 * k + 3, 3 * k + 3⟩ :=
        counts.grow hgrow (List.append_assoc ..) (List.append_nil _).symm
      have hpast : Past w := past.grow (List.append_assoc ..) (by simp [answered]) le_rfl
      show if k + 1 < 3 then
          NavDue leg (k + 1) polls' (w, x.2 ++ startedBy (x.1.recov leg) (x.1.recov leg))
        else Ended leg false (w, x.2 ++ startedBy (x.1.recov leg) (x.1.recov leg))
      rw [hnil, List.append_nil]
      split
      · exact ⟨hx, hpast, by omega⟩
      · next hlast =>
        obtain rfl : k = 2 := by omega
        exact ⟨3, 3, hx, fun _ => ⟨rfl, rfl⟩⟩

end

/-! ## One tick of the retry node -/

/-- The leaf at the path is about to be started. -/
inductive Due (leg : Leg) (polls : Nat) : Path → World × List Behaviour → Prop where
  | nav {k : Nat} {x : World × List Behaviour} (hk : k < 3) (h : NavDue leg k polls x) :
      Due leg polls (.deco k (.child 0 .leaf)) x
  | recover {k : Nat} {x : World × List Behaviour} (hk : k < 3) (h : RecoverDue leg k polls x) :
      Due leg polls (.deco k (.child 1 .leaf)) x

/-- The leaf at the path is RUNNING. -/
inductive At (leg : Leg) (polls : Nat) : Path → World × List Behaviour → Prop where
  | nav {k : Nat} {x : World × List Behaviour} (hk : k < 3) (h : Driving leg k polls x) :
      At leg polls (.deco k (.child 0 .leaf)) x
  | recover {k : Nat} {x : World × List Behaviour} (hk : k < 3) (h : Recovering leg k polls x) :
      At leg polls (.deco k (.child 1 .leaf)) x

theorem At.leafAt {leg : Leg} {polls : Nat} {p : Path} {x : World × List Behaviour}
    (h : At leg polls p x) : ∃ l, (navRetry leg).leafAt p = some l := by
  cases h with
  | nav hk => exact ⟨.navigateToPose (.to leg), if_pos hk⟩
  | recover hk => exact ⟨.requestRecovery leg, if_pos hk⟩

/-- The tick that makes `polls` out of `polls₀` finds the world `x`. -/
structure Polled (leg : Leg) (polls₀ polls : Nat) (x : World × List Behaviour) : Prop where
  le : polls ≤ polls₀ + 1
  unsettled : settled leg x.1.trace = false → polls ≤ polls₀

def outline (leg : Leg) (polls : Nat) : Outline (World × List Behaviour) where
  start := Due leg polls
  resume p x := ∃ polls₀, At leg polls₀ p x ∧ Polled leg polls₀ polls x
  running := At leg polls
  done := Ended leg

section
variable {leg : Leg} {k polls : Nat}

theorem after_nav (hk : k < 3) {r : NodeStatus × World × List Behaviour}
    (h : navPost leg k polls r) : (outline leg polls).after (.deco k (.child 0 .leaf))
      ((navRetry leg).next (.deco k (.child 0 .leaf))) r := by
  obtain ⟨st, x⟩ := r
  cases st with
  | running => exact .nav hk h
  | success => exact h
  | failure => exact .recover hk h

theorem after_recover (hk : k < 3) {r : NodeStatus × World × List Behaviour}
    (h : recoverPost leg k polls r) : (outline leg polls).after (.deco k (.child 1 .leaf))
      ((navRetry leg).next (.deco k (.child 1 .leaf))) r := by
  obtain ⟨st, x⟩ := r
  cases st with
  | running => exact .recover hk h
  | success => exact h
  | failure =>
    replace h : if k + 1 < 3 then NavDue leg (k + 1) polls x else Ended leg false x := h
    show (outline leg polls).reach
      (if k + 1 < 3 then .start (.deco (k + 1) (.child 0 .leaf)) else .done false) x
    split at h
    · next hk' => rw [if_pos hk']; exact .nav hk' h
    · next hk' => rw [if_neg hk']; exact h

theorem outline_holds (e : TickEnv) (leg : Leg) (polls : Nat) :
    (outline leg polls).Holds (counted e) (navRetry leg) := by
  intro p l hl
  obtain ⟨k, hk, ⟨rfl, rfl⟩ | ⟨rfl, rfl⟩⟩ := Point.leafAt_navRetry hl
  · refine ⟨fun x hx => ?_, fun x ⟨polls₀, hx, hp⟩ => ?_⟩
    · cases hx with
      | nav _ h => exact after_nav hk (h.onStart e)
    · cases hx with
      | nav _ h => exact after_nav hk (h.onRunning e hk hp.le hp.unsettled)
  · refine ⟨fun x hx => ?_, fun x ⟨polls₀, hx, hp⟩ => ?_⟩
    · cases hx with
      | recover _ h => exact after_recover hk (h.onStart e)
    · cases hx with
      | recover _ h => exact after_recover hk (h.onRunning e hk hp.le hp.unsettled)

end

/-! ## What happens between the ticks -/

/-- Nothing is counted, and what the RUNNING leaf knows stays right. -/
structure Between (leg : Leg) (w w' : World) : Prop where
  counts : ∀ {bs c}, Within leg (w, bs) c → Within leg (w', bs) c
  past : Past w → Past w'
  nav : ∀ s', w'.nav (.to leg) = some s' → ∃ s, w.nav (.to leg) = some s ∧
    (NavKnows leg w.trace s → NavKnows leg w'.trace s')
  phase : (w'.recov leg).phase = (w.recov leg).phase
  attempt : (w'.recov leg).attempt = (w.recov leg).attempt
  awaited : ∀ b st, awaited (w.recov leg) = some (b, st) → ∃ st',
    Recovery.awaited (w'.recov leg) = some (b, st') ∧
      (RecovKnows leg w.trace st → RecovKnows leg w'.trace st')

section
variable {leg : Leg} {w w' : World} {bs : List Behaviour} {polls : Nat}

theorem At.between (hb : Between leg w w') {p : Path} (h : At leg polls p (w, bs)) :
    At leg polls p (w', bs) := by
  cases h with
  | nav hk h =>
    refine .nav hk ⟨hb.counts h.counts, hb.past h.past, h.polls, fun s' hs' => ?_⟩
    obtain ⟨s, hs, hknows⟩ := hb.nav s' hs'
    exact hknows (h.knows s hs)
  | recover hk h =>
    refine .recover hk ?_
    cases h with
    | waits b a st h =>
      obtain ⟨st', haw, hknows⟩ := hb.awaited b st h.awaited
      exact .waits b a st' ⟨h.lt, hb.attempt.trans h.attempt, haw, hknows h.knows,
        hb.counts h.counts, hb.past h.past, h.polls⟩
    | spent hp counts past hle =>
      exact .spent (by rwa [hb.phase]) (hb.counts counts) (hb.past past) hle

theorem Ended.between (hb : Between leg w w') {b : Bool} (h : Ended leg b (w, bs)) :
    Ended leg b (w', bs) := by
  obtain ⟨n, m, hx, hfail⟩ := h
  exact ⟨n, m, hb.counts hx, hfail⟩

theorem between_goalResponse (leg : Leg) {g : Nat} (accepted : Bool) (hg : g < w.nextGoal) :
    Between leg w (goalResponse g accepted w) where
  counts {_ c} h := by
    have hgrow : Grows leg c [.response g accepted] [] c := by
      constructor <;> simp [navGoals, Retry.recoveries, Retry.failed]
    exact h.grow hgrow rfl (List.append_nil _).symm
  past h := h.answer rfl rfl hg le_rfl
  nav s' hs' := by
    obtain ⟨s, hs, rfl⟩ := Option.map_eq_some_iff.mp hs'
    exact ⟨s, hs, fun h => h.onResponse g accepted⟩
  phase := rfl
  attempt := rfl
  awaited _ st ha := ⟨st, ha, fun h => h.response g accepted⟩

theorem between_goalResult (leg : Leg) {g : Nat} (code : ResultCode) (hg : g < w.nextGoal) :
    Between leg w (goalResult g code w) where
  counts {_ c} h := by
    have hgrow : Grows leg c [.result g code] [] c := by
      constructor <;> simp [navGoals, Retry.recoveries, Retry.failed]
    exact h.grow hgrow rfl (List.append_nil _).symm
  past h := h.answer rfl rfl hg le_rfl
  nav s' hs' := by
    obtain ⟨s, hs, rfl⟩ := Option.map_eq_some_iff.mp hs'
    exact ⟨s, hs, fun h => h.onResult g code⟩
  phase := rfl
  attempt := rfl
  awaited b st ha := by
    refine ⟨st.onResult g code, ?_, fun h => h.onResult g code⟩
    show Recovery.awaited ((w.recov leg).onResult g code) = _
    rw [Recovery.awaited_onResult, ha]
    rfl

/-- Of the entries others make none is counted, and none answers a goal. -/
theorem uncounted_elsewhere (leg : Leg) (tr : List Obs) :
    Uncounted leg (tr.filter (!own leg ·)) where
  navs := by
    refine List.countP_eq_zero.mpr fun o ho => ?_
    cases o <;> simp_all [own]
  recoveries := by
    refine List.count_eq_zero.mpr fun ho => ?_
    simp [own] at ho
  navFailures := by
    refine List.count_eq_zero.mpr fun ho => ?_
    simp [own] at ho
  recoveryFailures := by
    refine List.count_eq_zero.mpr fun ho => ?_
    simp [own] at ho
  unanswered o ho := by
    cases o <;> simp_all [own, answered]

/-- Nothing the node reads has changed. -/
theorem between_untouched {new : List Obs} (ht : w'.trace = w.trace ++ new)
    (hnew : Uncounted leg new) (hnav : w'.nav (.to leg) = w.nav (.to leg))
    (hrecov : w'.recov leg = w.recov leg) (hgoal : w.nextGoal ≤ w'.nextGoal) :
    Between leg w w' where
  counts {_ c} h := h.grow (hnew.grows_nil c) ht (List.append_nil _).symm
  past h := h.grow ht hnew.unanswered hgoal
  nav s' hs' := by
    refine ⟨s', hnav ▸ hs', fun h => ?_⟩
    rw [ht]
    exact h.append fun o ho => by simp [hnew.unanswered o ho]
  phase := by rw [hrecov]
  attempt := by rw [hrecov]
  awaited b st ha := by
    refine ⟨st, hrecov ▸ ha, fun h => ?_⟩
    rw [ht]
    exact h.append fun o ho g _ => by simp [hnew.unanswered o ho]

end

/-! ## The activation -/

/-- The retry node is RUNNING, or it has returned. -/
inductive Standing (leg : Leg) (s : RetryRun) : Prop where
  | running (p : Path) (ht : s.tree = some p) (hr : s.returned = none)
      (h : At leg s.polls p (s.world, s.begun)) : Standing leg s
  | ended (b : Bool) (hr : s.returned = some b) (h : Ended leg b (s.world, s.begun)) :
      Standing leg s

section
variable {leg : Leg} {s : RetryRun}

/-- What a tick of the retry node leaves. -/
theorem standing_of_result {polls : Nat} {r : Outcome × World × List Behaviour}
    (h : (outline leg polls).result r) :
    Standing leg ⟨r.1.path?, done? r.1, r.2.1, r.2.2, polls⟩ := by
  obtain ⟨o, x⟩ := r
  cases o with
  | running p => exact .running p rfl rfl h
  | done b => exact .ended b rfl h

theorem Standing.between (h : Standing leg s) {w : World} (hb : Between leg s.world w) :
    Standing leg { s with world := w } := by
  cases h with
  | running p ht hr h => exact .running p ht hr (h.between hb)
  | ended b hr h => exact .ended b hr (h.between hb)

theorem Standing.tick (h : Standing leg s) (e : TickEnv) :
    Standing leg (Retry.step leg s (.tick e)) := by
  rw [Retry.step]
  cases h with
  | running p ht hr h =>
    have hp : Polled leg s.polls (if settled leg s.world.trace then s.polls + 1 else s.polls)
        (s.world, s.begun) := by
      constructor
      · split <;> omega
      · intro hs
        rw [if_neg (by simpa using hs)]
    obtain ⟨l, hl⟩ := h.leafAt
    rw [Retry.tick, if_neg (by simp [hr]), ht]
    exact standing_of_result (Outline.tick_resumed rfl (outline_holds e leg _) hl ⟨_, h, hp⟩)
  | ended b hr h =>
    rw [Retry.tick, if_pos (by simp [hr])]
    exact .ended b hr h

theorem Standing.step (h : Standing leg s) (ev : Recovery.Event) :
    Standing leg (Retry.step leg s ev) := by
  cases ev with
  | tick e => exact h.tick e
  | goalResponse g accepted =>
    rw [Retry.step]
    split
    · next hg => exact h.between (between_goalResponse leg accepted hg)
    · exact h
  | goalResult g code =>
    rw [Retry.step]
    split
    · next hg => exact h.between (between_goalResult leg code hg)
    · exact h
  | elsewhere w goals =>
    exact h.between (between_untouched rfl (uncounted_elsewhere leg w.trace)
      (Function.update_self ..) (Function.update_self ..) (Nat.le_add_right ..))

end

/-- With no server ready the attempts are used up, one in each tick. -/
example :
    let s := run .pick (.down 0) Config.sample.init.world (List.replicate 12 (.tick (.down 0)))
    s.returned = some false ∧ s.polls = 12 ∧ s.begun = List.replicate 9 .spin := by
  decide +kernel

end RobotAgent.Retry
