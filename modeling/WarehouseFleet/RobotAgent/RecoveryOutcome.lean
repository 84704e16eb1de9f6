import WarehouseFleet.RobotAgent.RecoveryRun

/-!
# How a recovery ends

As long as neither end is reached, every spin that failed and every backup that failed costs one
attempt, and a backup is tried after a successful spin only (`Trying`). `Stage` ties the four
phases to the log, and `recovery_outcome` reads the ends off it.
-/

namespace RobotAgent.Recovery

open BehaviorTree (NodeStatus)

/-- Outcomes that end the recovery neither way, but for their number. -/
inductive Trying : List (Behaviour × Bool) → Prop where
  | nil : Trying []
  | spin {fs : List (Behaviour × Bool)} (h : Trying fs) : Trying (fs ++ [(.spin, false)])
  | backup {fs : List (Behaviour × Bool)} (h : Trying fs) :
      Trying (fs ++ [(.spin, true), (.backup, false)])

/-- A successful spin is followed by a successful backup before `maxAttempts` failures. -/
def Recovered (maxAttempts : Int) (fs : List (Behaviour × Bool)) : Prop :=
  ∃ pre post, fs = pre ++ (.spin, true) :: (.backup, true) :: post ∧ failures pre < maxAttempts

/-- The failures reach `maxAttempts` first. -/
def Exhausted (maxAttempts : Int) (fs : List (Behaviour × Bool)) : Prop :=
  maxAttempts ≤ failures fs ∧ ¬ Recovered maxAttempts fs

section
variable {fs : List (Behaviour × Bool)} {m : Int}

theorem failures_append (fs fs' : List (Behaviour × Bool)) :
    failures (fs ++ fs') = failures fs + failures fs' := List.countP_append

theorem Trying.no_backup (h : Trying fs) : (Behaviour.backup, true) ∉ fs := by
  induction h with
  | nil => simp
  | spin h ih => simpa using ih
  | backup h ih => simpa using ih

theorem Trying.length_le (h : Trying fs) : fs.length ≤ 2 * failures fs := by
  induction h with
  | nil => simp
  | @spin fs h ih =>
    have : failures (fs ++ [(.spin, false)]) = failures fs + 1 := failures_append ..
    simp only [List.length_append, List.length_singleton]
    omega
  | @backup fs h ih =>
    have : failures (fs ++ [(.spin, true), (.backup, false)]) = failures fs + 1 :=
      failures_append ..
    simp only [List.length_append, List.length_cons, List.length_nil]
    omega

theorem not_recovered_of (h : (Behaviour.backup, true) ∉ fs) : ¬ Recovered m fs := by
  rintro ⟨pre, post, rfl, -⟩
  simp at h

end

/-! ## The state a phase polls -/

/-- The node waits for what is pending, and knows its result. -/
def Told (b : Behaviour) (st : RecovState) (log : List Happening) : Prop :=
  pending log = some (b, st.goal) ∧
  match st.goal with
  | none => st.resultReceived = true ∧ st.resultSuccess = false
  | some g => st.resultReceived = (lastResult g log).isSome ∧
      (st.resultSuccess = true ↔ lastResult g log = some .succeeded)

/-- The outcomes before behaviour `b` finishes. -/
def before : Behaviour → List (Behaviour × Bool) → List (Behaviour × Bool)
  | .spin, fs => fs
  | .backup, fs => fs ++ [(.spin, true)]

/-- A phase that polls: behaviour `b` is next after the outcomes `fs`. -/
structure Waits (cap : Int) (r : RequestRecovery) (log : List Happening) (b : Behaviour)
    (st : RecovState) (fs : List (Behaviour × Bool)) : Prop where
  awaits : awaited r = some (b, st)
  told : Told b st log
  trying : Trying fs
  out : outcomes log = before b fs
  attempt : r.attempt = failures fs
  lt : failures fs < cap
  spins : spinsStarted log = failures fs + 1

/-- The phase, the attempts and the log belong together; `cap` is the number of attempts. -/
inductive Stage (cap : Int) (r : RequestRecovery) (log : List Happening) : Prop where
  | waits (b : Behaviour) (st : RecovState) (fs : List (Behaviour × Bool))
      (h : Waits cap r log b st fs) : Stage cap r log
  | done (fs : List (Behaviour × Bool)) (hp : r.phase = .done) (hfs : Trying fs)
      (hout : outcomes log = fs ++ [(.spin, true), (.backup, true)]) (hcap : failures fs < cap)
      (hspins : spinsStarted log = failures fs + 1) (hpend : pending log = none) : Stage cap r log
  | failed (fs : List (Behaviour × Bool)) (hp : r.phase = .failed) (hfs : Trying fs)
      (hout : outcomes log = fs) (hcap : (failures fs : Int) = cap)
      (hspins : spinsStarted log = failures fs) (hpend : pending log = none) : Stage cap r log

section
variable {b : Behaviour} {st : RecovState} {log : List Happening} {goal : Option Nat}
  {fs : List (Behaviour × Bool)} {cap : Int} {r : RequestRecovery}

theorem Trying.lost (h : Trying fs) (b : Behaviour) : Trying (before b fs ++ [(b, false)]) := by
  cases b with
  | spin => exact h.spin
  | backup => simpa [before] using h.backup

theorem failures_lost (b : Behaviour) :
    failures (before b fs ++ [(b, false)]) = failures fs + 1 := by
  cases b <;> simp [before, failures]

theorem outcomes_concat (b : Behaviour) (goal : Option Nat) (ok : Bool) :
    outcomes (log ++ [.finished b goal ok]) = outcomes log ++ [(b, ok)] := by simp [outcomes]

/-- An answer starts and finishes nothing by itself. -/
def Happening.isAnswer : Happening → Bool
  | .response _ _ => true
  | .result _ _ => true
  | _ => false

section
variable {o : Happening} (ho : o.isAnswer = true)
include ho

theorem outcomes_answer : outcomes (log ++ [o]) = outcomes log := by
  cases o with
  | response | result => simp [outcomes]
  | started | finished => cases ho

theorem spinsStarted_answer : spinsStarted (log ++ [o]) = spinsStarted log := by
  cases o with
  | response | result => simp [spinsStarted]
  | started | finished => cases ho

theorem pending_answer : pending (log ++ [o]) = pending log := by
  cases o with
  | response | result => simp [pending]
  | started | finished => cases ho

theorem goals_answer : goals (log ++ [o]) = goals log := by
  cases o with
  | response | result => simp [goals]
  | started | finished => cases ho

theorem loggedGoals_answer : loggedGoals (log ++ [o]) = loggedGoals log := by
  cases o with
  | response | result => simp [loggedGoals]
  | started | finished => cases ho

end

/-- A behaviour that has just been started. -/
theorem told_launched (hg : ∀ g, goal = some g → lastResult g log = none) :
    Told b (launched goal) (log ++ [.started b goal]) := by
  cases goal with
  | none => exact ⟨by simp [pending, launched, RequestRecovery.notReady], rfl, rfl⟩
  | some g =>
    have hnone : lastResult g (log ++ [.started b (some g)]) = none := by
      simpa [lastResult] using hg g rfl
    exact ⟨by simp [pending, launched], by rw [hnone]; rfl, by simp [hnone, launched]⟩

theorem Told.genuine (h : Told b st log) (hr : st.resultReceived = true) :
    Genuine log (.finished b st.goal st.resultSuccess) := by
  obtain ⟨hlast, hres⟩ := h
  refine ⟨hlast, ?_⟩
  cases hgoal : st.goal with
  | none =>
    rw [hgoal] at hres
    exact hres.2
  | some g =>
    rw [hgoal] at hres
    obtain ⟨code, hcode⟩ := Option.isSome_iff_exists.mp (hres.1.symm.trans hr)
    exact ⟨code, hcode, by rw [hres.2, hcode, Option.some.injEq]⟩

theorem Told.response (h : Told b st log) (g : Nat) (accepted : Bool) :
    Told b st (log ++ [.response g accepted]) := by
  simpa [Told, pending, lastResult] using h

theorem lastResult_concat (g g' : Nat) (code : ResultCode) :
    lastResult g (log ++ [.result g' code]) = if g' = g then some code else lastResult g log := by
  by_cases h : g' = g <;> simp [lastResult, h]

theorem Told.result (h : Told b st log) (g : Nat) (code : ResultCode) :
    Told b (st.onResult g code) (log ++ [.result g code]) := by
  have hpend : pending (log ++ [.result g code]) = pending log := pending_answer rfl
  obtain ⟨goal, received, success⟩ := st
  obtain ⟨hlast, hres⟩ := h
  cases goal with
  | none => exact ⟨hpend.trans hlast, hres⟩
  | some g' =>
    by_cases hg : g' = g
    · subst hg
      simp [Told, RecovState.onResult, hpend, hlast, lastResult_concat]
    · simpa [Told, RecovState.onResult, hg, hpend, hlast, lastResult_concat, Ne.symm hg] using hres

theorem awaited_onResult (g : Nat) (code : ResultCode) :
    awaited (r.onResult g code) = (awaited r).map fun a => (a.1, a.2.onResult g code) := by
  obtain ⟨phase, attempt, spinState, backupState⟩ := r
  cases phase <;> simp [awaited, RequestRecovery.onResult, Function.comp_def]

theorem Stage.answer (h : Stage cap r log) {r' : RequestRecovery} {o : Happening}
    (ho : o.isAnswer = true) (hphase : r'.phase = r.phase) (hattempt : r'.attempt = r.attempt)
    (hw : ∀ b st, awaited r = some (b, st) → Told b st log →
      ∃ st', awaited r' = some (b, st') ∧ Told b st' (log ++ [o])) :
    Stage cap r' (log ++ [o]) := by
  have hout : outcomes (log ++ [o]) = outcomes log := outcomes_answer ho
  have hspins : spinsStarted (log ++ [o]) = spinsStarted log := spinsStarted_answer ho
  have hpending : pending (log ++ [o]) = pending log := pending_answer ho
  cases h with
  | waits b st fs h =>
    obtain ⟨st', ha, htold⟩ := hw b st h.awaits h.told
    exact .waits b st' fs { h with
      awaits := ha
      told := htold
      out := hout.trans h.out
      attempt := hattempt.trans h.attempt
      spins := hspins.trans h.spins }
  | done fs hp hfs ho' hcap hs hpend =>
    exact .done fs (hphase.trans hp) hfs (hout.trans ho') hcap (hspins.trans hs)
      (hpending.trans hpend)
  | failed fs hp hfs ho' hcap hs hpend =>
    exact .failed fs (hphase.trans hp) hfs (hout.trans ho') hcap (hspins.trans hs)
      (hpending.trans hpend)

theorem Stage.response (h : Stage cap r log) (g : Nat) (accepted : Bool) :
    Stage cap r (log ++ [.response g accepted]) :=
  h.answer rfl rfl rfl fun _ st ha htold => ⟨st, ha, htold.response g accepted⟩

theorem Stage.result (h : Stage cap r log) (g : Nat) (code : ResultCode) :
    Stage cap (r.onResult g code) (log ++ [.result g code]) :=
  h.answer rfl rfl rfl fun _ st ha htold =>
    ⟨st.onResult g code, by rw [awaited_onResult, ha]; rfl, htold.result g code⟩

theorem Stage.of_awaited (h : Stage cap r log) (ha : awaited r = some (b, st)) :
    ∃ fs, Waits cap r log b st fs := by
  cases h with
  | waits b' st' fs hw =>
    obtain ⟨rfl, rfl⟩ : b' = b ∧ st' = st := by simpa [ha] using hw.awaits.symm
    exact ⟨fs, hw⟩
  | done fs hp => simp [awaited, hp] at ha
  | failed fs hp => simp [awaited, hp] at ha

/-- A tick that finds the awaited behaviour finished. -/
theorem tickLog_of {r' : RequestRecovery} (ha : awaited r = some (b, st))
    (hr : st.resultReceived = true) : tickLog r r' = .finished b st.goal st.resultSuccess ::
      ((awaited r').map fun a => Happening.started a.1 a.2.goal).toList := by
  simp [tickLog, ha, hr]

end

/-! ## The run -/

/-- The node ended as its phase says, with one event; or it has not ended. -/
inductive Ended (leg : Leg) (s : RecoveryRun) : Prop where
  | running (hr : s.returned = none) (hposts : terminalPosts leg s.world.trace = [])
  | success (hr : s.returned = some .success) (hp : (s.world.recov leg).phase = .done)
      (hposts : terminalPosts leg s.world.trace = [.recoveryDone])
  | failure (hr : s.returned = some .failure) (hp : (s.world.recov leg).phase = .failed)
      (hposts : terminalPosts leg s.world.trace = [.recoveryFailed])

/-- The log is genuine, and its goals are the ones in the trace. -/
structure Recorded (leg : Leg) (w : World) (log : List Happening) : Prop where
  unheard : ∀ g, w.nextGoal ≤ g → lastResult g log = none
  genuine : Trace.Each Genuine log
  goals : sentGoals leg w.trace = loggedGoals log

structure Inv (leg : Leg) (cap : Int) (s : RecoveryRun) : Prop where
  recorded : Recorded leg s.world s.log
  stage : Stage cap (s.world.recov leg) s.log
  ended : Ended leg s

section
variable {leg : Leg} {cap m : Int} {s : RecoveryRun} {w : World} {log : List Happening}

@[simp] theorem sentGoals_returned (tr : List Obs) (l : Leaf) (st : NodeStatus) :
    sentGoals leg (tr ++ [.returned l st]) = sentGoals leg tr := by simp [sentGoals]

@[simp] theorem terminalPosts_returned (tr : List Obs) (l : Leaf) (st : NodeStatus) :
    terminalPosts leg (tr ++ [.returned l st]) = terminalPosts leg tr := by simp [terminalPosts]

theorem terminalPosts_end (tr : List Obs) {ev : FsmEvent}
    (hev : ev = .recoveryDone ∨ ev = .recoveryFailed) :
    terminalPosts leg (tr ++ [.posted (.requestRecovery leg) ev]) =
      terminalPosts leg tr ++ [ev] := by
  simp [terminalPosts, hev]

theorem Recorded.frame (h : Recorded leg w log) {w' : World} (hgoal : w.nextGoal ≤ w'.nextGoal)
    (hsent : sentGoals leg w'.trace = sentGoals leg w.trace) : Recorded leg w' log :=
  ⟨fun g hg => h.unheard g (hgoal.trans hg), h.genuine, hsent.trans h.goals⟩

theorem Recorded.finished (h : Recorded leg w log) {b : Behaviour} {st : RecovState}
    (htold : Told b st log) (hr : st.resultReceived = true) :
    Recorded leg w (log ++ [.finished b st.goal st.resultSuccess]) where
  unheard g hg := by simpa [lastResult] using h.unheard g hg
  genuine := h.genuine.concat (htold.genuine hr)
  goals := by simpa [loggedGoals] using h.goals

theorem Recorded.spin (h : Recorded leg w log) (e : TickEnv) :
    Recorded leg (RequestRecovery.startSpin e leg w)
      (log ++ [.started .spin (newGoal e.spinReady w)]) where
  unheard g hg := by
    simpa [lastResult] using h.unheard g ((nextGoal_le_startSpin e leg w).trans hg)
  genuine := h.genuine.concat trivial
  goals := by
    rw [startSpin_sentGoals, h.goals]
    cases newGoal e.spinReady w <;> simp [loggedGoals]

theorem Recorded.backup (h : Recorded leg w log) (e : TickEnv) {goal : Option Nat}
    (hlast : log.getLast? = some (.finished .spin goal true)) :
    Recorded leg (RequestRecovery.startBackup e leg w)
      (log ++ [.started .backup (newGoal e.backupReady w)]) where
  unheard g hg := by
    simpa [lastResult] using h.unheard g ((nextGoal_le_startBackup e leg w).trans hg)
  genuine := h.genuine.concat ⟨goal, hlast⟩
  goals := by
    rw [startBackup_sentGoals, h.goals]
    cases newGoal e.backupReady w <;> simp [loggedGoals]

/-- A new goal has not been heard of. -/
theorem Recorded.told (h : Recorded leg w log) (b : Behaviour) (ready : Bool) :
    Told b (launched (newGoal ready w)) (log ++ [.started b (newGoal ready w)]) := by
  refine told_launched fun g hg => h.unheard g ?_
  cases ready with
  | false => simp [newGoal] at hg
  | true => exact (Option.some.inj hg).le

theorem awaited_spin {r : RequestRecovery} {st : RecovState} (hp : r.phase = .spin)
    (hs : r.spinState = some st) : awaited r = some (.spin, st) := by
  simp [awaited, hp, hs]

theorem awaited_backup {r : RequestRecovery} {st : RecovState} (hp : r.phase = .backup)
    (hs : r.backupState = some st) : awaited r = some (.backup, st) := by
  simp [awaited, hp, hs]

/-- `attempt_ >= max_attempts` in terms of `cap`: the first failure always counts. -/
structure Caps (cap m : Int) : Prop where
  pos : 0 < cap
  le_iff : ∀ a : Nat, m ≤ a + 1 ↔ cap ≤ a + 1

/-- Another spin, after these outcomes. -/
theorem stage_spin (fs : List (Behaviour × Bool)) (h : Recorded leg w log) (e : TickEnv)
    (hp : (w.recov leg).phase = .spin) (hatt : (w.recov leg).attempt = failures fs)
    (hfs : Trying fs) (hout : outcomes log = fs) (hcap : failures fs < cap)
    (hspins : spinsStarted log = failures fs) :
    Stage cap ((RequestRecovery.startSpin e leg w).recov leg)
      (log ++ [.started .spin (newGoal e.spinReady w)]) := by
  rw [startSpin_recov]
  refine .waits .spin _ fs ⟨awaited_spin hp rfl, h.told .spin e.spinReady, hfs, ?_, hatt, hcap, ?_⟩
  · simpa [outcomes, before] using hout
  · simpa [spinsStarted] using hspins

theorem awaited_startSpin (e : TickEnv) (hp : (w.recov leg).phase = .spin) :
    awaited ((RequestRecovery.startSpin e leg w).recov leg) =
      some (.spin, launched (newGoal e.spinReady w)) := by
  rw [startSpin_recov]
  exact awaited_spin hp rfl

theorem inv_start (hcap : Caps cap m) (e : TickEnv) (w : World) : Inv leg cap (start leg e w) := by
  generalize hw : (RequestRecovery.set leg { w.recov leg with attempt := 0, phase := .spin }
    { w with trace := [] }).post (.requestRecovery leg) .navFailed = w₁
  have hp : (w₁.recov leg).phase = .spin := by simp [← hw]
  have hatt : (w₁.recov leg).attempt = 0 := by simp [← hw]
  have htrace : w₁.trace = [.posted (.requestRecovery leg) .navFailed] := by simp [← hw]
  have hs : start leg e w =
      { world := (RequestRecovery.startSpin e leg w₁).emit
          (.returned (.requestRecovery leg) .running)
        log := [] ++ [.started .spin (newGoal e.spinReady w₁)] } := by
    simp [start, returns, RequestRecovery.onStart, hw, awaited_startSpin e hp]
  have hrec : Recorded leg w₁ [] :=
    ⟨fun _ _ => rfl, Trace.each_nil, by simp [htrace, sentGoals, loggedGoals]⟩
  rw [hs]
  refine ⟨(hrec.spin e).frame le_rfl (by simp),
    stage_spin [] hrec e hp hatt .nil rfl hcap.pos rfl, .running rfl ?_⟩
  rw [World.emit_trace, terminalPosts_returned, startSpin_terminalPosts, htrace]
  simp [terminalPosts]

/-- A tick moves on to the world `w'` and appends `new` to the log. -/
structure Moves (leg : Leg) (cap : Int) (w w' : World) (log new : List Happening) : Prop where
  log_eq : tickLog (w.recov leg) (w'.recov leg) = new
  recorded : Recorded leg w' (log ++ new)
  stage : Stage cap (w'.recov leg) (log ++ new)
  posts : terminalPosts leg w'.trace = terminalPosts leg w.trace

section
variable {st : RecovState} {b : Behaviour} {fs : List (Behaviour × Bool)}

theorem Waits.spun (h : Waits cap (w.recov leg) log .spin st fs) (hrec : Recorded leg w log)
    (hd : st.resultReceived = true) (hg : st.resultSuccess = true) (e : TickEnv) :
    ∃ new, Moves leg cap w (RequestRecovery.startBackup e leg
      (RequestRecovery.set leg { w.recov leg with phase := .backup } w)) log new := by
  generalize hw : RequestRecovery.set leg { w.recov leg with phase := .backup } w = w₁
  have hrecov : w₁.recov leg = { w.recov leg with phase := .backup } := by simp [← hw]
  have hfin : Recorded leg w₁ (log ++ [.finished .spin st.goal true]) :=
    (hg ▸ hrec.finished h.told hd).frame (by simp [← hw]) (by simp [← hw])
  have ha : awaited ((RequestRecovery.startBackup e leg w₁).recov leg) =
      some (.backup, launched (newGoal e.backupReady w₁)) := by
    rw [startBackup_recov, hrecov]
    exact awaited_backup rfl rfl
  refine ⟨[.finished .spin st.goal true] ++ [.started .backup (newGoal e.backupReady w₁)], ?_, ?_,
    ?_, by simp [← hw]⟩
  · simp [tickLog_of h.awaits hd, hg, ha]
  · rw [← List.append_assoc]
    exact hfin.backup e List.getLast?_concat
  · rw [← List.append_assoc]
    refine .waits .backup _ fs ⟨ha, hfin.told .backup e.backupReady, h.trying, ?_, ?_, h.lt, ?_⟩
    · simpa [outcomes, before] using h.out
    · rw [startBackup_recov, hrecov]
      exact h.attempt
    · simpa [spinsStarted] using h.spins

theorem Waits.backedUp (h : Waits cap (w.recov leg) log .backup st fs) (hrec : Recorded leg w log)
    (hd : st.resultReceived = true) (hg : st.resultSuccess = true) :
    ∃ new, Moves leg cap w (RequestRecovery.set leg { w.recov leg with phase := .done } w) log
      new := by
  refine ⟨[.finished .backup st.goal true], ?_, ?_,
    .done fs (by simp) h.trying ?_ h.lt ?_ (by simp [pending]), rfl⟩
  · simp [tickLog_of h.awaits hd, hg, awaited]
  · exact (hg ▸ hrec.finished h.told hd).frame le_rfl rfl
  · rw [outcomes_concat, h.out, before, List.append_assoc, List.singleton_append]
  · simpa [spinsStarted] using h.spins

theorem Waits.lost (h : Waits cap (w.recov leg) log b st fs) (hrec : Recorded leg w log)
    (hcap : Caps cap m) (hd : st.resultReceived = true) (hg : st.resultSuccess = false)
    (e : TickEnv) :
    ∃ new, Moves leg cap w (RequestRecovery.attemptFailed e leg m w) log new := by
  have hfin : Recorded leg w (log ++ [.finished b st.goal false]) := hg ▸ hrec.finished h.told hd
  have hout : outcomes (log ++ [.finished b st.goal false]) = before b fs ++ [(b, false)] := by
    rw [outcomes_concat, h.out]
  have hspins : spinsStarted (log ++ [.finished b st.goal false]) =
      failures (before b fs ++ [(b, false)]) := by
    rw [failures_lost]
    simpa [spinsStarted] using h.spins
  have hlt := h.lt
  rw [RequestRecovery.attemptFailed]
  dsimp only
  rw [h.attempt]
  split
  · next hmax =>
    have hcap' : cap ≤ failures fs + 1 := (hcap.le_iff _).mp hmax
    refine ⟨[.finished b st.goal false], ?_, hfin.frame le_rfl rfl,
      .failed _ (by simp) (h.trying.lost b) hout ?_ hspins (by simp [pending]), rfl⟩
    · simp [tickLog_of h.awaits hd, hg, awaited]
    · rw [failures_lost]
      push_cast
      omega
  · next hmax =>
    have hcap' : ¬ cap ≤ failures fs + 1 := fun hle => hmax ((hcap.le_iff _).mpr hle)
    generalize hw : RequestRecovery.set leg _ w = w₁
    have hp : (w₁.recov leg).phase = .spin := by simp [← hw]
    have hatt : (w₁.recov leg).attempt = failures fs + 1 := by simp [← hw]
    have hfin₁ : Recorded leg w₁ (log ++ [.finished b st.goal false]) :=
      hfin.frame (by simp [← hw]) (by simp [← hw])
    refine ⟨[.finished b st.goal false] ++ [.started .spin (newGoal e.spinReady w₁)], ?_, ?_, ?_,
      by simp [← hw]⟩
    · simp [tickLog_of h.awaits hd, hg, awaited_startSpin e hp]
    · rw [← List.append_assoc]
      exact hfin₁.spin e
    · rw [← List.append_assoc]
      refine stage_spin _ hfin₁ e hp ?_ (h.trying.lost b) hout ?_ hspins
      · rw [hatt, failures_lost]
        rfl
      · rw [failures_lost]
        push_cast
        omega

end

/-- A tick of a node that has not returned. -/
theorem tick_eq (hr : s.returned = none) (e : TickEnv) {r : NodeStatus × World}
    (h : RequestRecovery.onRunning e leg m s.world = r) : tick leg m e s =
      { s with
        world := r.2.emit (.returned (.requestRecovery leg) r.1)
        returned := if r.1 = .running then none else some r.1
        log := s.log ++ tickLog (s.world.recov leg) (r.2.recov leg) } := by
  subst h
  rw [tick, if_neg (by simp [hr])]
  rfl

theorem Inv.posts (h : Inv leg cap s) (hr : s.returned = none) :
    terminalPosts leg s.world.trace = [] := by
  cases h.ended with
  | running _ hposts => exact hposts
  | success hr' | failure hr' => simp [hr] at hr'

/-- A tick that returns `RUNNING`. -/
theorem Inv.moves (h : Inv leg cap s) (hr : s.returned = none) {e : TickEnv} {w' : World}
    {new : List Happening} (hm : Moves leg cap s.world w' s.log new)
    (hrun : RequestRecovery.onRunning e leg m s.world = (.running, w')) :
    Inv leg cap (Recovery.tick leg m e s) := by
  rw [tick_eq hr e hrun, hm.log_eq]
  refine ⟨hm.recorded.frame le_rfl (by simp), hm.stage, .running rfl ?_⟩
  rw [World.emit_trace, terminalPosts_returned, hm.posts, h.posts hr]

/-- A tick that ends the run: it posts one event and changes nothing else. -/
theorem tick_ends (hr : s.returned = none) {e : TickEnv} {st : NodeStatus} {ev : FsmEvent}
    (ha : awaited (s.world.recov leg) = none) (hst : st ≠ .running)
    (hrun : RequestRecovery.onRunning e leg m s.world =
      (st, s.world.post (.requestRecovery leg) ev)) : Recovery.tick leg m e s =
      { s with
        world := (s.world.post (.requestRecovery leg) ev).emit (.returned (.requestRecovery leg) st)
        returned := some st } := by
  have hlog : tickLog (s.world.recov leg) (s.world.recov leg) = [] := by simp [tickLog, ha]
  rw [tick_eq hr e hrun, World.post_recov, hlog, List.append_nil, if_neg hst]

theorem Inv.posts_end (h : Inv leg cap s) (hr : s.returned = none) {ev : FsmEvent} {st : NodeStatus}
    (hev : ev = .recoveryDone ∨ ev = .recoveryFailed) :
    terminalPosts leg ((s.world.post (.requestRecovery leg) ev).emit
      (.returned (.requestRecovery leg) st)).trace = [ev] := by
  rw [World.emit_trace, terminalPosts_returned, World.post_trace, terminalPosts_end _ hev,
    h.posts hr, List.nil_append]

theorem Inv.tick (h : Inv leg cap s) (hcap : Caps cap m) (hr : s.returned = none) (e : TickEnv) :
    Inv leg cap (tick leg m e s) := by
  generalize hrun : RequestRecovery.onRunning e leg m s.world = r
  cases hrun ▸ ticks e leg s.world m with
  | gone ha hp =>
    cases h.stage with
    | waits b st fs hw => simp [hw.awaits] at ha
    | done fs hp' => simp [hp'] at hp
    | failed fs hp' => simp [hp'] at hp
  | waiting b st ha hw =>
    have hlog : tickLog (s.world.recov leg) (s.world.recov leg) = [] := by simp [tickLog, ha, hw]
    exact h.moves hr ⟨hlog, by simpa using h.recorded, by simpa using h.stage, rfl⟩ hrun
  | spun st ha hd hg =>
    obtain ⟨fs, hw⟩ := h.stage.of_awaited ha
    obtain ⟨new, hm⟩ := hw.spun h.recorded hd hg e
    exact h.moves hr hm hrun
  | backedUp st ha hd hg =>
    obtain ⟨fs, hw⟩ := h.stage.of_awaited ha
    obtain ⟨new, hm⟩ := hw.backedUp h.recorded hd hg
    exact h.moves hr hm hrun
  | lost b st ha hd hg =>
    obtain ⟨fs, hw⟩ := h.stage.of_awaited ha
    obtain ⟨new, hm⟩ := hw.lost h.recorded hcap hd hg e
    exact h.moves hr hm hrun
  | done hp =>
    rw [tick_ends hr (by simp [awaited, hp]) (by simp) hrun]
    exact ⟨h.recorded.frame le_rfl (by simp [sentGoals]), h.stage,
      .success rfl hp (h.posts_end hr (.inl rfl))⟩
  | failed hp =>
    rw [tick_ends hr (by simp [awaited, hp]) (by simp) hrun]
    exact ⟨h.recorded.frame le_rfl (by simp [sentGoals]), h.stage,
      .failure rfl hp (h.posts_end hr (.inr rfl))⟩

/-- What moves neither the node nor its log nor what it left in the trace. -/
theorem Inv.frame (h : Inv leg cap s) {w : World} {polls : Nat}
    (hrecov : w.recov leg = s.world.recov leg) (hgoal : s.world.nextGoal ≤ w.nextGoal)
    (hsent : sentGoals leg w.trace = sentGoals leg s.world.trace)
    (hposts : terminalPosts leg w.trace = terminalPosts leg s.world.trace) :
    Inv leg cap { s with world := w, polls := polls } := by
  refine ⟨h.recorded.frame hgoal hsent, ?_, ?_⟩
  · simpa [hrecov] using h.stage
  · cases h.ended with
    | running hr hp => exact .running hr (hposts.trans hp)
    | success hr hphase hp => exact .success hr (hrecov ▸ hphase) (hposts.trans hp)
    | failure hr hphase hp => exact .failure hr (hrecov ▸ hphase) (hposts.trans hp)

theorem sentGoals_append_of_not_own {new : List Obs} (h : ∀ o ∈ new, own leg o = false)
    (tr : List Obs) : sentGoals leg (tr ++ new) = sentGoals leg tr := by
  have hnil : sentGoals leg new = [] := by
    refine List.filterMap_eq_nil_iff.mpr fun o ho => ?_
    have hown := h o ho
    cases o <;> simp_all [own]
  rw [sentGoals, List.filterMap_append, ← sentGoals, ← sentGoals, hnil, List.append_nil]

theorem terminalPosts_append_of_not_own {new : List Obs} (h : ∀ o ∈ new, own leg o = false)
    (tr : List Obs) : terminalPosts leg (tr ++ new) = terminalPosts leg tr := by
  have hnil : terminalPosts leg new = [] := by
    refine List.filterMap_eq_nil_iff.mpr fun o ho => ?_
    have hown := h o ho
    cases o <;> simp_all [own]
  rw [terminalPosts, List.filterMap_append, ← terminalPosts, ← terminalPosts, hnil,
    List.append_nil]

/-- An answer, and how the node takes it. -/
theorem Inv.answer (h : Inv leg cap s) {w : World} {new : Happening} {o : Obs}
    (hstage : Stage cap (w.recov leg) (s.log ++ [new]))
    (hphase : (w.recov leg).phase = (s.world.recov leg).phase)
    (hgoal : w.nextGoal = s.world.nextGoal) (htrace : w.trace = s.world.trace ++ [o])
    (ho : own leg o = false) (hnew : new.isAnswer = true)
    (hsent : ∀ g code, new = .result g code → g < s.world.nextGoal) :
    Inv leg cap { s with world := w, log := s.log ++ [new] } := by
  have howns : ∀ o' ∈ [o], own leg o' = false := by simpa using ho
  have hgoals := sentGoals_append_of_not_own howns s.world.trace
  have hposts := terminalPosts_append_of_not_own howns s.world.trace
  rw [← htrace] at hgoals hposts
  have hgenuine : Genuine s.log new := by
    cases new with
    | response | result => trivial
    | started | finished => cases hnew
  refine ⟨⟨fun g hg => ?_, h.recorded.genuine.concat hgenuine, ?_⟩, hstage, ?_⟩
  · have hnone := h.recorded.unheard g (hgoal ▸ hg)
    cases new with
    | response g' accepted => simpa [lastResult] using hnone
    | result g' code =>
      rw [lastResult_concat, if_neg ((hsent g' code rfl).trans_le (hgoal ▸ hg)).ne, hnone]
    | started | finished => cases hnew
  · rw [hgoals, loggedGoals_answer hnew]
    exact h.recorded.goals
  · cases h.ended with
    | running hr hp => exact .running hr (hposts.trans hp)
    | success hr hph hp => exact .success hr (hphase.trans hph) (hposts.trans hp)
    | failure hr hph hp => exact .failure hr (hphase.trans hph) (hposts.trans hp)

theorem Inv.step (h : Inv leg cap s) (hcap : Caps cap m) (ev : Event) :
    Inv leg cap (step leg m s ev) := by
  cases ev with
  | tick e =>
    have ht : Inv leg cap (Recovery.tick leg m e s) := by
      cases hr : s.returned with
      | none => exact h.tick hcap hr e
      | some st => simpa [Recovery.tick, hr] using h
    exact ht.frame rfl le_rfl rfl rfl
  | goalResponse g accepted =>
    rw [Recovery.step]
    split
    · exact h.answer (h.stage.response g accepted) rfl rfl rfl rfl rfl fun _ _ heq => by cases heq
    · exact h
  | goalResult g code =>
    rw [Recovery.step]
    split
    · next hg =>
      exact h.answer (h.stage.result g code) rfl rfl rfl rfl rfl fun _ _ heq => by
        cases heq
        exact hg
    · exact h
  | elsewhere w goals =>
    have hnew : ∀ o ∈ w.trace.filter (!own leg ·), own leg o = false := fun o ho => by
      simpa using (List.mem_filter.mp ho).2
    exact h.frame (by simp) (Nat.le_add_right _ _) (sentGoals_append_of_not_own hnew _)
      (terminalPosts_append_of_not_own hnew _)

theorem run_inv (leg : Leg) (hcap : Caps cap m) (e : TickEnv) (w : World) (es : List Event) :
    Inv leg cap (run leg m e w es) :=
  Run.run_invariant (fun _ ev h => h.step hcap ev) (inv_start hcap e w)

/-! ## The ends -/

/-- Before the ends, no backup has succeeded. -/
theorem Waits.not_recovered {r : RequestRecovery} {b : Behaviour} {st : RecovState}
    {fs : List (Behaviour × Bool)} (h : Waits cap r log b st fs) :
    ¬ Recovered m (outcomes log) := by
  refine not_recovered_of ?_
  rw [h.out]
  cases b with
  | spin => exact h.trying.no_backup
  | backup => simpa [before] using h.trying.no_backup

theorem Waits.failures_eq {r : RequestRecovery} {b : Behaviour} {st : RecovState}
    {fs : List (Behaviour × Bool)} (h : Waits cap r log b st fs) :
    failures (outcomes log) = failures fs := by
  rw [h.out]
  cases b <;> simp [before, failures]

theorem failures_done (fs : List (Behaviour × Bool)) :
    failures (fs ++ [(.spin, true), (.backup, true)]) = failures fs := by simp [failures]

/-- The recovery has succeeded exactly in the phase `DONE`. -/
theorem Stage.recovered_iff {r : RequestRecovery} (h : Stage m r log) :
    Recovered m (outcomes log) ↔ r.phase = .done := by
  cases h with
  | waits b st fs hw =>
    refine iff_of_false hw.not_recovered fun hp => ?_
    have ha := hw.awaits
    simp [awaited, hp] at ha
  | done fs hp hfs hout hlt hspins hpend => exact iff_of_true ⟨fs, [], hout, hlt⟩ hp
  | failed fs hp hfs hout hcap hspins hpend =>
    exact iff_of_false (not_recovered_of (hout ▸ hfs.no_backup)) (by simp [hp])

/-- It has failed exactly in the phase `FAILED`. -/
theorem Stage.exhausted_iff {r : RequestRecovery} (h : Stage m r log) :
    Exhausted m (outcomes log) ↔ r.phase = .failed := by
  cases h with
  | waits b st fs hw =>
    have hlt := hw.lt
    have ha := hw.awaits
    refine iff_of_false (fun hex => ?_) fun hp => by simp [awaited, hp] at ha
    have hle := hex.1
    rw [hw.failures_eq] at hle
    omega
  | done fs hp hfs hout hlt hspins hpend =>
    refine iff_of_false (fun hex => ?_) (by simp [hp])
    have hle := hex.1
    rw [hout, failures_done] at hle
    omega
  | failed fs hp hfs hout hcap hspins hpend =>
    refine iff_of_true ⟨?_, not_recovered_of (hout ▸ hfs.no_backup)⟩ hp
    rw [hout, hcap]

theorem Stage.spins_le {r : RequestRecovery} (h : Stage m r log) :
    (spinsStarted log : Int) ≤ m := by
  cases h with
  | waits b st fs hw =>
    have hlt := hw.lt
    have hspins := hw.spins
    omega
  | done fs hp hfs hout hlt hspins hpend => omega
  | failed fs hp hfs hout hcap hspins hpend => omega

end

/-- What is pending and answered, or was never sent, is found finished by the next tick. -/
theorem Inv.heeds {leg : Leg} {cap m : Int} {s : RecoveryRun} (h : Inv leg cap s) (e : TickEnv)
    {b : Behaviour} {goal : Option Nat} (hpend : pending s.log = some (b, goal))
    (hknown : ∀ g, goal = some g → lastResult g s.log ≠ none) :
    ∃ ok new, (Recovery.tick leg m e s).log = s.log ++ .finished b goal ok :: new := by
  cases h.stage with
  | waits b' st fs hw =>
    have hr : s.returned = none := by
      have ha := hw.awaits
      cases h.ended with
      | running hr => exact hr
      | success _ hp | failure _ hp => simp [awaited, hp] at ha
    obtain ⟨hp, hres⟩ := hw.told
    obtain ⟨rfl, rfl⟩ : b' = b ∧ st.goal = goal := by simpa [hpend] using hp.symm
    have hd : st.resultReceived = true := by
      cases hgoal : st.goal with
      | none =>
        rw [hgoal] at hres
        exact hres.1
      | some g =>
        rw [hgoal] at hres
        rw [hres.1, Option.isSome_iff_ne_none]
        exact hknown g hgoal
    rw [tick_eq hr e rfl, tickLog_of hw.awaits hd]
    exact ⟨_, _, rfl⟩
  | done fs _ _ _ _ _ hnone => simp [hpend] at hnone
  | failed fs _ _ _ _ _ hnone => simp [hpend] at hnone

/-- The next tick returns what the phase says, or the node has returned it already. -/
theorem Inv.tick_done {leg : Leg} {cap m : Int} {s : RecoveryRun} (h : Inv leg cap s)
    (hp : (s.world.recov leg).phase = .done) (e : TickEnv) :
    (Recovery.tick leg m e s).returned = some .success := by
  cases h.ended with
  | running hr => simp [Recovery.tick, returns, RequestRecovery.onRunning, hr, hp]
  | success hr => simp [Recovery.tick, hr]
  | failure _ hp' => simp [hp'] at hp

theorem Inv.tick_failed {leg : Leg} {cap m : Int} {s : RecoveryRun} (h : Inv leg cap s)
    (hp : (s.world.recov leg).phase = .failed) (e : TickEnv) :
    (Recovery.tick leg m e s).returned = some .failure := by
  cases h.ended with
  | running hr => simp [Recovery.tick, returns, RequestRecovery.onRunning, hr, hp]
  | failure hr => simp [Recovery.tick, hr]
  | success _ hp' => simp [hp'] at hp

/-- What is so of a recovery run at any time. -/
structure Outcome (leg : Leg) (maxAttempts : Int) (s : RecoveryRun) : Prop where
  success : s.returned = some .success → Recovered maxAttempts (outcomes s.log)
  failure : s.returned = some .failure → Exhausted maxAttempts (outcomes s.log)
  /-- at the latest with the next tick -/
  recovered : Recovered maxAttempts (outcomes s.log) →
    ∀ e, (tick leg maxAttempts e s).returned = some .success
  exhausted : Exhausted maxAttempts (outcomes s.log) →
    ∀ e, (tick leg maxAttempts e s).returned = some .failure
  spins : (spinsStarted s.log : Int) ≤ maxAttempts
  genuine : Trace.Each Genuine s.log
  /-- no result is missed, no server that is not ready waited for -/
  heeds : ∀ e b goal, pending s.log = some (b, goal) →
    (∀ g, goal = some g → lastResult g s.log ≠ none) →
    ∃ ok new, (tick leg maxAttempts e s).log = s.log ++ .finished b goal ok :: new
  goals : sentGoals leg s.world.trace = loggedGoals s.log
  posts : terminalPosts leg s.world.trace =
    match s.returned with
    | some .success => [.recoveryDone]
    | some .failure => [.recoveryFailed]
    | _ => []

/-- **The outcome of a recovery** is told by the spins and backups that have finished. -/
theorem recovery_outcome (leg : Leg) (maxAttempts : Int) (hmax : 1 ≤ maxAttempts) (e : TickEnv)
    (w : World) (es : List Event) : Outcome leg maxAttempts (run leg maxAttempts e w es) := by
  have h : Inv leg maxAttempts (run leg maxAttempts e w es) :=
    run_inv leg ⟨hmax, fun _ => Iff.rfl⟩ e w es
  generalize run leg maxAttempts e w es = s at h
  refine ⟨fun hr => ?_, fun hr => ?_, fun hrec e => ?_, fun hex e => ?_, h.stage.spins_le,
    h.recorded.genuine, fun e b goal hpend hknown => h.heeds e hpend hknown, h.recorded.goals, ?_⟩
  · cases h.ended with
    | success _ hp => exact h.stage.recovered_iff.mpr hp
    | running hr' | failure hr' => simp [hr'] at hr
  · cases h.ended with
    | failure _ hp => exact h.stage.exhausted_iff.mpr hp
    | running hr' | success hr' => simp [hr'] at hr
  · exact h.tick_done (h.stage.recovered_iff.mp hrec) e
  · exact h.tick_failed (h.stage.exhausted_iff.mp hex) e
  · cases h.ended with
    | running hr hposts => simpa [hr] using hposts
    | success hr _ hposts => simpa [hr] using hposts
    | failure hr _ hposts => simpa [hr] using hposts

theorem recovery_outcome_at_once :
    (run .pick 3 (.up 0) Config.sample.init.world recoveredAtOnce).returned = some .success ∧
      Outcome .pick 3 (run .pick 3 (.up 0) Config.sample.init.world recoveredAtOnce) :=
  ⟨by decide +kernel, recovery_outcome .pick 3 (by decide) (.up 0) _ recoveredAtOnce⟩

end RobotAgent.Recovery
