import WarehouseFleet.RobotAgent.RecoveryOutcome

/-!
# Whether a recovery whose goals are answered comes to an end

A tick that finds every goal of the run answered either finds the awaited behaviour finished or
ends the run, and at most `2 * max_attempts` behaviours finish (`Progress`). But a goal that was
rejected is answered too, and never finishes: spin and backup goals have no
`goal_response_callback` (request_recovery.cpp:144-150, 182-188). The one `NavigateToPoseBT`
passes with its goals (navigate_to_pose_bt.cpp:42-48) is how that node hears of a rejection.
-/

namespace RobotAgent.Recovery

open BehaviorTree (NodeStatus)

/-- Of a rejected goal only the response callback is called. -/
def RejectedUnfinished (log : List Happening) : Prop :=
  ∀ g, .response g false ∈ log → ∀ code, .result g code ∉ log

/-- No goal of the run was rejected. -/
def NoneRejected (log : List Happening) : Prop := ∀ g ∈ goals log, .response g false ∉ log

section
variable {log new : List Happening} {b : Behaviour} {g : Nat}

theorem goals_append (log new : List Happening) : goals (log ++ new) = goals log ++ goals new :=
  List.filterMap_append

theorem NoneRejected.of_append (h : NoneRejected (log ++ new)) : NoneRejected log := by
  intro g hg hrej
  refine h g ?_ (by simp [hrej])
  simp [goals_append, hg]

theorem lastResult_ne_none_iff : lastResult g log ≠ none ↔ ∃ code, .result g code ∈ log := by
  rw [lastResult, Ne, List.getLast?_eq_none_iff, List.filterMap_eq_nil_iff]
  constructor
  · intro h
    obtain ⟨o, ho, hne⟩ := not_forall₂.mp h
    cases o with
    | result g' code =>
      by_cases hg : g' = g
      · exact ⟨code, hg ▸ ho⟩
      · simp [hg] at hne
    | started | finished | response => simp at hne
  · rintro ⟨code, ho⟩ h
    simpa using h _ ho

/-- What is pending was started. -/
theorem mem_goals_of_pending (h : pending log = some (b, some g)) : g ∈ goals log := by
  rw [pending, Option.join_eq_some_iff] at h
  obtain ⟨o, ho, heq⟩ := List.mem_filterMap.mp (List.mem_of_getLast? h)
  refine List.mem_filterMap.mpr ⟨o, ho, ?_⟩
  cases o with
  | started b' goal => simpa using And.right (by simpa using heq)
  | finished | response | result => simp at heq

/-- A goal that was answered and not rejected has come to a result. -/
theorem AllAnswered.finished (h : AllAnswered log) (hnone : NoneRejected log) (hg : g ∈ goals log) :
    lastResult g log ≠ none := by
  obtain ⟨o, ho, hans⟩ := List.any_eq_true.mp (h g hg)
  cases o with
  | response g' accepted =>
    obtain ⟨rfl, rfl⟩ : g' = g ∧ accepted = false := by simpa [answers] using hans
    exact absurd ho (hnone g' hg)
  | result g' code =>
    obtain rfl : g' = g := by simpa [answers] using hans
    exact lastResult_ne_none_iff.mpr ⟨code, ho⟩
  | started | finished => simp [answers] at hans

end

/-! ## Progress, while no goal is rejected -/

section
variable {leg : Leg} {cap m : Int} {s : RecoveryRun}

theorem Stage.outcomes_le {r : RequestRecovery} {log : List Happening} (h : Stage cap r log) :
    ((outcomes log).length : Int) ≤ 2 * cap := by
  cases h with
  | waits b st fs hw =>
    have hle := hw.trying.length_le
    have hlt := hw.lt
    rw [hw.out]
    cases b <;> simp only [before, List.length_append, List.length_singleton] <;> omega
  | done fs hp hfs hout hlt =>
    have hle := hfs.length_le
    rw [hout, List.length_append]
    simp only [List.length_cons, List.length_nil]
    omega
  | failed fs hp hfs hout hcap =>
    have hle := hfs.length_le
    rw [hout]
    omega

/-- Every tick that found all goals answered has found a behaviour finished. -/
def Progress (s : RecoveryRun) : Prop :=
  s.returned = none → NoneRejected s.log → s.polls ≤ (outcomes s.log).length

/-- A tick ends the run, or finds finished what was answered. -/
theorem Inv.advances (h : Inv leg cap s) (hnone : NoneRejected s.log) (hans : AllAnswered s.log)
    (e : TickEnv) : (Recovery.tick leg m e s).returned ≠ none ∨
      ∃ b goal ok new, (Recovery.tick leg m e s).log = s.log ++ .finished b goal ok :: new := by
  cases h.stage with
  | waits b st fs hw =>
    obtain ⟨ok, new, hlog⟩ := h.heeds e hw.told.1 fun g hg => by
      exact hans.finished hnone (mem_goals_of_pending (hg ▸ hw.told.1))
    exact .inr ⟨b, st.goal, ok, new, hlog⟩
  | done fs hp => exact .inl (by simp [h.tick_done hp e])
  | failed fs hp => exact .inl (by simp [h.tick_failed hp e])

theorem tick_log (leg : Leg) (m : Int) (e : TickEnv) (s : RecoveryRun) :
    ∃ new, (Recovery.tick leg m e s).log = s.log ++ new := by
  rw [Recovery.tick]
  split
  · exact ⟨[], (List.append_nil _).symm⟩
  · exact ⟨_, rfl⟩

theorem Progress.answer (h : Progress s) {w : World} {o : Happening} (ho : o.isAnswer = true) :
    Progress { s with world := w, log := s.log ++ [o] } := by
  intro hr hnone
  have hle := h hr (NoneRejected.of_append hnone)
  rwa [← outcomes_answer ho] at hle

theorem tick_returned (hr : s.returned ≠ none) (e : TickEnv) : Recovery.tick leg m e s = s := by
  rw [Recovery.tick, if_pos (Option.isSome_iff_ne_none.mpr hr)]

theorem Progress.tick (h : Progress s) (hinv : Inv leg cap s) (e : TickEnv) :
    Progress (Recovery.step leg m s (.tick e)) := by
  intro (hr : (Recovery.tick leg m e s).returned = none)
    (hnone : NoneRejected (Recovery.tick leg m e s).log)
  have hr₀ : s.returned = none := by
    by_contra hne
    exact hne (tick_returned hne e ▸ hr)
  obtain ⟨new, hlog⟩ := tick_log leg m e s
  have hnone₀ : NoneRejected s.log := (hlog ▸ hnone).of_append
  have hle := h hr₀ hnone₀
  show (if AllAnswered s.log then s.polls + 1 else s.polls) ≤
    (outcomes (Recovery.tick leg m e s).log).length
  split
  · next hans =>
    obtain hret | ⟨b, goal, ok, new, hlog⟩ := hinv.advances (m := m) hnone₀ hans e
    · exact absurd hr hret
    · rw [hlog]
      simp only [outcomes, List.filterMap_append, List.filterMap_cons, List.length_append,
        List.length_cons] at hle ⊢
      omega
  · rw [hlog, outcomes, List.filterMap_append, List.length_append, ← outcomes]
    omega

theorem Progress.step (h : Progress s) (hinv : Inv leg cap s) (ev : Event) :
    Progress (step leg m s ev) := by
  cases ev with
  | tick e => exact h.tick hinv e
  | goalResponse g accepted =>
    rw [Recovery.step]
    split
    · exact h.answer rfl
    · exact h
  | goalResult g code =>
    rw [Recovery.step]
    split
    · exact h.answer rfl
    · exact h
  | elsewhere w goals => exact h

/-! ## No end, once a goal is rejected -/

/-- Every goal of the run has come to a result, or is waited for. -/
def Heard (log : List Happening) : Prop :=
  ∀ g ∈ goals log, lastResult g log ≠ none ∨ ∃ b, pending log = some (b, some g)

theorem Heard.answer {log : List Happening} {o : Happening} (h : Heard log)
    (ho : o.isAnswer = true) : Heard (log ++ [o]) := by
  intro g hg
  rw [goals_answer ho] at hg
  rw [pending_answer ho]
  refine (h g hg).imp_left fun hres => ?_
  obtain ⟨code, hcode⟩ := lastResult_ne_none_iff.mp hres
  exact lastResult_ne_none_iff.mpr ⟨code, by simp [hcode]⟩

/-- What a tick finds finished has come to a result, and what it starts is waited for. -/
theorem Heard.tickLog {r r' : RequestRecovery} {log : List Happening} (h : Heard log)
    (hstage : Stage cap r log) : Heard (log ++ tickLog r r') := by
  cases ha : awaited r with
  | none => simpa [Recovery.tickLog, ha] using h
  | some a =>
    obtain ⟨b, st⟩ := a
    obtain ⟨fs, hw⟩ := hstage.of_awaited ha
    cases hd : st.resultReceived with
    | false => simpa [Recovery.tickLog, ha, hd] using h
    | true =>
      obtain ⟨hpend, hres⟩ := hw.told
      rw [tickLog_of ha hd]
      -- a goal heard of before has come to its result by now
      have hold : ∀ g ∈ goals log, lastResult g log ≠ none := by
        intro g hg
        obtain hres' | ⟨b', hpend'⟩ := h g hg
        · exact hres'
        · obtain ⟨rfl, hgoal⟩ : b = b' ∧ st.goal = some g := by simpa [hpend] using hpend'
          rw [hgoal, hd] at hres
          exact Option.isSome_iff_ne_none.mp hres.1.symm
      intro g hg
      rw [goals_append, List.mem_append] at hg
      obtain hg | hg := hg
      · obtain ⟨code, hcode⟩ := lastResult_ne_none_iff.mp (hold g hg)
        exact .inl (lastResult_ne_none_iff.mpr ⟨code, by simp [hcode]⟩)
      · right
        cases ha' : awaited r' with
        | none => simp [goals, ha'] at hg
        | some a =>
          have hgoal : a.2.goal = some g := by simpa [goals, ha'] using hg
          exact ⟨a.1, by simp [pending, hgoal]⟩

theorem Heard.step (h : Heard s.log) (hinv : Inv leg cap s) (ev : Event) :
    Heard (step leg m s ev).log := by
  cases ev with
  | tick e =>
    change Heard (Recovery.tick leg m e s).log
    rw [Recovery.tick]
    split
    · exact h
    · exact h.tickLog hinv.stage
  | goalResponse g accepted =>
    rw [Recovery.step]
    split
    · exact h.answer rfl
    · exact h
  | goalResult g code =>
    rw [Recovery.step]
    split
    · exact h.answer rfl
    · exact h
  | elsewhere w goals => exact h

theorem heard_start (e : TickEnv) (w : World) : Heard (start leg e w).log := by
  intro g hg
  cases ha : awaited ((RequestRecovery.onStart e leg { w with trace := [] }).2.recov leg) with
  | none => simp [start, returns, ha, goals] at hg
  | some a =>
    have hgoal : a.2.goal = some g := by simpa [start, returns, ha, goals] using hg
    exact .inr ⟨a.1, by simp [start, returns, ha, pending, hgoal]⟩

/-- Nothing is pending when the node has returned. -/
theorem Inv.pending_none (h : Inv leg cap s) (hr : s.returned ≠ none) : pending s.log = none := by
  cases h.stage with
  | waits b st fs hw =>
    have ha := hw.awaits
    cases h.ended with
    | running hr' => exact absurd hr' hr
    | success _ hp | failure _ hp => simp [awaited, hp] at ha
  | done fs _ _ _ _ _ hpend => exact hpend
  | failed fs _ _ _ _ _ hpend => exact hpend

end

/-! ## The end -/

/-- `max_attempts`, of which the first always counts. -/
theorem caps_max (m : Int) : Caps (max m 1) m where
  pos := by omega
  le_iff a := by omega

structure Answered (leg : Leg) (m : Int) (s : RecoveryRun) : Prop where
  inv : Inv leg (max m 1) s
  progress : Progress s
  heard : Heard s.log

theorem run_answered (leg : Leg) (m : Int) (e : TickEnv) (w : World) (es : List Event) :
    Answered leg m (run leg m e w es) := by
  refine Run.run_invariant (fun s ev h => ?_) ⟨inv_start (caps_max m) e w, ?_, heard_start e w⟩
  · exact ⟨h.inv.step (caps_max m) ev, h.progress.step h.inv ev, h.heard.step h.inv ev⟩
  · exact fun _ _ => Nat.zero_le _

/-- **An answered recovery ends** if and only if none of its goals is rejected. A tick counts as one
of `polls` if it found every goal of the run answered. -/
theorem answered_run_returns (leg : Leg) (maxAttempts : Int) (e : TickEnv) (w : World)
    (es : List Event) (hrej : RejectedUnfinished (run leg maxAttempts e w es).log)
    (hpolls : 2 * max maxAttempts 1 < (run leg maxAttempts e w es).polls) :
    (run leg maxAttempts e w es).returned.isSome ↔
      NoneRejected (run leg maxAttempts e w es).log := by
  have h := run_answered leg maxAttempts e w es
  generalize run leg maxAttempts e w es = s at h hrej hpolls
  rw [Option.isSome_iff_ne_none]
  constructor
  · intro hr g hg hresp
    obtain hres | ⟨b, hpend⟩ := h.heard g hg
    · obtain ⟨code, hcode⟩ := lastResult_ne_none_iff.mp hres
      exact hrej g hresp code hcode
    · simp [h.inv.pending_none hr] at hpend
  · intro hnone hr
    have hle := h.progress hr hnone
    have hbound := h.inv.stage.outcomes_le
    omega

theorem answered_run_returns_at_once :
    (run .pick 1 (.up 0) Config.sample.init.world recoveredAtOnce).returned.isSome ↔
      NoneRejected (run .pick 1 (.up 0) Config.sample.init.world recoveredAtOnce).log := by
  have hlog : (run .pick 1 (.up 0) Config.sample.init.world recoveredAtOnce).log =
      [ .started .spin (some 0), .response 0 true, .result 0 .succeeded
      , .finished .spin (some 0) true
      , .started .backup (some 1), .response 1 true, .result 1 .succeeded
      , .finished .backup (some 1) true ] := by decide +kernel
  exact answered_run_returns .pick 1 (.up 0) Config.sample.init.world recoveredAtOnce
    (fun g hg => by simp [hlog] at hg) (by decide +kernel)

/-- A node that waits for a result no callback brings. -/
theorem tick_waits {leg : Leg} {m : Int} {s : RecoveryRun} {b : Behaviour} {st : RecovState}
    (hr : s.returned = none) (ha : awaited (s.world.recov leg) = some (b, st))
    (hd : st.resultReceived = false) (e : TickEnv) :
    (tick leg m e s).returned = none ∧ (tick leg m e s).world.recov leg = s.world.recov leg := by
  generalize hrun : RequestRecovery.onRunning e leg m s.world = r
  cases hrun ▸ ticks e leg s.world m with
  | waiting b' st' ha' hd' => rw [tick_eq hr e hrun]; exact ⟨rfl, rfl⟩
  | gone ha' hp => simp [ha] at ha'
  | spun st' ha' hd' | backedUp st' ha' hd' | lost b' st' ha' hd' =>
    obtain ⟨rfl, rfl⟩ : b = _ ∧ st = st' := by simpa [ha] using ha'
    simp [hd] at hd'
  | done hp | failed hp => simp [awaited, hp] at ha

theorem ticks_wait {leg : Leg} {m : Int} {s : RecoveryRun} {b : Behaviour} {st : RecovState}
    (hr : s.returned = none) (ha : awaited (s.world.recov leg) = some (b, st))
    (hd : st.resultReceived = false) (es : List TickEnv) :
    (Run.run (step leg m) s (es.map .tick)).returned = none := by
  induction es generalizing s with
  | nil => exact hr
  | cons e es ih =>
    obtain ⟨hr', hrecov⟩ := tick_waits (m := m) hr ha hd e
    exact ih hr' (hrecov ▸ ha)

/-- The spin goal is rejected, and no number of ticks brings the node to return. -/
theorem hangs_when_rejected :
    AllAnswered (run .pick 3 (.up 0) Config.sample.init.world [.goalResponse 0 false]).log ∧
      ¬ ∃ es : List TickEnv, (run .pick 3 (.up 0) Config.sample.init.world
        (.goalResponse 0 false :: es.map .tick)).returned.isSome := by
  refine ⟨by decide +kernel, ?_⟩
  rintro ⟨es, hes⟩
  generalize hs : run .pick 3 (.up 0) Config.sample.init.world [.goalResponse 0 false] = s
  have hr : s.returned = none := by rw [← hs]; decide +kernel
  have ha : awaited (s.world.recov .pick) = some (.spin, { goal := some 0 }) := by
    rw [← hs]; decide +kernel
  have hnone : (Run.run (step .pick 3) s (es.map .tick)).returned = none := ticks_wait hr ha rfl es
  have hrun : run .pick 3 (.up 0) Config.sample.init.world (.goalResponse 0 false :: es.map .tick) =
      Run.run (step .pick 3) s (es.map .tick) := by rw [← hs]; rfl
  simp [hrun, hnone] at hes

end RobotAgent.Recovery
