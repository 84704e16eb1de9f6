import Mathlib.Tactic.Linarith
import Mathlib.Tactic.Ring
import WarehouseFleet.RobotAgent.Messages

/-!
# How long a task takes

`duration_secs` of a completion is counted from `task_start_time_`, which `RequestTask` sets
(request_task.cpp:60-80), to a reading of the clock after the one for the stamp
(report_status.cpp:13, :25-26), and rounded to a `float`. What the pass does in between is bounded
from below by the two `ExecutePickDrop`: each waits on the node's clock from its own `onStart`
(execute_pick_drop.cpp:18-45). All of it holds as long as that clock does not go back.
-/

namespace RobotAgent

open BehaviorTree
open Fms

/-! ## Times -/

theorem seconds_mono {d d' : Time} (h : d ≤ d') : seconds d ≤ seconds d' :=
  div_le_div_of_nonneg_right (Int.cast_le.mpr h) (by norm_num)

theorem seconds_sub_add (t t' t'' : Time) :
    seconds (t - t') + seconds (t' - t'') = seconds (t - t'') := by
  simp only [seconds, Int.cast_sub]
  ring

/-- What a BT tick reads of the clock. -/
def Event.readings : Event → List Time
  | .btTick e => [e.now, e.stampNow, e.reportNow]
  | _ => []

/-- What a pass waits for at least. -/
def Config.passSecs (c : Config) : ℚ := c.pickDurationSecs + c.dropDurationSecs

structure Span where
  start : Time
  finish : Time

/-- The completion is about a pass that took this time. -/
structure Span.Reports (c : Config) (span : Span) (msg : TaskCompletion) : Prop where
  started : span.start ≤ msg.stamp
  long : c.passSecs ≤ seconds (msg.stamp - span.start)
  finished : msg.stamp ≤ span.finish
  duration : msg.durationSecs = toFloat (seconds (span.finish - span.start))

/-! ## Where a pass stands -/

/-- What a pass has to wait for before a leg. -/
def Leg.before (c : Config) : Leg → ℚ
  | .pick => 0
  | .drop => c.pickDurationSecs

/-- The completions so far are about passes one after the other, over at `t`, each from a reading
of the clock to another. -/
def Clocked (c : Config) (read : Time → Prop) (t : Time) (w : World) : Prop :=
  ∃ spans, List.Forall₂ (Span.Reports c) spans (completions w.trace) ∧
    spans.Pairwise (fun a b => a.finish ≤ b.start) ∧
    ∀ span ∈ spans, read span.start ∧ read span.finish ∧ span.finish ≤ t

/-- At `t` the pass has lasted for `secs`; it began after the last completion. -/
structure Lasted (c : Config) (read : Time → Prop) (secs : ℚ) (t : Time) (w : World) : Prop where
  secs : secs ≤ seconds (t - w.node.taskStartTime)
  started : w.node.taskStartTime ≤ t
  noted : read w.node.taskStartTime
  began : Clocked c read w.node.taskStartTime w

/-- What holds when a leaf of TaskExecution is about to be started. -/
def StartsAt (c : Config) (read : Time → Prop) (t : Time) : Point → World → Prop
  | .requestTask, _ => True
  | .nav leg _, w => Lasted c read (leg.before c) t w
  | .recover leg _, w => Lasted c read (leg.before c) t w
  | .exec leg, w => Lasted c read (leg.before c) t w
  | .report, w => Lasted c read c.passSecs t w

/-- What holds when the tree stands at a position. -/
def StandsAt (c : Config) (read : Time → Prop) (t : Time) : Pos → World → Prop
  | .task (.exec leg), w =>
    Lasted c read (leg.before c) (w.exec leg).startTime w ∧ (w.exec leg).startTime ≤ t ∧
      (w.exec leg).durationSecs = w.durationPort leg
  | .task pt, w => StartsAt c read t pt w
  | _, _ => True

/-- The completions so far, and the parameters. -/
structure Timed (c : Config) (read : Time → Prop) (t : Time) (w : World) : Prop where
  pickDuration : w.node.pickDuration = c.pickDurationSecs
  dropDuration : w.node.dropDuration = c.dropDurationSecs
  clocked : Clocked c read t w

/-! ## What counts -/

/-- The times in the node, and the completions. -/
def stopwatch : View (Time × ℚ × ℚ) where
  node node := (node.taskStartTime, node.pickDuration, node.dropDuration)
  sees
    | .completion _ _ => true
    | _ => false

theorem stopwatch_apart : stopwatch.Apart where
  node _ _ _ _ := rfl
  posted _ _ _ := rfl
  returned _ _ _ := rfl
  halted _ := rfl
  cancel _ := rfl
  chargerGoal _ _ := rfl
  spinGoal _ _ _ := rfl
  backUpGoal _ _ _ := rfl
  clearFault _ := rfl
  faultPosted _ := rfl

section
variable {c : Config} {read : Time → Prop} {secs secs' : ℚ} {t t' : Time} {e : TickEnv} {p : Pos}
  {pt : Point} {leg : Leg} {w w' : World} {r : NodeStatus × World}

theorem stopwatch_completions (h : stopwatch.Same w w') :
    completions w'.trace = completions w.trace := by
  refine h.filterMap fun o ho => ?_
  cases o with
  | completion _ _ => simp [stopwatch] at ho
  | _ => rfl

theorem Clocked.same (h : Clocked c read t w) (hs : completions w'.trace = completions w.trace) :
    Clocked c read t w' := by
  obtain ⟨spans, hreports, hapart⟩ := h
  exact ⟨spans, hs ▸ hreports, hapart⟩

theorem Clocked.mono (h : Clocked c read t w) (ht : t ≤ t') : Clocked c read t' w := by
  obtain ⟨spans, hreports, hapart, hread⟩ := h
  refine ⟨spans, hreports, hapart, fun span hspan => ?_⟩
  obtain ⟨hstart, hfinish, hle⟩ := hread span hspan
  exact ⟨hstart, hfinish, hle.trans ht⟩

theorem Lasted.same (h : Lasted c read secs t w) (hs : stopwatch.Same w w') :
    Lasted c read secs t w' := by
  have hstarted : w'.node.taskStartTime = w.node.taskStartTime := congrArg Prod.fst hs.node
  obtain ⟨hsecs, hle, hread, hbegan⟩ := h
  rw [← hstarted] at hsecs hle hread hbegan
  exact ⟨hsecs, hle, hread, hbegan.same (stopwatch_completions hs)⟩

theorem Lasted.later (h : Lasted c read secs t w) (ht : t ≤ t')
    (hsecs : secs' - secs ≤ seconds (t' - t)) : Lasted c read secs' t' w := by
  refine ⟨?_, h.started.trans ht, h.noted, h.began⟩
  have hsum := seconds_sub_add t' t w.node.taskStartTime
  have := h.secs
  linarith

theorem Lasted.mono (h : Lasted c read secs t w) (ht : t ≤ t') : Lasted c read secs t' w := by
  refine h.later ht ?_
  have hpos : seconds 0 ≤ seconds (t' - t) := seconds_mono (Int.sub_nonneg.mpr ht)
  simpa [seconds] using hpos

theorem StartsAt.same (h : StartsAt c read t pt w) (hs : stopwatch.Same w w') :
    StartsAt c read t pt w' := by
  cases pt with
  | requestTask => trivial
  | _ => exact Lasted.same h hs

theorem StandsAt.same (h : StandsAt c read t p w) (hs : stopwatch.Same w w')
    (hexec : w'.exec = w.exec) : StandsAt c read t p w' := by
  match p, h with
  | .idle, _ => trivial
  | .charger, _ => trivial
  | .charging, _ => trivial
  | .task (.exec leg), ⟨hlasted, hle, hport⟩ =>
    refine ⟨hexec ▸ hlasted.same hs, hexec ▸ hle, ?_⟩
    have hpick : w'.node.pickDuration = w.node.pickDuration :=
      congrArg (fun times => times.2.1) hs.node
    have hdrop : w'.node.dropDuration = w.node.dropDuration :=
      congrArg (fun times => times.2.2) hs.node
    rw [hexec, hport]
    cases leg with
    | pick => exact hpick.symm
    | drop => exact hdrop.symm
  | .task .requestTask, _ => trivial
  | .task (.nav leg k), h => exact Lasted.same h hs
  | .task (.recover leg k), h => exact Lasted.same h hs
  | .task .report, h => exact Lasted.same h hs

theorem StandsAt.mono (h : StandsAt c read t p w) (ht : t ≤ t') : StandsAt c read t' p w := by
  match p, h with
  | .idle, _ => trivial
  | .charger, _ => trivial
  | .charging, _ => trivial
  | .task (.exec leg), ⟨hlasted, hle, hport⟩ => exact ⟨hlasted, hle.trans ht, hport⟩
  | .task .requestTask, _ => trivial
  | .task (.nav leg k), h => exact Lasted.mono h ht
  | .task (.recover leg k), h => exact Lasted.mono h ht
  | .task .report, h => exact Lasted.mono h ht

theorem Timed.same (h : Timed c read t w) (hs : stopwatch.Same w w') : Timed c read t w' where
  pickDuration := (congrArg (fun times => times.2.1) hs.node).trans h.pickDuration
  dropDuration := (congrArg (fun times => times.2.2) hs.node).trans h.dropDuration
  clocked := h.clocked.same (stopwatch_completions hs)

theorem Timed.mono (h : Timed c read t w) (ht : t ≤ t') : Timed c read t' w :=
  { h with clocked := h.clocked.mono ht }

/-! ## The leaves that count -/

/-- A pass begins. -/
theorem RequestTask.take_lasted (h : Timed c read t w) (ht : t ≤ e.now) (hread : read e.now)
    (d : Delivery) : Timed c read e.now (take e d w) ∧ Lasted c read 0 e.now (take e d w) := by
  have hclocked : Clocked c read e.now (take e d w) :=
    (h.clocked.mono ht).same (by simp [completions, take_trace])
  exact ⟨⟨h.pickDuration, h.dropDuration, hclocked⟩,
    ⟨by simp [take, seconds], le_refl e.now, hread, hclocked⟩⟩

theorem RequestTask.Runs.timed (hr : Runs e w r) (h : Timed c read t w) (ht : t ≤ e.now)
    (hread : read e.now) :
    Timed c read e.now r.2 ∧ (r.1 = .running ∨ r.1 = .success ∧ Lasted c read 0 e.now r.2) := by
  cases hr with
  | waiting => exact ⟨h.mono ht, .inl rfl⟩
  | resumed d =>
    have htake := take_lasted (e := e) (w := { w with node :=
      { w.node with interruptedTask := none } }) (t := t)
      ⟨h.pickDuration, h.dropDuration, h.clocked⟩ ht hread d
    exact ⟨htake.1, .inr ⟨rfl, htake.2⟩⟩
  | next d ds =>
    have htake := take_lasted (e := e) (w := { w with node :=
      { w.node with pendingTasks := ds } }) (t := t)
      ⟨h.pickDuration, h.dropDuration, h.clocked⟩ ht hread d
    exact ⟨htake.1, .inr ⟨rfl, htake.2⟩⟩

/-- A leg that is over has taken its time. -/
theorem ExecutePickDrop.elapsed_lasted (hs : StandsAt c read t (.task (.exec leg)) w)
    (ht : t ≤ e.now) (he : elapsed e leg w = true) :
    Lasted c read (leg.before c + w.durationPort leg) e.now w := by
  obtain ⟨hlasted, hle, hport⟩ := hs
  refine hlasted.later (hle.trans ht) ?_
  have helapsed := of_decide_eq_true he
  rw [hport] at helapsed
  linarith

/-- The pass is over: its completion is the last one, and long enough. -/
theorem ReportStatus.tick_timed (h : Timed c read t w) (hl : Lasted c read c.passSecs e.now w)
    (hstamp : e.now ≤ e.stampNow) (hreport : e.stampNow ≤ e.reportNow) (hread : read e.reportNow) :
    Timed c read e.reportNow (tick e w).2 := by
  have hl' := hl.mono hstamp
  have hcompletions : completions (tick e w).2.trace = completions w.trace ++ [message e w] := by
    simp [completions, tick_trace]
  refine ⟨h.pickDuration, h.dropDuration, ?_⟩
  obtain ⟨spans, hreports, hapart, hspans⟩ := hl.began
  let span : Span := ⟨w.node.taskStartTime, e.reportNow⟩
  have hspan : span.Reports c (message e w) := ⟨hl'.started, hl'.secs, hreport, rfl⟩
  refine ⟨spans ++ [span], ?_, ?_, fun a ha => ?_⟩
  · rw [hcompletions]
    exact List.rel_append hreports (.cons hspan .nil)
  · refine List.pairwise_append.mpr ⟨hapart, List.pairwise_singleton _ _, fun a ha b hb => ?_⟩
    rw [List.mem_singleton.mp hb]
    exact (hspans a ha).2.2
  · obtain ha | ha := List.mem_append.mp ha
    · obtain ⟨hstart, hfinish, hle⟩ := hspans a ha
      exact ⟨hstart, hfinish, (hle.trans hl'.started).trans hreport⟩
    · rw [List.mem_singleton.mp ha]
      exact ⟨hl.noted, hread, le_refl e.reportNow⟩

/-- After a navigation or a recovery the pass is before the same leg still. -/
theorem startsAt_next {k : Nat} {b : Bool} {pt' : Point}
    (hpt : pt = .nav leg k ∨ pt = .recover leg k)
    (hn : pt.next b = .inl pt') (h : Lasted c read (leg.before c) t w) :
    StartsAt c read t pt' w := by
  obtain rfl | rfl := hpt
  · cases b <;> cases hn <;> exact h
  · cases b with
    | true => cases hn; exact h
    | false =>
      rw [Point.next] at hn
      split at hn
      · cases hn; exact h
      · cases hn

/-- `startsAt_next`, with the positions where the tick may end. -/
theorem leg_post {k : Nat} (hpt : pt = .nav leg k ∨ pt = .recover leg k) (ht : t ≤ t')
    (h : Timed c read t r.2) (hl : Lasted c read (leg.before c) t r.2) :
    leafPost (fun pt w => Timed c read t w ∧ StartsAt c read t pt w)
      (fun p w => Timed c read t' w ∧ StandsAt c read t' p w) pt r := by
  refine leafPost_at (Q := fun w => Timed c read t w ∧ Lasted c read (leg.before c) t w)
    (fun b pt' w hn hw => ⟨hw.1, startsAt_next hpt hn hw.2⟩) (fun w hw => ⟨hw.1.mono ht, trivial⟩)
    (fun w hw => ⟨hw.1.mono ht, ?_⟩) ⟨h, hl⟩
  obtain rfl | rfl := hpt <;> exact hw.2.mono ht

/-! ## Runs -/

theorem timed_turn (h : Timed c read t w) (hs : StandsAt c read t p w) (ht : t ≤ e.now)
    (hstamp : e.now ≤ e.stampNow) (hstamp' : e.stampNow ≤ e.reportNow) (hread : read e.now)
    (hread' : read e.reportNow) :
    Turn e p w (fun pt w => Timed c read e.now w ∧ StartsAt c read e.now pt w)
      (fun p w => Timed c read e.reportNow w ∧ StandsAt c read e.reportNow p w) := by
  have hnow := h.mono ht
  have hreport := hstamp.trans hstamp'
  have hend := hnow.mono hreport
  have emitted : ∀ w l st, stopwatch.Same w (w.emit (.returned l st)) := fun w l st =>
    (View.Same.refl w).emit rfl
  refine
    { chargerStarted := fun _ _ _ => ⟨hend.same (stopwatch_apart.chargerStarted _), trivial⟩
      chargerRunning := fun _ => ⟨hend.same (emitted w _ _), trivial⟩
      chargerReached := fun _ _ _ _ => ⟨hend.same stopwatch_apart.chargerReached, trivial⟩
      charging := fun _ _ => ⟨hend.same (emitted w _ _), trivial⟩
      charged := fun _ _ => ⟨hend.same stopwatch_apart.charged, trivial⟩
      requestTask := fun w' r hy _ hr => ?_
      navSent := fun leg k w' goal _ hs _ _ => ?_
      navNotSent := fun leg k w' _ hs _ => ⟨hs.1.same (emitted w' _ _), hs.2.same (emitted w' _ _)⟩
      nav := fun leg k w' r _ hy hp hr => ?_
      recoverStarted := fun leg k w' _ hs => ?_
      recover := fun leg k w' r _ hy hp hr => ?_
      execStarted := fun leg w' hs => ?_
      exec := fun leg w' r hy hp hr => ?_
      report := fun w' hs => ⟨?_, trivial⟩ }
  · obtain ⟨htimed, hout⟩ := hr.timed (h.same (stopwatch_apart.yielded hy)) ht hread
    obtain ⟨st, w''⟩ := r
    obtain rfl | ⟨rfl, hl⟩ := hout
    · exact ⟨(htimed.mono hreport).same (emitted w'' _ _), trivial⟩
    · exact ⟨htimed.same (emitted w'' _ _), hl.same (emitted w'' _ _)⟩
  · have hsent : stopwatch.Same w' (NavigateToPose.send e (.to leg) goal w') :=
      ⟨rfl, _, NavigateToPose.send_trace .., by simp [stopwatch]⟩
    have hl : Lasted c read (leg.before c) e.now w' := hs.2
    exact ⟨((hs.1.mono hreport).same hsent).same (emitted _ _ _),
      ((hl.mono hreport).same hsent).same (emitted _ _ _)⟩
  · subst hp
    have hsame := ((stopwatch_apart.yielded hy).trans (stopwatch_apart.navRuns hr)).trans
      (emitted r.2 (.navigateToPose (.to leg)) r.1)
    have hl : Lasted c read (leg.before c) t w := hs
    exact leg_post (.inl rfl) hreport (hnow.same hsame) ((hl.mono ht).same hsame)
  · have hstart : stopwatch.Same w' (RequestRecovery.onStart e leg w').2 :=
      stopwatch_apart.recoverStart
    have hl : Lasted c read (leg.before c) e.now w' := hs.2
    exact ⟨((hs.1.mono hreport).same hstart).same (emitted _ _ _),
      ((hl.mono hreport).same hstart).same (emitted _ _ _)⟩
  · subst hp
    have hsame := ((stopwatch_apart.yielded hy).trans (stopwatch_apart.recoverRuns hr)).trans
      (emitted r.2 (.requestRecovery leg) r.1)
    have hl : Lasted c read (leg.before c) t w := hs
    exact leg_post (.inr rfl) hreport (hnow.same hsame) ((hl.mono ht).same hsame)
  · have hstart : stopwatch.Same w'
        (returns (.executePickDrop leg) (ExecutePickDrop.onStart e leg) w').2 :=
      stopwatch_apart.execStart
    have hl : Lasted c read (leg.before c) e.now w' := hs.2
    refine ⟨(hs.1.mono hreport).same hstart, ?_, ?_, ?_⟩
    · simpa [ExecutePickDrop.onStart] using hl.same hstart
    · simpa [ExecutePickDrop.onStart] using hreport
    · simp only [returns_snd, ExecutePickDrop.onStart, World.emit_exec, Function.update_self]
      cases leg <;> rfl
  · subst hp
    have hy' := stopwatch_apart.yielded hy
    have hs' : StandsAt c read t (.task (.exec leg)) w' := hs.same hy' hy.exec
    have hout := hnow.same ((hy'.trans (stopwatch_apart.execRuns hr)).trans
      (emitted r.2 (.executePickDrop leg) r.1))
    cases hr with
    | waiting => exact ⟨hout.mono hreport, (hs'.mono (ht.trans hreport)).same (emitted w' _ _) rfl⟩
    | picked hl helapsed =>
      subst hl
      have hlasted := ExecutePickDrop.elapsed_lasted hs' ht helapsed
      rw [World.durationPort, (h.same hy').pickDuration, Leg.before, zero_add] at hlasted
      exact ⟨hout, (hlasted.same (stopwatch_apart.post (.refl w') _ _)).same (emitted _ _ _)⟩
    | dropped hl helapsed =>
      subst hl
      have hlasted := ExecutePickDrop.elapsed_lasted hs' ht helapsed
      rw [World.durationPort, (h.same hy').dropDuration] at hlasted
      exact ⟨hout, hlasted.same (emitted w' _ _)⟩
  · exact (ReportStatus.tick_timed hs.1 hs.2 hstamp hstamp' hread').same (emitted _ _ _)

end

/-- Between BT ticks nothing is timed. -/
theorem stopwatch_step (s : State) {ev : Event} (hev : ev.readings = []) :
    stopwatch.Same s.world (step s ev).world ∧ (step s ev).world.exec = s.world.exec := by
  cases ev with
  | taskAssignment msg => exact ⟨⟨rfl, _, rfl, by simp [stopwatch]⟩, rfl⟩
  | btTick e => cases hev
  | batteryUpdate now =>
    obtain ⟨_, _, _, hnode⟩ := batteryUpdateCb_node now s.world
    exact ⟨⟨by simp only [step, hnode, stopwatch], [], (List.append_nil _).symm, by simp⟩, rfl⟩
  | statusPublish now tf => exact ⟨(View.Same.refl _).emit rfl, rfl⟩
  | injectFault data => cases data <;> exact ⟨⟨rfl, _, rfl, by simp [stopwatch]⟩, rfl⟩
  | goalResponse g accepted =>
    rw [step]
    split
    · exact ⟨⟨rfl, _, rfl, by simp [stopwatch]⟩, rfl⟩
    · exact ⟨.refl _, rfl⟩
  | goalResult g code =>
    rw [step]
    split
    · exact ⟨⟨rfl, _, rfl, by simp [stopwatch]⟩, rfl⟩
    · exact ⟨.refl _, rfl⟩

/-- The agent is where its completions and its clock say. -/
def State.Timely (c : Config) (read : Time → Prop) (t : Time) (s : State) : Prop :=
  s.Inv fun p w => Timed c read t w ∧ StandsAt c read t p w

section
variable {c : Config} {read : Time → Prop} {t : Time} {s : State} {ev : Event}

theorem State.Timely.quiet (h : s.Timely c read t) (hev : ev.readings = []) :
    (step s ev).Timely c read t := by
  obtain ⟨hv, hp, htimed, hstands⟩ := h.pos
  obtain ⟨hsame, hexec⟩ := stopwatch_step s hev
  have htree : (step s ev).tree = s.tree :=
    step_tree fun e he => by simp [he, Event.readings] at hev
  exact ⟨s.pos, hv, htree.trans hp, htimed.same hsame, hstands.same hsame hexec⟩

/-- One event takes the clock on to the last time it reads. -/
theorem State.Timely.step (h : s.Timely c read t) (hclock : (t :: ev.readings).Pairwise (· ≤ ·))
    (hread : ∀ t' ∈ ev.readings, read t') :
    ∃ t' ∈ t :: ev.readings, (step s ev).Timely c read t' := by
  cases ev with
  | btTick e =>
    obtain ⟨ht, hstamp, hreport⟩ :
        t ≤ e.now ∧ e.now ≤ e.stampNow ∧ e.stampNow ≤ e.reportNow := by
      simp only [Event.readings, List.pairwise_cons] at hclock
      exact ⟨hclock.1 _ (by simp), hclock.2.1 _ (by simp), hclock.2.2.1 _ (by simp)⟩
    obtain ⟨hv, hp, htimed, hstands⟩ := h.pos
    exact ⟨e.reportNow, by simp [Event.readings],
      (timed_turn htimed hstands ht hstamp hreport (hread _ (by simp [Event.readings]))
        (hread _ (by simp [Event.readings]))).btTick hv hp⟩
  | _ => exact ⟨t, by simp, h.quiet rfl⟩

theorem Config.timely_init (c : Config) (read : Time → Prop) (t : Time) :
    c.init.Timely c read t :=
  ⟨.idle, trivial, rfl, ⟨rfl, rfl, [], .nil, .nil, by simp⟩, trivial⟩

end

/-- **A task takes its time.** As long as the clock does not go back, the passes that completions
are about follow one another: each lasts for the time of a pick and a drop at least, from one
reading of the clock to another, and its completion has its length, rounded. So in any time a
robot completes no more tasks than fit in it. -/
theorem completions_timed (c : Config) (es : List Event)
    (hclock : (es.flatMap Event.readings).Pairwise (· ≤ ·)) :
    (∀ msg ∈ completions (c.run es).world.trace, toFloat c.passSecs ≤ msg.durationSecs) ∧
    ∃ spans, List.Forall₂ (Span.Reports c) spans (completions (c.run es).world.trace) ∧
      spans.Pairwise (fun a b => a.finish ≤ b.start) ∧
      ∀ span ∈ spans, span.start ∈ es.flatMap Event.readings ∧
        span.finish ∈ es.flatMap Event.readings := by
  obtain ⟨t, ht⟩ := Run.exists_first hclock
  obtain ⟨t', h⟩ : ∃ t', (c.run es).Timely c (· ∈ es.flatMap Event.readings) t' := by
    refine Run.run_timed ?_ ht (c.timely_init _ t)
    exact fun t s ev hev hclock h => h.step hclock fun t' ht' => List.mem_flatMap.mpr ⟨ev, hev, ht'⟩
  obtain ⟨spans, hreports, hapart, hspans⟩ := h.pos.2.2.1.clocked
  refine ⟨fun msg hmsg => ?_, spans, hreports, hapart, fun span hspan => ?_⟩
  · obtain ⟨i, rfl⟩ := List.get_of_mem hmsg
    have hspan := hreports.get (i.isLt.trans_eq hreports.length_eq.symm) i.isLt
    have hlong := hspan.long.trans (seconds_mono (Int.sub_le_sub_right hspan.finished _))
    exact (toFloat_mono hlong).trans_eq hspan.duration.symm
  · obtain ⟨hstart, hfinish, -⟩ := hspans span hspan
    exact ⟨hstart, hfinish⟩

/-- Two tasks, the first one interrupted: the pass that completes it starts after the robot has
charged. -/
theorem completions_timed_resumed :
    (completions ((Config.sampleAt 20).run resumedRun).world.trace).map (·.durationSecs) = [8, 8] ∧
    (∀ msg ∈ completions ((Config.sampleAt 20).run resumedRun).world.trace,
      toFloat (Config.sampleAt 20).passSecs ≤ msg.durationSecs) ∧
    ∃ spans, List.Forall₂ (Span.Reports (Config.sampleAt 20)) spans
        (completions ((Config.sampleAt 20).run resumedRun).world.trace) ∧
      spans.Pairwise (fun a b => a.finish ≤ b.start) ∧
      ∀ span ∈ spans, span.start ∈ resumedRun.flatMap Event.readings ∧
        span.finish ∈ resumedRun.flatMap Event.readings :=
  ⟨by decide +kernel, completions_timed _ resumedRun (by decide)⟩

end RobotAgent
