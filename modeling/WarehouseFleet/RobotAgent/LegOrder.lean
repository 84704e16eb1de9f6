import WarehouseFleet.RobotAgent.Slots
import WarehouseFleet.Trace

/-!
# A reported task was delivered

`ReportStatus` always publishes RESULT_SUCCESS, so a report is true only if the pass that leads to
it went through the four leaves of the task. It does (`legs_in_order`), unless a RequestRecovery
succeeds: the Fallback above it succeeds with it, Retry is done, and the pass goes on as if the
robot had arrived (`legSkipped`).
-/

namespace RobotAgent

open BehaviorTree
open Fms
open Trace (Each)

/-! ## What a delivery is -/

/-- Where a leg of task `d` goes. -/
def Leg.pose (d : Delivery) : Leg → Pose
  | .pick => d.msg.pickPose
  | .drop => d.msg.dropPose

/-- A goal to the pose of the leg that finished SUCCEEDED. -/
def Arrived (d : Delivery) (leg : Leg) (log : List Obs) : Prop :=
  ∃ g p, p.pose = leg.pose d ∧ log = [.navGoal (.to leg) g p, .result g .succeeded]

/-- The robot arrived, and then the ExecutePickDrop of the leg returned SUCCESS. -/
def Served (d : Delivery) (leg : Leg) (log : List Obs) : Prop :=
  ∃ visit, Arrived d leg visit ∧ log = visit ++ [.returned (.executePickDrop leg) .success]

def Delivered (d : Delivery) (log : List Obs) : Prop :=
  ∃ pick drop, Served d .pick pick ∧ Served d .drop drop ∧ log = pick ++ drop

/-- `log` has happened in this order since `d` was last dequeued. -/
def Since (d : Delivery) (tr log : List Obs) : Prop :=
  ∃ before after, tr = before ++ .dequeued d :: after ∧ .dequeued d ∉ after ∧ log.Sublist after

/-- A success is reported for delivered tasks only. -/
def TrueReport (pre : List Obs) : Obs → Prop
  | .completion current msg => msg.result = TaskCompletion.resultSuccess →
      ∀ d, current = some d → ∃ log, Delivered d log ∧ Since d pre log
  | _ => True

/-- The tick finds the recovery of a leg DONE, and a task to go on with. -/
def legSkipped (e : TickEnv) (p : Pos) (w : World) : Bool :=
  match p with
  | .task (.recover leg _) => chargeYields e p w && (w.recov leg).phase = .done &&
      w.node.currentTask.isSome
  | _ => false

/-! ## Growing traces -/

section
variable {d : Delivery} {tr new log log' : List Obs} {o : Obs}

theorem Since.append (h : Since d tr log) (hn : .dequeued d ∉ new) : Since d (tr ++ new) log := by
  obtain ⟨before, after, rfl, hd, hs⟩ := h
  refine ⟨before, after ++ new, by simp, ?_, hs.trans (List.sublist_append_left after new)⟩
  rw [List.mem_append]
  exact fun h => h.elim hd hn

theorem Since.snoc (h : Since d tr log) (ho : .dequeued d ≠ o) :
    Since d (tr ++ [o]) (log ++ [o]) := by
  obtain ⟨before, after, rfl, hd, hs⟩ := h
  refine ⟨before, after ++ [o], by simp, ?_, hs.append (List.Sublist.refl [o])⟩
  rw [List.mem_append, List.mem_singleton]
  exact fun h => h.elim hd ho

theorem Since.mono (h : Since d tr log) (hl : log'.Sublist log) : Since d tr log' := by
  obtain ⟨before, after, ht, hd, hs⟩ := h
  exact ⟨before, after, ht, hd, hl.trans hs⟩

theorem since_dequeued (hn : .dequeued d ∉ new) : Since d (tr ++ .dequeued d :: new) [] :=
  ⟨tr, new, rfl, hn, List.nil_sublist new⟩

end

/-- The pass goes on with the same task and the same poses. -/
structure SamePass (w w' : World) : Prop where
  current : w'.node.currentTask = w.node.currentTask
  goalPort : ∀ leg, w'.goalPort (.to leg) = w.goalPort (.to leg)
  trace : ∃ new, w'.trace = w.trace ++ new ∧
    ∀ o ∈ new, (∀ pre, TrueReport pre o) ∧ ∀ d, .dequeued d ≠ o

theorem SameSlots.samePass {w w' : World} (h : SameSlots w w') : SamePass w w' where
  current := h.current
  goalPort leg := by
    cases leg with
    | pick => exact h.pickPose
    | drop => exact h.dropPose
  trace := by
    obtain ⟨new, ht, hq⟩ := h.trace
    refine ⟨new, ht, fun o ho => ?_⟩
    have := hq o ho
    cases o <;> simp_all [Obs.aboutTasks, TrueReport]

theorem taskAssignmentCb_samePass (msg : TaskAssignment) (w : World) :
    SamePass w (taskAssignmentCb msg w) where
  current := rfl
  goalPort leg := by cases leg <;> rfl
  trace := ⟨_, rfl, by simp [TrueReport]⟩

theorem Since.frame {d : Delivery} {log : List Obs} {w w' : World} (h : Since d w.trace log)
    (hs : SamePass w w') : Since d w'.trace log := by
  obtain ⟨new, ht, hq⟩ := hs.trace
  rw [ht]
  exact h.append fun hmem => (hq _ hmem).2 d rfl

/-! ## The evidence for a pass -/

/-- What has happened before a leg begins. -/
def Before (d : Delivery) : Leg → List Obs → Prop
  | .pick, log => log = []
  | .drop, log => Served d .pick log

/-- What has happened when a leaf of TaskExecution is about to be started. -/
def Reached (d : Delivery) : Point → List Obs → Prop
  | .requestTask, _ => True
  | .nav leg _, tr => ∃ log, Before d leg log ∧ Since d tr log
  | .recover leg _, tr => ∃ log, Before d leg log ∧ Since d tr log
  | .exec leg, tr => ∃ log visit, Before d leg log ∧ Arrived d leg visit ∧ Since d tr (log ++ visit)
  | .report, tr => ∃ log, Delivered d log ∧ Since d tr log

/-- The navigation of a leg is under way; when its result comes, the robot has arrived. -/
structure UnderWay (d : Delivery) (leg : Leg) (w : World) (log : List Obs) (s : NavState)
    (p : PoseStamped) : Prop where
  before : Before d leg log
  nav : w.nav (.to leg) = some s
  pose : p.pose = leg.pose d
  sent : Since d w.trace (log ++ [.navGoal (.to leg) s.goal p])
  arrived : s.resultReceived = true → s.resultCode = .succeeded →
    Since d w.trace (log ++ [.navGoal (.to leg) s.goal p, .result s.goal .succeeded])

/-- What has happened when the tree stands at a position. -/
def Evidence (d : Delivery) : Pos → World → Prop
  | .task (.nav leg _), w => ∃ log s p, UnderWay d leg w log s p
  | .task pt, w => Reached d pt w.trace
  | _, _ => True

/-- The reports so far are true, and there is evidence for the task of the pass. -/
structure Honest (E : Delivery → World → Prop) (w : World) : Prop where
  reports : Each TrueReport w.trace
  ports : ∀ d, w.node.currentTask = some d →
    ∀ leg, (w.goalPort (.to leg)).map (·.pose) = some (leg.pose d)
  evidence : ∀ d, w.node.currentTask = some d → E d w

section
variable {d : Delivery} {w w' : World} {E E' : Delivery → World → Prop}

theorem Reached.frame (pt : Point) (h : Reached d pt w.trace) (hs : SamePass w w') :
    Reached d pt w'.trace := by
  cases pt with
  | requestTask => trivial
  | nav leg k =>
    obtain ⟨log, hb, hlog⟩ := h
    exact ⟨log, hb, hlog.frame hs⟩
  | recover leg k =>
    obtain ⟨log, hb, hlog⟩ := h
    exact ⟨log, hb, hlog.frame hs⟩
  | exec leg =>
    obtain ⟨log, visit, hb, ha, hlog⟩ := h
    exact ⟨log, visit, hb, ha, hlog.frame hs⟩
  | report =>
    obtain ⟨log, hd, hlog⟩ := h
    exact ⟨log, hd, hlog.frame hs⟩

/-- The evidence may change with the position when no task moves. -/
theorem Honest.frame (h : Honest E w) (hs : SamePass w w')
    (he : ∀ d, w.node.currentTask = some d → E d w → E' d w') : Honest E' w' where
  reports := by
    obtain ⟨new, ht, hq⟩ := hs.trace
    rw [ht]
    exact h.reports.append fun o ho => (hq o ho).1
  ports d hd leg := by
    rw [hs.goalPort]
    exact h.ports d (hs.current ▸ hd) leg
  evidence d hd := he d (hs.current ▸ hd) (h.evidence d (hs.current ▸ hd))

end

/-! ## The callbacks -/

section
variable {d : Delivery} {leg : Leg} {w : World}

/-- A navigation that does not arrive leaves what was before the leg. -/
theorem UnderWay.missed {log : List Obs} {s : NavState} {p : PoseStamped}
    (h : UnderWay d leg w log s p) (k : Nat) : Reached d (.recover leg k) w.trace :=
  ⟨log, h.before, h.sent.mono (List.sublist_append_left log _)⟩

theorem UnderWay.reached {log : List Obs} {s : NavState} {p : PoseStamped}
    (h : UnderWay d leg w log s p) (hd : s.resultReceived = true) (hc : s.resultCode = .succeeded) :
    Reached d (.exec leg) w.trace :=
  ⟨log, _, h.before, ⟨s.goal, p, h.pose, rfl⟩, h.arrived hd hc⟩

theorem UnderWay.frame {log : List Obs} {s : NavState} {p : PoseStamped} {w' : World}
    (h : UnderWay d leg w log s p) (hs : SamePass w w') (hn : w'.nav (.to leg) = w.nav (.to leg)) :
    UnderWay d leg w' log s p :=
  ⟨h.before, hn.trans h.nav, h.pose, h.sent.frame hs, fun hd hc => (h.arrived hd hc).frame hs⟩

/-- The goal of a leg is the pose of the task, whatever its stamp. -/
theorem NavigateToPose.send_underWay {e : TickEnv} {goal : PoseStamped} {k : Nat}
    (h : Reached d (.nav leg k) w.trace) (hp : goal.pose = leg.pose d) :
    ∃ log s p, UnderWay d leg (send e (.to leg) goal w) log s p := by
  obtain ⟨log, hb, hlog⟩ := h
  refine ⟨log, { goal := w.nextGoal }, { goal with stamp := e.now },
    ⟨hb, by simp, hp, ?_, fun h => by cases h⟩⟩
  have hsent := hlog.snoc (o := .navGoal (.to leg) w.nextGoal { goal with stamp := e.now })
    (by simp)
  have hposted : .dequeued d ∉ [Obs.posted (.navigateToPose (.to leg)) .navStarted] := by simp
  have := hsent.append hposted
  simpa [send_trace] using this

end

/-- A task that is taken on has nothing behind it. -/
theorem RequestTask.take_honest {e : TickEnv} {w : World} (h : Each TrueReport w.trace)
    (d : Delivery) : Honest (fun d w => Reached d (.nav .pick 0) w.trace) (take e d w) where
  reports := by
    rw [take_trace]
    refine h.append fun o ho pre => ?_
    simp only [List.mem_cons, List.not_mem_nil, or_false] at ho
    rcases ho with rfl | rfl <;> trivial
  ports d' hd' leg := by
    obtain rfl : d = d' := Option.some.inj hd'
    cases leg <;> rfl
  evidence d' hd' := by
    obtain rfl : d = d' := Option.some.inj hd'
    refine ⟨[], rfl, ?_⟩
    rw [take_trace]
    exact since_dequeued (by simp)

theorem RequestTask.Runs.honest {e : TickEnv} {w : World} {r : NodeStatus × World}
    (h : Runs e w r) (hr : Each TrueReport w.trace) (hs : r.1 ≠ .running) :
    Honest (fun d w => Reached d (.nav .pick 0) w.trace) r.2 := by
  cases h with
  | waiting => exact absurd rfl hs
  | resumed d => exact take_honest (by exact hr) d
  | next d ds => exact take_honest (by exact hr) d

theorem ReportStatus.tick_honest {e : TickEnv} {w : World} {E : Delivery → World → Prop}
    (h : Honest (fun d w => Reached d .report w.trace) w) : Honest E (tick e w).2 where
  reports := by
    have hreport : TrueReport w.trace (.completion w.node.currentTask (message e w)) :=
      fun _ d hd => h.evidence d hd
    exact (h.reports.concat hreport).concat trivial
  ports d hd := by cases hd
  evidence d hd := by cases hd

/-- The drop comes after the pick, the report after the drop. -/
theorem Reached.served {d : Delivery} {leg : Leg} {tr : List Obs} {pt : Point}
    (h : Reached d (.exec leg) tr) (hn : (Point.exec leg).next true = .inl pt) :
    Reached d pt (tr ++ [.returned (.executePickDrop leg) .success]) := by
  obtain ⟨log, visit, hb, ha, hlog⟩ := h
  have hlog' := hlog.snoc (o := .returned (.executePickDrop leg) .success) (by simp)
  cases leg with
  | pick =>
    obtain rfl : Point.nav .drop 0 = pt := Sum.inl.inj hn
    obtain rfl : log = [] := hb
    exact ⟨_, ⟨visit, ha, rfl⟩, hlog'⟩
  | drop =>
    obtain rfl : Point.report = pt := Sum.inl.inj hn
    exact ⟨_, ⟨log, _, hb, ⟨visit, ha, rfl⟩, rfl⟩, by simpa using hlog'⟩

/-! ## One tick -/

/-- What a leaf of TaskExecution has to leave. -/
abbrev HonestPost : Point → NodeStatus × World → Prop :=
  leafPost (fun pt => Honest fun d w => Reached d pt w.trace) fun p => Honest (Evidence · p)

theorem returned_slots (w : World) (l : Leaf) (st : NodeStatus) :
    SameSlots w (w.emit (.returned l st)) := SameSlots.refl.emit rfl

theorem sent_slots (e : TickEnv) (w : World) (n : NavNode) (goal : PoseStamped) :
    SameSlots w ((NavigateToPose.send e n goal w).emit (.returned (.navigateToPose n) .running)) :=
  (NavigateToPose.send_slots e w n goal).emit rfl

section
variable {e : TickEnv} {leg : Leg} {k : Nat} {w : World} {r : NodeStatus × World}

theorem NavigateToPose.Runs.honest (hr : NavigateToPose.Runs w (.to leg) r)
    (h : Honest (Evidence · (.task (.nav leg k))) w) :
    HonestPost (.nav leg k) (r.1, r.2.emit (.returned (.navigateToPose (.to leg)) r.1)) := by
  have failed : ∀ w', SamePass w w' →
      Honest (fun d w => Reached d (.recover leg k) w.trace) w' := by
    intro w' hs
    refine h.frame hs fun d _ he => ?_
    obtain ⟨log, s, p, hu⟩ := he
    exact (hu.missed k).frame _ hs
  have hpass := (hr.slots.trans (returned_slots r.2 (.navigateToPose (.to leg)) r.1)).samePass
  cases hr with
  | waiting =>
    refine h.frame hpass fun d _ he => ?_
    obtain ⟨log, s, p, hu⟩ := he
    exact ⟨log, s, p, hu.frame hpass rfl⟩
  | reached s _ hs _ _ hd hc =>
    refine h.frame hpass fun d _ he => ?_
    obtain ⟨log, s', p, hu⟩ := he
    obtain rfl : s = s' := Option.some.inj (hs.symm.trans hu.nav)
    exact (hu.reached hd hc).frame _ hpass
  | fault => exact failed _ hpass
  | gone => exact failed _ hpass
  | rejected => exact failed _ hpass
  | missed => exact failed _ hpass

/-- A recovery that is done skips the leg: then there must be no task to report. -/
theorem RequestRecovery.Runs.honest (hr : RequestRecovery.Runs e w leg r)
    (h : Honest (Evidence · (.task (.recover leg k))) w)
    (hskip : (w.recov leg).phase = .done → w.node.currentTask = none) :
    HonestPost (.recover leg k) (r.1, r.2.emit (.returned (.requestRecovery leg) r.1)) := by
  have hpass := (hr.slots.trans (returned_slots r.2 (.requestRecovery leg) r.1)).samePass
  have goOn : Honest (fun d w => Reached d (.recover leg k) w.trace)
      (r.2.emit (.returned (.requestRecovery leg) r.1)) :=
    h.frame hpass fun _ _ he => Reached.frame (.recover leg k) he hpass
  cases hr with
  | waiting => exact goOn
  | spun => exact goOn
  | backedUp => exact goOn
  | lost => exact goOn
  | done hp =>
    refine goOn.frame SameSlots.refl.samePass fun d hd _ => ?_
    rw [hpass.current, hskip hp] at hd
    cases hd
  | failed =>
    simp only [leafPost, Point.next]
    split
    · exact goOn
    · exact goOn.frame SameSlots.refl.samePass fun _ _ _ => trivial

theorem ExecutePickDrop.Runs.honest (hr : ExecutePickDrop.Runs e w leg r)
    (h : Honest (Evidence · (.task (.exec leg))) w) :
    HonestPost (.exec leg) (r.1, r.2.emit (.returned (.executePickDrop leg) r.1)) := by
  have hpass := hr.slots.samePass
  have hr' : Honest (fun d w => Reached d (.exec leg) w.trace) r.2 :=
    h.frame hpass fun _ _ he => Reached.frame (.exec leg) he hpass
  have emitted := fun st => (returned_slots r.2 (.executePickDrop leg) st).samePass
  cases hr with
  | waiting =>
    exact hr'.frame (emitted _) fun _ _ he => Reached.frame (.exec leg) he (emitted _)
  | picked hl =>
    subst hl
    exact hr'.frame (emitted _) fun _ _ he => he.served rfl
  | dropped hl =>
    subst hl
    exact hr'.frame (emitted _) fun _ _ he => he.served rfl

end

section
variable {e : TickEnv} {p₀ : Pos} {w₀ : World}

/-- Out of TaskExecution no evidence is asked for. -/
theorem Honest.leave {E : Delivery → World → Prop} {w w' : World} (h : Honest E w)
    (hs : SameSlots w w') {p : Pos} (hp : ∀ d, Evidence d p w') : Honest (Evidence · p) w' :=
  h.frame hs.samePass fun d _ _ => hp d

theorem honest_turn (hP : legSkipped e p₀ w₀ = false) (h : Honest (Evidence · p₀) w₀) :
    Turn e p₀ w₀ (fun pt => Honest fun d w => Reached d pt w.trace)
      (fun p => Honest (Evidence · p)) := by
  have emitted : ∀ w l st, SamePass w (w.emit (.returned l st)) := fun w l st =>
    (returned_slots w l st).samePass
  constructor
  case chargerStarted =>
    intro _ _ _
    exact h.leave (((returned_slots ..).trans (sent_slots ..)).trans (haltTask_slots e p₀ _))
      fun _ => trivial
  case chargerRunning => exact fun _ => h.leave (returned_slots ..) fun _ => trivial
  case chargerReached =>
    intro s _ _ _
    exact h.leave ((((NavigateToPose.finish_slots w₀ _ _).trans (returned_slots ..)).trans
      (ChargeBattery.onStart_slots _)).trans (returned_slots ..)) fun _ => trivial
  case charging => exact fun _ _ => h.leave (returned_slots ..) fun _ => trivial
  case charged =>
    intro _ _
    exact h.leave ((ChargeBattery.onHalted_slots w₀).post.trans (returned_slots ..))
      fun _ => trivial
  case requestTask =>
    intro w r hy _ hr
    have hw : Honest (Evidence · .idle) w := h.leave hy.slots fun _ => trivial
    have taken := hr.honest hw.reports
    cases hr with
    | waiting => exact hw.leave (returned_slots ..) fun _ => trivial
    | resumed d =>
      exact (taken (by simp)).frame (emitted _ _ _) fun _ _ he => he.frame _ (emitted _ _ _)
    | next d ds =>
      exact (taken (by simp)).frame (emitted _ _ _) fun _ _ he => he.frame _ (emitted _ _ _)
  case navSent =>
    intro leg k w goal _ hs hg _
    refine hs.frame (sent_slots ..).samePass fun d hd he => ?_
    have hp : goal.pose = leg.pose d := by simpa [hg] using hs.ports d hd leg
    obtain ⟨log, s, p, hu⟩ :
        ∃ log s p, UnderWay d leg (NavigateToPose.send e (.to leg) goal w) log s p :=
      NavigateToPose.send_underWay he hp
    exact ⟨log, s, p, hu.frame (emitted _ _ _) rfl⟩
  case navNotSent =>
    exact fun leg k w _ hs _ => hs.frame (emitted _ _ _) fun _ _ he =>
      Reached.frame (.recover leg k) he (emitted _ _ _)
  case nav =>
    rintro leg k w r _ hy rfl hr
    refine hr.honest (h.frame hy.slots.samePass fun d _ he => ?_)
    obtain ⟨log, s, p, hu⟩ := he
    exact ⟨log, s, p, hu.frame hy.slots.samePass (hy.nav_to leg)⟩
  case recoverStarted =>
    intro leg k w _ hs
    have hpass := ((RequestRecovery.onStart_slots e w leg).trans
      (returned_slots _ (.requestRecovery leg) .running)).samePass
    exact hs.frame hpass fun _ _ he => Reached.frame (.recover leg k) he hpass
  case recover =>
    rintro leg k w r _ hy rfl hr
    have hpass := hy.slots.samePass
    refine hr.honest (h.frame hpass fun _ _ he => Reached.frame (.recover leg k) he hpass) ?_
    intro hp
    rw [hy.slots.current]
    simpa [legSkipped, hy.yields, ← hy.recov, hp] using hP
  case execStarted =>
    intro leg w hs
    have hpass := ((ExecutePickDrop.onStart_slots e w leg).trans
      (returned_slots _ (.executePickDrop leg) .running)).samePass
    exact hs.frame hpass fun _ _ he => Reached.frame (.exec leg) he hpass
  case exec =>
    rintro leg w r hy rfl hr
    have hpass := hy.slots.samePass
    exact hr.honest (h.frame hpass fun _ _ he => Reached.frame (.exec leg) he hpass)
  case report =>
    intro w hs
    have hdone : Honest (Evidence · .idle) (ReportStatus.tick e w).2 := ReportStatus.tick_honest hs
    exact hdone.leave (returned_slots ..) fun _ => trivial

end

/-! ## The other callbacks -/

/-- Between ticks the position stays, and so does the evidence. -/
theorem Honest.keep {p : Pos} {w w' : World} (h : Honest (Evidence · p) w) (hs : SamePass w w')
    (hu : ∀ d leg log s p, UnderWay d leg w log s p → ∃ s, UnderWay d leg w' log s p) :
    Honest (Evidence · p) w' := by
  refine h.frame hs fun d _ he => ?_
  match p, he with
  | .task (.nav leg k), ⟨log, s, p, h⟩ =>
    obtain ⟨s, h⟩ := hu d leg log s p h
    exact ⟨log, s, p, h⟩
  | .task (.recover leg k), he => exact Reached.frame (.recover leg k) he hs
  | .task (.exec leg), he => exact Reached.frame (.exec leg) he hs
  | .task .report, he => exact Reached.frame .report he hs
  | .task .requestTask, _ => trivial
  | .idle, _ => trivial
  | .charger, _ => trivial
  | .charging, _ => trivial

/-- Callbacks that are no answer leave the navigation alone, too. -/
theorem Honest.keep_of_nav {p : Pos} {w w' : World} (h : Honest (Evidence · p) w)
    (hs : SamePass w w') (hn : w'.nav = w.nav) : Honest (Evidence · p) w' :=
  h.keep hs fun _ leg _ s _ hu => ⟨s, hu.frame hs (congrFun hn (.to leg))⟩

section
variable {d : Delivery} {leg : Leg} {w : World} {log : List Obs} {s : NavState} {p : PoseStamped}

theorem UnderWay.onResponse (h : UnderWay d leg w log s p) (g : Nat) (accepted : Bool) :
    UnderWay d leg (goalResponse g accepted w) log (s.onResponse g accepted) p := by
  have hs : SamePass w (goalResponse g accepted w) := (goalResponse_slots g accepted w).samePass
  have hn : (goalResponse g accepted w).nav (.to leg) = some (s.onResponse g accepted) := by
    simp [goalResponse, h.nav]
  unfold NavState.onResponse at hn ⊢
  split at hn
  · next hg =>
    rw [if_pos hg]
    exact ⟨h.before, hn, h.pose, h.sent.frame hs, fun hr hc => (h.arrived hr hc).frame hs⟩
  · next hg =>
    rw [if_neg hg]
    exact ⟨h.before, hn, h.pose, h.sent.frame hs, fun hr hc => (h.arrived hr hc).frame hs⟩

/-- A result for the goal of the leg is the one entry that was missing. -/
theorem UnderWay.onResult (h : UnderWay d leg w log s p) (g : Nat) (code : ResultCode) :
    UnderWay d leg (goalResult g code w) log (s.onResult g code) p := by
  have hs : SamePass w (goalResult g code w) := (goalResult_slots g code w).samePass
  have hn : (goalResult g code w).nav (.to leg) = some (s.onResult g code) := by
    simp [goalResult, h.nav]
  unfold NavState.onResult at hn ⊢
  split at hn
  · next hg =>
    subst hg
    rw [if_pos rfl]
    refine ⟨h.before, hn, h.pose, h.sent.frame hs, fun _ hc => ?_⟩
    obtain rfl : code = .succeeded := hc
    have := h.sent.snoc (o := .result s.goal .succeeded) (by simp)
    rwa [List.append_assoc] at this
  · next hg =>
    rw [if_neg hg]
    exact ⟨h.before, hn, h.pose, h.sent.frame hs, fun hr hc => (h.arrived hr hc).frame hs⟩

end

theorem honest_kept : Kept legSkipped fun p => Honest (Evidence · p) where
  btTick _ _ _ _ hP h := ⟨_, honest_turn hP h⟩
  taskAssignment msg _ w _ h := h.keep_of_nav (taskAssignmentCb_samePass msg w) rfl
  batteryUpdate now _ w _ h := by
    obtain hs | ⟨d, hs⟩ := batteryUpdateCb_slots now w
    · exact h.keep_of_nav hs.samePass rfl
    · -- no task is left that evidence is asked for
      exact ⟨hs.trace ▸ h.reports, by simp [hs.current], by simp [hs.current]⟩
  statusPublish now tf _ w _ h := h.keep_of_nav (statusPublishCb_slots now tf w).samePass rfl
  injectFault data _ w _ h :=
    h.keep_of_nav (faultServiceCb_slots data w).samePass (by cases data <;> rfl)
  goalResponse g accepted _ w _ _ h := h.keep (goalResponse_slots g accepted w).samePass
    fun _ _ _ _ _ hu => ⟨_, hu.onResponse g accepted⟩
  goalResult g code _ w _ _ h := h.keep (goalResult_slots g code w).samePass
    fun _ _ _ _ _ hu => ⟨_, hu.onResult g code⟩

/-! ## Main result -/

/-- **Every reported task was delivered**, in a run in which no leg of a task is skipped. -/
theorem legs_in_order (c : Config) (es : List Event) (h : Never legSkipped c es) :
    Each TrueReport (c.run es).world.trace := by
  have hinit : Honest (Evidence · .idle) c.init.world :=
    ⟨Trace.each_nil, fun _ hd => (by cases hd), fun _ hd => (by cases hd)⟩
  exact (honest_kept.run h hinit).pos.2.2.reports

theorem legs_in_order_delivered : Each TrueReport (Config.sample.run deliveredRun).world.trace :=
  legs_in_order _ _ (by decide +kernel)

/-- The goals to the drop. -/
def dropGoals (tr : List Obs) : List Nat :=
  tr.filterMap fun
    | .navGoal (.to .drop) g _ => some g
    | _ => none

/-- The tasks that were reported as done. -/
def reported (tr : List Obs) : List Delivery :=
  tr.filterMap fun
    | .completion d msg => if msg.result = TaskCompletion.resultSuccess then d else none
    | _ => none

theorem exists_of_mem_reported {tr : List Obs} {d : Delivery} (h : d ∈ reported tr) :
    ∃ msg, .completion (some d) msg ∈ tr ∧ msg.result = TaskCompletion.resultSuccess := by
  obtain ⟨o, ho, hd⟩ := List.mem_filterMap.mp h
  split at hd
  · next current msg =>
    obtain ⟨hs, rfl⟩ := Option.ite_none_right_eq_some.mp hd
    exact ⟨msg, ho, hs⟩
  · cases hd

/-- When all reports are true, a goal to the drop has succeeded before the first one. -/
theorem dropped_of_reported {tr : List Obs} (h : Each TrueReport tr) (hr : reported tr ≠ []) :
    ∃ g ∈ dropGoals tr, .result g .succeeded ∈ tr := by
  obtain ⟨d, hd⟩ := List.exists_mem_of_ne_nil _ hr
  obtain ⟨msg, hmem, hs⟩ := exists_of_mem_reported hd
  obtain ⟨pre, post, rfl⟩ := List.append_of_mem hmem
  obtain ⟨log, ⟨pick, drop, -, ⟨visit, ⟨g, p, -, rfl⟩, rfl⟩, rfl⟩, before, after, rfl, -, hlog⟩ :=
    h pre _ post rfl hs d rfl
  have hin : ∀ o ∈ [Obs.navGoal (.to .drop) g p, .result g .succeeded], o ∈ after := fun o ho =>
    hlog.subset (by simp only [List.mem_append]; exact Or.inr (Or.inl ho))
  exact ⟨g, List.mem_filterMap.mpr ⟨.navGoal (.to .drop) g p, by simp [hin], rfl⟩, by simp [hin]⟩

/-- In `recoveredRun` no goal to the drop succeeds, and success is reported. -/
theorem drop_skipped : ¬ Each TrueReport (Config.sample.run recoveredRun).world.trace := by
  intro h
  obtain ⟨g, hg, hs⟩ := dropped_of_reported h (by decide +kernel)
  have hmissed : ∀ g ∈ dropGoals (Config.sample.run recoveredRun).world.trace,
      .result g .succeeded ∉ (Config.sample.run recoveredRun).world.trace := by
    decide +kernel
  exact hmissed g hg hs

end RobotAgent
