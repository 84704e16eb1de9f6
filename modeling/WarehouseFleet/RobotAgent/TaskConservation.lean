import WarehouseFleet.RobotAgent.TaskOrder

/-!
# When a task is lost

A task that was received is in one of its three places or completed (`Conserved`), as long as no
BT tick `overwrites`: a pass of TaskExecution that fails after the last recovery leaves its task in
`current_task_`, and the next `RequestTask` puts another one in its place. No completion is ever
published for the abandoned task.
-/

namespace RobotAgent

open BehaviorTree
open Fms

/-- The tick reaches `RequestTask`, and a task waits. -/
def takesTask (e : TickEnv) (p : Pos) (w : World) : Bool :=
  chargeYields e p w && (p.rest = .idle || p = .task .requestTask) &&
    (w.node.interruptedTask.isSome || !w.node.pendingTasks.isEmpty)

/-- `RequestTask` takes a task while `current_task_` holds one. -/
def overwrites (e : TickEnv) (p : Pos) (w : World) : Bool :=
  takesTask e p w && w.node.currentTask.isSome

/-- The task is in one of its three places, or a completion with its id is out. -/
def Accounted (w : World) (d : Delivery) : Prop :=
  d ∈ w.node.pendingTasks ∨ w.node.currentTask = some d ∨ w.node.interruptedTask = some d ∨
    d.id ∈ publishedIds w.trace

/-- Every task that was received is accounted for. -/
def NothingLost (w : World) : Prop := ∀ d ∈ received w.trace, Accounted w d

instance (w : World) (d : Delivery) : Decidable (Accounted w d) :=
  inferInstanceAs (Decidable (_ ∨ _ ∨ _ ∨ _))

instance (w : World) : Decidable (NothingLost w) :=
  inferInstanceAs (Decidable (∀ d ∈ received w.trace, Accounted w d))

structure Conserved (w : World) : Prop where
  kept : ∀ d ∈ received w.trace, d ∈ held w.node ∨ d ∈ completed w.trace
  ids : ∀ d ∈ completed w.trace, d.id ∈ publishedIds w.trace

theorem Conserved.accounted {w : World} (h : Conserved w) {d : Delivery}
    (hd : d ∈ received w.trace) : Accounted w d := by
  rcases h.kept d hd with hd | hd
  · simp only [held, List.mem_append, Option.mem_toList] at hd
    rcases hd with (hd | hd) | hd
    · exact Or.inr (Or.inl hd)
    · exact Or.inr (Or.inr (Or.inl hd))
    · exact Or.inl hd
  · exact Or.inr (Or.inr (Or.inr (h.ids d hd)))

theorem Conserved.frame {w w' : World} (h : Conserved w) (hs : SameSlots w w') : Conserved w' := by
  refine ⟨?_, ?_⟩
  · rw [hs.received, hs.held, hs.completed]; exact h.kept
  · rw [hs.completed, hs.publishedIds]; exact h.ids

/-- `RequestTask` loses nothing if `current_task_` is empty whenever it takes a task. -/
theorem Conserved.take {e : TickEnv} {w : World} {r : NodeStatus × World} (h : Conserved w)
    (hr : RequestTask.Runs e w r)
    (hc : w.node.interruptedTask.isSome || !w.node.pendingTasks.isEmpty →
      w.node.currentTask = none) :
    Conserved r.2 := by
  cases hr with
  | waiting => exact h
  | resumed d hi =>
    have hc := hc (by simp [hi])
    exact ⟨by simpa [held, hi, hc] using h.kept, by simpa using h.ids⟩
  | next d ds hi hp =>
    have hc := hc (by simp [hp])
    exact ⟨by simpa [held, hi, hp, hc] using h.kept, by simpa using h.ids⟩

theorem Conserved.report (e : TickEnv) {w : World} (h : Conserved w) :
    Conserved (ReportStatus.tick e w).2 := by
  refine ⟨fun d hd => ?_, fun d hd => ?_⟩
  · have := h.kept d (by simpa using hd)
    rw [held_report, completed_report]
    simp only [held, List.mem_append] at this ⊢
    tauto
  · rw [completed_report, List.mem_append, Option.mem_toList] at hd
    rw [publishedIds_report, List.mem_append, List.mem_singleton]
    rcases hd with hd | hd
    · exact Or.inl (h.ids d hd)
    · exact Or.inr (by simp [ReportStatus.message, Option.mem_def.mp hd, Delivery.id])

theorem conserved_kept : Kept overwrites fun _ => Conserved := by
  refine .of_slots (fun _ _ hs h => h.frame hs) ?_ ?_ ?_
  · intro e p w hP h
    refine ⟨_, slots_turn (R := fun _ => True) (fun _ _ hs h => h.frame hs) h ?_
      (fun _ _ _ _ _ => trivial) fun _ h _ => h.report e⟩
    intro hy hp w' r hs h' hr
    refine h'.take hr fun hwait => ?_
    rw [hs.interrupted, hs.pending] at hwait
    rw [hs.current]
    have hp : (p.rest = .idle || p = .task .requestTask) = true := by simpa using hp
    simpa [overwrites, takesTask, hy, hp, hwait] using hP
  · intro msg w h
    refine ⟨fun d hd => ?_, by simpa using h.ids⟩
    rw [received_arrival, List.mem_append] at hd
    rw [held_arrival, completed_arrival, List.mem_append]
    rcases hd with hd | hd
    · exact (h.kept d hd).imp_left Or.inl
    · exact Or.inl (Or.inr hd)
  · intro d w w' hs h
    exact ⟨by rw [hs.trace, hs.held]; exact h.kept, by rw [hs.trace]; exact h.ids⟩

/-- **No task is lost** in a run in which `RequestTask` never overwrites `current_task_`. -/
theorem no_task_lost (c : Config) (es : List Event) (h : Never overwrites c es) :
    NothingLost (c.run es).world := by
  have hinv := conserved_kept.run h
    ⟨by simp [Config.init, received], by simp [Config.init, completed]⟩
  exact fun d hd => hinv.pos.2.2.accounted hd

/-- The first task is interrupted, and resumed before the second is taken. -/
theorem no_task_lost_resumed : NothingLost ((Config.sampleAt 20).run resumedRun).world ∧
    publishedIds ((Config.sampleAt 20).run resumedRun).world.trace = ["a", "b"] :=
  ⟨no_task_lost _ _ (by decide +kernel), by decide +kernel⟩

/-- Two tasks, and no action server is up: after three recoveries the first one is abandoned. -/
def abandonedRun : List Event :=
  .taskAssignment (sampleTask "a" (poseAt 1 0) (poseAt 0 1)) ::
  .taskAssignment (sampleTask "b" (poseAt 2 0) (poseAt 0 2)) ::
  (List.range 14).map fun k => .btTick (.down k)

theorem abandoned_task_lost :
    (arrivals abandonedRun).Nodup ∧ ¬ NothingLost (Config.sample.run abandonedRun).world := by
  decide +kernel

end RobotAgent
