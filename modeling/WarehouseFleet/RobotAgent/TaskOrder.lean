import Mathlib.Data.List.Induction
import WarehouseFleet.RobotAgent.Slots

/-!
# Tasks stay in order

Completed tasks, then the three places of a task, are a sublist of the arrivals (`InOrder`). The
invariant is about deliveries, so it needs no assumption on task ids; with ids that are non-empty
and pairwise distinct it is the same about ids (`tasks_in_order`).

An abandoned task stays in `current_task_`, and `RequestTask` drops it when it takes the next one:
that is why the lists form a sublist only.
-/

namespace RobotAgent

open BehaviorTree
open Fms

/-! ## What the trace says about tasks -/

/-- The tasks `ReportStatus` found in `current_task_`. -/
def completed (tr : List Obs) : List Delivery :=
  tr.filterMap fun
    | .completion d _ => d
    | _ => none

/-- The non-empty ids of the published completions. -/
def completedIds (tr : List Obs) : List String :=
  tr.filterMap fun
    | .completion _ msg => if msg.taskId = "" then none else some msg.taskId
    | _ => none

def publishedIds (tr : List Obs) : List String :=
  tr.filterMap fun
    | .completion _ msg => some msg.taskId
    | _ => none

def dequeued (tr : List Obs) : List Delivery :=
  tr.filterMap fun
    | .dequeued d => some d
    | _ => none

/-- `current_task_`, `interrupted_task_` and `pending_tasks_`. -/
def held (node : RobotAgentNode) : List Delivery :=
  node.currentTask.toList ++ node.interruptedTask.toList ++ node.pendingTasks

def Delivery.id (d : Delivery) : String := d.msg.taskId

section
variable {α : Type} {f : Obs → Option α}

/-- A reading of the trace that only looks at tasks does not see the rest. -/
theorem SameSlots.filterMap_trace {w w' : World} (h : SameSlots w w')
    (hf : ∀ o, o.aboutTasks = false → f o = none) : w'.trace.filterMap f = w.trace.filterMap f := by
  obtain ⟨new, ht, hq⟩ := h.trace
  have : new.filterMap f = [] := List.filterMap_eq_nil_iff.mpr fun o ho => hf o (hq o ho)
  rw [ht, List.filterMap_append, this, List.append_nil]

end

theorem SameSlots.received {w w' : World} (h : SameSlots w w') :
    RobotAgent.received w'.trace = RobotAgent.received w.trace :=
  h.filterMap_trace fun o ho => by cases o <;> simp_all [Obs.aboutTasks]

theorem SameSlots.completed {w w' : World} (h : SameSlots w w') :
    RobotAgent.completed w'.trace = RobotAgent.completed w.trace :=
  h.filterMap_trace fun o ho => by cases o <;> simp_all [Obs.aboutTasks]

theorem SameSlots.completedIds {w w' : World} (h : SameSlots w w') :
    RobotAgent.completedIds w'.trace = RobotAgent.completedIds w.trace :=
  h.filterMap_trace fun o ho => by cases o <;> simp_all [Obs.aboutTasks]

theorem SameSlots.publishedIds {w w' : World} (h : SameSlots w w') :
    RobotAgent.publishedIds w'.trace = RobotAgent.publishedIds w.trace :=
  h.filterMap_trace fun o ho => by cases o <;> simp_all [Obs.aboutTasks]

theorem SameSlots.dequeued {w w' : World} (h : SameSlots w w') :
    RobotAgent.dequeued w'.trace = RobotAgent.dequeued w.trace :=
  h.filterMap_trace fun o ho => by cases o <;> simp_all [Obs.aboutTasks]

/-- An interrupted task is held as before. -/
theorem Interrupts.held {d : Delivery} {w w' : World} (h : Interrupts d w w') :
    RobotAgent.held w'.node = RobotAgent.held w.node := by
  simp [RobotAgent.held, h.current, h.interrupted, h.pending, h.was, h.free]

theorem SameSlots.held {w w' : World} (h : SameSlots w w') :
    RobotAgent.held w'.node = RobotAgent.held w.node := by
  simp only [RobotAgent.held, h.pending, h.current, h.interrupted]

section
variable (e : TickEnv) (w : World) (d : Delivery) (msg : TaskAssignment)

@[simp] theorem received_take : received (RequestTask.take e d w).trace = received w.trace := by
  simp [RequestTask.take_trace, received]

@[simp] theorem completed_take : completed (RequestTask.take e d w).trace = completed w.trace := by
  simp [RequestTask.take_trace, completed]

@[simp] theorem completedIds_take :
    completedIds (RequestTask.take e d w).trace = completedIds w.trace := by
  simp [RequestTask.take_trace, completedIds]

@[simp] theorem publishedIds_take :
    publishedIds (RequestTask.take e d w).trace = publishedIds w.trace := by
  simp [RequestTask.take_trace, publishedIds]

@[simp] theorem dequeued_take :
    dequeued (RequestTask.take e d w).trace = dequeued w.trace ++ [d] := by
  simp [RequestTask.take_trace, dequeued]

@[simp] theorem received_report :
    received (ReportStatus.tick e w).2.trace = received w.trace := by
  simp [received, ReportStatus.tick]

@[simp] theorem completed_report : completed (ReportStatus.tick e w).2.trace =
    completed w.trace ++ w.node.currentTask.toList := by
  cases h : w.node.currentTask <;> simp [completed, ReportStatus.tick, h]

@[simp] theorem publishedIds_report : publishedIds (ReportStatus.tick e w).2.trace =
    publishedIds w.trace ++ [(ReportStatus.message e w).taskId] := by
  simp [publishedIds, ReportStatus.tick]

@[simp] theorem dequeued_report :
    dequeued (ReportStatus.tick e w).2.trace = dequeued w.trace := by
  simp [dequeued, ReportStatus.tick]

@[simp] theorem held_report : held (ReportStatus.tick e w).2.node =
    w.node.interruptedTask.toList ++ w.node.pendingTasks := rfl

@[simp] theorem received_arrival : received (taskAssignmentCb msg w).trace =
    received w.trace ++ [⟨(received w.trace).length, msg⟩] := by
  simp [received, taskAssignmentCb]

@[simp] theorem completed_arrival :
    completed (taskAssignmentCb msg w).trace = completed w.trace := by
  simp [completed, taskAssignmentCb]

@[simp] theorem completedIds_arrival :
    completedIds (taskAssignmentCb msg w).trace = completedIds w.trace := by
  simp [completedIds, taskAssignmentCb]

@[simp] theorem publishedIds_arrival :
    publishedIds (taskAssignmentCb msg w).trace = publishedIds w.trace := by
  simp [publishedIds, taskAssignmentCb]

@[simp] theorem dequeued_arrival :
    dequeued (taskAssignmentCb msg w).trace = dequeued w.trace := by
  simp [dequeued, taskAssignmentCb]

@[simp] theorem held_arrival : held (taskAssignmentCb msg w).node =
    held w.node ++ [⟨(received w.trace).length, msg⟩] := by
  simp [held, taskAssignmentCb]

end

/-! ## The invariant -/

structure InOrder (w : World) : Prop where
  sublist : (completed w.trace ++ held w.node).Sublist (received w.trace)
  /-- `current_task_` and `interrupted_task_` are never both set. -/
  notBoth : w.node.currentTask = none ∨ w.node.interruptedTask = none
  ids : completedIds w.trace =
    (completed w.trace).filterMap fun d => if d.id = "" then none else some d.id

theorem InOrder.take {e : TickEnv} {w : World} {r : NodeStatus × World} (h : InOrder w)
    (hr : RequestTask.Runs e w r) : InOrder r.2 := by
  cases hr with
  | waiting => exact h
  | resumed d hi =>
    have hc : w.node.currentTask = none := h.notBoth.resolve_right (by simp [hi])
    refine ⟨?_, Or.inr rfl, by simpa using h.ids⟩
    simpa [held, hc, hi] using h.sublist
  | next d ds hi hp =>
    refine ⟨?_, Or.inr hi, by simpa using h.ids⟩
    -- whatever `current_task_` held is dropped
    refine List.Sublist.trans ?_ (by simpa using h.sublist)
    simp [held, hi, hp]

theorem InOrder.report (e : TickEnv) {w : World} (h : InOrder w) :
    InOrder (ReportStatus.tick e w).2 := by
  refine ⟨?_, Or.inl rfl, ?_⟩
  · rw [completed_report, held_report, received_report]
    simpa [held] using h.sublist
  · have hids := h.ids
    cases hc : w.node.currentTask with
    | none =>
      simpa [ReportStatus.tick, ReportStatus.message, hc, completed, completedIds] using hids
    | some d =>
      by_cases hid : d.msg.taskId = "" <;>
        simpa [ReportStatus.tick, ReportStatus.message, hc, completed, completedIds, Delivery.id,
          hid] using hids

theorem InOrder.frame {w w' : World} (h : InOrder w) (hs : SameSlots w w') : InOrder w' := by
  refine ⟨?_, ?_, ?_⟩
  · rw [hs.completed, hs.held, hs.received]; exact h.sublist
  · rw [hs.current, hs.interrupted]; exact h.notBoth
  · rw [hs.completedIds, hs.completed]; exact h.ids

theorem InOrder.interrupts {d : Delivery} {w w' : World} (h : InOrder w)
    (hs : Interrupts d w w') : InOrder w' := by
  refine ⟨?_, Or.inl hs.current, by rw [hs.trace]; exact h.ids⟩
  rw [hs.trace, hs.held]
  exact h.sublist

theorem inOrder_inv : SlotsInv InOrder where
  frame _ _ hs h := h.frame hs
  take _ _ _ hr h := h.take hr
  report e _ h := h.report e
  arrival msg w h := by
    refine ⟨?_, h.notBoth, by simpa using h.ids⟩
    rw [completed_arrival, held_arrival, received_arrival, ← List.append_assoc]
    exact h.sublist.append (List.Sublist.refl _)
  battery := batteryUpdateCb_keeps (fun _ _ hs h => h.frame hs) fun _ _ _ hs h => h.interrupts hs

/-! ## Arrivals -/

/-- The ids of the assignments, in arrival order. -/
def arrivals (es : List Event) : List String :=
  es.filterMap fun
    | .taskAssignment msg => some msg.taskId
    | _ => none

/-- The assignments themselves. -/
def assignments (es : List Event) : List TaskAssignment :=
  es.filterMap fun
    | .taskAssignment msg => some msg
    | _ => none

theorem assignments_taskId (es : List Event) :
    (assignments es).map (·.taskId) = arrivals es := by
  rw [assignments, arrivals, List.map_filterMap]
  refine List.filterMap_congr fun ev _ => ?_
  cases ev <;> rfl

/-- The assignment an event delivers. -/
def arrival (s : State) : Event → List Delivery
  | .taskAssignment msg => [⟨(received s.world.trace).length, msg⟩]
  | _ => []

theorem received_step (s : State) (ev : Event) :
    received (step s ev).world.trace = received s.world.trace ++ arrival s ev := by
  have frame : ∀ w', SameSlots s.world w' → received w'.trace = received s.world.trace ++ [] := by
    intro w' h
    rw [h.received, List.append_nil]
  cases ev with
  | taskAssignment msg => exact received_arrival s.world msg
  | btTick e =>
    have inv : TickInv fun w => received w.trace = received s.world.trace := by
      refine ⟨fun w w' h hw => h.received.trans hw, fun e w r hr hw => ?_, fun e w hw => ?_⟩
      · cases hr <;> simpa using hw
      · simpa using hw
    exact (inv.btTick (s := s) rfl).trans (List.append_nil _).symm
  | batteryUpdate now =>
    obtain h | ⟨d, h⟩ := batteryUpdateCb_slots now s.world
    · exact frame _ h
    · rw [step, h.trace]
      exact (List.append_nil _).symm
  | statusPublish now tf => exact frame _ (statusPublishCb_slots now tf _)
  | injectFault data => exact frame _ (faultServiceCb_slots data _)
  | goalResponse g accepted =>
    rw [step]
    split
    · exact frame _ (goalResponse_slots g accepted _)
    · exact frame _ SameSlots.refl
  | goalResult g code =>
    rw [step]
    split
    · exact frame _ (goalResult_slots g code _)
    · exact frame _ SameSlots.refl

/-- An agent has received what was delivered to it. -/
theorem received_msg_run (c : Config) (es : List Event) :
    (received (c.run es).world.trace).map Delivery.msg = assignments es := by
  induction es using List.reverseRecOn with
  | nil => rfl
  | append_singleton es ev ih =>
    rw [c.run_concat, received_step, List.map_append, ih, assignments, assignments,
      List.filterMap_append]
    congr 1
    cases ev <;> rfl

theorem received_run (c : Config) (es : List Event) :
    (received (c.run es).world.trace).map Delivery.id = arrivals es := by
  rw [← assignments_taskId, ← received_msg_run c, List.map_map]
  rfl

/-! ## Interrupted tasks come first -/

/-- Since `base` was dequeued nothing but `d` was: `d` waits in `interrupted_task_`, or it was
the first to be dequeued. -/
def Resumed (d : Delivery) (base : List Delivery) (w : World) : Prop :=
  ∃ ds, dequeued w.trace = base ++ ds ∧
    (ds = [] ∧ w.node.interruptedTask = some d ∨ ds.head? = some d)

theorem resumed_inv (d : Delivery) (base : List Delivery) : SlotsInv (Resumed d base) where
  frame w w' hs := by
    rintro ⟨ds, h, hd⟩
    exact ⟨ds, hs.dequeued.trans h, by rwa [hs.interrupted]⟩
  take e w r hr := by
    rintro ⟨ds, h, hd⟩
    cases hr with
    | waiting => exact ⟨ds, h, hd⟩
    | resumed d' hi =>
      refine ⟨ds ++ [d'], by rw [← List.append_assoc, ← h]; simp, Or.inr ?_⟩
      obtain ⟨rfl, hi'⟩ | hd := hd
      · simpa [hi] using hi'
      · simp [List.head?_append, hd]
    | next d' _ hi _ =>
      refine ⟨ds ++ [d'], by rw [← List.append_assoc, ← h]; simp, Or.inr ?_⟩
      obtain ⟨-, hi'⟩ | hd := hd
      · simp [hi] at hi'
      · simp [List.head?_append, hd]
  report e w := by
    rintro ⟨ds, h, hd⟩
    exact ⟨ds, by simpa using h, hd⟩
  arrival msg w := by
    rintro ⟨ds, h, hd⟩
    exact ⟨ds, by simpa using h, hd⟩
  battery now w := by
    rintro ⟨ds, h, hd⟩
    obtain hs | ⟨d', hs⟩ := batteryUpdateCb_slots now w
    · exact ⟨ds, hs.dequeued.trans h, by rwa [hs.interrupted]⟩
    · refine ⟨ds, by rw [hs.trace]; exact h, Or.inr ?_⟩
      simpa [hs.free] using hd

/-! ## Main result -/

/-- `arrived` is the list of ids in arrival order. -/
structure TasksInOrder (arrived : List String) (s : State) : Prop where
  sublist : (completedIds s.world.trace ++ (held s.world.node).map Delivery.id).Sublist arrived
  notBoth : s.world.node.currentTask = none ∨ s.world.node.interruptedTask = none
  once : (completedIds s.world.trace).Nodup
  /-- Whatever happens, an interrupted task is the next one to be dequeued. -/
  resumed : ∀ d es, s.world.node.interruptedTask = some d →
    ∃ ds, dequeued (Run.run step s es).world.trace = dequeued s.world.trace ++ ds ∧
      ∀ d' ∈ ds.head?, d' = d

/-- With non-empty ids every completion of a task shows its id. -/
theorem InOrder.completedIds_eq {w : World} (h : InOrder w)
    (hne : ∀ d ∈ received w.trace, d.id ≠ "") :
    completedIds w.trace = (completed w.trace).map Delivery.id := by
  rw [h.ids, ← List.filterMap_eq_map]
  refine List.filterMap_congr fun d hd => ?_
  have : d ∈ received w.trace := h.sublist.subset (List.mem_append_left _ hd)
  simp [hne d this]

/-- **Tasks are never duplicated or reordered inside the agent.** -/
theorem tasks_in_order (c : Config) (es : List Event) (hne : "" ∉ arrivals es)
    (hd : (arrivals es).Nodup) : TasksInOrder (arrivals es) (c.run es) := by
  have h : InOrder (c.run es).world :=
    inOrder_inv.run (s := c.init) ⟨by simp [Config.init, completed, held], Or.inl rfl, rfl⟩
  have hids : completedIds (c.run es).world.trace =
      (completed (c.run es).world.trace).map Delivery.id := by
    refine h.completedIds_eq fun d hd' heq => hne ?_
    rw [← received_run c es, ← heq]
    exact List.mem_map_of_mem hd'
  have hsub : (completedIds (c.run es).world.trace ++
      (held (c.run es).world.node).map Delivery.id).Sublist (arrivals es) := by
    rw [hids, ← List.map_append, ← received_run c es]
    exact h.sublist.map _
  refine ⟨hsub, h.notBoth, ?_, fun d es' hi => ?_⟩
  · exact ((List.sublist_append_left _ _).trans hsub).nodup hd
  · have hstart : Resumed d (dequeued (c.run es).world.trace) (c.run es).world :=
      ⟨[], by simp, Or.inl ⟨rfl, hi⟩⟩
    have hend : Resumed d (dequeued (c.run es).world.trace) (Run.run step (c.run es) es').world :=
      (resumed_inv d _).run hstart
    obtain ⟨ds, hds, h⟩ := hend
    refine ⟨ds, hds, fun d' hd' => ?_⟩
    obtain ⟨rfl, -⟩ | h := h
    · simp at hd'
    · exact Option.some.inj ((Option.mem_def.mp hd').symm.trans h)

/-- Task `a` waits to be resumed, and in the end it is done before `b`. -/
theorem tasks_in_order_resumed :
    (TasksInOrder ["a", "b"] ((Config.sampleAt 20).run preemptedRun) ∧
      (((Config.sampleAt 20).run preemptedRun).world.node.interruptedTask.map Delivery.id) =
        some "a") ∧
    TasksInOrder ["a", "b"] ((Config.sampleAt 20).run resumedRun) ∧
      completedIds ((Config.sampleAt 20).run resumedRun).world.trace = ["a", "b"] :=
  ⟨⟨tasks_in_order _ preemptedRun (by decide) (by decide), by decide +kernel⟩,
    tasks_in_order _ resumedRun (by decide) (by decide), by decide +kernel⟩

end RobotAgent
