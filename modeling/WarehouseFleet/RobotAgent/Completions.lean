import Mathlib.Data.List.Nodup
import WarehouseFleet.RobotAgent.TaskOrder
import WarehouseFleet.Trace

/-!
# Phantom completions

A completion shows the task of the pass it ends (`genuine`), unless a battery tick moved that task
to `interrupted_task_` and the robot, which cannot get to its charger, went on with the pass:
`reportsNothing` is the tick that ends such a pass, and the interrupted task is then run again.
-/

namespace RobotAgent

open BehaviorTree
open Fms
open Trace (Each)

/-- The tick finishes DoDrop, and with it the pass, while `current_task_` is empty. -/
def reportsNothing (e : TickEnv) (p : Pos) (w : World) : Bool :=
  chargeYields e p w && p = .task (.exec .drop) && ExecutePickDrop.elapsed e .drop w &&
    w.node.currentTask.isNone

/-- A completion carries the id of the task that was dequeued last. -/
def Genuine (pre : List Obs) : Obs → Prop
  | .completion current msg =>
    ∃ d, current = some d ∧ (dequeued pre).getLast? = some d ∧ msg.taskId = d.id
  | _ => True

/-- A completed task is not dequeued. -/
def NotAgain (pre : List Obs) : Obs → Prop
  | .dequeued d => d ∉ completed pre
  | _ => True

structure NoPhantom (w : World) : Prop where
  genuine : Each Genuine w.trace
  nonempty : ∀ id ∈ publishedIds w.trace, id ≠ ""
  /-- A completed task is in none of the three places. -/
  gone : ∀ d ∈ completed w.trace, d ∉ held w.node
  never : Each NotAgain w.trace

/-! ## The task of the pass -/

theorem SameSlots.each {P : List Obs → Obs → Prop} {w w' : World} (h : SameSlots w w')
    (hw : Each P w.trace) (hP : ∀ pre o, o.aboutTasks = false → P pre o) : Each P w'.trace := by
  obtain ⟨new, ht, hq⟩ := h.trace
  rw [ht]
  exact hw.append fun o ho pre => hP pre o (hq o ho)

theorem genuine_of_quiet (pre : List Obs) (o : Obs) (h : o.aboutTasks = false) : Genuine pre o := by
  cases o <;> simp_all [Obs.aboutTasks, Genuine]

theorem notAgain_of_quiet (pre : List Obs) (o : Obs) (h : o.aboutTasks = false) :
    NotAgain pre o := by
  cases o <;> simp_all [Obs.aboutTasks, NotAgain]

structure Opened (w : World) : Prop where
  order : InOrder w
  last : ∀ d, w.node.currentTask = some d → (dequeued w.trace).getLast? = some d
  genuine : Each Genuine w.trace
  ids : ∀ id ∈ publishedIds w.trace, ∃ d ∈ received w.trace, d.id = id

theorem Opened.frame {w w' : World} (h : Opened w) (hs : SameSlots w w') : Opened w' where
  order := h.order.frame hs
  last d hd := by
    rw [hs.dequeued]
    exact h.last d (hs.current ▸ hd)
  genuine := hs.each h.genuine genuine_of_quiet
  ids := by rw [hs.publishedIds, hs.received]; exact h.ids

theorem Opened.take {e : TickEnv} {w : World} {r : NodeStatus × World} (h : Opened w)
    (hr : RequestTask.Runs e w r) : Opened r.2 := by
  have genuine : ∀ d, Each Genuine (w.trace ++ [.dequeued d, .posted .requestTask .taskReceived]) :=
    fun d => h.genuine.append fun o ho pre => by
      simp only [List.mem_cons, List.not_mem_nil, or_false] at ho
      rcases ho with rfl | rfl <;> trivial
  have horder := h.order.take hr
  cases hr with
  | waiting => exact h
  | resumed d hi =>
    refine ⟨horder, fun d' hd' => ?_, by rw [RequestTask.take_trace]; exact genuine d,
      by simpa using h.ids⟩
    cases hd'
    simp
  | next d ds hi hp =>
    refine ⟨horder, fun d' hd' => ?_, by rw [RequestTask.take_trace]; exact genuine d,
      by simpa using h.ids⟩
    cases hd'
    simp

theorem Opened.report (e : TickEnv) {w : World} (h : Opened w)
    (hc : w.node.currentTask.isSome = true) : Opened (ReportStatus.tick e w).2 := by
  obtain ⟨d, hd⟩ := Option.isSome_iff_exists.mp hc
  have hid : (ReportStatus.message e w).taskId = d.id := by
    simp [ReportStatus.message, hd, Delivery.id]
  refine ⟨h.order.report e, by simp [ReportStatus.tick], ?_, ?_⟩
  · refine Each.concat (Each.concat h.genuine ?_) trivial
    exact ⟨d, hd, h.last d hd, hid⟩
  · intro id hmem
    rw [publishedIds_report, List.mem_append, List.mem_singleton] at hmem
    rw [received_report]
    rcases hmem with hmem | rfl
    · exact h.ids id hmem
    · refine ⟨d, h.order.sublist.subset (List.mem_append_right _ ?_), hid.symm⟩
      simp [held, hd]

theorem opened_kept : Kept reportsNothing fun _ => Opened := by
  refine .of_slots (fun _ _ hs h => h.frame hs) ?_ ?_ ?_
  · intro e p w hP h
    refine ⟨_, slots_turn (R := fun w => w.node.currentTask.isSome = true)
      (fun _ _ hs h => h.frame hs) h (fun _ _ _ _ _ h hr => h.take hr) ?_
      fun _ h hc => h.report e hc⟩
    rintro hy rfl he w' hs
    rw [hs.current]
    simpa [reportsNothing, hy, he, Option.isSome_iff_ne_none] using hP
  · intro msg w h
    refine ⟨inOrder_inv.arrival msg w h.order, fun d hd => ?_, h.genuine.concat trivial, ?_⟩
    · rw [dequeued_arrival]
      exact h.last d hd
    intro id hid
    obtain ⟨d, hd, hid⟩ := h.ids id (by simpa using hid)
    exact ⟨d, by rw [received_arrival]; exact List.mem_append_left _ hd, hid⟩
  · intro d w w' hs h
    exact ⟨h.order.interrupts hs, by simp [hs.current], hs.trace ▸ h.genuine, hs.trace ▸ h.ids⟩

/-! ## Completed tasks are gone -/

/-- The deliveries are numbered, so no two are equal. -/
structure Gone (w : World) : Prop where
  order : InOrder w
  numbered : (received w.trace).map Delivery.seq = List.range (received w.trace).length
  never : Each NotAgain w.trace

theorem Gone.disjoint {w : World} (h : Gone w) : (completed w.trace).Disjoint (held w.node) := by
  have hr : (received w.trace).Nodup :=
    List.Nodup.of_map Delivery.seq (h.numbered ▸ List.nodup_range)
  exact (List.nodup_append'.mp (h.order.sublist.nodup hr)).2.2

theorem Gone.frame {w w' : World} (h : Gone w) (hs : SameSlots w w') : Gone w' :=
  ⟨h.order.frame hs, by rw [hs.received]; exact h.numbered, hs.each h.never notAgain_of_quiet⟩

theorem gone_inv : SlotsInv Gone where
  frame _ _ hs h := h.frame hs
  take e w r hr h := by
    have horder := h.order.take hr
    have never : ∀ d ∈ held w.node,
        Each NotAgain (w.trace ++ [.dequeued d, .posted .requestTask .taskReceived]) := by
      intro d hd
      have hd' : NotAgain w.trace (.dequeued d) := fun hc => h.disjoint hc hd
      have hp : ∀ pre, NotAgain pre (.posted .requestTask .taskReceived) := fun _ => trivial
      simpa using (h.never.concat hd').concat (hp _)
    cases hr with
    | waiting => exact h
    | resumed d hi =>
      exact ⟨horder, by simpa using h.numbered, by
        rw [RequestTask.take_trace]; exact never d (by simp [held, hi])⟩
    | next d ds hi hp =>
      exact ⟨horder, by simpa using h.numbered, by
        rw [RequestTask.take_trace]; exact never d (by simp [held, hp])⟩
  report e w h := by
    refine ⟨h.order.report e, by simpa using h.numbered, ?_⟩
    rw [ReportStatus.tick_trace]
    refine h.never.append fun o ho pre => ?_
    simp only [List.mem_cons, List.not_mem_nil, or_false] at ho
    rcases ho with rfl | rfl <;> trivial
  arrival msg w h := by
    refine ⟨inOrder_inv.arrival msg w h.order, ?_, h.never.concat trivial⟩
    rw [received_arrival, List.map_append, h.numbered, List.length_append, List.length_singleton,
      List.range_succ]
    rfl
  battery := batteryUpdateCb_keeps (fun _ _ hs h => h.frame hs) fun _ _ _ hs h =>
    ⟨h.order.interrupts hs, hs.trace ▸ h.numbered, hs.trace ▸ h.never⟩

/-! ## Main result -/

/-- **No phantom completion** in a run in which no pass ends with `current_task_` empty. -/
theorem no_phantom_completion (c : Config) (es : List Event) (hne : "" ∉ arrivals es)
    (h : Never reportsNothing c es) : NoPhantom (c.run es).world := by
  have horder : InOrder c.init.world := ⟨by simp [Config.init, completed, held], Or.inl rfl, rfl⟩
  have ho : Opened (c.run es).world :=
    (opened_kept.run h ⟨horder, by simp [Config.init], Trace.each_nil,
      by simp [Config.init, publishedIds]⟩).pos.2.2
  have hg : Gone (c.run es).world := gone_inv.run (s := c.init) ⟨horder, rfl, Trace.each_nil⟩
  refine ⟨ho.genuine, fun id hid heq => hne ?_, fun d hc hh => hg.disjoint hc hh, hg.never⟩
  obtain ⟨d, hd, hid'⟩ := ho.ids id hid
  rw [← received_run c es, ← heq, ← hid']
  exact List.mem_map_of_mem hd

theorem no_phantom_completion_delivered : NoPhantom (Config.sample.run deliveredRun).world :=
  no_phantom_completion _ _ (by decide) (by decide +kernel)

/-- The battery gets low under way, and the charger cannot be reached. -/
def phantomRun : List Event :=
  [ .taskAssignment (sampleTask "a" (poseAt 1 0) (poseAt 0 1))
  , .btTick (.noCharger 0)
  , .batteryUpdate 1000000000
  , .goalResponse 0 true
  , .goalResult 0 .succeeded
  , .btTick (.noCharger 1)
  , .btTick (.noCharger 4)
  , .goalResponse 1 true
  , .goalResult 1 .succeeded
  , .btTick (.noCharger 5)
  , .btTick (.noCharger 8) ]

/-- The completion of `phantomRun` has no task id. -/
theorem phantom_completion : "" ∉ arrivals phantomRun ∧
    ¬ NoPhantom ((Config.sampleAt 20).run phantomRun).world :=
  ⟨by decide, fun h => h.nonempty "" (by decide +kernel) rfl⟩

end RobotAgent
