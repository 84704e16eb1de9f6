import WarehouseFleet.RobotAgent.Slots

/-!
# Battery priority

The contract of `Root` in robot_agent.xml: while the battery is low nothing of TaskExecution is
ticked, until it has been charged. ReactiveFallback goes on with its second child when the first
one fails, and ChargeWhenLow also fails when the charger cannot be reached (`chargerFails`); in a
run without such a tick the contract holds.
-/

namespace RobotAgent

open BehaviorTree
open Fms

/-- The tick finds that the robot cannot get to its charger: no server when `NavToCharger` is
started, or `NavToCharger` fails. -/
def chargerFails (e : TickEnv) : Pos → World → Bool
  | .charger, w => navFails .toCharger w
  | .charging, _ => false
  | _, w => w.node.battery.soc < 20 && !e.navReady .toCharger

/-- The leaves of TaskExecution. -/
def Leaf.ofTask : Leaf → Bool
  | .batteryOK => false
  | .navigateToPose .toCharger => false
  | .chargeBattery => false
  | _ => true

/-- A task is dequeued, or a leaf of TaskExecution is ticked. -/
def Obs.isWork : Obs → Bool
  | .dequeued _ => true
  | .returned l _ => l.ofTask
  | _ => false

/-- ChargeWhenLow succeeds: the battery is full. -/
def Obs.isCharged (o : Obs) : Bool := o = .returned .chargeBattery .success

/-- What happened from `s` to `s'`, until the battery was charged. -/
def untilCharged (s s' : State) : List Obs :=
  (s'.world.trace.drop s.world.trace.length).takeWhile (!·.isCharged)

/-- From every BT tick that finds the battery low, no work is done until it has been charged. -/
def BatteryFirst (c : Config) (es : List Event) : Prop :=
  ∀ es₁ e es₂, es = es₁ ++ .btTick e :: es₂ → (c.run es₁).world.node.battery.soc < 20 →
    ∀ o ∈ untilCharged (c.run es₁) (c.run es), o.isWork = false

/-! ## The invariant -/

/-- From `w` to `w'` no work was done, and the battery was not charged. -/
def Rests (w w' : World) : Prop :=
  ∃ new, w'.trace = w.trace ++ new ∧ ∀ o ∈ new, o.isWork = false ∧ o.isCharged = false

theorem Rests.trans {w w' w'' : World} (h : Rests w w') (h' : Rests w' w'') : Rests w w'' := by
  obtain ⟨new, ht, hq⟩ := h
  obtain ⟨new', ht', hq'⟩ := h'
  refine ⟨new ++ new', by rw [ht', ht, List.append_assoc], fun o ho => ?_⟩
  exact (List.mem_append.mp ho).elim (hq o) (hq' o)

theorem Rests.emit {w w' : World} (h : Rests w w') {o : Obs} (hw : o.isWork = false)
    (hc : o.isCharged = false) : Rests w (w'.emit o) :=
  h.trans ⟨[o], rfl, by simp [hw, hc]⟩

theorem Rests.halt {w w' : World} (h : Rests w w') (e : TickEnv) (p : Pos) :
    Rests w (haltTask e p w') := by
  obtain ⟨new, ht, hq⟩ := haltTask_trace e p w'
  refine h.trans ⟨new, ht, fun o ho => ?_⟩
  rcases hq o ho with ⟨l, rfl⟩ | ⟨g, rfl⟩ <;> exact ⟨rfl, rfl⟩

/-- From `w` to `w'` the battery was charged, and before that no work was done. -/
def Recharges (w w' : World) : Prop :=
  ∃ a o b, w'.trace = w.trace ++ (a ++ o :: b) ∧ o.isCharged = true ∧ ∀ o ∈ a, o.isWork = false

theorem Rests.recharged {w w' : World} (h : Rests w w') {o : Obs} (hc : o.isCharged = true) :
    Recharges w (w'.emit o) := by
  obtain ⟨new, ht, hq⟩ := h
  exact ⟨new, o, [], by simp [ht], hc, fun o ho => (hq o ho).1⟩

/-- The robot is on its way to the charger or charges, and has rested since `w₀`, or it has been
charged. -/
def Blocked (w₀ : World) (p : Pos) (w : World) : Prop :=
  ¬ p.away ∧ Rests w₀ w ∨ Recharges w₀ w

theorem Blocked.rests {w₀ w w' : World} {p : Pos} (h : Blocked w₀ p w) (hr : Rests w w') :
    Blocked w₀ p w' := by
  rcases h with ⟨hp, h⟩ | ⟨a, o, b, ht, hc, hq⟩
  · exact Or.inl ⟨hp, h.trans hr⟩
  · obtain ⟨new, ht', -⟩ := hr
    exact Or.inr ⟨a, o, b ++ new, by rw [ht', ht]; simp, hc, hq⟩

theorem no_yield {e : TickEnv} {p : Pos} {w : World} (hf : chargerFails e p w = false)
    (hlow : p.away → w.node.battery.soc < 20) : chargeYields e p w = false := by
  have away : p.away → (decide (w.node.battery.soc < 20) && !e.navReady .toCharger) = false →
      (decide (20 ≤ w.node.battery.soc) || !e.navReady .toCharger) = false := by
    intro ha h
    have := hlow ha
    simp_all
  cases p with
  | charger => exact hf
  | charging => rfl
  | idle => exact away trivial hf
  | task pt => exact away trivial hf

theorem Rests.send {w w' : World} (h : Rests w w') (e : TickEnv) (n : NavNode)
    (goal : PoseStamped) : Rests w (NavigateToPose.send e n goal w') :=
  h.trans ⟨_, List.append_assoc .., by simp [Obs.isWork, Obs.isCharged]⟩

/-- A tick of a robot that is low or already on its way to the charger. -/
theorem blocked_turn {e : TickEnv} {p : Pos} {w₀ w : World} (hf : chargerFails e p w = false)
    (hlow : p.away → w.node.battery.soc < 20) (h : Rests w₀ w) :
    Turn e p w (fun _ _ => False) (Blocked w₀) := by
  refine .of_not_yields (no_yield hf hlow) ?_ ?_ ?_ ?_ ?_
  · intro _ _ _
    refine Or.inl ⟨id, Rests.halt (Rests.emit (Rests.send ?_ _ _ _) rfl rfl) e p⟩
    exact h.emit rfl rfl
  · intro _
    exact Or.inl ⟨id, h.emit rfl rfl⟩
  · intro s _ _ _
    have hn : Rests w₀ (NavigateToPose.finish .toCharger .navSucceeded w) := h.emit rfl rfl
    have hc : Rests w₀ (ChargeBattery.onStart
        ((NavigateToPose.finish .toCharger .navSucceeded w).emit
          (.returned (.navigateToPose .toCharger) .success))).2 :=
      Rests.emit (hn.emit rfl rfl) rfl rfl
    exact Or.inl ⟨id, hc.emit rfl rfl⟩
  · intro _ _
    exact Or.inl ⟨id, h.emit rfl rfl⟩
  · intro _ _
    exact Or.inr (Rests.recharged (h.emit rfl rfl) rfl)

/-- Once charged, a robot may do anything. -/
theorem recharges_inv (w₀ : World) : SlotsInv (Recharges w₀) := by
  have grows : ∀ {w w' new}, w'.trace = w.trace ++ new → Recharges w₀ w → Recharges w₀ w' := by
    rintro w w' new ht' ⟨a, o, b, ht, hc, hq⟩
    exact ⟨a, o, b ++ new, by rw [ht', ht]; simp, hc, hq⟩
  refine ⟨⟨?_, ?_, ?_⟩, ?_, ?_⟩
  · intro w w' hs hw
    obtain ⟨new, ht, -⟩ := hs.trace
    exact grows ht hw
  · intro e w r hr hw
    cases hr with
    | waiting => exact hw
    | resumed d => exact grows (RequestTask.take_trace ..) hw
    | next d ds => exact grows (RequestTask.take_trace ..) hw
  · exact fun e w hw => grows (ReportStatus.tick_trace ..) hw
  · exact fun msg w hw => grows rfl hw
  · intro now w hw
    obtain hs | ⟨d, hs⟩ := batteryUpdateCb_slots now w
    · obtain ⟨new, ht, -⟩ := hs.trace
      exact grows ht hw
    · exact grows (by rw [hs.trace, List.append_nil]) hw

theorem blocked_kept (w₀ : World) : Kept chargerFails (Blocked w₀) where
  btTick e p w _ hf h := by
    rcases h with ⟨hp, h⟩ | h
    · exact ⟨_, blocked_turn hf (fun ha => absurd ha hp) h⟩
    · have hinv := (recharges_inv w₀).toTickInv
      exact ⟨_, (slots_turn (R := fun _ => True) hinv.frame h
        (fun _ _ w r _ hw hr => hinv.take e w r hr hw) (fun _ _ _ _ _ => trivial)
        fun w hw _ => hinv.report e w hw).mono fun _ _ hw => Or.inr hw⟩
  taskAssignment msg p w _ h := h.rests ⟨_, rfl, by simp [Obs.isWork, Obs.isCharged]⟩
  batteryUpdate now p w _ h := h.rests ⟨[], (List.append_nil _).symm, by simp⟩
  statusPublish now tf p w _ h := h.rests ⟨_, rfl, by simp [Obs.isWork, Obs.isCharged]⟩
  injectFault data p w _ h := by
    cases data <;> exact h.rests ⟨_, rfl, by simp [Obs.isWork, Obs.isCharged]⟩
  goalResponse g accepted p w _ _ h := h.rests ⟨_, rfl, by simp [Obs.isWork, Obs.isCharged]⟩
  goalResult g code p w _ _ h := h.rests ⟨_, rfl, by simp [Obs.isWork, Obs.isCharged]⟩

/-! ## Main result -/

theorem Blocked.untilCharged {s s' : State} {p : Pos} (h : Blocked s.world p s'.world) :
    ∀ o ∈ untilCharged s s', o.isWork = false := by
  rcases h with ⟨-, new, ht, hq⟩ | ⟨a, x, b, ht, hc, hq⟩
  · intro o ho
    rw [RobotAgent.untilCharged, ht, List.drop_left] at ho
    exact (hq o ((List.takeWhile_sublist _).subset ho)).1
  · intro o ho
    rw [RobotAgent.untilCharged, ht, List.drop_left, List.takeWhile_append] at ho
    refine hq o ?_
    split at ho
    · simpa [hc] using ho
    · exact (List.takeWhile_sublist _).subset ho

/-- **Battery priority** holds in a run in which the robot always gets to its charger. -/
theorem battery_first (c : Config) (es : List Event) (h : Never chargerFails c es) :
    BatteryFirst c es := by
  rintro es₁ e es₂ rfl hlow
  obtain ⟨-, hf, h₂⟩ := Run.along_append.mp h
  obtain ⟨hv, hp⟩ := positioned c es₁
  have hrest : Rests (c.run es₁).world (c.run es₁).world :=
    ⟨[], (List.append_nil _).symm, by simp⟩
  have hturn := (blocked_turn hf (fun _ => hlow) hrest).btTick hv hp
  have hrun : (Run.run step (step (c.run es₁) (.btTick e)) es₂).Inv (Blocked (c.run es₁).world) :=
    h₂.run_invariant (fun _ _ hs hc => (blocked_kept _).step hs hc) hturn
  have heq : c.run (es₁ ++ .btTick e :: es₂) =
      Run.run step (step (c.run es₁) (.btTick e)) es₂ := Run.run_append c.init es₁ _
  rw [heq]
  exact hrun.pos.2.2.untilCharged

/-- A robot that is switched on with a low battery, and charges. -/
def chargedRun : List Event :=
  [ .taskAssignment (sampleTask "a" (poseAt 1 0) (poseAt 0 1))
  , .btTick (.up 0)
  , .goalResponse 0 true
  , .goalResult 0 .succeeded
  , .btTick (.up 1)
  , .batteryUpdate 100000000000
  , .btTick (.up 101)
  , .btTick (.up 102) ]

theorem battery_first_charged : BatteryFirst (Config.sampleAt 15) chargedRun :=
  battery_first _ _ (by decide +kernel)

/-- The charger cannot be reached, and the robot with 15 percent left takes a task. -/
def strandedRun : List Event :=
  [ .taskAssignment (sampleTask "a" (poseAt 1 0) (poseAt 0 1))
  , .btTick (.noCharger 0) ]

theorem stranded : ¬ BatteryFirst (Config.sampleAt 15) strandedRun := fun h =>
  absurd (h [.taskAssignment (sampleTask "a" (poseAt 1 0) (poseAt 0 1))] (.noCharger 0) [] rfl
    (by decide +kernel) (.returned .requestTask .success) (by decide +kernel)) (by decide)

end RobotAgent
