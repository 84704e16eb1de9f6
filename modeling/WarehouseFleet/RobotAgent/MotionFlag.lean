import WarehouseFleet.RobotAgent.Charging
import WarehouseFleet.RobotAgent.Motion

/-!
# What `is_moving_` says

Every `NavigateToPose` node sets the flag when it sends its goal and clears it when it ends or is
halted, so between two ticks it says that one of them is RUNNING (`FlagAt`). But the root ticks
ChargeWhenLow before it halts TaskExecution: when `NavToCharger` starts while another navigation
is RUNNING, `onHalted` of that one clears the flag last (`haltsNavigation`).
-/

namespace RobotAgent

open BehaviorTree
open Fms

/-- `battery_update_cb` takes this off the charge in a second. -/
def RobotAgentNode.drainRate (node : RobotAgentNode) : ℚ :=
  if node.isCharging then -BatteryModel.chargeRate
  else if node.isMoving then BatteryModel.drainMoving
  else BatteryModel.drainIdle

theorem batteryUpdateCb_battery (now : Time) (w : World) :
    (batteryUpdateCb now w).node.battery = .setSoc (w.node.battery.soc -
      w.node.drainRate * seconds (now - w.node.lastBatteryUpdate)) := by
  rw [batteryUpdateCb, saveInterrupted_battery, BatteryModel.update, RobotAgentNode.drainRate]
  cases w.node.isCharging <;> cases w.node.isMoving <;> simp

theorem drainRate_eq_moving {node : RobotAgentNode} :
    node.drainRate = BatteryModel.drainMoving ↔
      node.isCharging = false ∧ node.isMoving = true := by
  unfold RobotAgentNode.drainRate
  cases node.isCharging <;> cases node.isMoving <;>
    norm_num [BatteryModel.chargeRate, BatteryModel.drainMoving, BatteryModel.drainIdle]

/-- Some `NavigateToPose` node is RUNNING. -/
def State.navigating (s : State) : Prop := ∃ n, s.running (.navigateToPose n)

structure FlagTells (c : Config) (es : List Event) : Prop where
  afterTick : ∀ pre e post, es = pre ++ .btTick e :: post →
    ((c.run (pre ++ [.btTick e])).world.node.isMoving = true ↔
      (c.run (pre ++ [.btTick e])).navigating)
  drains : ∀ pre now post, es = pre ++ .batteryUpdate now :: post →
    (batteryUpdateCb now (c.run pre).world).node.battery =
      .setSoc ((c.run pre).world.node.battery.soc - (c.run pre).world.node.drainRate *
        seconds (now - (c.run pre).world.node.lastBatteryUpdate)) ∧
      ((c.run pre).world.node.drainRate = BatteryModel.drainMoving ↔ (c.run pre).navigating)

/-- The `NavigateToPose` node at a position. -/
def Pos.nav? : Pos → Option NavNode
  | .charger => some .toCharger
  | .task (.nav leg _) => some (.to leg)
  | _ => none

/-- The tick starts `NavToCharger` and halts another navigation. -/
def haltsNavigation (e : TickEnv) (p : Pos) (w : World) : Bool :=
  startsCharger e p w && p.nav?.isSome

/-! ## The invariant -/

theorem Pos.leaf_eq_nav {p : Pos} {n : NavNode} :
    p.leaf = some (.navigateToPose n) ↔ p.nav? = some n := by
  match p with
  | .idle => simp [Pos.leaf, Pos.nav?]
  | .charger => simp [Pos.leaf, Pos.nav?]
  | .charging => simp [Pos.leaf, Pos.nav?]
  | .task pt => cases pt <;> simp [Pos.leaf, Point.leaf, Pos.nav?]

structure FlagAt (p : Pos) (w : World) : Prop where
  moving : w.node.isMoving = p.nav?.isSome
  /-- a node that lost its state would fail without clearing the flag -/
  sent : ∀ n, p.nav? = some n → w.nav n ≠ none

theorem State.Inv.isMoving_iff {s : State} (h : s.Inv FlagAt) :
    s.world.node.isMoving = true ↔ s.navigating := by
  rw [h.pos.2.2.moving, Option.isSome_iff_exists, State.navigating]
  exact exists_congr fun n => (h.running.trans Pos.leaf_eq_nav).symm

/-- Away from the navigations the flag is all there is to say. -/
theorem flagAt_of_none {p : Pos} {w : World} (hp : p.nav? = none) (h : w.node.isMoving = false) :
    FlagAt p w := ⟨by simp [hp, h], fun n hn => by simp [hp] at hn⟩

theorem FlagAt.emit {p : Pos} {w : World} (h : FlagAt p w) (o : Obs) : FlagAt p (w.emit o) :=
  ⟨h.moving, h.sent⟩

section
variable {e : TickEnv} {n : NavNode} {p : Pos} {w w' : World} {r : NodeStatus × World}

theorem NavigateToPose.Runs.stops (h : Runs w n r) (hs : w.nav n ≠ none) (hr : r.1 ≠ .running) :
    r.2.node.isMoving = false := by
  cases h with
  | gone hf hnone => exact absurd hnone hs
  | waiting => exact absurd rfl hr
  | _ => rfl

theorem Yielded.flagAt (hy : Yielded e p w w') (h : FlagAt p w) : FlagAt p.rest w' := by
  cases hy with
  | batteryOk _ _ ha => rw [Pos.rest_of_away ha]; exact h.emit _
  | notReady _ _ ha => rw [Pos.rest_of_away ha]; exact (h.emit _).emit _
  | charger _ w' hr => exact flagAt_of_none rfl (hr.stops (h.sent _ rfl) (by simp))

theorem haltTask_isMoving (hp : p.nav? = none) (w : World) :
    (haltTask e p w).node.isMoving = w.node.isMoving := by
  match p with
  | .task (.nav leg k) => simp [Pos.nav?] at hp
  | .task (.recover _ _) => rfl
  | .task (.exec _) => rfl
  | .task .requestTask => rfl
  | .task .report => rfl
  | .idle => rfl
  | .charger => rfl
  | .charging => rfl

theorem flagAt_post {pt : Point} (hpt : (Pos.task pt).nav? = none)
    (h : r.2.node.isMoving = false) :
    leafPost (fun _ w => w.node.isMoving = false) FlagAt pt r :=
  leafPost_at (fun _ _ _ _ h => h) (fun _ => flagAt_of_none rfl) (fun _ => flagAt_of_none hpt) h

/-! Only the navigations move the robot. -/

theorem RequestTask.Runs.isMoving (h : RequestTask.Runs e w r) :
    r.2.node.isMoving = w.node.isMoving := by cases h <;> rfl

theorem RequestRecovery.Runs.isMoving {leg : Leg} (h : RequestRecovery.Runs e w leg r) :
    r.2.node.isMoving = w.node.isMoving := by
  cases h with
  | spun => simp
  | lost => simp
  | _ => rfl

theorem ExecutePickDrop.Runs.isMoving {leg : Leg} (h : ExecutePickDrop.Runs e w leg r) :
    r.2.node.isMoving = w.node.isMoving := by cases h <;> rfl

theorem NavigateToPose.Runs.flagAt {leg : Leg} {k : Nat} (hr : NavigateToPose.Runs w (.to leg) r)
    (h : FlagAt (.task (.nav leg k)) w) :
    leafPost (fun _ w => w.node.isMoving = false) FlagAt (.nav leg k)
      (r.1, r.2.emit (.returned (.navigateToPose (.to leg)) r.1)) := by
  by_cases hrun : r.1 = .running
  · obtain ⟨st, w'⟩ := r
    obtain rfl : w' = w := hr.eq_of_running hrun
    obtain rfl : st = .running := hrun
    exact h.emit _
  · have hstop := hr.stops (h.sent _ rfl) hrun
    obtain ⟨st, w'⟩ := r
    cases st with
    | running => exact absurd rfl hrun
    | success => exact hstop
    | failure => exact hstop

theorem flagAt_turn {p₀ : Pos} {w₀ : World} (hP : haltsNavigation e p₀ w₀ = false)
    (h : FlagAt p₀ w₀) : Turn e p₀ w₀ (fun _ w => w.node.isMoving = false) FlagAt := by
  -- TaskExecution goes on at a leaf that is no navigation
  have still : ∀ {w}, Yielded e p₀ w₀ w → p₀.rest.nav? = none → w.node.isMoving = false := by
    intro w hy hnone
    rw [(hy.flagAt h).moving, hnone]
    rfl
  constructor
  case chargerStarted =>
    intro ha hsoc hr
    have hnone : p₀.nav? = none := by
      simpa [haltsNavigation, startsCharger_of ha hsoc hr] using hP
    refine ⟨by rw [haltTask_isMoving hnone]; rfl, fun n hn => ?_⟩
    obtain rfl : NavNode.toCharger = n := Option.some.inj hn
    rw [haltTask_toCharger]
    simp
  case chargerRunning =>
    rintro rfl
    exact h.emit _
  case chargerReached => exact fun _ _ _ _ => flagAt_of_none rfl rfl
  case charging =>
    rintro rfl _
    exact h.emit _
  case charged =>
    rintro rfl _
    exact flagAt_of_none rfl h.moving
  case requestTask =>
    intro w r hy hp hr
    refine flagAt_post rfl (hr.isMoving.trans (still hy ?_))
    obtain hp | rfl := hp
    · rw [hp]; rfl
    · rfl
  case navSent =>
    intro leg k w goal _ _ _ _
    refine ⟨rfl, fun n hn => ?_⟩
    obtain rfl : NavNode.to leg = n := Option.some.inj hn
    simp
  case navNotSent => exact fun _ _ _ _ hs _ => hs
  case nav =>
    rintro leg k w r _ hy rfl hr
    exact hr.flagAt (hy.flagAt h)
  case recoverStarted =>
    intro leg k w _ hs
    exact flagAt_of_none rfl (by simpa [RequestRecovery.onStart] using hs)
  case recover =>
    rintro leg k w r _ hy rfl hr
    exact flagAt_post rfl (hr.isMoving.trans (still hy rfl))
  case execStarted => exact fun _ _ hs => flagAt_of_none rfl hs
  case exec =>
    rintro leg w r hy rfl hr
    exact flagAt_post rfl (hr.isMoving.trans (still hy rfl))
  case report => exact fun _ hs => flagAt_of_none rfl hs

end

theorem flagAt_kept : Kept haltsNavigation FlagAt where
  btTick e p w _ hP h := ⟨_, flagAt_turn hP h⟩
  taskAssignment msg p w _ h := ⟨h.moving, h.sent⟩
  batteryUpdate now p w _ h := by
    obtain ⟨b, cur, int, heq⟩ := batteryUpdateCb_node now w
    exact ⟨by rw [heq]; exact h.moving, h.sent⟩
  statusPublish now tf p w _ h := h.emit _
  injectFault data p w _ h := by cases data <;> exact ⟨h.moving, h.sent⟩
  goalResponse g accepted p w _ _ h :=
    ⟨h.moving, fun n hn => by simpa [goalResponse] using h.sent n hn⟩
  goalResult g code p w _ _ h :=
    ⟨h.moving, fun n hn => by simpa [goalResult] using h.sent n hn⟩

theorem run_flagAt {c : Config} {es : List Event} (h : Never haltsNavigation c es) :
    (c.run es).Inv FlagAt :=
  flagAt_kept.run h (flagAt_of_none rfl rfl)

/-! ## The flag that is cleared -/

/-- The robot drives to its charger, and the flag says that it stands still. -/
theorem haltsNavigation_tick {s : State} {e : TickEnv} (hv : s.pos.Valid)
    (hp : s.tree = s.pos.path) (hP : haltsNavigation e s.pos s.world = true) :
    (btTickCb e s).navigating ∧ (btTickCb e s).world.node.isMoving = false := by
  obtain ⟨hstart, hnav⟩ := Bool.and_eq_true_iff.mp hP
  have hy := (not_yields_of_startsCharger hstart).2
  have hturn : Turn e s.pos s.world (fun _ _ => False)
      (fun p w => p = .charger ∧ w.node.isMoving = false) := by
    generalize s.pos = p at hstart hnav hy
    refine .of_not_yields hy (fun _ _ _ => ⟨rfl, ?_⟩) ?_ ?_ ?_ ?_
    · match p, hnav with
      | .task (.nav _ _), _ => rfl
    · rintro rfl
      cases hstart
    · rintro _ rfl
      cases hstart
    · rintro rfl
      cases hstart
    · rintro rfl
      cases hstart
  obtain ⟨p', hv', hp', rfl, hmoving⟩ := hturn.btTick hv hp
  refine ⟨⟨.toCharger, ?_⟩, hmoving⟩
  rw [State.running, hp']
  rfl

/-- **The flag tells the truth** in the runs, and only in the runs, in which no navigation is
halted by the start of another one. -/
theorem motion_flag (c : Config) (es : List Event) :
    FlagTells c es ↔ Never haltsNavigation c es := by
  constructor
  · intro h
    by_contra hne
    obtain ⟨pre, e, post, rfl, hP⟩ := exists_of_not_never hne
    obtain ⟨hv, hp⟩ := positioned c pre
    obtain ⟨hnav, hmoving⟩ := haltsNavigation_tick hv hp hP
    have htick := h.afterTick pre e post rfl
    rw [Config.run_concat] at htick
    exact absurd (hmoving.symm.trans (htick.mpr hnav)) (by decide)
  · intro h
    refine ⟨?_, ?_⟩
    · rintro pre e post rfl
      rw [List.append_cons] at h
      exact (run_flagAt (Run.along_append.mp h).1).isMoving_iff
    · rintro pre now post rfl
      have hflag := run_flagAt (Run.along_append.mp h).1
      have hco := (coherent_run c pre).pos.2.2
      refine ⟨batteryUpdateCb_battery now _, ?_⟩
      rw [drainRate_eq_moving, ← hflag.isMoving_iff]
      refine and_iff_right_of_imp fun hmoving => ?_
      -- a robot that charges stands at the charger
      by_contra hcharging
      have hpos := (coherent_charging_iff hco).mp (Bool.eq_true_of_not_eq_false hcharging)
      rw [hflag.pos.2.2.moving, hpos] at hmoving
      cases hmoving

/-- The charger is due while the robot drives to the pick. -/
theorem flag_cleared : ¬ FlagTells (Config.sampleAt 20) orphanedRun := by
  intro h
  have htick := h.afterTick (orphanedRun.take 3) (.up 1) [] rfl
  have hmoving : ((Config.sampleAt 20).run orphanedRun).world.node.isMoving = false := by
    decide +kernel
  have hnav : ((Config.sampleAt 20).run orphanedRun).navigating := ⟨.toCharger, by decide +kernel⟩
  exact absurd (hmoving.symm.trans (htick.mpr hnav)) (by decide)

end RobotAgent
