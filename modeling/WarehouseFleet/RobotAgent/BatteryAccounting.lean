import Mathlib.Algebra.BigOperators.Ring.List
import Mathlib.Tactic.Ring
import WarehouseFleet.Clamp
import WarehouseFleet.RobotAgent.Agent

/-!
# What the battery updates add up to

`update` adds a rate times `dt` to the state of charge and clamps, so a run of updates is a clamped
walk. In one mode it only drains or only charges, and the timer's period does not matter
(`battery_accounting`, and `batteryUpdateCb_rate` for the callback).

| here | there |
| --- | --- |
| `Update`      | the arguments of one call of `update` (battery_model.hpp:15) |
| `Update.mode` | its branches (:16-22); `isCharging` is read first |
-/

namespace RobotAgent

open Fms

namespace BatteryModel

inductive Mode where
  | moving
  | idle
  | charging
deriving DecidableEq, Repr

/-- Percent per second. -/
def Mode.rate : Mode → ℚ
  | .moving => -drainMoving
  | .idle => -drainIdle
  | .charging => chargeRate

/-- From the worst for the battery to the best. -/
def Mode.level : Mode → Nat
  | .moving => 0
  | .idle => 1
  | .charging => 2

instance : LE Mode := ⟨fun m m' => m.level ≤ m'.level⟩

structure Update where
  dt : ℚ
  isMoving : Bool
  isCharging : Bool
deriving DecidableEq, Repr

def Update.mode (u : Update) : Mode :=
  if u.isCharging then .charging else if u.isMoving then .moving else .idle

/-- What the update adds, before it clamps. -/
def Update.gain (u : Update) : ℚ := u.mode.rate * u.dt

def updates (b : BatteryModel) (us : List Update) : BatteryModel :=
  us.foldl (fun b u => b.update u.dt u.isMoving u.isCharging) b

/-- As much time, and not a worse mode. -/
structure Update.Raised (u u' : Update) : Prop where
  dt : u.dt = u'.dt
  nonneg : 0 ≤ u.dt
  mode : u.mode ≤ u'.mode

theorem Mode.rate_mono {m m' : Mode} (h : m ≤ m') : m.rate ≤ m'.rate := by
  change m.level ≤ m'.level at h
  cases m <;> cases m' <;> first
    | exact absurd h (by decide)
    | norm_num [Mode.rate, drainMoving, drainIdle, chargeRate]

theorem Update.Raised.gain_le {u u' : Update} (h : u.Raised u') : u.gain ≤ u'.gain := by
  rw [Update.gain, Update.gain, ← h.dt]
  exact mul_le_mul_of_nonneg_right (Mode.rate_mono h.mode) h.nonneg

variable {b b' : BatteryModel}

theorem update_soc (b : BatteryModel) (u : Update) :
    (b.update u.dt u.isMoving u.isCharging).soc = Clamp.clamp 0 100 (b.soc + u.gain) := by
  rw [update, Update.gain, Update.mode, Clamp.clamp]
  split
  · rfl
  · split <;> rw [Mode.rate, neg_mul, ← sub_eq_add_neg, setSoc]

theorem updates_soc (b : BatteryModel) (us : List Update) :
    (b.updates us).soc = Clamp.walk 0 100 b.soc (us.map Update.gain) := by
  induction us generalizing b with
  | nil => rfl
  | cons u us ih =>
    rw [updates, List.foldl_cons, ← updates, ih, update_soc]
    rfl

/-- The steps of one mode drain, or they charge. -/
theorem updates_same_mode (b : BatteryModel) (isMoving isCharging : Bool) {dts : List ℚ}
    (hdts : ∀ dt ∈ dts, 0 ≤ dt) :
    (b.updates (dts.map (⟨·, isMoving, isCharging⟩))).soc =
      (b.update dts.sum isMoving isCharging).soc := by
  let u : Update := ⟨dts.sum, isMoving, isCharging⟩
  have hgains : (dts.map (⟨·, isMoving, isCharging⟩)).map Update.gain =
      dts.map (u.mode.rate * ·) := List.map_map
  have hsum : (dts.map (u.mode.rate * ·)).sum = u.gain := by
    rw [List.sum_map_mul_left, List.map_id', Update.gain]
  rw [updates_soc, hgains, update_soc b u, ← hsum]
  obtain hrate | hrate := le_total 0 u.mode.rate
  · exact Clamp.walk_eq_of_nonneg (by norm_num) b.nonneg b.le_hundred
      (List.forall_mem_map.mpr fun dt hdt => mul_nonneg hrate (hdts dt hdt))
  · exact Clamp.walk_eq_of_nonpos (by norm_num) b.nonneg b.le_hundred
      (List.forall_mem_map.mpr fun dt hdt => mul_nonpos_of_nonpos_of_nonneg hrate (hdts dt hdt))

theorem updates_mono (us : List Update) (h : b.soc ≤ b'.soc) :
    (b.updates us).soc ≤ (b'.updates us).soc := by
  rw [updates_soc, updates_soc]
  exact Clamp.walk_le_walk h (List.forall₂_refl _)

theorem updates_raised (b : BatteryModel) {us us' : List Update}
    (h : List.Forall₂ Update.Raised us us') : (b.updates us).soc ≤ (b.updates us').soc := by
  rw [updates_soc, updates_soc]
  refine Clamp.walk_le_walk le_rfl ?_
  rw [List.forall₂_map_left_iff, List.forall₂_map_right_iff]
  exact h.imp fun _ _ => Update.Raised.gain_le

/-- **Battery accounting**: the steps of one mode add up, every run stays within the bounds, and
more charge at the start or a better mode on the way does not end with less. -/
theorem battery_accounting :
    (∀ (b : BatteryModel) (isMoving isCharging : Bool) (dts : List ℚ), (∀ dt ∈ dts, 0 ≤ dt) →
      (dts.foldl (fun b dt => b.update dt isMoving isCharging) b).soc =
        (b.update dts.sum isMoving isCharging).soc) ∧
    (∀ (b : BatteryModel) (us : List Update),
      0 ≤ (b.updates us).soc ∧ (b.updates us).soc ≤ 100) ∧
    (∀ (b b' : BatteryModel) (us : List Update), b.soc ≤ b'.soc →
      (b.updates us).soc ≤ (b'.updates us).soc) ∧
    (∀ (b : BatteryModel) (us us' : List Update), List.Forall₂ Update.Raised us us' →
      (b.updates us).soc ≤ (b.updates us').soc) := by
  refine ⟨fun b isMoving isCharging dts hdts => ?_, fun b us => ⟨nonneg _, le_hundred _⟩,
    fun b b' us => updates_mono us, fun b us us' => updates_raised b⟩
  rw [← updates_same_mode b isMoving isCharging hdts, updates, List.foldl_map]

/-- A robot drives for a minute, waits, and reaches the charger. -/
theorem battery_accounting_day :
    let b := setSoc 50
    let drive : List Update := [⟨60, true, false⟩, ⟨600, false, false⟩]
    ([20, 20, 20].foldl (fun b dt => b.update dt true false) b).soc = 44 ∧
    (b.updates drive).soc ≤ ((setSoc 60).updates drive).soc ∧
    (b.updates drive).soc ≤ (b.updates [⟨60, false, false⟩, ⟨600, false, true⟩]).soc := by
  obtain ⟨hsum, -, hmono, hraised⟩ := battery_accounting
  refine ⟨?_, hmono _ _ _ (by decide +kernel), hraised _ _ _ ?_⟩
  · rw [hsum (setSoc 50) true false [20, 20, 20] (by decide +kernel)]
    decide +kernel
  · exact .cons ⟨rfl, by decide +kernel, by decide⟩ (.cons ⟨rfl, by decide +kernel, by decide⟩ .nil)

end BatteryModel

/-! ## The timer -/

theorem batteryUpdateCb_update (now : Time) (w : World) :
    (batteryUpdateCb now w).node.battery =
      w.node.battery.update (seconds (now - w.node.lastBatteryUpdate)) w.node.isMoving
        w.node.isCharging :=
  saveInterrupted_battery _

theorem seconds_nonneg {d : Int} (h : 0 ≤ d) : 0 ≤ seconds d :=
  div_nonneg (Int.cast_nonneg h) (by norm_num)

theorem seconds_add (d d' : Int) : seconds d + seconds d' = seconds (d + d') := by
  rw [seconds, seconds, seconds, Int.cast_add, add_div]

/-- Two steps of the timer, or one that is as long. -/
theorem batteryUpdateCb_twice {w : World} {t now : Time} (ht : w.node.lastBatteryUpdate ≤ t)
    (hnow : t ≤ now) :
    (batteryUpdateCb now (batteryUpdateCb t w)).node.battery.soc =
      (batteryUpdateCb now w).node.battery.soc := by
  let dts := [seconds (t - w.node.lastBatteryUpdate), seconds (now - t)]
  have hdts : ∀ dt ∈ dts, 0 ≤ dt := by
    simp [dts, seconds_nonneg (sub_nonneg.mpr ht), seconds_nonneg (sub_nonneg.mpr hnow)]
  have hsum : dts.sum = seconds (now - w.node.lastBatteryUpdate) := by
    simp only [dts, List.sum_cons, List.sum_nil, add_zero, seconds_add]
    congr 1
    ring
  have hsteps := w.node.battery.updates_same_mode w.node.isMoving w.node.isCharging hdts
  have hfirst := batteryUpdateCb_update t w
  obtain ⟨battery, current, interrupted, hnode⟩ := batteryUpdateCb_node t w
  rw [hnode] at hfirst
  rw [batteryUpdateCb_update now w, ← hsum, ← hsteps, batteryUpdateCb_update now, hnode]
  dsimp only at hfirst ⊢
  rw [hfirst]
  rfl

/-- The charge at a time does not depend on when the timer ran before. -/
theorem batteryUpdateCb_rate {w : World} {ts : List Time} {now : Time}
    (h : (w.node.lastBatteryUpdate :: ts ++ [now]).Pairwise (· ≤ ·)) :
    (batteryUpdateCb now (ts.foldl (fun w t => batteryUpdateCb t w) w)).node.battery.soc =
      (batteryUpdateCb now w).node.battery.soc := by
  induction ts generalizing w with
  | nil => rfl
  | cons t ts ih =>
    obtain ⟨hfirst, hrest⟩ := List.pairwise_cons.mp h
    have hnow : t ≤ now := (List.pairwise_cons.mp hrest).1 now (by simp)
    obtain ⟨battery, current, interrupted, hnode⟩ := batteryUpdateCb_node t w
    rw [List.foldl_cons, ih (by rw [hnode]; exact hrest)]
    exact batteryUpdateCb_twice (hfirst t (by simp)) hnow

end RobotAgent
