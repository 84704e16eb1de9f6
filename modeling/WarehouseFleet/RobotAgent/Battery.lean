import Mathlib.Algebra.Order.Ring.Rat
import Mathlib.Tactic.NormNum

/-!
# `BatteryModel` (battery_model.hpp)

The state of charge is clamped to `[0, 100]` by everything that writes it, so the bounds are
fields. Arithmetic is exact.
-/

namespace RobotAgent

structure BatteryModel where
  soc : ℚ
  nonneg : 0 ≤ soc
  le_hundred : soc ≤ 100

namespace BatteryModel

def lowThreshold : ℚ := 20
def fullThreshold : ℚ := 95
def drainIdle : ℚ := 2 / 100
def drainMoving : ℚ := 10 / 100
def chargeRate : ℚ := 1

/-- `std::clamp(v, 0.0, 100.0)`: the constructor and `set_soc`. -/
def setSoc (v : ℚ) : BatteryModel where
  soc := max 0 (min v 100)
  nonneg := le_max_left _ _
  le_hundred := max_le (by norm_num) (min_le_right _ _)

/-- `update` (:15-24). -/
def update (b : BatteryModel) (dt : ℚ) (isMoving isCharging : Bool) : BatteryModel :=
  setSoc (if isCharging then b.soc + chargeRate * dt
    else if isMoving then b.soc - drainMoving * dt
    else b.soc - drainIdle * dt)

def isLow (b : BatteryModel) : Bool := b.soc < lowThreshold
def isFull (b : BatteryModel) : Bool := fullThreshold ≤ b.soc

end BatteryModel

end RobotAgent
