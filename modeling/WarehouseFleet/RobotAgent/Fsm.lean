/-!
# `RobotFSM` (robot_fsm.hpp, robot_fsm.cpp)

| here | there |
| --- | --- |
| `RobotState`, `RobotState.id`, `RobotState.name` | `enum class RobotState`, `state_id`, `state_name` (robot_fsm.cpp:6-17) |
| `FsmEvent` | `enum class FsmEvent` |
| `transition` | the `switch` of `RobotFSM::process` (:22-61); `none` is its `return false` |
| `process` | `RobotFSM::process`: the new state and whether it changed |
-/

namespace RobotAgent

inductive RobotState where
  | idle
  | assigned
  | navigating
  | executing
  | reporting
  | recovering
  | charging
deriving DecidableEq, Repr

namespace RobotState

def id : RobotState → UInt8
  | idle => 0
  | assigned => 1
  | navigating => 2
  | executing => 3
  | reporting => 4
  | recovering => 5
  | charging => 6

def name : RobotState → String
  | idle => "IDLE"
  | assigned => "ASSIGNED"
  | navigating => "NAVIGATING"
  | executing => "EXECUTING"
  | reporting => "REPORTING"
  | recovering => "RECOVERING"
  | charging => "CHARGING"

theorem id_eq_zero_iff {s : RobotState} : s.id = 0 ↔ s = idle := by
  cases s <;> simp [id]

end RobotState

inductive FsmEvent where
  | taskReceived
  | navStarted
  | navSucceeded
  | navFailed
  | executionDone
  | reportSent
  | recoveryDone
  | recoveryFailed
  | lowBattery
  | batteryFull
  | faultInjected
deriving DecidableEq, Repr

def transition : RobotState → FsmEvent → Option RobotState
  | .idle, .taskReceived => some .assigned
  | .idle, .lowBattery => some .charging
  | .assigned, .navStarted => some .navigating
  | .assigned, .lowBattery => some .charging
  | .navigating, .navStarted => some .navigating
  | .navigating, .navSucceeded => some .executing
  | .navigating, .navFailed => some .recovering
  | .navigating, .faultInjected => some .recovering
  | .navigating, .lowBattery => some .charging
  | .executing, .executionDone => some .navigating
  | .executing, .reportSent => some .idle
  | .executing, .lowBattery => some .charging
  | .reporting, .reportSent => some .idle
  | .recovering, .recoveryDone => some .assigned
  | .recovering, .recoveryFailed => some .idle
  | .recovering, .lowBattery => some .charging
  | .charging, .batteryFull => some .idle
  | _, _ => none

/-- An event that does not fit the state is ignored. -/
def process (s : RobotState) (e : FsmEvent) : RobotState × Bool :=
  match transition s e with
  | some s' => (s', s' ≠ s)
  | none => (s, false)

end RobotAgent
