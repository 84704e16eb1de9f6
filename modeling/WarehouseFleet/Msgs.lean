import WarehouseFleet.Rounding

/-!
# Messages

`fms_msgs/msg/*.msg` and the geometry messages inside them. A `double` or `float` field is the
rational it holds, a ROS time the integer number of nanoseconds behind `sec` and `nanosec`.
Calculations with doubles are exact; what becomes a `float` is rounded to one.
-/

namespace Fms

/-- Nanoseconds. -/
abbrev Time := Int

/-- `rclcpp::Duration::seconds()`. -/
def seconds (d : Int) : ℚ := d / 1000000000

/-- `static_cast<float>`, and the value of a literal that ends in `f`. -/
def toFloat (x : ℚ) : ℚ := Rounding.binary32.round x

theorem toFloat_mono {x y : ℚ} (h : x ≤ y) : toFloat x ≤ toFloat y := Rounding.binary32.round_mono h

structure Position where
  x : ℚ
  y : ℚ
  z : ℚ
deriving DecidableEq, Repr

structure Quaternion where
  x : ℚ
  y : ℚ
  z : ℚ
  w : ℚ
deriving DecidableEq, Repr

/-- `geometry_msgs/Pose`. -/
structure Pose where
  position : Position
  orientation : Quaternion
deriving DecidableEq, Repr

/-- A default-constructed message: the origin, orientation `(0, 0, 0, 1)`. -/
def Pose.default : Pose := ⟨⟨0, 0, 0⟩, ⟨0, 0, 0, 1⟩⟩

/-- `geometry_msgs/PoseStamped`. -/
structure PoseStamped where
  frameId : String
  stamp : Time
  pose : Pose
deriving DecidableEq, Repr

/-- `TaskAssignment.msg`. -/
structure TaskAssignment where
  stamp : Time
  taskId : String
  robotId : String
  taskType : UInt8
  pickPose : Pose
  dropPose : Pose
  payloadId : String
  priority : UInt8
  deadlineSecs : ℚ
deriving DecidableEq, Repr

namespace TaskAssignment

def taskPick : UInt8 := 0
def taskDrop : UInt8 := 1
def taskCharge : UInt8 := 2

end TaskAssignment

namespace TaskCompletion

def resultSuccess : UInt8 := 0
def resultFailed : UInt8 := 1
def resultCancelled : UInt8 := 2

end TaskCompletion

/-- `TaskCompletion.msg`. -/
structure TaskCompletion where
  stamp : Time
  taskId : String
  robotId : String
  result : UInt8
  durationSecs : ℚ
  errorMessage : String
deriving DecidableEq, Repr

namespace RobotStatus

/-- `STATE_IDLE`, the bit the allocator hands out tasks on. -/
def stateIdle : UInt8 := 0

end RobotStatus

/-- `RobotStatus.msg`. -/
structure RobotStatus where
  stamp : Time
  robotId : String
  state : UInt8
  pose : Pose
  batterySoc : ℚ
  currentTaskId : String
  statusMessage : String
deriving DecidableEq, Repr

end Fms
