import WarehouseFleet.FleetServer.Requests

/-!
# `task_type` and `priority` on their way

| here | there |
| --- | --- |
| `UInt32.toUInt8`  | `static_cast<uint8_t>` of the proto's `uint32` (fleet_grpc_server.cpp:35, 43) |
| `Json.getUInt8`   | the `int` of `json.value`, stored in a `uint8` field (fleet_server_node.cpp:242, 249) |
| `TaskDoc.taskType`, `TaskDoc.priority` | the `int32_t` of `insert_task` (mongo_store.cpp:87, 101) |

Neither decoder looks whether the value fits into the message. One that does not is taken modulo
256, and nothing downstream can tell: 256 arrives as a pick.
-/

namespace FleetServer

open Fms

/-- A `uint8` can hold the value. -/
def Fits (n : Int) : Prop := 0 ≤ n ∧ n < 256

instance (n : Int) : Decidable (Fits n) := inferInstanceAs (Decidable (_ ∧ _))

/-- The value wraps to itself if and only if it fits. -/
theorem ofInt_toNat_eq_iff (n : Int) : ((UInt8.ofInt n).toNat : Int) = n ↔ Fits n := by
  have hwrap : ((UInt8.ofInt n).toNat : Int) = n % 256 := by
    simp [UInt8.ofInt]
    omega
  rw [hwrap, Fits]
  omega

theorem toUInt8_toNat_eq_iff (n : UInt32) : (n.toUInt8.toNat : Int) = n.toNat ↔ Fits n.toNat := by
  have hwrap : n.toUInt8.toNat = n.toNat % 256 := UInt32.toNat_toUInt8 n
  rw [hwrap, Fits]
  omega

theorem getUInt8_intCast (n : Int) : (Json.number n).getUInt8 = some (UInt8.ofInt n) := by
  simp [Json.getUInt8, Json.getArithmetic]

/-- The object has both fields, as integers. -/
structure HasNumbers (json : Json) (taskType priority : Int) : Prop where
  taskType : json.atKey "task_type" = some (.number taskType)
  priority : json.atKey "priority" = some (.number priority)

/-- What the decoder makes of them, if it accepts the message. -/
theorem HasNumbers.decodeIncoming {json : Json} {taskType priority : Int}
    (h : HasNumbers json taskType priority) {narrow : ℚ → ℚ} {request : TaskAssignment}
    (hr : decodeIncoming narrow json = some request) :
    request.taskType = UInt8.ofInt taskType ∧ request.priority = UInt8.ofInt priority := by
  unfold FleetServer.decodeIncoming at hr
  obtain ⟨_, -, hr⟩ := Option.bind_eq_some_iff.mp hr
  obtain ⟨t, ht, hr⟩ := Option.bind_eq_some_iff.mp hr
  -- the twelve steps between the two read the poses
  iterate 12 obtain ⟨_, -, hr⟩ := Option.bind_eq_some_iff.mp hr
  obtain ⟨p, hp, hr⟩ := Option.bind_eq_some_iff.mp hr
  obtain ⟨_, -, hr⟩ := Option.bind_eq_some_iff.mp hr
  rw [Json.value_of_atKey h.taskType, getUInt8_intCast] at ht
  rw [Json.value_of_atKey h.priority, getUInt8_intCast] at hp
  obtain rfl := Option.some.inj hr
  exact ⟨(Option.some.inj ht).symm, (Option.some.inj hp).symm⟩

/-- The request is refused, or what is published and recorded has its task type and priority. -/
def Carries (taskType priority : Int) (served : Served) : Prop :=
  served.robot = none ∨
    (∀ a ∈ served.published,
      (a.taskType.toNat : Int) = taskType ∧ (a.priority.toNat : Int) = priority) ∧
    ∀ doc ∈ served.recorded, doc.taskType = taskType ∧ doc.priority = priority

section
variable {K : Type} [Add K] [Sub K] [Mul K] [LT K] [DecidableLT K] [RatCast K] [Sqrt K]
  {numRobots : Nat} {socWeight : K} {robots : StatusMap} {request : TaskAssignment}

/-- From the decoded request on, nothing changes the two fields. -/
theorem carries_serve (idNow stampNow : Time) (taskType priority : Int) :
    Carries taskType priority (serve numRobots socWeight robots idNow stampNow request) ↔
      ((request.taskType.toNat : Int) = taskType ∧ (request.priority.toNat : Int) = priority) ∨
        ¬ Dispatched numRobots socWeight robots request := by
  cases hsel : selectBestRobot robots request socWeight with
  | none => simp [Carries, serve, Dispatched, hsel]
  | some best =>
    cases hidx : robotIndex numRobots best.1 with
    | none => simp [Carries, serve, Dispatched, hsel, prepare, hidx]
    | some i => simp [Carries, serve, Dispatched, hsel, prepare, hidx, TaskDoc.ofAssignment]

/-- **Task type and priority survive submission** where both fit into a `uint8`, and where nothing
is dispatched. -/
theorem numeric_fields_survive (numRobots : Nat) (narrow : ℚ → ℚ) (socWeight : K)
    (robots : StatusMap) (idNow stampNow : Time) :
    (∀ request : SubmitTaskRequest,
      Carries request.taskType.toNat request.priority.toNat
          (submitTask numRobots narrow socWeight robots idNow stampNow request) ↔
        (Fits request.taskType.toNat ∧ Fits request.priority.toNat) ∨
          ¬ Dispatched numRobots socWeight robots (decodeSubmitTask narrow request)) ∧
    ∀ (json : Json) (taskType priority : Int), HasNumbers json taskType priority →
      ((∀ served ∈ consumeIncoming numRobots narrow socWeight robots idNow stampNow json,
          Carries taskType priority served) ↔
        (Fits taskType ∧ Fits priority) ∨
          ∀ request ∈ decodeIncoming narrow json,
            ¬ Dispatched numRobots socWeight robots request) := by
  constructor
  · intro request
    rw [submitTask, carries_serve, decodeSubmitTask, toUInt8_toNat_eq_iff, toUInt8_toNat_eq_iff]
  · intro json taskType priority h
    rw [consumeIncoming]
    cases hr : decodeIncoming narrow json with
    | none => simp
    | some request =>
      obtain ⟨ht, hp⟩ := h.decodeIncoming hr
      simp [carries_serve, ht, hp, ofInt_toNat_eq_iff]

end

/-- A request for a task from `(0, 4)` to the origin. -/
def numbered (taskType priority : UInt32) : SubmitTaskRequest :=
  ⟨taskType, ⟨0, 4⟩, ⟨0, 0⟩, "", priority, 300⟩

/-- The same in `tasks.incoming`. -/
def numberedJson (taskType priority : Int) : Json :=
  let pose (p : Pose2D) : Json := .object [("x", .number p.x), ("y", .number p.y)]
  .object [("task_type", .number taskType), ("pick", pose ⟨0, 4⟩), ("drop", pose ⟨0, 0⟩),
    ("priority", .number priority)]

/-- The largest values that survive. -/
theorem numeric_fields_survive_255 :
    Carries 255 255 (submitTask 2 id (1 / 2 : ℚ) tiedRobots 1 1 (numbered 255 255)) ∧
    ∀ served ∈ consumeIncoming 2 id (1 / 2 : ℚ) tiedRobots 1 1 (numberedJson 255 255),
      Carries 255 255 served :=
  have h := numeric_fields_survive 2 id (1 / 2 : ℚ) tiedRobots 1 1
  ⟨(h.1 (numbered 255 255)).mpr (.inl (by decide)),
    (h.2 (numberedJson 255 255) 255 255 ⟨rfl, rfl⟩).mpr (.inl (by decide))⟩

/-- 256 arrives as a pick with priority 1, and so does -256. -/
theorem numbers_wrapped :
    ¬ Carries 256 257 (submitTask 2 id (1 / 2 : ℚ) tiedRobots 1 1 (numbered 256 257)) ∧
    ¬ ∀ served ∈ consumeIncoming 2 id (1 / 2 : ℚ) tiedRobots 1 1 (numberedJson (-256) 257),
      Carries (-256) 257 served := by
  simp only [Carries]
  decide +kernel

end FleetServer
