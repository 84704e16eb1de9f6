import WarehouseFleet.FleetServer.Allocation

/-!
# Three ways to submit a task

gRPC (`SubmitTask`), ROS (`/fleet/task_request`) and AMQP (`tasks.incoming`) each fill a
`TaskAssignment` of their own and then select and dispatch alike.

| here | there |
| --- | --- |
| `Json`                  | `nlohmann::json`: `at` and `value`, and `get<T>` at the types used; an exception is `none` |
| `SubmitTaskRequest`     | fleet.proto:30-37 |
| `decodeSubmitTask`      | the start of `FleetGrpcServer::SubmitTask` (fleet_grpc_server.cpp:34-44) |
| `decodeIncoming`        | the `try` block of `rabbitmq_consume_loop` (fleet_server_node.cpp:238-250) |
| `serve`                 | what the three do from there, `robot_index_.at` and its exception included |
| `narrow`                | `static_cast<float>` of a `double`: any rounding |

`decodeIncoming` does not read `payload_id`.
-/

namespace FleetServer

open Fms

/-! ## JSON values -/

inductive Json where
  | null
  | boolean (b : Bool)
  | number (n : ℚ)
  | string (s : String)
  | array (elements : List Json)
  | object (members : List (String × Json))

namespace Json

/-- `at`: the value must be an object and have the key. -/
def atKey (key : String) : Json → Option Json
  | .object members => (members.find? (·.1 = key)).map (·.2)
  | _ => none

/-- `value`: the value must be an object; the default is for a missing key only. -/
def value {α : Type} (get : Json → Option α) (key : String) (default : α) : Json → Option α
  | .object members =>
    match (Json.object members).atKey key with
    | none => some default
    | some v => get v
  | _ => none

def getString : Json → Option String
  | .string s => some s
  | _ => none

def getDouble : Json → Option ℚ
  | .number n => some n
  | _ => none

/-- `get` at an arithmetic type other than the ones JSON has: a boolean counts as a number. -/
def getArithmetic {α : Type} (cast : ℚ → α) : Json → Option α
  | .number n => some (cast n)
  | .boolean b => some (cast (if b then 1 else 0))
  | _ => none

/-- `get<int>`, kept in a `uint8_t`: towards zero, then modulo 256. -/
def getUInt8 : Json → Option UInt8 := getArithmetic fun n => UInt8.ofInt (n.num.tdiv n.den)

variable {α : Type} {get : Json → Option α} {key key' : String} {default : α} {json v v' : Json}

theorem value_of_atKey (h : json.atKey key = some v) : json.value get key default = get v := by
  cases json with
  | object members => simp only [value, h]
  | _ => cases h

theorem value_of_missing (hobj : json.atKey key' = some v') (h : json.atKey key = none) :
    json.value get key default = some default := by
  cases json with
  | object members => simp only [value, h]
  | _ => cases hobj

end Json

/-! ## The decoders -/

structure Pose2D where
  x : ℚ
  y : ℚ
deriving DecidableEq

structure SubmitTaskRequest where
  taskType : UInt32
  pickPose : Pose2D
  dropPose : Pose2D
  payloadId : String
  priority : UInt32
  deadlineSecs : ℚ

/-- A default-constructed message with a planar position and `orientation.w = 1` filled in. -/
def Pose2D.toPose (p : Pose2D) : Pose :=
  { Pose.default with
    position := { Pose.default.position with x := p.x, y := p.y }
    orientation := { Pose.default.orientation with w := 1 } }

def decodeSubmitTask (narrow : ℚ → ℚ) (request : SubmitTaskRequest) : TaskAssignment where
  stamp := 0
  taskId := ""
  robotId := ""
  taskType := request.taskType.toUInt8
  pickPose := request.pickPose.toPose
  dropPose := request.dropPose.toPose
  payloadId := request.payloadId
  priority := request.priority.toUInt8
  deadlineSecs := narrow request.deadlineSecs

def decodeIncoming (narrow : ℚ → ℚ) (json : Json) : Option TaskAssignment := do
  let taskId ← json.value Json.getString "task_id" ""
  let taskType ← json.value Json.getUInt8 "task_type" 0
  let pickX ← (← (← json.atKey "pick").atKey "x").getDouble
  let pickY ← (← (← json.atKey "pick").atKey "y").getDouble
  let dropX ← (← (← json.atKey "drop").atKey "x").getDouble
  let dropY ← (← (← json.atKey "drop").atKey "y").getDouble
  let priority ← json.value Json.getUInt8 "priority" 1
  let deadlineSecs ← json.value (Json.getArithmetic narrow) "deadline_secs" 300
  return {
    stamp := 0
    taskId := taskId
    robotId := ""
    taskType := taskType
    pickPose := (Pose2D.mk pickX pickY).toPose
    dropPose := (Pose2D.mk dropX dropY).toPose
    payloadId := ""
    priority := priority
    deadlineSecs := deadlineSecs }

/-! ## Serving a request -/

/-- What a request led to. -/
structure Served where
  robot : Option String := none
  published : Option TaskAssignment := none
  recorded : Option TaskDoc := none
deriving DecidableEq

variable {K : Type} [Add K] [Sub K] [Mul K] [LT K] [DecidableLT K] [RatCast K] [Sqrt K]

def serve (numRobots : Nat) (socWeight : K) (robots : StatusMap) (idNow stampNow : Time)
    (request : TaskAssignment) : Served :=
  match selectBestRobot robots request socWeight with
  | none => {}
  | some best =>
    let assignment := prepare idNow stampNow { request with robotId := best.1 }
    match robotIndex numRobots assignment.robotId with
    | none => { robot := best.1 }
    | some _ =>
      { robot := best.1, published := assignment, recorded := TaskDoc.ofAssignment assignment }

def submitTask (numRobots : Nat) (narrow : ℚ → ℚ) (socWeight : K) (robots : StatusMap)
    (idNow stampNow : Time) (request : SubmitTaskRequest) : Served :=
  serve numRobots socWeight robots idNow stampNow (decodeSubmitTask narrow request)

def taskRequestCb (numRobots : Nat) (socWeight : K) (robots : StatusMap) (idNow stampNow : Time)
    (msg : TaskAssignment) : Served :=
  serve numRobots socWeight robots idNow stampNow msg

/-- One message of `rabbitmq_consume_loop`; one that cannot be decoded is not served. -/
def consumeIncoming (numRobots : Nat) (narrow : ℚ → ℚ) (socWeight : K) (robots : StatusMap)
    (idNow stampNow : Time) (json : Json) : Option Served :=
  (decodeIncoming narrow json).map (serve numRobots socWeight robots idNow stampNow)

/-- Apart from task id and stamp. -/
def Served.plain (served : Served) : Served where
  robot := served.robot
  published := served.published.map fun a => { a with taskId := "", stamp := 0 }
  recorded := served.recorded.map fun doc => { doc with taskId := "", assignedStamp := 0 }

/-- The request names a robot that the server can publish to. -/
def Dispatched (numRobots : Nat) (socWeight : K) (robots : StatusMap) (request : TaskAssignment) :
    Prop :=
  ∃ best ∈ selectBestRobot robots request socWeight, robotIndex numRobots best.1 ≠ none

section
variable {numRobots : Nat} {socWeight : K} {robots : StatusMap} {request request' : TaskAssignment}

/-- The allocator looks at the pick only. -/
theorem selectBestRobot_pick (h : request.pickPose = request'.pickPose) :
    selectBestRobot robots request socWeight = selectBestRobot robots request' socWeight := by
  have hscore : (score request socWeight : RobotStatus → K) = score request' socWeight := by
    funext status
    simp only [score, distanceToPick, h]
  simp only [selectBestRobot_eq, hscore]

/-- What a request that is dispatched leads to, apart from task id and stamp. -/
def servedBy (request : TaskAssignment) (robotId : String) : Served where
  robot := robotId
  published := some { request with taskId := "", stamp := 0, robotId := robotId }
  recorded := some (.ofAssignment { request with taskId := "", stamp := 0, robotId := robotId })

theorem serve_plain (idNow stampNow : Time) :
    (serve numRobots socWeight robots idNow stampNow request).plain =
      match selectBestRobot robots request socWeight with
      | none => {}
      | some best =>
        match robotIndex numRobots best.1 with
        | none => { robot := best.1 }
        | some _ => servedBy request best.1 := by
  cases hsel : selectBestRobot robots request socWeight with
  | none => simp only [serve, hsel]; rfl
  | some best =>
    cases hidx : robotIndex numRobots best.1 with
    | none => simp only [serve, hsel, prepare, hidx]; rfl
    | some i => simp only [serve, hsel, prepare, hidx]; rfl

end

/-! ## The three ways -/

/-- A task as all three can say it. -/
structure Request where
  taskType : UInt8
  pick : Pose2D
  drop : Pose2D
  payloadId : String
  priority : UInt8
  deadlineSecs : ℚ

namespace Request

def toSubmitTask (r : Request) : SubmitTaskRequest where
  taskType := r.taskType.toUInt32
  pickPose := r.pick
  dropPose := r.drop
  payloadId := r.payloadId
  priority := r.priority.toUInt32
  deadlineSecs := r.deadlineSecs

/-- With whatever the sender has put in the other fields. -/
def toTaskAssignment (narrow : ℚ → ℚ) (stamp : Time) (taskId robotId : String) (r : Request) :
    TaskAssignment where
  stamp := stamp
  taskId := taskId
  robotId := robotId
  taskType := r.taskType
  pickPose := ⟨⟨r.pick.x, r.pick.y, 0⟩, ⟨0, 0, 0, 1⟩⟩
  dropPose := ⟨⟨r.drop.x, r.drop.y, 0⟩, ⟨0, 0, 0, 1⟩⟩
  payloadId := r.payloadId
  priority := r.priority
  deadlineSecs := narrow r.deadlineSecs

end Request

/-- The value is an object with all fields of the request, in any order and among others; the
task id may be left out. -/
structure Encodes (json : Json) (r : Request) : Prop where
  taskId : json.atKey "task_id" = none ∨ ∃ t, json.atKey "task_id" = some (.string t)
  taskType : json.atKey "task_type" = some (.number r.taskType.toNat)
  pick : ∃ p, json.atKey "pick" = some p ∧ p.atKey "x" = some (.number r.pick.x) ∧
    p.atKey "y" = some (.number r.pick.y)
  drop : ∃ p, json.atKey "drop" = some p ∧ p.atKey "x" = some (.number r.drop.x) ∧
    p.atKey "y" = some (.number r.drop.y)
  payloadId : json.atKey "payload_id" = some (.string r.payloadId)
  priority : json.atKey "priority" = some (.number r.priority.toNat)
  deadlineSecs : json.atKey "deadline_secs" = some (.number r.deadlineSecs)

theorem decodeSubmitTask_toSubmitTask (narrow : ℚ → ℚ) (r : Request) :
    decodeSubmitTask narrow r.toSubmitTask = r.toTaskAssignment narrow 0 "" "" := by
  simp [decodeSubmitTask, Request.toSubmitTask, Request.toTaskAssignment, Pose2D.toPose,
    Pose.default]

theorem getUInt8_toNat (n : UInt8) : (Json.number n.toNat).getUInt8 = some n := by
  have hlt : (n.toNat : Int) < 256 := by exact_mod_cast n.toNat_lt
  simp [Json.getUInt8, Json.getArithmetic, UInt8.ofInt, Int.emod_eq_of_lt _ hlt]

/-- The field that is forgotten, and nothing else. -/
theorem Encodes.decodeIncoming {json : Json} {r : Request} (h : Encodes json r)
    (narrow : ℚ → ℚ) : ∃ taskId, decodeIncoming narrow json =
      some { r.toTaskAssignment narrow 0 taskId "" with payloadId := "" } := by
  obtain ⟨p, hp, hpx, hpy⟩ := h.pick
  obtain ⟨d, hd, hdx, hdy⟩ := h.drop
  obtain ⟨t, ht⟩ : ∃ t, json.value Json.getString "task_id" "" = some t := by
    obtain hnone | ⟨t, ht⟩ := h.taskId
    · exact ⟨"", Json.value_of_missing h.taskType hnone⟩
    · exact ⟨t, Json.value_of_atKey ht⟩
  refine ⟨t, ?_⟩
  simp [FleetServer.decodeIncoming, ht, Json.value_of_atKey h.taskType, hp, hpx, hpy, hd, hdx, hdy,
    Json.value_of_atKey h.priority, Json.value_of_atKey h.deadlineSecs, getUInt8_toNat,
    Json.getDouble, Json.getArithmetic, Request.toTaskAssignment, Pose2D.toPose, Pose.default]

/-- The three lead to the same, apart from task id and stamp. -/
def Agree (numRobots : Nat) (narrow : ℚ → ℚ) (socWeight : K) (robots : StatusMap) (r : Request)
    (msg : TaskAssignment) (json : Json) (now : Fin 3 → Time × Time) : Prop :=
  let grpc := submitTask numRobots narrow socWeight robots (now 0).1 (now 0).2 r.toSubmitTask
  let ros := taskRequestCb numRobots socWeight robots (now 1).1 (now 1).2 msg
  let amqp := consumeIncoming numRobots narrow socWeight robots (now 2).1 (now 2).2 json
  grpc.plain = ros.plain ∧ amqp.map Served.plain = some ros.plain

/-- **The three submission paths agree** on the requests without a payload id, and on those that no
robot takes. -/
theorem submissions_agree (numRobots : Nat) (narrow : ℚ → ℚ) (socWeight : K) (robots : StatusMap)
    (r : Request) (stamp : Time) (taskId robotId : String) (json : Json) (hjson : Encodes json r)
    (now : Fin 3 → Time × Time) :
    Agree numRobots narrow socWeight robots r (r.toTaskAssignment narrow stamp taskId robotId)
      json now ↔
    r.payloadId = "" ∨
      ¬ Dispatched numRobots socWeight robots (r.toTaskAssignment narrow stamp taskId robotId) := by
  obtain ⟨t, ht⟩ := hjson.decodeIncoming narrow
  have hgrpc : selectBestRobot robots (r.toTaskAssignment narrow 0 "" "") socWeight =
      selectBestRobot robots (r.toTaskAssignment narrow stamp taskId robotId) socWeight :=
    selectBestRobot_pick rfl
  have hamqp : selectBestRobot robots
      { r.toTaskAssignment narrow 0 t "" with payloadId := "" } socWeight =
      selectBestRobot robots (r.toTaskAssignment narrow stamp taskId robotId) socWeight :=
    selectBestRobot_pick rfl
  simp only [Agree, submitTask, taskRequestCb, consumeIncoming, decodeSubmitTask_toSubmitTask, ht,
    Option.map_some, serve_plain, hgrpc, hamqp, Dispatched]
  cases selectBestRobot robots (r.toTaskAssignment narrow stamp taskId robotId) socWeight with
  | none => simp
  | some best =>
    cases hidx : robotIndex numRobots best.1 with
    | none => simp [hidx]
    | some i =>
      have hpay : "" = r.payloadId ↔ r.payloadId = "" := eq_comm
      simp [hidx, servedBy, Request.toTaskAssignment, TaskDoc.ofAssignment, hpay]

/-- The object a client would write. -/
def Request.toJson (r : Request) : Json :=
  let pose (p : Pose2D) : Json := .object [("x", .number p.x), ("y", .number p.y)]
  .object [("task_type", .number r.taskType.toNat), ("pick", pose r.pick), ("drop", pose r.drop),
    ("payload_id", .string r.payloadId), ("priority", .number r.priority.toNat),
    ("deadline_secs", .number r.deadlineSecs)]

theorem encodes_toJson (r : Request) : Encodes r.toJson r where
  taskId := .inl rfl
  taskType := rfl
  pick := ⟨_, rfl, rfl, rfl⟩
  drop := ⟨_, rfl, rfl, rfl⟩
  payloadId := rfl
  priority := rfl
  deadlineSecs := rfl

/-- From `(0, 4)` to the origin. -/
def carry (payloadId : String) : Request := ⟨0, ⟨0, 4⟩, ⟨0, 0⟩, payloadId, 1, 300⟩

theorem submissions_agree_no_payload : Agree 2 id (1 / 2 : ℚ) tiedRobots (carry "")
    ((carry "").toTaskAssignment id 0 "a" "") (carry "").toJson fun _ => (1, 1) :=
  (submissions_agree 2 id (1 / 2) tiedRobots (carry "") 0 "a" "" _ (encodes_toJson _) _).mpr
    (.inl rfl)

theorem payload_forgotten : ¬ Agree 2 id (1 / 2 : ℚ) tiedRobots (carry "pallet_7")
    ((carry "pallet_7").toTaskAssignment id 0 "a" "") (carry "pallet_7").toJson
    fun _ => (1, 1) := by
  rw [Agree]
  decide +kernel

/-! ## A request is served by two steps of its thread -/

theorem find_no_thread {calls : List Call} {th : Thread} (h : calls.any (·.thread = th) = false) :
    calls.find? (·.thread = th) = none := by
  simpa [List.find?_eq_none] using h

theorem find_thread {calls : List Call} {call : Call} {th : Thread}
    (h : calls.any (·.thread = th) = false) (hth : call.thread = th) :
    (calls ++ [call]).find? (·.thread = th) = some call := by
  simp [List.find?_append, find_no_thread h, hth]

/-- With no other thread in between. -/
theorem serve_run {s : Allocation.State} {th : Thread} (h : s.busy th = false) (numRobots : Nat)
    (socWeight : K) (idNow stampNow : Time) (request : TaskAssignment) :
    let s' := Run.run (Allocation.step numRobots socWeight) s
      [.request th request, .dispatch th idNow stampNow, .insertTask th]
    let served := serve numRobots socWeight s.latestStatus idNow stampNow request
    s'.log = s.log ++ (served.published.map .published).toList ∧
    s'.server.tasks = s.server.tasks ++ served.recorded.toList := by
  obtain ⟨hsel, hcalls⟩ : s.selected.any (·.thread = th) = false ∧ s.server.busy th = false := by
    simpa [Allocation.State.busy] using h
  have hidle : s.server.calls.find? (·.thread = th) = none := find_no_thread hcalls
  cases hbest : selectBestRobot s.latestStatus request socWeight with
  | none =>
    simp [Run.run, serve, Allocation.step, h, hbest, find_no_thread hsel, step, hidle]
  | some best =>
    have hfind : ∀ a, (s.selected ++ [Call.mk th a]).find? (·.thread = th) = some ⟨th, a⟩ :=
      fun a => find_thread hsel rfl
    cases hidx : robotIndex numRobots best.1 with
    | none =>
      simp [Run.run, serve, Allocation.step, h, hbest, hfind, step, hidle, prepare, hidx, dispatch]
    | some i =>
      simp [Run.run, serve, Allocation.step, h, hbest, hfind, step, hidle, prepare, hidx, dispatch,
        insertTask, MongoStore.insertTask, Collection.insertOne]

end FleetServer
