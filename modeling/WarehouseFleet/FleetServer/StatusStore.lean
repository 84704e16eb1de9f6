import WarehouseFleet.Collection
import WarehouseFleet.FleetServer.Requests

/-!
# Where the server keeps a robot's status

`robot_status_cb` writes a status to three places, one after the other: `latest_status_`, the
`robots` collection, which has one document a robot, and the `telemetry` collection, which has all
of them. The driver may throw in between; `main` catches nothing, so that is one of the ways in which
the process ends. Then `latest_status_` is lost, and the collections stay as they are.

| here | there |
| --- | --- |
| `robotStateToString`    | robot_status_utils.hpp |
| `RobotDoc.ofStatus`     | `robot_status_to_doc` (mongo_store.cpp:32-57) |
| `Event.status`          | `robot_status_cb` up to the end of its lock (fleet_server_node.cpp:154-159) |
| `Event.upsertRobot`, `Event.insertTelemetry` | `MongoStore::upsert_robot` and `insert_telemetry` (mongo_store.cpp:61-78), called at :161-162 |
| `Event.stop`            | the process ends, in a call or between two |
| `getFleetStatus`        | `get_fleet_status` (fleet_server_node.cpp:109-118) |
| `getFleetStatusResponse` | `FleetGrpcServer::GetFleetStatus` (fleet_grpc_server.cpp:55-70) |

The callbacks of the executor do not interrupt each other; gRPC threads read at any time.
-/

namespace FleetServer

open Fms

def robotStateToString (state : UInt8) : String :=
  match state with
  | 0 => "IDLE"
  | 1 => "ASSIGNED"
  | 2 => "NAVIGATING"
  | 3 => "EXECUTING"
  | 4 => "REPORTING"
  | 5 => "RECOVERING"
  | 6 => "CHARGING"
  | _ => "UNKNOWN"

/-- A document of `robots` or `telemetry`. -/
structure RobotDoc where
  robotId : String
  state : Int
  stateStr : String
  batterySoc : ℚ
  currentTaskId : String
  statusMessage : String
  pose : Pose
  stamp : Time
deriving DecidableEq, Repr

def RobotDoc.ofStatus (status : RobotStatus) : RobotDoc where
  robotId := status.robotId
  state := status.state.toNat
  stateStr := robotStateToString status.state
  batterySoc := status.batterySoc
  currentTaskId := status.currentTaskId
  statusMessage := status.statusMessage
  pose := status.pose
  stamp := status.stamp

/-- `RobotStatusInfo` (fleet.proto). -/
structure RobotStatusInfo where
  robotId : String
  state : UInt32
  stateStr : String
  batterySoc : ℚ
  currentTaskId : String
  pose : Pose2D
deriving DecidableEq

def RobotStatusInfo.ofStatus (status : RobotStatus) : RobotStatusInfo where
  robotId := status.robotId
  state := status.state.toUInt32
  stateStr := robotStateToString status.state
  batterySoc := status.batterySoc
  currentTaskId := status.currentTaskId
  pose := ⟨status.pose.position.x, status.pose.position.y⟩

def getFleetStatus (latestStatus : StatusMap) : List RobotStatus :=
  latestStatus.toList.map Prod.snd

def getFleetStatusResponse (latestStatus : StatusMap) : List RobotStatusInfo :=
  (getFleetStatus latestStatus).map RobotStatusInfo.ofStatus

theorem mem_getFleetStatus {latest : StatusMap} {status : RobotStatus} :
    status ∈ getFleetStatus latest ↔ ∃ r : String, latest[r]? = some status := by
  simp [getFleetStatus, Std.TreeMap.mem_toList_iff_getElem?_eq_some]

/-- One status a robot, in ascending order. -/
theorem getFleetStatus_sorted {latest : StatusMap}
    (h : ∀ (r : String) status, latest[r]? = some status → status.robotId = r) :
    (getFleetStatus latest).Pairwise fun status status' => status.robotId < status'.robotId := by
  have hsorted : latest.toList.Pairwise fun a b => a.1 < b.1 := by
    refine Std.TreeMap.ordered_keys_toList.imp ?_
    intro a b hab
    exact compareOfLessAndEq_eq_lt.mp hab
  refine List.pairwise_map.mpr (hsorted.imp_of_mem fun {a b} ha hb hlt => ?_)
  rw [h a.1 a.2 (Std.TreeMap.mem_toList_iff_getElem?_eq_some.mp ha),
    h b.1 b.2 (Std.TreeMap.mem_toList_iff_getElem?_eq_some.mp hb)]
  exact hlt

namespace StatusStore

/-- Where `robot_status_cb` is. -/
inductive Stage where
  | cached
  | upserted
deriving DecidableEq

inductive Entry where
  /-- in `latest_status_` -/
  | cached (status : RobotStatus)
  /-- in `robots` -/
  | upserted (status : RobotStatus)
  /-- in `telemetry` -/
  | inserted (status : RobotStatus)
  /-- the process has ended -/
  | stopped
deriving DecidableEq

structure State where
  latestStatus : StatusMap := ∅
  robots : List RobotDoc := []
  telemetry : List RobotDoc := []
  alive : Bool := false
  call : Option (RobotStatus × Stage) := none
  trace : List Entry := []

inductive Event where
  | start
  | stop
  | status (status : RobotStatus)
  | upsertRobot
  | insertTelemetry

/-- An event that is not possible in a state changes nothing. -/
def step (s : State) : Event → State
  | .start => { s with alive := true }
  | .stop =>
    { s with latestStatus := ∅, alive := false, call := none, trace := s.trace ++ [.stopped] }
  | .status status =>
    if s.alive ∧ s.call.isNone then
      { s with
        latestStatus := robotStatusCb status s.latestStatus
        call := some (status, .cached)
        trace := s.trace ++ [.cached status] }
    else s
  | .upsertRobot =>
    match s.call with
    | some (status, .cached) =>
      { s with
        robots := Collection.upsertOne RobotDoc.robotId status.robotId (.ofStatus status) s.robots
        call := some (status, .upserted)
        trace := s.trace ++ [.upserted status] }
    | _ => s
  | .insertTelemetry =>
    match s.call with
    | some (status, .upserted) =>
      { s with
        telemetry := Collection.insertOne (.ofStatus status) s.telemetry
        call := none
        trace := s.trace ++ [.inserted status] }
    | _ => s

/-- The server is started on these collections. -/
def run (robots telemetry : List RobotDoc) (es : List Event) : State :=
  Run.run step { robots, telemetry } es

/-! ## What the trace says -/

/-- The statuses in `latest_status_`, since the process was started. -/
def cachedSince (tr : List Entry) : List RobotStatus :=
  tr.foldl (fun msgs e => match e with
    | .cached status => msgs ++ [status]
    | .stopped => []
    | _ => msgs) []

def cached (tr : List Entry) : List RobotStatus :=
  tr.filterMap fun
    | .cached status => some status
    | _ => none

def upserted (tr : List Entry) : List RobotStatus :=
  tr.filterMap fun
    | .upserted status => some status
    | _ => none

def inserted (tr : List Entry) : List RobotStatus :=
  tr.filterMap fun
    | .inserted status => some status
    | _ => none

/-- The last of the statuses that is about the robot. -/
abbrev lastAbout (r : String) (msgs : List RobotStatus) : Option RobotStatus :=
  Collection.findLast RobotStatus.robotId r msgs

section
variable (tr : List Entry) (status : RobotStatus)

@[simp] theorem cachedSince_cached :
    cachedSince (tr ++ [.cached status]) = cachedSince tr ++ [status] := by simp [cachedSince]
@[simp] theorem cachedSince_upserted :
    cachedSince (tr ++ [.upserted status]) = cachedSince tr := by simp [cachedSince]
@[simp] theorem cachedSince_inserted :
    cachedSince (tr ++ [.inserted status]) = cachedSince tr := by simp [cachedSince]
@[simp] theorem cachedSince_stopped : cachedSince (tr ++ [.stopped]) = [] := by simp [cachedSince]

end

/-! ## The three places -/

/-- The status that `robot_status_cb` is about to write to the next place. -/
def waiting (stage : Stage) : Option (RobotStatus × Stage) → List RobotStatus
  | some (status, stage') => if stage' = stage then [status] else []
  | none => []

/-- The three places, as views of the trace. -/
structure Views (robots₀ telemetry₀ : List RobotDoc) (s : State) : Prop where
  cache : s.latestStatus = latestStatus (cachedSince s.trace)
  robots : ∀ r, Collection.findOne RobotDoc.robotId r s.robots =
    ((lastAbout r (upserted s.trace)).map RobotDoc.ofStatus).or
      (Collection.findOne RobotDoc.robotId r robots₀)
  once : (robots₀.map RobotDoc.robotId).Nodup → (s.robots.map RobotDoc.robotId).Nodup
  telemetry : s.telemetry = telemetry₀ ++ (inserted s.trace).map RobotDoc.ofStatus

/-- How far each status has come. -/
structure Progress (s : State) : Prop where
  upserts : (upserted s.trace ++ waiting .cached s.call).Sublist (cached s.trace)
  inserts : (inserted s.trace ++ waiting .upserted s.call).Sublist (upserted s.trace)
  /-- Only a process that ends loses a status, and not more than one. -/
  lost : (cached s.trace).length ≤ (inserted s.trace).length + s.trace.count .stopped +
    s.call.toList.length

/-- What `latest_status_` has of a robot, the other places have or are about to have. -/
structure Agrees (s : State) : Prop where
  call : ∀ c ∈ s.call, lastAbout c.1.robotId (cachedSince s.trace) = some c.1
  robots : ∀ r status, lastAbout r (cachedSince s.trace) = some status →
    s.call = some (status, .cached) ∨ lastAbout r (upserted s.trace) = some status
  telemetry : ∀ r status, lastAbout r (cachedSince s.trace) = some status →
    (∃ stage, s.call = some (status, stage)) ∨ lastAbout r (inserted s.trace) = some status

section
variable {robots₀ telemetry₀ : List RobotDoc} {s : State}

theorem lastAbout_concat (r : String) (msgs : List RobotStatus) (status : RobotStatus) :
    lastAbout r (msgs ++ [status]) =
      if status.robotId = r then some status else lastAbout r msgs :=
  Collection.findLast_insertOne status

theorem lastAbout_robotId {r : String} {msgs : List RobotStatus} {status : RobotStatus}
    (h : lastAbout r msgs = some status) : status.robotId = r :=
  of_decide_eq_true (List.mem_filter.mp (List.mem_of_getLast? h)).2

theorem Views.step (h : Views robots₀ telemetry₀ s) (ev : Event) :
    Views robots₀ telemetry₀ (step s ev) := by
  cases ev with
  | start => exact { h with }
  | stop =>
    exact
      { cache := by simp [StatusStore.step, latestStatus]
        robots := by simpa [StatusStore.step, upserted] using h.robots
        once := h.once
        telemetry := by simpa [StatusStore.step, inserted] using h.telemetry }
  | status status =>
    rw [StatusStore.step]
    split
    · exact
        { cache := by simp [h.cache, latestStatus]
          robots := by simpa [upserted] using h.robots
          once := h.once
          telemetry := by simpa [inserted] using h.telemetry }
    · exact h
  | upsertRobot =>
    rw [StatusStore.step]
    split
    · next status hcall =>
      refine
        { cache := by simp [h.cache]
          robots := fun r => ?_
          once := fun hnodup => Collection.nodup_upsertOne rfl (h.once hnodup)
          telemetry := by simpa [inserted] using h.telemetry }
      have hupserted : upserted (s.trace ++ [.upserted status]) = upserted s.trace ++ [status] := by
        simp [upserted]
      have hid : (RobotDoc.ofStatus status).robotId = status.robotId := rfl
      dsimp only
      rw [Collection.findOne_upsertOne hid, hupserted, lastAbout_concat, h.robots]
      by_cases hr : status.robotId = r
      · simp [hr]
      · simp [hr, Ne.symm hr]
    · exact h
  | insertTelemetry =>
    rw [StatusStore.step]
    split
    · next status hcall =>
      exact
        { cache := by simp [h.cache]
          robots := by simpa [upserted] using h.robots
          once := h.once
          telemetry := by simp [inserted, Collection.insertOne, h.telemetry] }
    · exact h

theorem Progress.step (h : Progress s) (ev : Event) : Progress (step s ev) := by
  obtain ⟨hupserted, hinserted, hlost⟩ := h
  cases ev with
  | start => exact ⟨hupserted, hinserted, hlost⟩
  | stop =>
    refine ⟨?_, ?_, ?_⟩
    · have := (List.sublist_append_left ..).trans hupserted
      simpa [StatusStore.step, cached, upserted, waiting] using this
    · have := (List.sublist_append_left ..).trans hinserted
      simpa [StatusStore.step, upserted, inserted, waiting] using this
    · have hcall : s.call.toList.length ≤ 1 := by cases s.call <;> simp
      simp [StatusStore.step, cached, inserted] at hlost ⊢
      omega
  | status status =>
    rw [StatusStore.step]
    split
    · next hfree =>
      have hcall : s.call = none := Option.isNone_iff_eq_none.mp hfree.2
      simp only [hcall, waiting, List.append_nil] at hupserted hinserted
      refine ⟨?_, ?_, ?_⟩
      · simpa [cached, upserted, waiting] using hupserted.append (.refl [status])
      · simpa [upserted, inserted, waiting] using hinserted
      · simp [cached, inserted, hcall] at hlost ⊢
        omega
    · exact ⟨hupserted, hinserted, hlost⟩
  | upsertRobot =>
    rw [StatusStore.step]
    split
    · next status hcall =>
      simp only [hcall, waiting, if_true] at hupserted hinserted
      refine ⟨?_, ?_, ?_⟩
      · simpa [cached, upserted, waiting] using hupserted
      · simpa [upserted, inserted, waiting] using hinserted.append (.refl [status])
      · simp [cached, inserted, hcall] at hlost ⊢
        omega
    · exact ⟨hupserted, hinserted, hlost⟩
  | insertTelemetry =>
    rw [StatusStore.step]
    split
    · next status hcall =>
      simp only [hcall, waiting, if_true] at hupserted hinserted
      refine ⟨?_, ?_, ?_⟩
      · simpa [cached, upserted, waiting] using hupserted
      · simpa [upserted, inserted, waiting] using hinserted
      · simp [cached, inserted, hcall] at hlost ⊢
        omega
    · exact ⟨hupserted, hinserted, hlost⟩

theorem Agrees.step (h : Agrees s) (ev : Event) : Agrees (step s ev) := by
  cases ev with
  | start => exact ⟨h.call, h.robots, h.telemetry⟩
  | stop =>
    have never : ∀ r status, lastAbout r (cachedSince (s.trace ++ [.stopped])) ≠ some status :=
      fun r status => by simp [lastAbout, Collection.findLast]
    exact ⟨by simp [StatusStore.step], fun r status hr => (never r status hr).elim,
      fun r status hr => (never r status hr).elim⟩
  | status status =>
    rw [StatusStore.step]
    split
    · next hfree =>
      have hcall : s.call = none := Option.isNone_iff_eq_none.mp hfree.2
      -- a status that is not the new one was the last before it
      have hlast : ∀ r status', lastAbout r (cachedSince s.trace ++ [status]) = some status' →
          status = status' ∨ lastAbout r (cachedSince s.trace) = some status' := by
        intro r status' hr
        rw [lastAbout_concat] at hr
        split at hr
        · exact .inl (Option.some.inj hr)
        · exact .inr hr
      refine ⟨fun c hc => ?_, fun r status' hr => ?_, fun r status' hr => ?_⟩
      · obtain rfl : (status, Stage.cached) = c := Option.some.inj hc
        simp [lastAbout_concat]
      · rw [cachedSince_cached] at hr
        obtain rfl | hr := hlast r status' hr
        · exact .inl rfl
        · refine .inr ?_
          simpa [upserted] using (h.robots r status' hr).resolve_left (by simp [hcall])
      · rw [cachedSince_cached] at hr
        obtain rfl | hr := hlast r status' hr
        · exact .inl ⟨.cached, rfl⟩
        · refine .inr ?_
          simpa [inserted] using (h.telemetry r status' hr).resolve_left (by simp [hcall])
    · exact h
  | upsertRobot =>
    rw [StatusStore.step]
    split
    · next status hcall =>
      have hlast := h.call _ hcall
      have hupserted : upserted (s.trace ++ [.upserted status]) = upserted s.trace ++ [status] := by
        simp [upserted]
      refine ⟨fun c hc => ?_, fun r status' hr => .inr ?_, fun r status' hr => ?_⟩
      · obtain rfl : (status, Stage.upserted) = c := Option.some.inj hc
        simpa using hlast
      · rw [cachedSince_upserted] at hr
        rw [hupserted, lastAbout_concat]
        split
        · next heq => rw [← hlast, heq, hr]
        · next hne =>
          refine (h.robots r status' hr).resolve_left fun heq => hne ?_
          obtain rfl : status = status' := by simpa [hcall] using heq
          exact lastAbout_robotId hr
      · rw [cachedSince_upserted] at hr
        obtain ⟨stage, heq⟩ | htelemetry := h.telemetry r status' hr
        · obtain ⟨rfl, -⟩ : status = status' ∧ Stage.cached = stage := by simpa [hcall] using heq
          exact .inl ⟨.upserted, rfl⟩
        · exact .inr (by simpa [inserted] using htelemetry)
    · exact h
  | insertTelemetry =>
    rw [StatusStore.step]
    split
    · next status hcall =>
      have hlast := h.call _ hcall
      have hinserted : inserted (s.trace ++ [.inserted status]) = inserted s.trace ++ [status] := by
        simp [inserted]
      refine ⟨by simp, fun r status' hr => .inr ?_, fun r status' hr => .inr ?_⟩
      · rw [cachedSince_inserted] at hr
        simpa [upserted] using (h.robots r status' hr).resolve_left (by simp [hcall])
      · rw [cachedSince_inserted] at hr
        rw [hinserted, lastAbout_concat]
        split
        · next heq => rw [← hlast, heq, hr]
        · next hne =>
          refine (h.telemetry r status' hr).resolve_left ?_
          rintro ⟨stage, heq⟩
          obtain ⟨rfl, -⟩ : status = status' ∧ Stage.upserted = stage := by simpa [hcall] using heq
          exact hne (lastAbout_robotId hr)
    · exact h

end

/-! ## What `GetFleetStatus` answers -/

/-- The collections say the same of the robot. -/
structure Recorded (s : State) (info : RobotStatusInfo) (status : RobotStatus) : Prop where
  shows : info = .ofStatus status
  robots : Collection.findOne RobotDoc.robotId info.robotId s.robots = some (.ofStatus status)
  telemetry : Collection.findLast RobotDoc.robotId info.robotId s.telemetry =
    some (.ofStatus status)

end StatusStore

end FleetServer
