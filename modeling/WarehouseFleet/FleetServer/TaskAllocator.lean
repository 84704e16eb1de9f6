import Mathlib.Analysis.InnerProductSpace.PiL2
import Mathlib.Data.Rat.Sqrt
import Mathlib.Data.String.Basic
import Std.Data.TreeMap.Lemmas
import WarehouseFleet.Least
import WarehouseFleet.Msgs

/-!
# Choosing a robot for a task

`K` is the type of a `double` with its operations: `ℝ` where the arithmetic is to be exact, `ℚ`
where a run is evaluated.

| here | there |
| --- | --- |
| `StatusMap`, `robotStatusCb`  | `latest_status_`, the map `robot_status_cb` writes (fleet_server_node.cpp:154-159) |
| `doubleMax`                   | `std::numeric_limits<double>::max()` |
| `distanceToPick`, `score`     | the two scores of the loop (task_allocator.cpp:20-23) |
| `selectBestRobot`             | `select_best_robot` (:8-35) |
-/

namespace FleetServer

open Fms

/-- A `std::map`: iterated in ascending order of the keys. -/
abbrev StatusMap := Std.TreeMap String RobotStatus

def robotStatusCb (msg : RobotStatus) (latestStatus : StatusMap) : StatusMap :=
  latestStatus.insert msg.robotId msg

class Sqrt (K : Type) where
  sqrt : K → K

noncomputable instance : Sqrt ℝ := ⟨Real.sqrt⟩

/-- Exact at the squares. -/
instance : Sqrt ℚ := ⟨Rat.sqrt⟩

def doubleMax : ℚ := 2 ^ 1024 - 2 ^ 971

section Allocator

variable {K : Type} [Add K] [Sub K] [Mul K] [LT K] [DecidableLT K] [RatCast K] [Sqrt K]

def distanceToPick (request : TaskAssignment) (status : RobotStatus) : K :=
  let dx : K := (request.pickPose.position.x : K) - (status.pose.position.x : K)
  let dy : K := (request.pickPose.position.y : K) - (status.pose.position.y : K)
  Sqrt.sqrt (dx * dx + dy * dy)

def score (request : TaskAssignment) (socWeight : K) (status : RobotStatus) : K :=
  distanceToPick request status + (((100 : ℚ) : K) - (status.batterySoc : K)) * socWeight

def selectBestRobot (robots : StatusMap) (request : TaskAssignment) (socWeight : K) :
    Option (String × K) :=
  let best := robots.foldl (fun (best : String × K) robotId status =>
    if status.state ≠ RobotStatus.stateIdle then best
    else
      let s := score request socWeight status
      if s < best.2 then (robotId, s) else best) ("", (doubleMax : K))
  if best.1 = "" then none else some best

end Allocator

/-! ## The entries the loop looks at -/

namespace StatusMap

/-- The map has `status` for `r`, in `STATE_IDLE`. -/
def IdleAt (robots : StatusMap) (r : String) (status : RobotStatus) : Prop :=
  robots[r]? = some status ∧ status.state = RobotStatus.stateIdle

/-- The entries in `STATE_IDLE`, as the loop meets them. -/
def idle (robots : StatusMap) : List (String × RobotStatus) :=
  robots.toList.filter (·.2.state = RobotStatus.stateIdle)

variable {robots robots' : StatusMap} {r : String} {status : RobotStatus}

theorem mem_idle : (r, status) ∈ robots.idle ↔ robots.IdleAt r status := by
  simp [idle, IdleAt, Std.TreeMap.mem_toList_iff_getElem?_eq_some]

theorem idle_sorted (robots : StatusMap) : robots.idle.Pairwise fun a b => a.1 < b.1 := by
  refine (Std.TreeMap.ordered_keys_toList.imp ?_).filter _
  intro a b h
  exact compareOfLessAndEq_eq_lt.mp h

/-- The same robots are in `STATE_IDLE`, with the same statuses. -/
def SameIdle (robots robots' : StatusMap) : Prop :=
  ∀ r status, robots.IdleAt r status ↔ robots'.IdleAt r status

/-- An ascending list is known from its members. -/
theorem SameIdle.idle_eq (h : SameIdle robots robots') : robots.idle = robots'.idle := by
  have hnodup : ∀ m : StatusMap, m.idle.Nodup := fun m => (idle_sorted m).imp fun h he => by
    simp [he] at h
  have hmem : ∀ e, e ∈ robots.idle ↔ e ∈ robots'.idle := by
    rintro ⟨r, status⟩
    rw [mem_idle, mem_idle]
    exact h r status
  refine ((List.perm_ext_iff_of_nodup (hnodup _) (hnodup _)).mpr hmem).eq_of_pairwise ?_
    (idle_sorted _) (idle_sorted _)
  intro a b _ _ hab hba
  exact absurd hba (lt_asymm hab)

end StatusMap

section Allocator

variable {K : Type} [Add K] [Sub K] [Mul K] [LT K] [DecidableLT K] [RatCast K] [Sqrt K]

/-- The loop is a scan over the scored `IDLE` entries. -/
theorem selectBestRobot_eq (robots : StatusMap) (request : TaskAssignment) (socWeight : K) :
    selectBestRobot robots request socWeight =
      let best := Least.least ("", (doubleMax : K))
        (robots.idle.map fun e => (e.1, score request socWeight e.2))
      if best.1 = "" then none else some best := by
  rw [selectBestRobot, Std.TreeMap.foldl_eq_foldl_toList, Least.least, List.foldl_map,
    StatusMap.idle, List.foldl_filter]
  simp only [Least.keep, decide_eq_true_eq, ne_eq, ite_not]

theorem selectBestRobot_congr {robots robots' : StatusMap}
    (h : robots.SameIdle robots')
    (request : TaskAssignment) (socWeight : K) :
    selectBestRobot robots request socWeight = selectBestRobot robots' request socWeight := by
  rw [selectBestRobot_eq, selectBestRobot_eq, h.idle_eq]

theorem selectBestRobot_idleAt {robots : StatusMap} {request : TaskAssignment} {socWeight : K}
    {best : String × K} (h : selectBestRobot robots request socWeight = some best) :
    ∃ status, robots.IdleAt best.1 status := by
  rw [selectBestRobot_eq] at h
  obtain heq | hmem := Least.least_eq_or_mem ("", (doubleMax : K))
    (robots.idle.map fun e => (e.1, score request socWeight e.2))
  · simp [heq] at h
  · obtain ⟨e, he, heq⟩ := List.mem_map.mp hmem
    have hbest : best.1 = e.1 := by
      dsimp only at h
      split at h
      · simp at h
      · rw [← Option.some.inj h, ← heq]
    exact ⟨e.2, hbest ▸ StatusMap.mem_idle.mp he⟩

end Allocator

/-! ## The statuses the map holds -/

/-- The map after these statuses. -/
def latestStatus (msgs : List RobotStatus) : StatusMap :=
  msgs.foldl (fun latest msg => robotStatusCb msg latest) ∅

theorem robotStatusCb_getElem? (msg : RobotStatus) (latest : StatusMap) (r : String) :
    (robotStatusCb msg latest)[r]? = if msg.robotId = r then some msg else latest[r]? := by
  simp [robotStatusCb, Std.TreeMap.getElem?_insert]

theorem latestStatus_getElem? (msgs : List RobotStatus) (r : String) :
    (latestStatus msgs)[r]? = (msgs.filter (·.robotId = r)).getLast? := by
  induction msgs using List.reverseRecOn with
  | nil => simp [latestStatus]
  | append_singleton msgs msg ih =>
    rw [latestStatus, List.foldl_append, List.foldl_cons, List.foldl_nil, ← latestStatus,
      robotStatusCb_getElem?, ih, List.filter_append]
    by_cases h : msg.robotId = r <;> simp [h]

/-! ## The choice, in exact arithmetic -/

/-- The point of the floor below a position. -/
noncomputable def floor (p : Position) : EuclideanSpace ℝ (Fin 2) := !₂[(p.x : ℝ), (p.y : ℝ)]

/-- How well a robot suits a request: the less, the better. -/
noncomputable def cost (request : TaskAssignment) (socWeight : ℝ) (status : RobotStatus) : ℝ :=
  dist (floor request.pickPose.position) (floor status.pose.position) +
    (100 - status.batterySoc) * socWeight

theorem score_eq_cost (request : TaskAssignment) (socWeight : ℝ) (status : RobotStatus) :
    score request socWeight status = cost request socWeight status := by
  have hdist : (distanceToPick request status : ℝ) =
      dist (floor request.pickPose.position) (floor status.pose.position) := by
    simp [EuclideanSpace.dist_eq, Fin.sum_univ_two, floor, distanceToPick, Sqrt.sqrt,
      Real.dist_eq, pow_two]
  rw [score, cost, hdist]
  norm_num

/-- `r` is an entry in `STATE_IDLE` of cost `s`, no such entry costs less, and of those that cost
as much `r` has the least key. -/
structure Best (robots : StatusMap) (request : TaskAssignment) (socWeight : ℝ) (r : String)
    (s : ℝ) : Prop where
  entry : ∃ status, robots.IdleAt r status ∧ s = cost request socWeight status
  least : ∀ r' status, robots.IdleAt r' status → s ≤ cost request socWeight status
  first : ∀ r' status, robots.IdleAt r' status → cost request socWeight status = s → r ≤ r'

theorem selectBestRobot_cases (robots : StatusMap) (request : TaskAssignment) (socWeight : ℝ)
    (hkeys : "" ∉ robots)
    (hmax : ∀ r status, robots.IdleAt r status → cost request socWeight status < doubleMax) :
    (robots.idle = [] ∧ selectBestRobot robots request socWeight = none) ∨
    ∃ r s, selectBestRobot robots request socWeight = some (r, s) ∧
      Best robots request socWeight r s := by
  have hscan := Least.least_selected ("", ((doubleMax : ℚ) : ℝ))
    (robots.idle.map fun e => (e.1, score request socWeight e.2))
  rw [selectBestRobot_eq]
  generalize Least.least ("", ((doubleMax : ℚ) : ℝ)) _ = best at hscan ⊢
  obtain ⟨hnil, rfl⟩ | ⟨hmem, hbest⟩ := hscan.of_sorted
    (List.pairwise_map.mpr robots.idle_sorted)
    (List.forall_mem_map.mpr fun e he => by
      simpa [score_eq_cost] using hmax e.1 e.2 (StatusMap.mem_idle.mp he))
  · exact .inl ⟨by simpa using hnil, by simp⟩
  · obtain ⟨⟨r, status⟩, he, rfl⟩ := List.mem_map.mp hmem
    have hr := StatusMap.mem_idle.mp he
    have hne : r ≠ "" := by
      rintro rfl
      exact hkeys (Std.TreeMap.mem_iff_isSome_getElem?.mpr (by rw [hr.1]; rfl))
    -- what the scan says of an entry
    have hof : ∀ r' status', robots.IdleAt r' status' →
        cost request socWeight status ≤ cost request socWeight status' ∧
        (cost request socWeight status' = cost request socWeight status → r ≤ r') := by
      intro r' status' h
      simpa [score_eq_cost] using
        hbest _ (List.mem_map.mpr ⟨(r', status'), StatusMap.mem_idle.mpr h, rfl⟩)
    exact .inr ⟨r, cost request socWeight status, by simp [hne, score_eq_cost],
      ⟨status, hr, rfl⟩, fun r' status' h => (hof r' status' h).1,
      fun r' status' h => (hof r' status' h).2⟩

/-- **`select_best_robot` is the argmin over the idle robots**; of equal scores the least key wins.
Its loop starts below `doubleMax`, and an empty best robot stands for none. -/
theorem selects_least_idle (robots : StatusMap) (request : TaskAssignment) (socWeight : ℝ)
    (hkeys : "" ∉ robots)
    (hmax : ∀ r status, robots.IdleAt r status → cost request socWeight status < doubleMax) :
    (selectBestRobot robots request socWeight = none ↔ ∀ r status, ¬ robots.IdleAt r status) ∧
    (∀ r s, selectBestRobot robots request socWeight = some (r, s) →
      Best robots request socWeight r s) ∧
    -- the other entries do not count
    (∀ robots' : StatusMap, robots.SameIdle robots' →
      selectBestRobot robots' request socWeight = selectBestRobot robots request socWeight) ∧
    -- nor does the order in which the robots reported
    (∀ msgs msgs' : List RobotStatus,
      (∀ r, msgs.filter (·.robotId = r) = msgs'.filter (·.robotId = r)) →
      selectBestRobot (latestStatus msgs) request socWeight =
        selectBestRobot (latestStatus msgs') request socWeight) := by
  refine ⟨?_, ?_, fun robots' h => (selectBestRobot_congr h request socWeight).symm, ?_⟩
  · obtain ⟨hnil, hnone⟩ | ⟨r, s, hsome, hbest⟩ :=
      selectBestRobot_cases robots request socWeight hkeys hmax
    · refine iff_of_true hnone fun r status h => ?_
      simpa [hnil] using StatusMap.mem_idle.mpr h
    · obtain ⟨status, h, -⟩ := hbest.entry
      exact iff_of_false (by simp [hsome]) fun hno => hno r status h
  · intro r s hrs
    obtain ⟨-, hnone⟩ | ⟨r', s', hsome, hbest⟩ :=
      selectBestRobot_cases robots request socWeight hkeys hmax
    · simp [hnone] at hrs
    · obtain ⟨rfl, rfl⟩ : r' = r ∧ s' = s := by simpa [hsome] using hrs
      exact hbest
  · intro msgs msgs' h
    refine selectBestRobot_congr (fun r status => ?_) request socWeight
    rw [StatusMap.IdleAt, StatusMap.IdleAt, latestStatus_getElem?, latestStatus_getElem?, h]

/-- A robot at `(x, y)` with 70 % in its battery. -/
def statusAt (robotId : String) (state : UInt8) (x y : ℚ) : RobotStatus :=
  ⟨0, robotId, state, ⟨⟨x, y, 0⟩, ⟨0, 0, 0, 1⟩⟩, 70, "", ""⟩

/-- A request with this pick, to be dropped at the origin. -/
def requestAt (x y : ℚ) : TaskAssignment :=
  ⟨0, "", "", TaskAssignment.taskPick, ⟨⟨x, y, 0⟩, ⟨0, 0, 0, 1⟩⟩, .default, "", 1, 300⟩

/-- `robot_2` reports before `robot_1`, both idle where the pick is; `robot_0` is at work there. -/
def tiedRobots : StatusMap :=
  latestStatus [statusAt "robot_2" 0 0 4, statusAt "robot_1" 0 0 4, statusAt "robot_0" 2 0 4]

theorem tiedRobots_idleAt {r : String} {status : RobotStatus} : tiedRobots.IdleAt r status ↔
    status = statusAt r 0 0 4 ∧ (r = "robot_1" ∨ r = "robot_2") := by
  simp only [StatusMap.IdleAt, tiedRobots, latestStatus, List.foldl_cons, List.foldl_nil,
    robotStatusCb_getElem?, Std.TreeMap.getElem?_emptyc, statusAt]
  constructor
  · rintro ⟨h, hstate⟩
    split_ifs at h with h0 h1 h2
    · rw [← Option.some.inj h] at hstate
      exact absurd hstate (by decide)
    · exact ⟨by rw [← Option.some.inj h, h1], .inl h1.symm⟩
    · exact ⟨by rw [← Option.some.inj h, h2], .inr h2.symm⟩
  · rintro ⟨rfl, rfl | rfl⟩ <;> exact ⟨by simp, rfl⟩

theorem selects_least_idle_tied :
    selectBestRobot tiedRobots (requestAt 0 4) (1 / 2 : ℝ) = some ("robot_1", 15) := by
  have hcost : ∀ r, cost (requestAt 0 4) (1 / 2) (statusAt r 0 0 4) = 15 := fun r => by
    norm_num [cost, floor, requestAt, statusAt]
  have hmax : (15 : ℚ) < doubleMax := by decide +kernel
  obtain ⟨hnone, hsome, -, -⟩ := selects_least_idle tiedRobots (requestAt 0 4) (1 / 2)
    (by decide +kernel)
    (fun r status h => by
      rw [(tiedRobots_idleAt.mp h).1, hcost]
      exact_mod_cast hmax)
  cases hsel : selectBestRobot tiedRobots (requestAt 0 4) (1 / 2 : ℝ) with
  | none => exact absurd (tiedRobots_idleAt.mpr ⟨rfl, .inl rfl⟩) (hnone.mp hsel "robot_1" _)
  | some best =>
    obtain ⟨r, s⟩ := best
    obtain ⟨⟨status, hr, rfl⟩, -, hfirst⟩ := hsome r s hsel
    obtain ⟨rfl, hname⟩ := tiedRobots_idleAt.mp hr
    have hle := hfirst "robot_1" _ (tiedRobots_idleAt.mpr ⟨rfl, .inl rfl⟩) (by rw [hcost, hcost])
    obtain rfl | rfl := hname
    · rw [hcost]
    · exact absurd hle (by decide)

end FleetServer
