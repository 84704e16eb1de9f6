import WarehouseFleet.Fleet.Links
import WarehouseFleet.FleetServer.Addressing

/-!
# Whom the server selects

`latest_status_` holds the last status that has arrived from each robot, so `select_robot` picks a
robot of the fleet that has said of itself that it is idle. Agents sign with the name their topics
carry; hence none of the strangers of `Addressing` turns up, and `robot_index_.at` throws nothing.
-/

namespace Fleet

open Fms
open FleetServer
open FleetServer.Allocation (Addressed SelectedKnown throws)

section
variable {K : Type} [Add K] [Sub K] [Mul K] [LT K] [DecidableLT K] [RatCast K] [Sqrt K]

/-- A robot is picked for its own last word, and can be addressed. -/
def Sound (l : Launch K) (s : State) : Event → Prop
  | .request th request => s.server.busy th = false →
    ∀ best ∈ selectBestRobot s.server.latestStatus request l.socWeight,
      ∃ i < l.numRobots, best.1 = robotName i ∧ ∃ msg,
        (s.statuses i).delivered.getLast? = some msg ∧
        .status msg ∈ (s.agents i).world.trace ∧ msg.state = RobotStatus.stateIdle
  | .dispatch th idNow stampNow =>
    throws l.numRobots s.server (.dispatch th idNow stampNow) = false
  | _ => True

/-- `latest_status_` is what the log says. -/
def Cached (s : Allocation.State) : Prop := s.latestStatus = latestStatus (reported s.log)

theorem Cached.server {numRobots : Nat} {socWeight : K} {s : Allocation.State} (h : Cached s)
    {ev : Allocation.Event} (hev : IsServer ev) :
    Cached (Allocation.step numRobots socWeight s ev) := by
  have hlatest : (Allocation.step numRobots socWeight s ev).latestStatus = s.latestStatus := by
    cases ev with
    | request th request =>
      rw [Allocation.step]
      split
      · rfl
      · split <;> rfl
    | dispatch th idNow stampNow => rw [Allocation.step]; split <;> rfl
    | insertTask th => rfl
    | _ => exact hev.elim
  rw [Cached, hlatest, (hev.appends numRobots socWeight s).1]
  exact h

theorem Cached.robotStatus (numRobots : Nat) (socWeight : K) {s : Allocation.State} (h : Cached s)
    (msg : RobotStatus) : Cached (Allocation.step numRobots socWeight s (.robotStatus msg)) := by
  rw [Allocation.step]
  split
  · exact h
  · have hlog : reported (s.log ++ [.status msg]) = reported s.log ++ [msg] := by simp [reported]
    rw [Cached, hlog, latestStatus, List.foldl_append, ← latestStatus, ← h]
    rfl

theorem cached_run (l : Launch K) (es : List Event) : Cached (l.run es).server := by
  refine Run.run_invariant (I := fun s : State => Cached s.server) (fun s ev h => ?_) rfl
  have hstep := steps l s ev
  generalize Fleet.step l s ev = s' at hstep ⊢
  cases hstep with
  | server ev hev => exact h.server hev
  | robotStatus i msg hmsg hi hfree => exact h.robotStatus l.numRobots l.socWeight msg
  | _ => exact h

end

section
variable {K : Type} {l : Launch K} {s : State}

/-- An entry of `latest_status_` is the last status that has arrived from its robot. -/
theorem Linked.entry (h : Linked l s) (hc : Cached s.server) {r : String} {status : RobotStatus}
    (hr : s.server.latestStatus[r]? = some status) :
    ∃ i < l.numRobots, r = robotName i ∧ (s.statuses i).delivered.getLast? = some status ∧
      .status status ∈ (s.agents i).world.trace := by
  rw [hc, latestStatus_getElem?] at hr
  obtain ⟨hmem, hrobot⟩ := List.mem_filter.mp (List.mem_of_getLast? hr)
  obtain ⟨i, hi, hdelivered⟩ := h.reportedBy status hmem
  have hpublished : status ∈ RobotAgent.statuses (s.agents i).world.trace :=
    h.statuses i ▸ (s.statuses i).delivered_sublist.subset hdelivered
  have hname : r = robotName i :=
    (of_decide_eq_true hrobot).symm.trans ((h.signs i).status hpublished).robotId
  refine ⟨i, hi, hname, ?_, RobotAgent.mem_statuses.mp hpublished⟩
  rw [← h.reported i, ← hname]
  exact hr

theorem Linked.known (h : Linked l s) (hc : Cached s.server) :
    s.server.Known l.numRobots := by
  intro r status hr
  obtain ⟨i, hi, hname, -, -⟩ := h.entry hc hr
  simp [robotIndex_eq_some.mpr ⟨hi, hname⟩]

end

section
variable {K : Type} [Add K] [Sub K] [Mul K] [LinearOrder K] [RatCast K] [Sqrt K]

/-- What the calls between `select_robot` and `dispatch_assignment` rely on. -/
structure Grounded (l : Launch K) (s : State) : Prop where
  linked : Linked l s
  cached : Cached s.server
  selected : SelectedKnown l.numRobots s.server

theorem Grounded.step {l : Launch K} {s : State} (h : Grounded l s) (ev : Event) :
    Grounded l (step l s ev) := by
  have hlinked := h.linked.step ev
  have hstep := steps l s ev
  generalize Fleet.step l s ev = s' at hstep hlinked ⊢
  cases hstep with
  | server ev hev =>
    exact ⟨hlinked, h.cached.server hev, h.selected.step (h.linked.known h.cached).noStranger⟩
  | robotStatus i msg hmsg hi hfree =>
    exact ⟨hlinked, h.cached.robotStatus l.numRobots l.socWeight msg, h.selected.step trivial⟩
  | _ => exact ⟨hlinked, h.cached, h.selected⟩

theorem Grounded.sound {l : Launch K} {s : State} (h : Grounded l s) (ev : Event) :
    Sound l s ev := by
  cases ev with
  | request th request =>
    intro _ best hbest
    obtain ⟨status, hstatus, hidle⟩ := selectBestRobot_idleAt hbest
    obtain ⟨i, hi, hname, hlast, hmem⟩ := h.linked.entry h.cached hstatus
    exact ⟨i, hi, hname, status, hlast, hmem, hidle⟩
  | dispatch th idNow stampNow =>
    have haddressed : Addressed l.numRobots l.socWeight s.server (.dispatch th idNow stampNow) :=
      h.selected.addressed trivial
    exact haddressed
  | _ => trivial

/-- **The server selects robots that have said they are idle**, and it can publish to them. -/
theorem selection_grounded (l : Launch K) (es : List Event) :
    Run.Along (step l) (Sound l) l.init es :=
  Run.along_true.of_invariant (I := Grounded l) (fun _ ev h _ => ⟨h.step ev, h.sound ev⟩)
    ⟨linked_init l, rfl, by simp [SelectedKnown, Launch.init, Allocation.State.init]⟩

end

end Fleet
