import WarehouseFleet.FleetServer.Allocation

/-!
# Whether a selected robot can be addressed

`robot_index_` has the names of the topics the server subscribes to, `latest_status_` the names
the messages on them carry. `robot_status_cb` does not compare the two, so a message may enter a
robot that the server cannot publish to; once that robot is selected, `robot_index_.at` throws, and
none of the callers of `dispatch_assignment` has a handler. `send_robot_command` looks its
`robot_id` up first (fleet_server_node.cpp:132-135).

| here | there |
| --- | --- |
| `throws`     | `robot_index_.at` in `dispatch_assignment` (:201) |
| `KnownNames` | what `robot_status_cb` (:154-159) does not see to |
-/

namespace FleetServer.Allocation

open Fms

section
variable {K : Type} [Add K] [Sub K] [Mul K] [LT K] [DecidableLT K] [RatCast K] [Sqrt K]

/-- The event leaves `dispatch_assignment` with `std::out_of_range`. -/
def throws (numRobots : Nat) (s : State) : Event → Bool
  | .dispatch th _ _ =>
    match s.selected.find? (·.thread = th) with
    | none => false
    | some call => (robotIndex numRobots call.assignment.robotId).isNone
  | _ => false

/-- `select_robot` names a key of `robot_index_`, and nothing is thrown. -/
def Addressed (numRobots : Nat) (socWeight : K) (s : State) : Event → Prop
  | .request th request => s.busy th = false →
      ∀ best ∈ selectBestRobot s.latestStatus request socWeight, robotIndex numRobots best.1 ≠ none
  | ev => throws numRobots s ev = false

/-- A name a robot may be selected by, though the server does not publish to it. -/
def Stranger (numRobots : Nat) (r : String) : Prop := r ≠ "" ∧ robotIndex numRobots r = none

/-- The loop prefers the first of the two entries: the lower score, or the lower key at the same
score. -/
def Preferred (request : TaskAssignment) (socWeight : K) (e e' : String × RobotStatus) : Prop :=
  score request socWeight e.2 < score request socWeight e'.2 ∨
    ¬ score request socWeight e'.2 < score request socWeight e.2 ∧ e.1 < e'.1

/-- Each stranger in `STATE_IDLE` scores `doubleMax`, or comes after an entry that is none. -/
def Outdone (numRobots : Nat) (robots : StatusMap) (request : TaskAssignment) (socWeight : K) :
    Prop :=
  ∀ e ∈ robots.idle, Stranger numRobots e.1 → score request socWeight e.2 < (doubleMax : K) →
    ∃ e' ∈ robots.idle, ¬ Stranger numRobots e'.1 ∧ Preferred request socWeight e' e

/-- The strangers are outdone whenever a request is served. -/
def NoStranger (numRobots : Nat) (socWeight : K) (s : State) : Event → Prop
  | .request th request => s.busy th = false →
      Outdone numRobots s.latestStatus request socWeight
  | _ => True

end

/-- The calls between `select_robot` and `dispatch_assignment` have a robot of `robot_index_`. -/
def SelectedKnown (numRobots : Nat) (s : State) : Prop :=
  ∀ call ∈ s.selected, robotIndex numRobots call.assignment.robotId ≠ none

section
variable {K : Type} [Add K] [Sub K] [Mul K] [LinearOrder K] [RatCast K] [Sqrt K]
  {numRobots : Nat} {socWeight : K} {s : State} {ev : Event}

theorem selectBestRobot_known_iff {robots : StatusMap} {request : TaskAssignment} :
    (∀ best ∈ selectBestRobot robots request socWeight, robotIndex numRobots best.1 ≠ none) ↔
      Outdone numRobots robots request socWeight := by
  have hscan := Least.least_selected ("", ((doubleMax : ℚ) : K))
    (robots.idle.map fun e => (e.1, score request socWeight e.2))
  rw [selectBestRobot_eq]
  generalize Least.least ("", ((doubleMax : ℚ) : K)) _ = best at hscan ⊢
  obtain ⟨rfl, hle⟩ | ⟨hmem, hlt, hleast⟩ :=
    hscan.sorted_cases (List.pairwise_map.mpr robots.idle_sorted)
  · -- no robot is selected, and no entry scores below `doubleMax`
    refine iff_of_true (by simp) fun e he _ hs => ?_
    exact absurd hs (not_lt.mpr (hle _ (List.mem_map_of_mem he)))
  · obtain ⟨r, hr, rfl⟩ := List.mem_map.mp hmem
    have hsel : (∀ best ∈ (if r.1 = "" then none else some (r.1, score request socWeight r.2)),
        robotIndex numRobots best.1 ≠ none) ↔ ¬ Stranger numRobots r.1 := by
      by_cases h : r.1 = "" <;> simp [Stranger, h]
    rw [hsel]
    constructor
    · intro hknown e he hstr _
      obtain ⟨hle, hkey⟩ := hleast _ (List.mem_map_of_mem he)
      refine ⟨r, hr, hknown, (lt_or_eq_of_le hle).imp_right fun heq => ⟨heq.not_gt, ?_⟩⟩
      refine lt_of_le_of_ne (hkey heq.symm) fun hname => hknown ?_
      exact hname ▸ hstr
    · intro hout hstr
      obtain ⟨e', he', hknown, hpref⟩ := hout r hr hstr hlt
      obtain ⟨hle, hkey⟩ := hleast _ (List.mem_map_of_mem he')
      obtain h | ⟨h, hlow⟩ := hpref
      · exact absurd h (not_lt.mpr hle)
      · exact absurd hlow (hkey (le_antisymm (not_lt.mp h) hle)).not_gt

theorem SelectedKnown.step (h : SelectedKnown numRobots s)
    (hn : NoStranger numRobots socWeight s ev) :
    SelectedKnown numRobots (step numRobots socWeight s ev) := by
  cases ev with
  | request th request =>
    rw [Allocation.step]
    split
    · exact h
    · next hbusy =>
      split
      · exact h
      · next best hbest =>
        intro call hcall
        obtain hcall | rfl := (List.mem_append.mp hcall).imp_right List.mem_singleton.mp
        · exact h call hcall
        · exact selectBestRobot_known_iff.mpr (hn (by simpa using hbusy)) best hbest
  | dispatch th idNow stampNow =>
    rw [Allocation.step]
    split
    · exact h
    · exact fun call hcall => h call (List.mem_of_mem_erase hcall)
  | robotStatus msg | taskCompletion msg =>
    rw [Allocation.step]
    split <;> exact h
  | insertTask th => exact h
  | robotCompletes msg => exact h

theorem SelectedKnown.addressed (h : SelectedKnown numRobots s)
    (hn : NoStranger numRobots socWeight s ev) : Addressed numRobots socWeight s ev := by
  cases ev with
  | request th request => exact fun hbusy => selectBestRobot_known_iff.mpr (hn hbusy)
  | dispatch th idNow stampNow =>
    show throws numRobots s _ = false
    rw [throws]
    split
    · rfl
    · next call hcall =>
      simpa [Option.isSome_iff_ne_none] using h call (List.mem_of_find?_eq_some hcall)
  | _ => rfl

theorem Addressed.noStranger (h : Addressed numRobots socWeight s ev) :
    NoStranger numRobots socWeight s ev := by
  cases ev with
  | request th request => exact fun hbusy => selectBestRobot_known_iff.mp (h hbusy)
  | _ => trivial

/-- **A selected robot can be addressed**, and nothing is thrown, in the runs that serve no request
while the best of the idle robots is a stranger. -/
theorem selected_addressed (tasks : List TaskDoc) (es : List Event) :
    Run.Along (step numRobots socWeight) (Addressed numRobots socWeight) (.init tasks) es ↔
      Run.Along (step numRobots socWeight) (NoStranger numRobots socWeight) (.init tasks) es := by
  refine ⟨fun h => h.mono fun _ _ => Addressed.noStranger, fun h => ?_⟩
  have hinit : SelectedKnown numRobots (.init tasks) := by simp [SelectedKnown, State.init]
  exact h.of_invariant (fun _ _ hs hn => ⟨hs.step hn, hs.addressed hn⟩) hinit

/-! ## Names that are known -/

/-- The message carries a name that `robot_index_` has. -/
def KnownNames (numRobots : Nat) : Event → Prop
  | .robotStatus msg => robotIndex numRobots msg.robotId ≠ none
  | _ => True

/-- Every key of `latest_status_` is one of `robot_index_`. -/
def State.Known (numRobots : Nat) (s : State) : Prop :=
  ∀ r status, s.latestStatus[r]? = some status → robotIndex numRobots r ≠ none

theorem State.Known.step (h : s.Known numRobots) (hev : KnownNames numRobots ev) :
    (step numRobots socWeight s ev).Known numRobots := by
  cases ev with
  | robotStatus msg =>
    rw [Allocation.step]
    split
    · exact h
    · intro r status hr
      rw [robotStatusCb_getElem?] at hr
      split at hr
      · next hname => exact hname ▸ hev
      · exact h r status hr
  | request th request =>
    rw [Allocation.step]
    split
    · exact h
    · split <;> exact h
  | dispatch th idNow stampNow | taskCompletion msg =>
    rw [Allocation.step]
    split <;> exact h
  | insertTask th => exact h
  | robotCompletes msg => exact h

theorem State.Known.noStranger (h : s.Known numRobots) : NoStranger numRobots socWeight s ev := by
  cases ev with
  | request th request =>
    intro _ e he hstr
    exact absurd hstr.2 (h e.1 e.2 (StatusMap.mem_idle.mp he).1)
  | _ => trivial

/-- A `robot_status_cb` that kept only the messages of robots it has an index for would do. -/
theorem noStranger_of_knownNames (tasks : List TaskDoc) {es : List Event}
    (h : ∀ ev ∈ es, KnownNames numRobots ev) :
    Run.Along (step numRobots socWeight) (NoStranger numRobots socWeight) (.init tasks) es :=
  (Run.along_true.and_forall h).of_invariant (I := State.Known numRobots)
    (fun _ _ hs hev => ⟨hs.step hev.2, hs.noStranger⟩) (by simp [State.Known, State.init])

end

/-- The only robot of the server is `robot_1`; the status on its topic says `robot_9`. -/
def strangerRun : List Event :=
  [.robotStatus (statusAt "robot_9" 0 0 4), .request .executor (requestAt 0 4),
   .dispatch .executor 1 1]

instance {K : Type} [Add K] [Sub K] [Mul K] [LT K] [DecidableLT K] [RatCast K] [Sqrt K]
    (numRobots : Nat) (socWeight : K) (s : State) :
    ∀ ev, Decidable (Addressed numRobots socWeight s ev)
  | .request _ _ => inferInstanceAs (Decidable (_ → _))
  | .robotStatus _ | .dispatch _ _ _ | .insertTask _ | .robotCompletes _ | .taskCompletion _ =>
    inferInstanceAs (Decidable (_ = false))

theorem stranger_selected :
    ¬ Run.Along (step 1 (1 / 2 : ℚ)) (Addressed 1 (1 / 2 : ℚ)) (.init []) strangerRun ∧
    throws 1 (run 1 (1 / 2 : ℚ) [] (strangerRun.take 2)) (.dispatch .executor 1 1) = true := by
  decide +kernel

end FleetServer.Allocation
