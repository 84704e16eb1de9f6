import WarehouseFleet.Run
import WarehouseFleet.RobotAgent.Agent
import WarehouseFleet.RobotAgent.LeafCases

/-!
# Results reach the goal they belong to

The three `NavigateToPose` nodes on their own: any parent ticks and halts them in any order, and
the answers to their goals come at any time, in any order, for any goal that was sent. `Cycle` is
what an observer knows of a node's latest goal; the `NavState` of a RUNNING node is that and
nothing else (`Truthful`).

| here | there |
| --- | --- |
| `NavSystem.running`    | `status() == RUNNING` |
| `Event.tick`, `.halt`  | `StatefulActionNode::tick`, `halt`: `onStart`, or `onRunning` and `onHalted` when RUNNING |
| `Event.injectFault`, `.goalResponse`, `.goalResult` | the callbacks of the agent |
| `Event.elsewhere`      | all that the rest of the agent does: it sets ports, sends goals of its own |
-/

namespace RobotAgent.NavCycles

open BehaviorTree (NodeStatus)
open Fms

structure NavSystem where
  running : NavNode → Bool := fun _ => false
  world : World

inductive Event where
  | tick (e : TickEnv) (n : NavNode)
  | halt (e : TickEnv) (n : NavNode)
  | injectFault (data : Bool)
  | goalResponse (g : Nat) (accepted : Bool)
  | goalResult (g : Nat) (code : ResultCode)
  | elsewhere (node : RobotAgentNode) (goals : Nat) (entries : List Obs)

/-- The entry is none of those the nodes and the callbacks of this module make. -/
def foreign : Obs → Bool
  | .fault _ | .response _ _ | .result _ _ | .navGoal _ _ _ => false
  | .posted (.navigateToPose _) _ => false
  | _ => true

/-- A call of the node's `tick` or `halt` has ended. -/
def NavSystem.called (s : NavSystem) (n : NavNode) (running : Bool) (w : World) : NavSystem where
  running := Function.update s.running n running
  world := w

def step (s : NavSystem) : Event → NavSystem
  | .tick e n =>
    let action := sem e (.navigateToPose n)
    let r := if s.running n then action.onRunning s.world else action.onStart s.world
    s.called n (r.1 = .running) r.2
  | .halt e n =>
    if s.running n then s.called n false ((sem e (.navigateToPose n)).onHalted s.world) else s
  | .injectFault data => { s with world := faultServiceCb data s.world }
  | .goalResponse g accepted =>
    if g < s.world.nextGoal then { s with world := goalResponse g accepted s.world } else s
  | .goalResult g code =>
    if g < s.world.nextGoal then { s with world := goalResult g code s.world } else s
  | .elsewhere node goals entries =>
    { s with world := { s.world with
        node := { node with faultInjected := s.world.node.faultInjected }
        nextGoal := s.world.nextGoal + goals
        trace := s.world.trace ++ entries.filter foreign } }

def run (node : RobotAgentNode) (es : List Event) : NavSystem :=
  Run.run step { world := { node } } es

/-! ## What an observer knows of the latest goal -/

structure Cycle where
  goal : Nat
  response : Option Bool := none
  result : Option ResultCode := none
  /-- how the node said the navigation ended -/
  ends : List FsmEvent := []
deriving DecidableEq

def isEnd (ev : FsmEvent) : Bool :=
  ev = .navSucceeded || ev = .navFailed || ev = .faultInjected

/-- The latest cycle of node `n` after one more entry. -/
def Cycle.see (n : NavNode) (c : Option Cycle) : Obs → Option Cycle
  | .navGoal n' g _ => if n' = n then some { goal := g } else c
  | .response g accepted =>
    c.map fun c => if c.goal = g then { c with response := some accepted } else c
  | .result g code => c.map fun c => if c.goal = g then { c with result := some code } else c
  | .posted (.navigateToPose n') ev =>
    if n' = n ∧ isEnd ev then c.map fun c => { c with ends := c.ends ++ [ev] } else c
  | _ => c

/-- The latest cycle of node `n`: its goal is that of the latest `onStart`. -/
def cycle (n : NavNode) (tr : List Obs) : Option Cycle := tr.foldl (Cycle.see n) none

/-- What a tick of a RUNNING node returns and leaves in the trace. -/
inductive Attributed (n : NavNode) (before after : World) : NodeStatus → Prop where
  | running (c : Cycle) (hc : cycle n before.trace = some c) (hends : c.ends = [])
      (hafter : cycle n after.trace = some c) : Attributed n before after .running
  | succeeded (c : Cycle) (hc : cycle n before.trace = some c) (haccepted : c.response = some true)
      (hresult : c.result = some .succeeded)
      (hafter : cycle n after.trace = some { c with ends := [.navSucceeded] }) :
      Attributed n before after .success
  | rejected (c : Cycle) (hc : cycle n before.trace = some c) (hrejected : c.response = some false)
      (hafter : cycle n after.trace = some { c with ends := [.navFailed] }) :
      Attributed n before after .failure
  | missed (c : Cycle) (hc : cycle n before.trace = some c) (code : ResultCode)
      (haccepted : c.response = some true) (hresult : c.result = some code)
      (hcode : code ≠ .succeeded)
      (hafter : cycle n after.trace = some { c with ends := [.navFailed] }) :
      Attributed n before after .failure
  | fault (c : Cycle) (hc : cycle n before.trace = some c)
      (hbefore : before.node.faultInjected = true) (hcleared : after.node.faultInjected = false)
      (hafter : cycle n after.trace = some { c with ends := [.faultInjected] }) :
      Attributed n before after .failure

/-- Every tick of a RUNNING node is attributed to its latest goal, and no cycle ends twice. -/
structure AllAttributed (s : NavSystem) : Prop where
  tick : ∀ n e, s.running n = true →
    Attributed n s.world ((sem e (.navigateToPose n)).onRunning s.world).2
      ((sem e (.navigateToPose n)).onRunning s.world).1
  once : ∀ n c, cycle n s.world.trace = some c → c.ends.length ≤ 1

/-! ## The entries of one step -/

section
variable {n n' : NavNode} {tr : List Obs} {c : Option Cycle}

@[simp] theorem cycle_append (tr new : List Obs) :
    cycle n (tr ++ new) = new.foldl (Cycle.see n) (cycle n tr) := List.foldl_append

/-- Entries that tell an observer nothing about the node. -/
theorem cycle_append_of {new : List Obs} (h : ∀ o ∈ new, ∀ c, Cycle.see n c o = c) :
    cycle n (tr ++ new) = cycle n tr := by
  rw [cycle_append]
  generalize cycle n tr = c
  induction new with
  | nil => rfl
  | cons o new ih =>
    rw [List.foldl_cons, h o (by simp), ih fun o' ho' => h o' (by simp [ho'])]

theorem see_foreign {o : Obs} (h : foreign o = true) : Cycle.see n c o = c := by
  cases o with
  | posted l ev => cases l <;> first | rfl | cases h
  | fault | response | result | navGoal => cases h
  | _ => rfl

@[simp] theorem see_posted_of_ne (h : n' ≠ n) (ev : FsmEvent) :
    Cycle.see n c (.posted (.navigateToPose n') ev) = c := by
  simp [Cycle.see, h]

@[simp] theorem see_returned (l : Leaf) (st : NodeStatus) :
    Cycle.see n c (.returned l st) = c := rfl

@[simp] theorem see_halted (l : Leaf) : Cycle.see n c (.halted l) = c := rfl

@[simp] theorem see_fault (value : Bool) : Cycle.see n c (.fault value) = c := rfl

@[simp] theorem see_navStarted (l : Leaf) : Cycle.see n c (.posted l .navStarted) = c := by
  cases l <;> simp [Cycle.see, isEnd]

/-- `onHalted` tells an observer of the goals nothing. -/
@[simp] theorem cycle_onHalted (w : World) :
    cycle n (NavigateToPose.onHalted n' w).trace = cycle n w.trace := by
  refine cycle_append_of fun o ho c => ?_
  obtain ⟨g, -, rfl⟩ := List.mem_map.mp ho
  rfl

@[simp] theorem cycle_clearFault (w : World) :
    cycle n w.clearFault.trace = cycle n w.trace := rfl

end

/-! ## The state of a RUNNING node -/

/-- What the callbacks have told the node. -/
def Cycle.toNavState (c : Cycle) : NavState where
  goal := c.goal
  responseReceived := c.response.isSome
  goalAccepted := c.response.getD false
  resultReceived := c.result.isSome
  resultCode := c.result.getD .unknown
  goalHandle := if c.response = some true then some c.goal else none

theorem toNavState_onResponse (c : Cycle) (g : Nat) (accepted : Bool) :
    c.toNavState.onResponse g accepted =
      (if c.goal = g then { c with response := some accepted } else c).toNavState := by
  by_cases h : c.goal = g
  · subst h
    cases accepted <;> simp [Cycle.toNavState, NavState.onResponse]
  · simp [Cycle.toNavState, NavState.onResponse, h]

theorem toNavState_onResult (c : Cycle) (g : Nat) (code : ResultCode) :
    c.toNavState.onResult g code =
      (if c.goal = g then { c with result := some code } else c).toNavState := by
  by_cases h : c.goal = g <;> simp [Cycle.toNavState, NavState.onResult, h]

/-- The node is in a cycle that has not ended, and knows what its callbacks were told. -/
def InCycle (n : NavNode) (w : World) : Prop :=
  ∃ c, cycle n w.trace = some c ∧ w.nav n = some c.toNavState ∧ c.ends = []

structure Truthful (s : NavSystem) : Prop where
  nav : ∀ n, s.running n = true → InCycle n s.world
  once : ∀ n c, cycle n s.world.trace = some c → c.ends.length ≤ 1

theorem see_end (n : NavNode) (c : Cycle) {ev : FsmEvent} (hev : isEnd ev = true) :
    Cycle.see n (some c) (.posted (.navigateToPose n) ev) =
      some { c with ends := c.ends ++ [ev] } := by
  simp [Cycle.see, hev]

theorem accepted_of {c : Cycle} (h : c.toNavState.goalAccepted = true) :
    c.response = some true := by
  cases hr : c.response <;> simp_all [Cycle.toNavState]

theorem result_of {c : Cycle} {code : ResultCode} (h : c.toNavState.resultReceived = true)
    (hcode : c.toNavState.resultCode = code) : c.result = some code := by
  cases hr : c.result <;> simp_all [Cycle.toNavState]

theorem InCycle.attributed {n : NavNode} {w : World} (h : InCycle n w) (e : TickEnv) :
    Attributed n w ((sem e (.navigateToPose n)).onRunning w).2
      ((sem e (.navigateToPose n)).onRunning w).1 := by
  obtain ⟨c, hc, hnav, hends⟩ := h
  dsimp only [sem, returns]
  generalize hr : NavigateToPose.onRunning n w = r
  have hend : ∀ ev, isEnd ev = true →
      Cycle.see n (some c) (.posted (.navigateToPose n) ev) = some { c with ends := [ev] } := by
    intro ev hev
    rw [see_end n c hev, hends, List.nil_append]
  cases hr ▸ NavigateToPose.runs w n with
  | fault hf =>
    exact .fault c hc hf rfl (by simp [hc, hend .faultInjected rfl])
  | gone hf hs => simp [hnav] at hs
  | waiting s hf hs hr => exact .running c hc hends (by simp [hc])
  | rejected s hf hs hr ha =>
    obtain rfl := Option.some.inj (hs.symm.trans hnav)
    have hresp : c.response = some false := by
      obtain ⟨b, hb⟩ := Option.isSome_iff_exists.mp hr
      simpa [Cycle.toNavState, hb] using ha
    exact .rejected c hc hresp (by simp [NavigateToPose.finish, hc, hend .navFailed rfl])
  | reached s hf hs hr ha hd hcode =>
    obtain rfl := Option.some.inj (hs.symm.trans hnav)
    exact .succeeded c hc (accepted_of ha) (result_of hd hcode)
      (by simp [NavigateToPose.finish, hc, hend .navSucceeded rfl])
  | missed s hf hs hr ha hd hcode =>
    obtain rfl := Option.some.inj (hs.symm.trans hnav)
    exact .missed c hc _ (accepted_of ha) (result_of hd rfl) hcode
      (by simp [NavigateToPose.finish, hc, hend .navFailed rfl])

/-! ## The steps -/

theorem InCycle.frame {n : NavNode} {w w' : World} (h : InCycle n w)
    (hc : cycle n w'.trace = cycle n w.trace) (hnav : w'.nav n = w.nav n) : InCycle n w' := by
  obtain ⟨c, hcycle, hn, hends⟩ := h
  exact ⟨c, hc.trans hcycle, hnav.trans hn, hends⟩

/-- A tick of one node tells an observer of another one nothing. -/
theorem cycle_onRunning {n n' : NavNode} (hne : n' ≠ n) (e : TickEnv) (w : World) :
    cycle n' ((sem e (.navigateToPose n)).onRunning w).2.trace = cycle n' w.trace := by
  dsimp only [sem, returns]
  generalize hr : NavigateToPose.onRunning n w = r
  cases hr ▸ NavigateToPose.runs w n with
  | fault hf => simp [hne.symm]
  | gone hf hs => simp
  | waiting s hf hs hr => simp
  | rejected s hf hs hr ha => simp [NavigateToPose.finish, hne.symm]
  | reached s hf hs hr ha hd hc => simp [NavigateToPose.finish, hne.symm]
  | missed s hf hs hr ha hd hc => simp [NavigateToPose.finish, hne.symm]

theorem Attributed.cycle_eq {n : NavNode} {w w' : World} {st : NodeStatus}
    (h : Attributed n w w' st) (hst : st = .running) :
    cycle n w'.trace = cycle n w.trace := by
  cases h with
  | running c hc hends hafter => exact hafter.trans hc.symm
  | _ => cases hst

theorem Attributed.once {n : NavNode} {w w' : World} {st : NodeStatus}
    (h : Attributed n w w' st) {c : Cycle} (hc : cycle n w'.trace = some c) :
    c.ends.length ≤ 1 := by
  cases h with
  | running c' hc' hends hafter =>
    obtain rfl := Option.some.inj (hafter.symm.trans hc)
    simp [hends]
  | succeeded c' _ _ _ hafter | rejected c' _ _ hafter | missed c' _ _ _ _ _ hafter
  | fault c' _ _ _ hafter =>
    obtain rfl := Option.some.inj (hafter.symm.trans hc)
    exact le_rfl

/-- One node was called: the others saw nothing of it. -/
theorem Truthful.called {s : NavSystem} (h : Truthful s) {n : NavNode} {running : Bool} {w : World}
    (hother : ∀ n' ≠ n, cycle n' w.trace = cycle n' s.world.trace ∧ w.nav n' = s.world.nav n')
    (hself : running = true → InCycle n w)
    (honce : ∀ c, cycle n w.trace = some c → c.ends.length ≤ 1) :
    Truthful (s.called n running w) where
  nav n' hn' := by
    by_cases hne : n' = n
    · subst hne
      exact hself (by simpa [NavSystem.called] using hn')
    · obtain ⟨hc, hnav⟩ := hother n' hne
      exact (h.nav n' (by simpa [NavSystem.called, hne] using hn')).frame hc hnav
  once n' c hc := by
    by_cases hne : n' = n
    · subst hne
      exact honce c hc
    · exact h.once n' c ((hother n' hne).1 ▸ hc)

theorem Truthful.onRunning {s : NavSystem} (h : Truthful s) (e : TickEnv) {n : NavNode}
    (hn : s.running n = true) :
    let r := (sem e (.navigateToPose n)).onRunning s.world
    Truthful (s.called n (r.1 = .running) r.2) := by
  have hatt := (h.nav n hn).attributed e
  refine h.called (fun n' hne => ⟨cycle_onRunning hne e s.world, ?_⟩) (fun hst => ?_)
    fun c => hatt.once
  · exact (NavigateToPose.runs s.world n).nav_of_ne hne
  · replace hst := of_decide_eq_true hst
    refine (h.nav n hn).frame (hatt.cycle_eq hst) ?_
    exact congrFun (congrArg World.nav ((NavigateToPose.runs s.world n).eq_of_running hst)) n

theorem Truthful.onStart {s : NavSystem} (h : Truthful s) (e : TickEnv) (n : NavNode) :
    let r := (sem e (.navigateToPose n)).onStart s.world
    Truthful (s.called n (r.1 = .running) r.2) := by
  dsimp only [sem, returns]
  obtain ⟨hr, -⟩ | ⟨goal, -, -, hr⟩ := NavigateToPose.onStart_cases e s.world n
  · rw [hr]
    exact h.called (fun n' _ => ⟨by simp, rfl⟩) (fun hst => by cases hst)
      fun c hc => h.once n c (by simpa using hc)
  · rw [hr]
    -- a fresh goal, of which nothing is known yet
    have hcycle : cycle n (NavigateToPose.send e n goal s.world).trace =
        some { goal := s.world.nextGoal } := by
      rw [NavigateToPose.send_trace]
      simp [Cycle.see, isEnd]
    refine h.called (fun n' hne => ⟨?_, ?_⟩) (fun _ => ⟨_, by simpa using hcycle, ?_, rfl⟩)
      fun c hc => ?_
    · rw [World.emit_trace, NavigateToPose.send_trace]
      simp [Cycle.see, isEnd, hne.symm]
    · simp [hne]
    · simp [Cycle.toNavState]
    · obtain rfl : { goal := s.world.nextGoal } = c := by simpa [hcycle] using hc
      simp

theorem Truthful.onHalted {s : NavSystem} (h : Truthful s) (e : TickEnv) (n : NavNode) :
    Truthful (s.called n false ((sem e (.navigateToPose n)).onHalted s.world)) := by
  refine h.called (fun n' hne => ⟨?_, ?_⟩) (fun hst => by cases hst) fun c hc => h.once n c ?_
  · simp [sem, haltOnly]
  · simp [sem, haltOnly, hne]
  · simpa [sem, haltOnly] using hc

/-- An answer that the observer and the nodes take in alike. -/
theorem Truthful.answered {s : NavSystem} (h : Truthful s) {w : World} (f : Cycle → Cycle)
    (f' : NavState → NavState) (hcycle : ∀ n, cycle n w.trace = (cycle n s.world.trace).map f)
    (hnav : ∀ n, w.nav n = (s.world.nav n).map f')
    (hf : ∀ c : Cycle, f' c.toNavState = (f c).toNavState) (hends : ∀ c, (f c).ends = c.ends) :
    Truthful { s with world := w } where
  nav n hn := by
    obtain ⟨c, hc, hst, hnil⟩ := h.nav n hn
    exact ⟨f c, by rw [hcycle, hc]; rfl, by rw [hnav, hst, Option.map_some, hf],
      (hends c).trans hnil⟩
  once n c hc := by
    rw [hcycle] at hc
    obtain ⟨c', hc', rfl⟩ := Option.map_eq_some_iff.mp hc
    rw [hends]
    exact h.once n c' hc'

/-- No node hears of it. -/
theorem Truthful.frame {s : NavSystem} (h : Truthful s) {w : World}
    (hcycle : ∀ n, cycle n w.trace = cycle n s.world.trace) (hnav : w.nav = s.world.nav) :
    Truthful { s with world := w } :=
  h.answered id id (by simpa using hcycle) (by simp [hnav]) (fun _ => rfl)
    fun _ => rfl

theorem Truthful.step {s : NavSystem} (h : Truthful s) (ev : Event) : Truthful (step s ev) := by
  cases ev with
  | tick e n =>
    cases hn : s.running n with
    | true => simpa [NavCycles.step, hn] using h.onRunning e hn
    | false => simpa [NavCycles.step, hn] using h.onStart e n
  | halt e n =>
    rw [NavCycles.step]
    split
    · exact h.onHalted e n
    · exact h
  | injectFault data =>
    refine h.frame (fun n => ?_) ?_
    · cases data <;> simp [faultServiceCb]
    · cases data <;> rfl
  | goalResponse g accepted =>
    rw [NavCycles.step]
    split
    · refine h.answered _ _ (fun n => ?_) (fun n => rfl)
        (fun c => toNavState_onResponse c g accepted) fun c => ?_
      · simp [goalResponse, Cycle.see]
      · split <;> rfl
    · exact h
  | goalResult g code =>
    rw [NavCycles.step]
    split
    · refine h.answered _ _ (fun n => ?_) (fun n => rfl) (fun c => toNavState_onResult c g code)
        fun c => ?_
      · simp [goalResult, Cycle.see]
      · split <;> rfl
    · exact h
  | elsewhere node goals entries =>
    refine h.frame (fun n => cycle_append_of fun o ho c => ?_) rfl
    exact see_foreign (List.mem_filter.mp ho).2

theorem truthful_run (node : RobotAgentNode) (es : List Event) : Truthful (run node es) :=
  Run.run_invariant (I := Truthful) (fun _ ev h => h.step ev)
    ⟨fun n hn => by simp at hn, fun n c hc => by simp [cycle] at hc⟩

/-- **Results are those of the latest goal**, whatever late answers come. -/
theorem results_attributed (node : RobotAgentNode) (es : List Event) :
    AllAttributed (run node es) :=
  have h := truthful_run node es
  ⟨fun n e hn => (h.nav n hn).attributed e, h.once⟩

/-- The result may come before the response. -/
example : cycle .toCharger (run Config.sample.init.world.node
    [.tick (.up 0) .toCharger, .goalResult 0 .succeeded, .goalResponse 0 true,
     .tick (.up 1) .toCharger]).world.trace =
    some ⟨0, some true, some .succeeded, [.navSucceeded]⟩ := by decide +kernel

end RobotAgent.NavCycles
