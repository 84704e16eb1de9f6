import Mathlib.Data.List.Induction
import WarehouseFleet.RobotAgent.Agent

/-!
# Configuring the agent again

A lifecycle node is configured and activated, deactivated and cleaned up, and then it may be
configured once more. `on_cleanup` frees the tree, but the members of the node stay as they are,
and `on_configure` sets those that come from its parameters.

| here | there |
| --- | --- |
| `Lifecycle.constructed` | the member initializers (robot_agent_node.hpp:57-99) |
| `Lifecycle.connected`   | `task_sub_` and the action clients, from `on_configure` to `on_cleanup` |
| `Lifecycle.faultSrv`    | `fault_srv_`, which nothing resets |
| `onConfigure`           | `on_configure` (robot_agent_node.cpp:37-132); `loads`: the XML file does |
| `onActivate`            | `on_activate` (:136-153) |
| `onDeactivate`          | `on_deactivate` (:157-165) |
| `onCleanup`             | `on_cleanup` (:169-177) |

Whether `~Tree` halts the node that is RUNNING is up to the engine: `halts`.
-/

namespace RobotAgent

open BehaviorTree
open Fms

/-- The primary states of a lifecycle node. -/
inductive Primary where
  | unconfigured
  | inactive
  | active
deriving DecidableEq, Repr

structure Lifecycle where
  primary : Primary
  connected : Bool
  faultSrv : Bool
  agent : State

def Lifecycle.constructed : Lifecycle where
  primary := .unconfigured
  connected := false
  faultSrv := false
  agent :=
    { tree := none
      world :=
        { node :=
            { robotName := ""
              battery := BatteryModel.setSoc 100
              taskStartTime := 0
              lastBatteryUpdate := 0
              chargerPose := ⟨"", 0, Pose.default⟩
              pickDuration := 3
              dropDuration := 2 } } }

inductive LifecycleEvent where
  | configure (c : Config) (loads : Bool)
  | activate (now : Time)
  | deactivate
  | cleanup
  | callback (ev : Event)

/-- The parameters, and a new blackboard. -/
def configureNode (c : Config) (node : RobotAgentNode) : RobotAgentNode :=
  { node with
    robotName := c.robotName
    battery := BatteryModel.setSoc c.initialBatterySoc
    chargerPose := c.chargerPose
    pickPose := none
    dropPose := none
    pickDuration := c.pickDurationSecs
    dropDuration := c.dropDurationSecs }

def onConfigure (c : Config) (loads : Bool) (s : Lifecycle) : Lifecycle :=
  let node := configureNode c s.agent.world.node
  -- without a tree the transition fails, and the node is where it was
  { primary := if loads then .inactive else .unconfigured
    connected := true
    faultSrv := true
    agent := { s.agent with world := { s.agent.world with
      node := if loads then { node with lastBatteryUpdate := c.configuredAt } else node } } }

def onActivate (now : Time) (s : Lifecycle) : Lifecycle :=
  { s with
    primary := .active
    agent := { s.agent with world := { s.agent.world with
      node := { s.agent.world.node with taskStartTime := now } } } }

def onDeactivate (s : Lifecycle) : Lifecycle := { s with primary := .inactive }

/-- `halt` of the whole tree; `onHalted` asks the middleware nothing. -/
def haltTree : Option Path → World → World
  | none, w => w
  | some p, w => halt (sem (.down 0)) robotAgentMain p w

/-- The members of the BT nodes go with them. -/
def World.freeNodes (w : World) : World :=
  { w with nav := fun _ => none, recov := fun _ => {}, exec := fun _ => {} }

def onCleanup (halts : Bool) (s : Lifecycle) : Lifecycle :=
  let w := if halts then haltTree s.agent.tree s.agent.world else s.agent.world
  { s with primary := .unconfigured, connected := false, agent := ⟨none, w.freeNodes⟩ }

namespace Lifecycle

/-- The timers run while the node is active; the other callbacks need what they were given to. -/
def enabled (s : Lifecycle) : Event → Bool
  | .taskAssignment _ | .goalResponse _ _ | .goalResult _ _ => s.connected
  | .injectFault _ => s.faultSrv
  | .btTick _ | .batteryUpdate _ | .statusPublish _ _ => s.primary = .active

/-- A transition from another primary state is refused. -/
def step (halts : Bool) (s : Lifecycle) : LifecycleEvent → Lifecycle
  | .configure c loads => if s.primary = .unconfigured then onConfigure c loads s else s
  | .activate now => if s.primary = .inactive then onActivate now s else s
  | .deactivate => if s.primary = .active then onDeactivate s else s
  | .cleanup => if s.primary = .inactive then onCleanup halts s else s
  | .callback ev => if s.enabled ev then { s with agent := RobotAgent.step s.agent ev } else s

def run (halts : Bool) (es : List LifecycleEvent) : Lifecycle :=
  Run.run (step halts) constructed es

variable {halts : Bool}

theorem run_concat (es : List LifecycleEvent) (ev : LifecycleEvent) :
    run halts (es ++ [ev]) = step halts (run halts es) ev := Run.run_append ..

/-- Until it is deactivated the agent is the one that was configured. -/
theorem run_callbacks (c : Config) (es : List Event) :
    run halts (.configure c true :: .activate c.activatedAt :: es.map .callback) =
      ⟨.active, true, true, c.run es⟩ := by
  induction es using List.reverseRecOn with
  | nil => rfl
  | append_singleton es ev ih =>
    rw [List.map_append, ← List.cons_append, ← List.cons_append, List.map_singleton, run_concat, ih,
      c.run_concat, step, if_pos (by cases ev <;> rfl)]

end Lifecycle

end RobotAgent
