import WarehouseFleet.BehaviorTree.Preserves
import WarehouseFleet.BehaviorTree.Outline
import WarehouseFleet.Trace
import WarehouseFleet.Msgs
import WarehouseFleet.RobotAgent.Fsm
import WarehouseFleet.RobotAgent.Battery
import WarehouseFleet.RobotAgent.World
import WarehouseFleet.RobotAgent.Agent
import WarehouseFleet.RobotAgent.LeafCases
import WarehouseFleet.RobotAgent.Tick
import WarehouseFleet.RobotAgent.Invariant
import WarehouseFleet.RobotAgent.Charging
import WarehouseFleet.RobotAgent.TaskOrder
import WarehouseFleet.RobotAgent.TaskConservation
import WarehouseFleet.RobotAgent.Completions
import WarehouseFleet.RobotAgent.FsmCoherence
import WarehouseFleet.RobotAgent.BatteryPriority
import WarehouseFleet.RobotAgent.Motion
import WarehouseFleet.RobotAgent.LegOrder
import WarehouseFleet.FleetServer.TaskRecords
import WarehouseFleet.FleetServer.TaskAllocator
import WarehouseFleet.FleetServer.Allocation
import WarehouseFleet.FleetServer.Requests
import WarehouseFleet.FleetServer.ConsumeLoop
import WarehouseFleet.RobotAgent.NavCycles
import WarehouseFleet.RobotAgent.RecoveryOutcome
import WarehouseFleet.RobotAgent.RecoveryAnswered
import WarehouseFleet.RobotAgent.MotionFlag
import WarehouseFleet.RobotAgent.View
import WarehouseFleet.RobotAgent.Faults
import WarehouseFleet.RobotAgent.Passes
import WarehouseFleet.FleetServer.Addressing
import WarehouseFleet.FleetServer.NumericFields
import WarehouseFleet.Clamp
import WarehouseFleet.RobotAgent.BatteryAccounting
import WarehouseFleet.RobotAgent.Lifecycle
import WarehouseFleet.BehaviorTree.Simulation
import WarehouseFleet.RobotAgent.Restart
import WarehouseFleet.RobotAgent.RetryRun
import WarehouseFleet.RobotAgent.RetryCounts
import WarehouseFleet.RobotAgent.RetryBound
import WarehouseFleet.Topic
import WarehouseFleet.RobotAgent.Messages
import WarehouseFleet.Fleet.Links
import WarehouseFleet.Fleet.Refinement
import WarehouseFleet.Fleet.Custody
import WarehouseFleet.Fleet.Selection
import WarehouseFleet.Fleet.Books
import WarehouseFleet.Moves
import WarehouseFleet.Rpc
import WarehouseFleet.RobotAgent.FaultCounts
import WarehouseFleet.Fleet.Commands
import WarehouseFleet.Amqp
import WarehouseFleet.FleetServer.QueueTopology
import WarehouseFleet.FleetServer.TaskQueues
import WarehouseFleet.FleetServer.ConsumeCalls
import WarehouseFleet.RobotAgent.Durations
import WarehouseFleet.FleetServer.StatusStore
import WarehouseFleet.Fleet.Answers
import WarehouseFleet.RobotAgent.Ticks
import WarehouseFleet.RobotAgent.Service
import WarehouseFleet.RobotAgent.Home
import WarehouseFleet.Fleet.Rest
import WarehouseFleet.Fleet.Losses
import WarehouseFleet.RobotAgent.Cargo
import WarehouseFleet.Fleet.Cargo
