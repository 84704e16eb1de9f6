import WarehouseFleet.Collection
import WarehouseFleet.Msgs

/-!
# The `tasks` collection

| here | there |
| --- | --- |
| `taskTypeToString`, `taskResultToString` | task_utils.hpp |
| `TaskDoc`                 | a document of the `tasks` collection; a field that may be missing is an `Option` |
| `TaskRecord`              | mongo_store.hpp:16-23 |
| `insertTask`              | `MongoStore::insert_task` (mongo_store.cpp:80-106) |
| `updateTaskCompletion`    | `MongoStore::update_task_completion` (:108-124) |
| `findTask`                | `MongoStore::find_task` (:126-144) |

`mutex_` serialises the three, so each is one step of whoever calls it.
-/

namespace FleetServer

open Fms

def taskTypeToString (type : UInt8) : String :=
  if type = TaskAssignment.taskPick then "PICK"
  else if type = TaskAssignment.taskDrop then "DROP"
  else if type = TaskAssignment.taskCharge then "CHARGE"
  else "UNKNOWN"

def taskResultToString (result : UInt8) : String :=
  if result = TaskCompletion.resultSuccess then "COMPLETED"
  else if result = TaskCompletion.resultFailed then "FAILED"
  else if result = TaskCompletion.resultCancelled then "CANCELLED"
  else "UNKNOWN"

structure TaskDoc where
  taskId : String
  robotId : String
  taskType : Int
  taskTypeStr : String
  pickPose : Position
  dropPose : Position
  payloadId : String
  priority : Int
  deadlineSecs : ℚ
  status : String
  assignedStamp : Time
  result : Option Int := none
  durationSecs : Option ℚ := none
  errorMessage : Option String := none
  completedStamp : Option Time := none
deriving DecidableEq, Repr

structure TaskRecord where
  taskId : String
  robotId : String
  status : String
  result : Int
  durationSecs : ℚ
  errorMessage : String
deriving DecidableEq, Repr

namespace TaskDoc

/-- The document `insert_task` builds. -/
def ofAssignment (task : TaskAssignment) : TaskDoc where
  taskId := task.taskId
  robotId := task.robotId
  taskType := task.taskType.toNat
  taskTypeStr := taskTypeToString task.taskType
  pickPose := task.pickPose.position
  dropPose := task.dropPose.position
  payloadId := task.payloadId
  priority := task.priority.toNat
  deadlineSecs := task.deadlineSecs
  status := "ASSIGNED"
  assignedStamp := task.stamp

/-- The `$set` of `update_task_completion`. -/
def complete (completion : TaskCompletion) (doc : TaskDoc) : TaskDoc :=
  { doc with
    status := taskResultToString completion.result
    result := some completion.result.toNat
    durationSecs := some completion.durationSecs
    errorMessage := some completion.errorMessage
    completedStamp := some completion.stamp }

/-- What `find_task` reads from a document; a missing field keeps its default. -/
def record (doc : TaskDoc) : TaskRecord where
  taskId := doc.taskId
  robotId := doc.robotId
  status := doc.status
  result := doc.result.getD 0
  durationSecs := doc.durationSecs.getD 0
  errorMessage := doc.errorMessage.getD ""

end TaskDoc

namespace MongoStore

def insertTask (task : TaskAssignment) (tasks : List TaskDoc) : List TaskDoc :=
  Collection.insertOne (.ofAssignment task) tasks

def updateTaskCompletion (completion : TaskCompletion) (tasks : List TaskDoc) : List TaskDoc :=
  Collection.updateOne TaskDoc.taskId completion.taskId (.complete completion) tasks

def findTask (taskId : String) (tasks : List TaskDoc) : Option TaskRecord :=
  (Collection.findOne TaskDoc.taskId taskId tasks).map TaskDoc.record

end MongoStore

/-! ## The ledger the collection keeps -/

/-- What is known of each task. -/
abbrev Ledger := String → Option TaskRecord

namespace Ledger

/-- A task that nothing is known of is entered as ASSIGNED. -/
def assign (task : TaskAssignment) (ledger : Ledger) : Ledger := fun t =>
  (ledger t).or (if task.taskId = t then
    some ⟨task.taskId, task.robotId, "ASSIGNED", 0, 0, ""⟩ else none)

/-- The end of a known task is entered. -/
def complete (completion : TaskCompletion) (ledger : Ledger) : Ledger := fun t =>
  if t = completion.taskId then
    (ledger t).map fun rec =>
      { rec with
        status := taskResultToString completion.result
        result := completion.result.toNat
        durationSecs := completion.durationSecs
        errorMessage := completion.errorMessage }
  else ledger t

end Ledger

/-- The collection, seen through `find_task`. -/
def MongoStore.ledger (tasks : List TaskDoc) : Ledger := fun t => findTask t tasks

namespace MongoStore

theorem ledger_insertTask (task : TaskAssignment) (tasks : List TaskDoc) :
    ledger (insertTask task tasks) = (ledger tasks).assign task := by
  funext t
  rw [ledger, findTask, insertTask, Collection.findOne_insertOne, Option.map_or,
    apply_ite (Option.map TaskDoc.record)]
  rfl

theorem ledger_updateTaskCompletion (completion : TaskCompletion) (tasks : List TaskDoc) :
    ledger (updateTaskCompletion completion tasks) = (ledger tasks).complete completion := by
  funext t
  rw [ledger, findTask, updateTaskCompletion, Collection.findOne_updateOne (by exact fun _ => rfl),
    Ledger.complete]
  split
  · rw [ledger, findTask, Option.map_map, Option.map_map]
    rfl
  · rfl

end MongoStore

end FleetServer
