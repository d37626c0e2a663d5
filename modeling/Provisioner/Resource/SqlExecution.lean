import Provisioner.Resource.Adapter
import Provisioner.Task
/-!
# Objects managed by statements of the user

The user gives the statements that create an object, probe for it and remove it. The resource runs
them and keeps the name of the object. A probe that does not succeed means that the object is gone.
-/

namespace Provisioner.SqlExecution

open Json (Codec Field)
open Space (IdSupply)

structure State where
  warehouseId : String
  createSql : String
  readSql : String
  destroySql : String
  objectName : String
  /-- The name of the object once it was created or imported. -/
  id : Option String
deriving DecidableEq, Repr

namespace State

def fields : List Field :=
  [.defaulting "warehouse_id" .string "", .defaulting "create_sql" .string "",
   .defaulting "read_sql" .string "", .defaulting "destroy_sql" .string "",
   .defaulting "object_name" .string "", .optional "id" .string]

def codec : Codec State :=
  (Codec.record "SqlExecutionModel" fields).map
    (fun (warehouseId, createSql, readSql, destroySql, objectName, id, ()) =>
      ⟨warehouseId, createSql, readSql, destroySql, objectName, id⟩)
    (fun s => (s.warehouseId, s.createSql, s.readSql, s.destroySql, s.objectName, s.id, ()))

end State

def create (wait : Nat) (_ : IdSupply) (plan : State) : Task State :=
  .statement wait plan.warehouseId plan.createSql fun
    | .error e => .error (.api "failed to execute create SQL statement" e)
    | .ok status =>
        (status.require "create SQL statement did not succeed").map fun () =>
          { plan with id := some plan.objectName }

def read (wait : Nat) (state : State) : Task (Refreshed State) :=
  .statement wait state.warehouseId state.readSql fun
    | .error e =>
        if e.isMissing then .ok .removed
        else .error (.api "failed to execute read SQL statement" e)
    | .ok status =>
        match status.require "read SQL statement did not succeed" with
        | .ok () => .ok (.found state)
        | .error _ => .ok .removed

/-- An update only takes over the plan: the object itself is not touched. -/
def update (_ : IdSupply) (prior plan : State) : Task State :=
  .done (.ok { plan with id := prior.id })

def delete (wait : Nat) (state : State) : Task Unit :=
  .statement wait state.warehouseId state.destroySql fun
    | .error e =>
        if e.isMissing then .ok ()
        else .error (.api "failed to execute destroy SQL statement" e)
    | .ok status => status.require "destroy SQL statement did not succeed"

def importState (id : String) : Except Failure State :=
  .ok ⟨"", "", "", "", id, some id⟩

def adapter (wait : Nat) : Adapter State where
  typeName := "sql_execution"
  codec := State.codec
  create := create wait
  read := read wait
  update := update
  delete := delete wait
  importState := importState

end Provisioner.SqlExecution
