import Provisioner.Resource.Adapter
import Provisioner.Task
import Provisioner.Text.Parts
/-!
# Metric views

A metric view is managed by SQL alone: it is created, described and dropped by statements that name
it by its three parts. Each part is quoted, so whatever characters it has, it stays one identifier
of the statement.
-/

namespace Provisioner.MetricView

open Api (StatementStatus)
open Json (Codec Field)
open Space (IdSupply)

structure State where
  warehouseId : String
  name : String
  catalogName : String
  schemaName : String
  /-- The definition of the view, in YAML. -/
  yamlSpecification : String
  /-- The full name of the view. -/
  id : Option String
deriving DecidableEq, Repr

/-! ### Names -/

/-- A part of a name between back-quotes, with the back-quotes in it doubled. -/
def quoteIdentifier (part : String) : String :=
  String.ofList ('\x60' :: (part.toList.flatMap quoteChar ++ ['\x60']))
where
  quoteChar (c : Char) : List Char := if c = '\x60' then ['\x60', '\x60'] else [c]

namespace State

def fields : List Field :=
  [.defaulting "warehouse_id" .string "", .defaulting "name" .string "",
   .defaulting "catalog_name" .string "", .defaulting "schema_name" .string "",
   .defaulting "yaml_specification" .string "", .optional "id" .string]

def codec : Codec State :=
  (Codec.record "MetricViewModel" fields).map
    (fun (warehouseId, name, catalogName, schemaName, yamlSpecification, id, ()) =>
      ⟨warehouseId, name, catalogName, schemaName, yamlSpecification, id⟩)
    (fun s => (s.warehouseId, s.name, s.catalogName, s.schemaName, s.yamlSpecification, s.id, ()))

def fullName (s : State) : String := s.catalogName ++ "." ++ s.schemaName ++ "." ++ s.name

/-- The name as it stands in a statement. -/
def sqlName (s : State) : String :=
  quoteIdentifier s.catalogName ++ "." ++ quoteIdentifier s.schemaName ++ "." ++
    quoteIdentifier s.name

/-! ### Statements -/

/-- The statement that creates the view, or puts it in the place of an older one. -/
def createStatement (s : State) (orReplace : Bool) : String :=
  (if orReplace then "CREATE OR REPLACE" else "CREATE") ++ " METRIC VIEW " ++ s.sqlName ++
    " AS\n" ++ s.yamlSpecification ++ ";"

def describeStatement (s : State) : String := "DESCRIBE EXTENDED " ++ s.sqlName ++ ";"

def dropStatement (s : State) : String := "DROP METRIC VIEW IF EXISTS " ++ s.sqlName ++ ";"

end State

/-! ### The resource -/

/-- What a message contains when a view does not exist. -/
def missingMarkers : List String := ["TABLE_OR_VIEW_NOT_FOUND", "RESOURCE_DOES_NOT_EXIST"]

def hasMissingMarker (message : String) : Bool :=
  missingMarkers.any fun marker => Text.occursIn marker message

/-- The failure of an `action` whose statement did not succeed, if it did not. -/
def outcome (action : String) : Except ApiError StatementStatus → Except Failure Unit
  | .error e => .error (.api action e)
  | .ok status => status.require action

def create (wait : Nat) (_ : IdSupply) (plan : State) : Task State :=
  .statement wait plan.warehouseId (plan.createStatement false) fun answer =>
    (outcome "failed to create metric view" answer).map fun () =>
      { plan with id := some plan.fullName }

/-- Whether the view exists is told by the error of the call or by the message of the statement. -/
def read (wait : Nat) (state : State) : Task (Refreshed State) :=
  .statement wait state.warehouseId state.describeStatement fun
    | .error e =>
        if e.isMissing || hasMissingMarker e.message then .ok .removed
        else .error (.api "failed to read metric view" e)
    | .ok status =>
        match status.require "failed to read metric view" with
        | .ok () => .ok (.found state)
        | .error f => if hasMissingMarker f.message then .ok .removed else .error f

def update (wait : Nat) (_ : IdSupply) (prior plan : State) : Task State :=
  .statement wait plan.warehouseId (plan.createStatement true) fun answer =>
    (outcome "failed to update metric view" answer).map fun () =>
      { plan with id := prior.id.or (some plan.fullName) }

def delete (wait : Nat) (state : State) : Task Unit :=
  .statement wait state.warehouseId state.dropStatement fun answer =>
    match outcome "failed to delete metric view" answer with
    | .error f => if f.isMissing then .ok () else .error f
    | .ok () => .ok ()

/-- The three parts of a full name: two up to the first two dots, and all the rest. -/
def parts? (id : String) : Option (String × String × String) := do
  let (catalogName, rest) ← Text.splitOnce '.' id
  let (schemaName, name) ← Text.splitOnce '.' rest
  return (catalogName, schemaName, name)

def importState (id : String) : Except Failure State :=
  match parts? id with
  | some (catalogName, schemaName, name) => .ok ⟨"", name, catalogName, schemaName, "", some id⟩
  | none =>
      .error (.validation ("expected format: catalog_name.schema_name.name, got: " ++ id))

def adapter (wait : Nat) : Adapter State where
  typeName := "metric_view"
  codec := State.codec
  create := create wait
  read := read wait
  update := update wait
  delete := delete wait
  importState := importState

end Provisioner.MetricView
