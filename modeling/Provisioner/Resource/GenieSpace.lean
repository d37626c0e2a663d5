import Provisioner.Resource.Adapter
import Provisioner.Space.Document
/-!
# Genie spaces

A space has a few scalar fields and a document with its tables and sample questions. Every write
sends a document made from the plan alone. Every read takes the scalar fields and the contents of the
document from the workspace, so that edits made elsewhere show in the state. Only the folder of a
space is never read back.
-/

namespace Provisioner.GenieSpace

open Json (Codec Field)
open Space (Contents IdSupply)

structure State where
  /-- The identifier under which the space is managed; set by a create or an import. -/
  id : Option String
  title : String
  warehouseId : String
  description : Option String
  /-- The folder of the space, which is sent with a create only. -/
  parentPath : Option String
  /-- The identifier that the workspace gave with its last answer. -/
  spaceId : Option String
  tables : List String
  sampleQuestions : List String
deriving DecidableEq, Repr

namespace State

def fields : List Field :=
  [.optional "id" .string, .required "title" .string, .required "warehouse_id" .string,
   .optional "description" .string, .optional "parent_path" .string,
   .optional "space_id" .string, .defaulting "tables" (.list .string) [],
   .defaulting "sample_questions" (.list .string) []]

def codec : Codec State :=
  (Codec.record "GenieSpaceModel" fields).map
    (fun (id, title, warehouseId, description, parentPath, spaceId, tables, sampleQuestions, ()) =>
      ⟨id, title, warehouseId, description, parentPath, spaceId, tables, sampleQuestions⟩)
    (fun s => (s.id, s.title, s.warehouseId, s.description, s.parentPath, s.spaceId, s.tables,
      s.sampleQuestions, ()))

def contents (s : State) : Contents := ⟨s.tables, s.sampleQuestions⟩

/-- The identifier of a space that was created or imported. -/
def requireId (s : State) : Except Failure String :=
  match s.id with
  | some id => if id.isEmpty then idUnset else .ok id
  | none => idUnset
where
  idUnset : Except Failure String := .error (.validation "genie space id is not set")

/-- The state of a space that exists under an identifier and about which nothing else is known. -/
def imported (id : String) : State := ⟨some id, "", "", none, none, none, [], []⟩

end State

/-! ### The resource -/

/-- What is sent to create a space by a plan. -/
def createRequest (ids : IdSupply) (plan : State) : Api.CreateSpace where
  title := plan.title
  warehouseId := plan.warehouseId
  description := plan.description.getD ""
  parentPath := plan.parentPath.getD ""
  document := plan.contents.encode ids

/-- What is sent to change the space with an identifier by a plan. -/
def updateRequest (ids : IdSupply) (spaceId : String) (plan : State) : Api.UpdateSpace where
  spaceId := spaceId
  title := plan.title
  warehouseId := plan.warehouseId
  description := plan.description.getD ""
  document := plan.contents.encode ids

def contentsOf (space : Api.Space) : Except Failure Contents :=
  (Contents.decode space.document).mapError Failure.malformedDocument

/-- The state of a plan for which the workspace made a space. A description that the plan leaves open
    is the one that the workspace chose. -/
def created (plan : State) (space : Api.Space) : State :=
  { plan with
    description := plan.description.or (some space.description)
    id := some space.spaceId
    spaceId := some space.spaceId }

/-- A state brought up to date with the space, whose document says `contents`. -/
def refreshed (state : State) (space : Api.Space) (contents : Contents) : State :=
  { state with
    title := space.title
    warehouseId := space.warehouseId
    description := some space.description
    spaceId := some space.spaceId
    tables := contents.tables
    sampleQuestions := contents.sampleQuestions }

def create (ids : IdSupply) (plan : State) : Task State :=
  .call (.createSpace (createRequest ids plan)) fun
    | .error e => .error (.api "failed to create genie space" e)
    | .ok space => .ok (created plan space)

def read (state : State) : Task (Refreshed State) :=
  match state.requireId with
  | .error f => .fail f
  | .ok id =>
      .call (.getSpace ⟨id, true⟩) fun
        | .error e =>
            if e.isMissing then .ok .removed else .error (.api "failed to read genie space" e)
        | .ok space => (contentsOf space).map fun contents => .found (refreshed state space contents)

/-- The update keeps both identifiers of the prior state, whatever the plan says about them. -/
def update (ids : IdSupply) (prior plan : State) : Task State :=
  match prior.requireId with
  | .error f => .fail f
  | .ok id =>
      .call (.updateSpace (updateRequest ids id plan)) fun
        | .error e => .error (.api "failed to update genie space" e)
        | .ok _ => .ok { plan with id := prior.id, spaceId := prior.spaceId }

/-- A space that is already gone counts as deleted. -/
def delete (state : State) : Task Unit :=
  match state.requireId with
  | .error f => .fail f
  | .ok id =>
      .call (.trashSpace id) fun
        | .error e =>
            if e.isMissing then .ok () else .error (.api "failed to delete genie space" e)
        | .ok () => .ok ()

def adapter : Adapter State where
  typeName := "genie_space"
  codec := State.codec
  create := create
  read := read
  update := update
  delete := delete
  importState id := .ok (.imported id)

/-! ### The data source -/

/-- The configuration of a lookup, its `spaceId`, and the result in the other fields. -/
structure Lookup where
  spaceId : String
  id : Option String
  title : Option String
  warehouseId : Option String
  description : Option String
  tables : List String
  sampleQuestions : List String
deriving DecidableEq, Repr

def Lookup.fields : List Field :=
  [.required "space_id" .string, .optional "id" .string, .optional "title" .string,
   .optional "warehouse_id" .string, .optional "description" .string,
   .defaulting "tables" (.list .string) [], .defaulting "sample_questions" (.list .string) []]

def Lookup.codec : Codec Lookup :=
  (Codec.record "GenieSpaceDataModel" fields).map
    (fun (spaceId, id, title, warehouseId, description, tables, sampleQuestions, ()) =>
      ⟨spaceId, id, title, warehouseId, description, tables, sampleQuestions⟩)
    (fun l => (l.spaceId, l.id, l.title, l.warehouseId, l.description, l.tables,
      l.sampleQuestions, ()))

/-- The result of a lookup that found a space whose document says `contents`. -/
def Lookup.filled (config : Lookup) (space : Api.Space) (contents : Contents) : Lookup :=
  { config with
    id := some space.spaceId
    title := some space.title
    warehouseId := some space.warehouseId
    description := some space.description
    tables := contents.tables
    sampleQuestions := contents.sampleQuestions }

def lookup (config : Lookup) : Task Lookup :=
  .call (.getSpace ⟨config.spaceId, true⟩) fun
    | .error e => .error (.api "failed to read genie space" e)
    | .ok space => (contentsOf space).map fun contents => config.filled space contents

def lookupAdapter : LookupAdapter Lookup where
  typeName := "genie_space"
  codec := Lookup.codec
  read := lookup

end Provisioner.GenieSpace
