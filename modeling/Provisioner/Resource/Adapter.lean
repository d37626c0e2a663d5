import Provisioner.Json.Codec
import Provisioner.Space.Document
import Provisioner.Task
/-!
# Resources and data sources

A resource is an object that is created, read back, changed and deleted; a data source is only looked
up. An adapter maps one kind of them onto calls of the workspace and works on a typed state. The
provider works on JSON states: `Adapter.erase` puts the reading and writing of states around an
adapter.
-/

namespace Provisioner

open Json (Codec)
open Space (IdSupply)

variable {α State : Type}

inductive Refreshed (α : Type) where
  | found (state : α)
  | removed
deriving DecidableEq, Repr

namespace Refreshed

def toOption : Refreshed α → Option α
  | found state => some state
  | removed => none

def isFound : Refreshed α → Bool
  | found _ => true
  | removed => false

end Refreshed

/-! ### Typed states -/

/-- How a kind of resource is managed. The operations that write a document take the identifiers of
    its questions from a supply. -/
structure Adapter (State : Type) where
  /-- The name of the kind, without the prefix of the provider. -/
  typeName : String
  codec : Codec State
  create : IdSupply → (plan : State) → Task State
  read : State → Task (Refreshed State)
  update : IdSupply → (prior plan : State) → Task State
  delete : State → Task Unit
  /-- The state from which the read that follows an import starts. -/
  importState : String → Except Failure State

/-- What an adapter without an import answers to one. -/
def importUnsupported (typeName id : String) : Except Failure State :=
  .error (.unimplemented ("import is not supported for " ++ typeName ++ " (id " ++ id ++ ")"))

/-- How a kind of data source is looked up. -/
structure LookupAdapter (State : Type) where
  typeName : String
  codec : Codec State
  read : (config : State) → Task State

/-! ### JSON states -/

/-- A resource whose states are JSON. -/
structure Resource where
  typeName : String
  create : IdSupply → (plan : Json) → Task Json
  read : Json → Task (Option Json)
  update : IdSupply → (prior plan : Json) → Task Json
  delete : Json → Task Unit
  importState : String → Except Failure Json

/-- A data source whose configuration and result are JSON. -/
structure DataSource where
  typeName : String
  read : (config : Json) → Task Json

/-- The resource of an adapter. A state that does not fit is refused before any call. -/
def Adapter.erase (a : Adapter State) : Resource where
  typeName := a.typeName
  create ids plan := .reading (a.codec.ofValue plan) fun plan =>
    (a.create ids plan).map a.codec.toValue
  read state := .reading (a.codec.ofValue state) fun state =>
    (a.read state).map fun refreshed => refreshed.toOption.map a.codec.toValue
  update ids prior plan := .reading (a.codec.ofValue prior) fun prior =>
    .reading (a.codec.ofValue plan) fun plan => (a.update ids prior plan).map a.codec.toValue
  delete state := .reading (a.codec.ofValue state) a.delete
  importState id := (a.importState id).map a.codec.toValue

def LookupAdapter.erase (a : LookupAdapter State) : DataSource where
  typeName := a.typeName
  read config := .reading (a.codec.ofValue config) fun config =>
    (a.read config).map a.codec.toValue

end Provisioner
