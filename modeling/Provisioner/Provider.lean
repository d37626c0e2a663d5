import Provisioner.Resource.AppDeployment
import Provisioner.Resource.GenieSpace
import Provisioner.Resource.MetricView
import Provisioner.Resource.SqlExecution
/-!
# Providers

A provider serves resources and data sources by their type names. A type name is the name of the
kind behind the prefix of the provider. Resources and data sources are registered apart, so that one
name can stand for both; of two registrations under one name the later one counts.
-/

namespace Provisioner

open Json (Codec Field)
open Space (IdSupply)

variable {α β : Type}

structure Options where
  /-- The first part of all type names. -/
  typeNamePrefix : String
  /-- How long statements are waited for, in milliseconds. -/
  waitTimeout : Nat
deriving DecidableEq, Repr

def Options.standard : Options := ⟨"databricks", 50000⟩

def qualifiedName (typeNamePrefix name : String) : String := typeNamePrefix ++ "_" ++ name

/-- The type names that a provider serves. -/
structure Metadata where
  resources : List String
  dataSources : List String
deriving DecidableEq, Repr

def Metadata.fields : List Field :=
  [.required "resources" (.list .string), .required "data_sources" (.list .string)]

def Metadata.codec : Codec Metadata :=
  (Codec.record "ProviderMetadata" fields).map
    (fun (resources, dataSources, ()) => ⟨resources, dataSources⟩)
    (fun m => (m.resources, m.dataSources, ()))

structure Provider where
  options : Options
  resources : Dict Resource
  dataSources : Dict DataSource

namespace Provider

def empty (options : Options) : Provider := ⟨options, .empty, .empty⟩

def withResource (p : Provider) (r : Resource) : Provider :=
  { p with resources := p.resources.insert (qualifiedName p.options.typeNamePrefix r.typeName) r }

def withDataSource (p : Provider) (d : DataSource) : Provider :=
  { p with
    dataSources := p.dataSources.insert (qualifiedName p.options.typeNamePrefix d.typeName) d }

/-- The provider of all kinds of resources and data sources. -/
def standard (options : Options) : Provider :=
  let wait := options.waitTimeout
  (empty options)
    |>.withResource GenieSpace.adapter.erase
    |>.withResource AppDeployment.adapter.erase
    |>.withResource (MetricView.adapter wait).erase
    |>.withResource (SqlExecution.adapter wait).erase
    |>.withDataSource GenieSpace.lookupAdapter.erase

/-- The type names that are served, each list in increasing order. -/
def metadata (p : Provider) : Metadata := ⟨p.resources.keys, p.dataSources.keys⟩

/-- What is registered under a type name. -/
def lookUp (registry : Dict α) (typeName : String) : Except Failure α :=
  match registry.get? typeName with
  | some a => .ok a
  | none => .error (.unknownResource typeName)

def resource (p : Provider) (typeName : String) : Except Failure Resource :=
  lookUp p.resources typeName

def dataSource (p : Provider) (typeName : String) : Except Failure DataSource :=
  lookUp p.dataSources typeName

end Provider

/-!
## Calls of a provider

A provider is asked for six things. A call names a type and brings its arguments, and each kind of
call has a kind of replies. The type of the arguments is a parameter, so that a call can also be
written down before its arguments are known. Serving a call is a task of the resource or data source
that is registered under the type name.
-/

/-- A call of a provider with states of type `α`. -/
inductive Call (α : Type) where
  | create (typeName : String) (plan : α)
  | read (typeName : String) (state : α)
  | update (typeName : String) (prior plan : α)
  | delete (typeName : String) (state : α)
  | importResource (typeName : String) (id : String)
  | readDataSource (typeName : String) (config : α)
deriving DecidableEq, Repr

structure ImportedResource where
  resourceType : String
  state : Json
deriving Repr

def ImportedResource.fields : List Field :=
  [.required "resource_type" .string, .required "state" (.value 1)]

def ImportedResource.codec : Codec ImportedResource :=
  (Codec.record "ImportedResource" fields).map
    (fun (resourceType, state, ()) => ⟨resourceType, state⟩)
    (fun i => (i.resourceType, i.state, ()))

namespace Call

def map (f : α → β) : Call α → Call β
  | create t plan => create t (f plan)
  | read t state => read t (f state)
  | update t prior plan => update t (f prior) (f plan)
  | delete t state => delete t (f state)
  | importResource t id => importResource t id
  | readDataSource t config => readDataSource t (f config)

/-- What a call is answered with when it succeeds: a state, for a read only if the object still
    exists, nothing for a delete. -/
abbrev Reply : Call α → Type
  | create _ _ => Json
  | read _ _ => Option Json
  | update _ _ _ => Json
  | delete _ _ => Unit
  | importResource _ _ => ImportedResource
  | readDataSource _ _ => Json

def Reply.toJson : {call : Call α} → call.Reply → Json
  | create _ _, state => state
  | read _ _, state => state.getD .null
  | update _ _ _, state => state
  | delete _ _, () => .null
  | importResource _ _, imported => ImportedResource.codec.toValue imported
  | readDataSource _ _, state => state

end Call

namespace Provider

/-- Carry on with a resource or data source if there is one. -/
def serving (found : Except Failure β) (next : β → Task α) : Task α :=
  match found with
  | .error f => .fail f
  | .ok b => next b

/-- What serving a call takes. -/
def task (p : Provider) (ids : IdSupply) : (call : Call Json) → Task call.Reply
  | .create t plan => serving (p.resource t) fun r => r.create ids plan
  | .read t state => serving (p.resource t) fun r => r.read state
  | .update t prior plan => serving (p.resource t) fun r => r.update ids prior plan
  | .delete t state => serving (p.resource t) fun r => r.delete state
  | .importResource t id =>
      serving (p.resource t) fun r => .done ((r.importState id).map fun state => ⟨t, state⟩)
  | .readDataSource t config => serving (p.dataSource t) fun d => d.read config

end Provider

end Provisioner
