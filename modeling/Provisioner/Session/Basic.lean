import Provisioner.Log.Event
import Provisioner.Workspace
/-!
# Sessions

A session is a provider at work on a workspace in memory. It keeps the calls that the provider has
made of the workspace and the events that it has logged. Between the two may stand a relay that
changes single fields of the answers, as a server with a will of its own would.

Identifiers of questions are drawn from a supply, a fresh part of it for every call of the provider
(`Session.supply`).
-/

namespace Provisioner

open Json (Codec Members)
open Space (IdSupply)

variable {α β : Type}

/-! ### The relay -/

/-- The fields that a relay changes in the answers to each kind of call. -/
abbrev Amendments := Operation → Members

/-- A value some of whose fields are changed, unless that does not give a value again. -/
def amended (codec : Codec α) (edits : Members) (a : α) : α :=
  match codec.decode ((codec.toValue a).amend edits) with
  | .ok b => b
  | .error _ => a

/-- An answer some of whose fields are changed. -/
def Request.amendAnswer (edits : Members) : (r : Request) → r.Answer → r.Answer
  | createSpace _, space => amended Api.Space.codec edits space
  | getSpace _, space => amended Api.Space.codec edits space
  | updateSpace _, space => amended Api.Space.codec edits space
  | trashSpace _, () => ()
  | deploy _, deployment => amended Api.Deployment.codec edits deployment
  | getDeployment _ _, deployment => amended Api.Deployment.codec edits deployment
  | executeStatement _, response => amended Api.StatementResponse.codec edits response

/-- The client that passes calls on to the workspace and changes its answers. -/
def relay (amendments : Amendments) : Client Workspace := fun request w =>
  let (answer, w) := w.answer request
  match amendments request.operation with
  | [] => (answer, w)
  | edits => (answer.map (request.amendAnswer edits), w)

/-! ### The session -/

structure Session where
  provider : Provider
  amendments : Amendments
  /-- The identifiers for the `n`-th call of the provider. -/
  supply : Nat → IdSupply
  workspace : Workspace
  /-- How often the provider was called. -/
  performed : Nat
  /-- The calls that the provider made of the workspace, in order. -/
  calls : List Request
  /-- The events that the provider logged, in order. -/
  events : List Log.Event

namespace Session

def start (provider : Provider) (amendments : Amendments) (supply : Nat → IdSupply) : Session :=
  { provider, amendments, supply
    workspace := .empty
    performed := 0
    calls := []
    events := [] }

def perform (call : Call Json) (s : Session) : Except Failure call.Reply × Session :=
  let task := s.provider.task (s.supply s.performed) call
  let (result, workspace) := task.run (relay s.amendments) s.workspace
  (result,
    { s with
      workspace
      performed := s.performed + 1
      calls := s.calls ++ task.request?.toList
      events := s.events ++ call.events result })

end Session

/-!
## Lifecycles

A lifecycle is a sequence of calls of the provider, each fed with the state that the one before it
returned. It ends at the first failure. After a create, an update or an import the object is read
back; that it is gone by then is a failure of the lifecycle.
-/

/-- A sequence of calls for a resource. -/
inductive Lifecycle (α : Type) where
  /-- Create, read. -/
  | create (typeName : String) (config : α)
  /-- Update, read. -/
  | update (typeName : String) (prior plan : α)
  /-- Import, read. -/
  | importResource (typeName : String) (id : String)
  /-- Create, read, update, read, delete; the result is the state before the delete. -/
  | crud (typeName : String) (initial updated : α)
deriving DecidableEq, Repr

def Lifecycle.map (f : α → β) : Lifecycle α → Lifecycle β
  | create t config => create t (f config)
  | update t prior plan => update t (f prior) (f plan)
  | importResource t id => importResource t id
  | crud t initial updated => crud t (f initial) (f updated)

namespace Session

/-- Go on with the result of a step if it has one. -/
def andThen (step : Except Failure α × Session) (next : α → Session → Except Failure β × Session) :
    Except Failure β × Session :=
  match step with
  | (.error f, s) => (.error f, s)
  | (.ok a, s) => next a s

/-- Read an object that has to exist. -/
def readExisting (typeName : String) (state : Json) (s : Session) : Except Failure Json × Session :=
  andThen (s.perform (.read typeName state)) fun found s =>
    match found with
    | some state => (.ok state, s)
    | none => (.error (.notFound (typeName ++ " disappeared during the lifecycle")), s)

def lifecycleCreate (typeName : String) (config : Json) (s : Session) :
    Except Failure Json × Session :=
  andThen (s.perform (.create typeName config)) (readExisting typeName)

def lifecycleUpdate (typeName : String) (prior plan : Json) (s : Session) :
    Except Failure Json × Session :=
  andThen (s.perform (.update typeName prior plan)) (readExisting typeName)

def lifecycleImport (typeName id : String) (s : Session) : Except Failure Json × Session :=
  andThen (s.perform (.importResource typeName id)) fun imported s =>
    readExisting typeName imported.state s

def lifecycleCrud (typeName : String) (initial updated : Json) (s : Session) :
    Except Failure Json × Session :=
  andThen (s.lifecycleCreate typeName initial) fun created s =>
    andThen (s.lifecycleUpdate typeName created updated) fun state s =>
      andThen (s.perform (.delete typeName state)) fun () s => (.ok state, s)

def live : Lifecycle Json → Session → Except Failure Json × Session
  | .create t config, s => s.lifecycleCreate t config
  | .update t prior plan, s => s.lifecycleUpdate t prior plan
  | .importResource t id, s => s.lifecycleImport t id
  | .crud t initial updated, s => s.lifecycleCrud t initial updated

end Session

end Provisioner
