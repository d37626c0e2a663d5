import Provisioner.Api
/-!
# Tasks and how they fail

An operation on a resource makes at most one call. A task says so in its type: it is either done
without a call, or it is one call together with what becomes of its answer. What a task does to the
workspace is therefore what its one call does (`Task.run`). It ends with a result or with a failure.
-/

namespace Provisioner

/-!
## Failures

Why an operation on a resource or a data source did not succeed. A failure has a text for the user
(`Failure.text`) and a bare message without what was being done (`Failure.message`).
-/

open Api (StatementStatus)

inductive Failure where
  /-- An object that was expected to exist does not. -/
  | notFound (text : String)
  /-- A configuration or an identifier is not valid. -/
  | validation (text : String)
  /-- No resource or data source is registered under this type name. -/
  | unknownResource (typeName : String)
  /-- A state does not fit the resource. -/
  | serialization (error : Json.Error)
  /-- The document of a space cannot be read. -/
  | malformedDocument (error : Json.Error)
  /-- The document of a space cannot be written. -/
  | encoding (error : Json.Error)
  /-- The workspace answered a call with an error. -/
  | api (action : String) (error : ApiError)
  /-- A statement ended in another state than success. -/
  | statement (action : String) (message : String)
  /-- The resource does not support the operation. -/
  | unimplemented (text : String)
deriving DecidableEq, Repr

namespace Failure

def text : Failure → String
  | notFound s => "Resource not found: " ++ s
  | validation s => "Validation error: " ++ s
  | unknownResource typeName => "Unknown resource type: " ++ typeName
  | serialization e => "Serialization error: " ++ e.message
  | malformedDocument e => "failed to parse serialized space: " ++ e.message
  | encoding e => "failed to marshal serialized space: " ++ e.message
  | api action e => action ++ ": " ++ e.text
  | statement action message => action ++ ": " ++ message
  | unimplemented s => "Unimplemented: " ++ s

/-- The message without what was being done. -/
def message : Failure → String
  | notFound s => s
  | validation s => s
  | unknownResource typeName => typeName
  | serialization e => e.message
  | malformedDocument e => e.message
  | encoding e => e.message
  | api _ e => e.message
  | statement _ message => message
  | unimplemented s => s

def isMissing : Failure → Bool
  | api _ e => e.isMissing
  | _ => false

/-- The text of the error behind the failure, if there is one. -/
def source? : Failure → Option String
  | serialization e => some e.message
  | malformedDocument e => some e.message
  | encoding e => some e.message
  | api _ e => some e.text
  | _ => none

end Failure

/-- The result of an `action` that needs its statement to succeed. -/
def Api.StatementStatus.require (s : StatementStatus) (action : String) : Except Failure Unit :=
  if s.state = .succeeded then .ok () else .error (.statement action s.describe)

/-! ## Tasks -/

variable {α β σ : Type}

inductive Task (α : Type) where
  /-- Nothing has to be called. -/
  | done (result : Except Failure α)
  /-- One call; its answer decides on the result. -/
  | call (request : Request) (resume : Except ApiError request.Answer → Except Failure α)

namespace Task

/-- The task that fails without a call. -/
def fail (f : Failure) : Task α := done (.error f)

def map (f : α → β) : Task α → Task β
  | done result => done (result.map f)
  | call request resume => call request fun answer => (resume answer).map f

/-- The task for a value that first has to be read. -/
def reading (value : Except Json.Error β) (next : β → Task α) : Task α :=
  match value with
  | .error e => fail (.serialization e)
  | .ok b => next b

/-- The call that a task makes. -/
def request? : Task α → Option Request
  | done _ => none
  | call request _ => some request

def run (client : Client σ) : Task α → σ → Except Failure α × σ
  | done result, s => (result, s)
  | call request resume, s =>
      let (answer, s) := client request s
      (resume answer, s)

@[simp] theorem request?_map (f : α → β) (t : Task α) : (t.map f).request? = t.request? := by
  cases t <;> rfl

theorem run_map (f : α → β) (client : Client σ) (t : Task α) (s : σ) :
    (t.map f).run client s = ((t.run client s).1.map f, (t.run client s).2) := by
  cases t <;> rfl

/-- A task changes a state as its call does, if it makes one. -/
theorem snd_run (client : Client σ) (t : Task α) (s : σ) :
    (t.run client s).2 =
      match t.request? with
      | some request => (client request s).2
      | none => s := by
  cases t <;> rfl

end Task

/-!
## Running statements

Resources without calls of their own are managed by SQL statements. All statements of a provider are
sent with the same wait, and are cancelled when it is over.
-/

/-- The call that runs a statement. -/
def statementRequest (wait : Nat) (warehouseId statement : String) : Request :=
  .executeStatement ⟨statement, warehouseId, Api.formatWait wait, .cancel⟩

namespace Task

/-- Run a statement and go on with its status, or with the error of the call. -/
def statement (wait : Nat) (warehouseId statement : String)
    (resume : Except ApiError Api.StatementStatus → Except Failure α) : Task α :=
  .call (statementRequest wait warehouseId statement) fun
    | .error e => resume (.error e)
    | .ok response => resume (.ok response.status)

end Task

end Provisioner
