import Provisioner.Json.Record
import Provisioner.Json.Enumeration
/-!
# The workspace as its clients see it

A client knows spaces, deployments and statements, each with its requests and its form on the wire.
There are seven calls, and errors that they are answered with.
-/

namespace Provisioner

/-!
## Errors of the workspace

The workspace answers a call with a result or with an error. An error that says that the object of
the call does not exist any more is told apart from all others (`ApiError.isMissing`): for a read or
a delete that is an answer, not a failure.
-/

structure ApiError where
  status : UInt16
  /-- The code for programs. -/
  code : String
  /-- The message for people. -/
  message : String
deriving DecidableEq, Repr

namespace ApiError

def notFound (message : String) : ApiError := ⟨404, "RESOURCE_DOES_NOT_EXIST", message⟩

def missingCodes : List String := ["RESOURCE_DOES_NOT_EXIST", "NOT_FOUND"]

/-- The object of the call does not exist any more. -/
def isMissing (e : ApiError) : Bool := e.status == 404 || missingCodes.contains e.code

def text (e : ApiError) : String :=
  e.message ++ " (status " ++ toString e.status.toNat ++ ", " ++ e.code ++ ")"

@[simp] theorem isMissing_notFound (message : String) : (notFound message).isMissing = true := rfl

end ApiError

namespace Api

open Json (Codec Field)

/-!
## Spaces as the workspace sees them

A space has a title, a warehouse that runs its queries, a description and a document, which the
workspace keeps as a text without looking into it. The workspace assigns the identifier.
-/

structure Space where
  spaceId : String
  title : String
  warehouseId : String
  description : String
  /-- The serialized document; empty unless it was asked for. -/
  document : String
deriving DecidableEq, Repr

structure CreateSpace where
  title : String
  warehouseId : String
  description : String
  /-- The folder of the new space; empty for the default one. -/
  parentPath : String
  document : String
deriving DecidableEq, Repr

structure GetSpace where
  spaceId : String
  /-- The document is wanted too. -/
  withDocument : Bool
deriving DecidableEq, Repr

structure UpdateSpace where
  spaceId : String
  title : String
  warehouseId : String
  description : String
  document : String
deriving DecidableEq, Repr

/-! ### Wire forms -/

def Space.fields : List Field :=
  [.required "space_id" .string, .required "title" .string, .required "warehouse_id" .string,
   .defaulting "description" .string "", .defaulting "serialized_space" .string ""]

def Space.codec : Codec Space :=
  (Codec.record "GenieSpace" fields).map
    (fun (spaceId, title, warehouseId, description, document, ()) =>
      ⟨spaceId, title, warehouseId, description, document⟩)
    (fun s => (s.spaceId, s.title, s.warehouseId, s.description, s.document, ()))

/-- A string that is left out when it is empty. -/
def unlessEmpty (name : String) : Field :=
  { Field.defaulting name .string "" with omitted := String.isEmpty }

def CreateSpace.fields : List Field :=
  [.required "title" .string, .required "warehouse_id" .string, unlessEmpty "description",
   unlessEmpty "parent_path", .required "serialized_space" .string]

def CreateSpace.codec : Codec CreateSpace :=
  (Codec.record "CreateSpaceRequest" fields).map
    (fun (title, warehouseId, description, parentPath, document, ()) =>
      ⟨title, warehouseId, description, parentPath, document⟩)
    (fun r => (r.title, r.warehouseId, r.description, r.parentPath, r.document, ()))

def GetSpace.fields : List Field :=
  [.required "space_id" .string, .required "include_serialized_space" .boolean]

def GetSpace.codec : Codec GetSpace :=
  (Codec.record "GetSpaceRequest" fields).map
    (fun (spaceId, withDocument, ()) => ⟨spaceId, withDocument⟩)
    (fun r => (r.spaceId, r.withDocument, ()))

def UpdateSpace.fields : List Field :=
  [.required "space_id" .string, .required "title" .string, .required "warehouse_id" .string,
   .defaulting "description" .string "", .required "serialized_space" .string]

def UpdateSpace.codec : Codec UpdateSpace :=
  (Codec.record "UpdateSpaceRequest" fields).map
    (fun (spaceId, title, warehouseId, description, document, ()) =>
      ⟨spaceId, title, warehouseId, description, document⟩)
    (fun r => (r.spaceId, r.title, r.warehouseId, r.description, r.document, ()))

/-!
## Deployments of apps

An app runs source code that was deployed to it. Each deployment gets an identifier of its own from
the workspace; a newer one takes the place of the older ones without removing them.
-/

structure Deployment where
  deploymentId : String
  /-- Where the deployed source code lies. -/
  sourceCodePath : String
deriving DecidableEq, Repr

structure Deploy where
  appName : String
  sourceCodePath : String
deriving DecidableEq, Repr

/-! ### Wire forms -/

def Deployment.fields : List Field :=
  [.required "deployment_id" .string, .required "source_code_path" .string]

def Deployment.codec : Codec Deployment :=
  (Codec.record "AppDeployment" fields).map
    (fun (deploymentId, sourceCodePath, ()) => ⟨deploymentId, sourceCodePath⟩)
    (fun d => (d.deploymentId, d.sourceCodePath, ()))

def Deploy.fields : List Field :=
  [.required "app_name" .string, .required "source_code_path" .string]

def Deploy.codec : Codec Deploy :=
  (Codec.record "CreateAppDeploymentRequest" fields).map
    (fun (appName, sourceCodePath, ()) => ⟨appName, sourceCodePath⟩)
    (fun r => (r.appName, r.sourceCodePath, ()))

/-!
## SQL statements

A statement runs on a warehouse. The workspace waits for it for a limited time and answers with the
state that the statement has reached, and with an error if the statement came to one. Such an error
is part of the answer: the call itself succeeded.
-/

/-- What becomes of a statement that is still running when the wait is over. -/
inductive OnWaitTimeout where
  | cancel
  | goOn
deriving DecidableEq, Repr

inductive StatementState where
  | pending
  | running
  | succeeded
  | failed
  | canceled
  | closed
deriving DecidableEq, Repr

structure ServiceError where
  code : String
  message : String
deriving DecidableEq, Repr

structure StatementStatus where
  state : StatementState
  error : Option ServiceError
deriving DecidableEq, Repr

structure ExecuteStatement where
  statement : String
  warehouseId : String
  /-- How long the answer may be waited for, as in `50s`. -/
  waitTimeout : String
  onWaitTimeout : OnWaitTimeout
deriving DecidableEq, Repr

structure StatementResponse where
  statementId : String
  status : StatementStatus
deriving DecidableEq, Repr

def StatementState.name : StatementState → String
  | pending => "PENDING"
  | running => "RUNNING"
  | succeeded => "SUCCEEDED"
  | failed => "FAILED"
  | canceled => "CANCELED"
  | closed => "CLOSED"

def OnWaitTimeout.name : OnWaitTimeout → String
  | cancel => "CANCEL"
  | goOn => "CONTINUE"

namespace StatementStatus

def succeeded : StatementStatus := ⟨.succeeded, none⟩

def failed (message : String) : StatementStatus := ⟨.failed, some ⟨"", message⟩⟩

/-- The state, and the message of the error if there is one. -/
def describe (s : StatementStatus) : String :=
  match s.error with
  | some e => s.state.name ++ ": " ++ e.message
  | none => s.state.name

end StatementStatus

/-- A wait of some milliseconds as it is sent: in whole seconds, rounded down. -/
def formatWait (milliseconds : Nat) : String := toString (milliseconds / 1000) ++ "s"

/-! ### Wire forms -/

def OnWaitTimeout.codec : Codec OnWaitTimeout :=
  .enumeration ⟨[cancel, goOn].map fun a => (a.name, a), OnWaitTimeout.name⟩

def StatementState.codec : Codec StatementState :=
  .enumeration
    ⟨[pending, running, succeeded, failed, canceled, closed].map fun s => (s.name, s),
     StatementState.name⟩

def ServiceError.fields : List Field :=
  [.defaulting "error_code" .string "", .required "message" .string]

def ServiceError.codec : Codec ServiceError :=
  (Codec.record "ServiceError" fields).map
    (fun (code, message, ()) => ⟨code, message⟩)
    (fun e => (e.code, e.message, ()))

def StatementStatus.fields : List Field :=
  [.required "state" StatementState.codec,
   { Field.optional "error" ServiceError.codec with omitted := Option.isNone }]

def StatementStatus.codec : Codec StatementStatus :=
  (Codec.record "StatementStatus" fields).map
    (fun (state, error, ()) => ⟨state, error⟩)
    (fun s => (s.state, s.error, ()))

def ExecuteStatement.fields : List Field :=
  [.required "statement" .string, .required "warehouse_id" .string,
   .required "wait_timeout" .string, .required "on_wait_timeout" OnWaitTimeout.codec]

def ExecuteStatement.codec : Codec ExecuteStatement :=
  (Codec.record "ExecuteStatementRequest" fields).map
    (fun (statement, warehouseId, waitTimeout, onWaitTimeout, ()) =>
      ⟨statement, warehouseId, waitTimeout, onWaitTimeout⟩)
    (fun r => (r.statement, r.warehouseId, r.waitTimeout, r.onWaitTimeout, ()))

def StatementResponse.fields : List Field :=
  [.required "statement_id" .string, .required "status" StatementStatus.codec]

def StatementResponse.codec : Codec StatementResponse :=
  (Codec.record "StatementResponse" fields).map
    (fun (statementId, status, ()) => ⟨statementId, status⟩)
    (fun r => (r.statementId, r.status, ()))

end Api

/-!
## Calls of the workspace

There are seven calls. Each has a type of answers of its own; a client is anything that gives one
answer, or an error, to every call, and may change a state while doing so.
-/

open Api

inductive Request where
  | createSpace (r : CreateSpace)
  | getSpace (r : GetSpace)
  | updateSpace (r : UpdateSpace)
  | trashSpace (spaceId : String)
  | deploy (r : Deploy)
  | getDeployment (appName : String) (deploymentId : String)
  | executeStatement (r : ExecuteStatement)
deriving DecidableEq, Repr

inductive Operation where
  | createSpace
  | getSpace
  | updateSpace
  | trashSpace
  | deploy
  | getDeployment
  | executeStatement
deriving DecidableEq, Repr

namespace Request

def operation : Request → Operation
  | createSpace _ => .createSpace
  | getSpace _ => .getSpace
  | updateSpace _ => .updateSpace
  | trashSpace _ => .trashSpace
  | deploy _ => .deploy
  | getDeployment _ _ => .getDeployment
  | executeStatement _ => .executeStatement

/-- What the workspace answers when a call succeeds. -/
abbrev Answer : Request → Type
  | createSpace _ => Space
  | getSpace _ => Space
  | updateSpace _ => Space
  | trashSpace _ => Unit
  | deploy _ => Deployment
  | getDeployment _ _ => Deployment
  | executeStatement _ => StatementResponse

end Request

/-- A way to answer calls, over a state that it may change. -/
abbrev Client (σ : Type) := (request : Request) → σ → Except ApiError request.Answer × σ

end Provisioner
