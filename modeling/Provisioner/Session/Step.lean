import Provisioner.Session.Basic
/-!
# The steps of a session

A session is run as a list of steps: calls and lifecycles of the provider, looks at the workspace and
edits of it behind the provider's back, and direct calls of the workspace. Each step gets one answer,
and a refusal does not end the session. An argument of a call is a value, or the answer to an earlier
step with some fields changed.

Answers show the documents of spaces with the identifiers of their questions covered.
-/

namespace Provisioner

open Api
open Json (Codec Members)

/-- A state that is an argument of a step. -/
inductive Argument where
  | value (v : Json)
  /-- The answer to an earlier step, null if it was refused, with edits laid over it. -/
  | answer (step : Nat) (edits : Members)
deriving Repr

inductive Step where
  | call (c : Call Argument)
  | live (l : Lifecycle Argument)
  | metadata
  | resourceTypes
  | dataSourceTypes
  | options
  /-- What the workspace has stored. -/
  | space (spaceId : String)
  | parentPath (spaceId : String)
  | deployment (appName deploymentId : String)
  | statements
  | statementRequests
  /-- Edits of the workspace. -/
  | insertSpace (space : Space)
  | modifySpace (spaceId : String) (edits : Members)
  | removeSpace (spaceId : String)
  | insertDeployment (appName : String) (deployment : Deployment)
  | respond (pattern : String) (outcome : Except ApiError StatementStatus)
  | fail (operation : Operation) (error : ApiError)
  /-- The calls that the provider has made of the workspace. -/
  | calls
  /-- A call of the workspace that does not come from the provider. -/
  | request (r : Request)
  | runStatement (warehouseId statement : String) (wait : Nat)
  /-- A step whose arguments cannot be read. -/
  | unreadable (error : Json.Error)

/-- Why a step has no result. -/
inductive Refusal where
  | failure (f : Failure)
  | api (e : ApiError)
  | json (e : Json.Error)
deriving DecidableEq, Repr

abbrev StepAnswer := Except Refusal Json

/-! ### Results as values -/

/-- A space as answers show it. -/
def Api.Space.shown (space : Space) : Json :=
  Space.codec.toValue { space with document := Provisioner.Space.masked space.document }

/-- A list of strings. -/
def namesShown (names : List String) : Json := .array (names.map Json.string)

/-- A result that may be missing. -/
def optionShown {α : Type} (shown : α → Json) : Option α → Json
  | some a => shown a
  | none => .null

def numberShown (n : Nat) : Json := .number (.integer n)

namespace Request

/-- The answer to a call as answers of steps show it. -/
def shownAnswer : (r : Request) → r.Answer → Json
  | createSpace _, space => space.shown
  | getSpace _, space => space.shown
  | updateSpace _, space => space.shown
  | trashSpace _, () => .null
  | deploy _, deployment => Deployment.codec.toValue deployment
  | getDeployment _ _, deployment => Deployment.codec.toValue deployment
  | executeStatement _, response => StatementResponse.codec.toValue response

/-- The arguments of a call as answers of steps show them. -/
def shownArguments : Request → Json
  | createSpace r =>
      CreateSpace.codec.toValue { r with document := Provisioner.Space.masked r.document }
  | getSpace r => GetSpace.codec.toValue r
  | updateSpace r =>
      UpdateSpace.codec.toValue { r with document := Provisioner.Space.masked r.document }
  | trashSpace spaceId => .object [("space_id", .string spaceId)]
  | deploy r => Deploy.codec.toValue r
  | getDeployment appName deploymentId =>
      .object [("app_name", .string appName), ("deployment_id", .string deploymentId)]
  | executeStatement r => ExecuteStatement.codec.toValue r

end Request

def Operation.name : Operation → String
  | createSpace => "create_space"
  | getSpace => "get_space"
  | updateSpace => "update_space"
  | trashSpace => "trash_space"
  | deploy => "deploy"
  | getDeployment => "get_deployment"
  | executeStatement => "execute_statement"

/-- A call of the workspace as a record of it is shown. -/
def Request.shown (r : Request) : Json :=
  .object [("call", .string r.operation.name), ("request", r.shownArguments)]

def Options.shown (o : Options) : Json :=
  .object [("type_name_prefix", .string o.typeNamePrefix),
    ("wait_timeout_ms", numberShown o.waitTimeout)]

/-! ### Running steps -/

/-- The value of an argument when these answers were given before. -/
def Argument.resolve (answers : List StepAnswer) : Argument → Json
  | value v => v
  | answer step edits =>
      match answers[step]? with
      | some (.ok v) => v.amend edits
      | _ => .null

namespace Session

/-- The result of calls of the provider as an answer. -/
def reply {α : Type} (shown : α → Json) (step : Except Failure α × Session) :
    StepAnswer × Session :=
  ((step.1.map shown).mapError Refusal.failure, step.2)

/-- A look at the session as an answer. -/
def look (v : Json) (s : Session) : StepAnswer × Session := (.ok v, s)

/-- An edit of the workspace, which has no result. -/
def edit (s : Session) (w : Workspace) : StepAnswer × Session :=
  (.ok .null, { s with workspace := w })

/-- Change fields of a stored space. Nothing is done if there is no such space, or if the fields do
    not make a space again. -/
def modifySpace (spaceId : String) (edits : Members) (s : Session) : StepAnswer × Session :=
  match s.workspace.spaces.get? spaceId with
  | none => look .null s
  | some space =>
      match Space.codec.ofValue ((Space.codec.toValue space).amend edits) with
      | .error e => (.error (.json e), s)
      | .ok space => s.edit (s.workspace.replaceSpace spaceId space)

/-- Call the workspace directly. -/
def request (r : Request) (s : Session) : StepAnswer × Session :=
  let (answer, workspace) := s.workspace.answer r
  ((answer.map r.shownAnswer).mapError Refusal.api, { s with workspace })

/-- Run a statement directly; the answer is its status. -/
def runStatement (warehouseId statement : String) (wait : Nat) (s : Session) :
    StepAnswer × Session :=
  let (answer, workspace) := s.workspace.answer (statementRequest wait warehouseId statement)
  ((answer.map fun response => StatementStatus.codec.toValue response.status).mapError Refusal.api,
    { s with workspace })

/-- Take one step, when these answers were given before. -/
def step (answers : List StepAnswer) (s : Session) : Step → StepAnswer × Session
  | .call c => reply Call.Reply.toJson (s.perform (c.map (·.resolve answers)))
  | .live l => reply id (s.live (l.map (·.resolve answers)))
  | .metadata => look (Metadata.codec.toValue s.provider.metadata) s
  | .resourceTypes => look (namesShown s.provider.metadata.resources) s
  | .dataSourceTypes => look (namesShown s.provider.metadata.dataSources) s
  | .options => look s.provider.options.shown s
  | .space spaceId => look (optionShown Space.shown (s.workspace.spaces.get? spaceId)) s
  | .parentPath spaceId =>
      look (optionShown Json.string (s.workspace.parentPaths.get? spaceId)) s
  | .deployment appName deploymentId =>
      look (optionShown Deployment.codec.toValue
        (s.workspace.deployment? appName deploymentId)) s
  | .statements => look (namesShown (s.workspace.statements.map (·.statement))) s
  | .statementRequests =>
      look (.array (s.workspace.statements.map ExecuteStatement.codec.toValue)) s
  | .insertSpace space => s.edit (s.workspace.insertSpace space)
  | .modifySpace spaceId edits => s.modifySpace spaceId edits
  | .removeSpace spaceId =>
      (.ok (optionShown Space.shown (s.workspace.spaces.get? spaceId)),
        { s with workspace := s.workspace.removeSpace spaceId })
  | .insertDeployment appName deployment =>
      s.edit (s.workspace.insertDeployment appName deployment)
  | .respond pattern outcome => s.edit (s.workspace.respond pattern outcome)
  | .fail operation error => s.edit (s.workspace.fail operation error)
  | .calls => look (.array (s.calls.map Request.shown)) s
  | .request r => s.request r
  | .runStatement warehouseId statement wait => s.runStatement warehouseId statement wait
  | .unreadable error => (.error (.json error), s)

/-- Take all steps in order; `answers` are those to the steps before. -/
def runFrom (answers : List StepAnswer) (s : Session) : List Step → List StepAnswer × Session
  | [] => (answers, s)
  | first :: rest =>
      let (answer, s) := s.step answers first
      runFrom (answers ++ [answer]) s rest

/-- Take all steps in order. The result is the answers and what the session has come to. -/
def run (s : Session) (steps : List Step) : List StepAnswer × Session := runFrom [] s steps

end Session

end Provisioner
