import Provisioner.Api
import Provisioner.Dict
import Provisioner.Text.Parts
/-!
# A workspace in memory

The workspace is a record, and what a call does to it is a function (`Workspace.answer`). Spaces and
deployments are kept under their identifiers; statements are only recorded, and answered with success
unless a rule says otherwise. For every kind of call a failure can be set: such calls then change
nothing at all. Everything that the workspace makes is numbered by one counter.

Objects can also be put, changed and removed directly, as someone else would do it.
-/

namespace Provisioner

open Api

/-- How the statements that contain a text are answered. -/
structure Rule where
  pattern : String
  outcome : Except ApiError StatementStatus

structure Workspace where
  spaces : Dict Space
  /-- The folders of the spaces that were created in one. -/
  parentPaths : Dict String
  deployments : Dict (Dict Deployment)
  /-- The statements that were run, in order. -/
  statements : List ExecuteStatement
  /-- The rules, the newest first. -/
  rules : List Rule
  failures : Operation → Option ApiError
  /-- The number of the object made last. It stands for a counter of 64 bits, and is that counter as
      long as fewer than `2 ^ 64` numbered calls were served. -/
  lastNumber : Nat

namespace Workspace

def empty : Workspace := ⟨.empty, .empty, .empty, [], [], fun _ => none, 0⟩

/-! ### Looking and editing -/

def deployment? (w : Workspace) (appName deploymentId : String) : Option Deployment :=
  (w.deployments.get? appName).bind fun deployments => deployments.get? deploymentId

def insertSpace (w : Workspace) (space : Space) : Workspace :=
  { w with spaces := w.spaces.insert space.spaceId space }

/-- Put another space in the place of the one stored under an identifier. -/
def replaceSpace (w : Workspace) (spaceId : String) (space : Space) : Workspace :=
  { w with spaces := w.spaces.insert spaceId space }

def removeSpace (w : Workspace) (spaceId : String) : Workspace :=
  { w with spaces := w.spaces.erase spaceId }

def insertDeployment (w : Workspace) (appName : String) (d : Deployment) : Workspace :=
  let older := (w.deployments.get? appName).getD .empty
  { w with deployments := w.deployments.insert appName (older.insert d.deploymentId d) }

/-- Answer the statements that contain `pattern` with `outcome`, whatever older rules say. -/
def respond (w : Workspace) (pattern : String) (outcome : Except ApiError StatementStatus) :
    Workspace :=
  { w with rules := ⟨pattern, outcome⟩ :: w.rules }

/-- Let every call of a kind fail with an error. -/
def fail (w : Workspace) (operation : Operation) (e : ApiError) : Workspace :=
  { w with failures := fun o => if o = operation then some e else w.failures o }

/-- The outcome of a statement: that of the newest rule for it, or success. -/
def outcome (w : Workspace) (statement : String) : Except ApiError StatementStatus :=
  match w.rules.find? fun rule => Text.occursIn rule.pattern statement with
  | some rule => rule.outcome
  | none => .ok .succeeded

/-! ### Answering calls -/

def spaceUnknown (spaceId : String) : ApiError :=
  .notFound ("space " ++ spaceId ++ " does not exist")

def deploymentUnknown (appName deploymentId : String) : ApiError :=
  .notFound ("deployment " ++ deploymentId ++ " of app " ++ appName ++ " does not exist")

/-- The identifier of the object with a number. -/
def numbered (kind : String) (n : Nat) : String := kind ++ "-" ++ toString n

/-- The identifier of the next object of a kind. -/
def nextId (w : Workspace) (kind : String) : String := numbered kind (w.lastNumber + 1)

/-- The workspace after one more identifier was given. -/
def advance (w : Workspace) : Workspace := { w with lastNumber := w.lastNumber + 1 }

def createSpace (w : Workspace) (r : CreateSpace) : Except ApiError Space × Workspace :=
  let space : Space := ⟨w.nextId "space", r.title, r.warehouseId, r.description, r.document⟩
  let parentPaths :=
    if r.parentPath.isEmpty then w.parentPaths
    else w.parentPaths.insert space.spaceId r.parentPath
  (.ok space, { w.advance.insertSpace space with parentPaths })

def getSpace (w : Workspace) (r : GetSpace) : Except ApiError Space × Workspace :=
  match w.spaces.get? r.spaceId with
  | some space => (.ok (if r.withDocument then space else { space with document := "" }), w)
  | none => (.error (spaceUnknown r.spaceId), w)

/-- An update keeps the identifier that is stored in the space. -/
def updateSpace (w : Workspace) (r : UpdateSpace) : Except ApiError Space × Workspace :=
  match w.spaces.get? r.spaceId with
  | some space =>
      let space : Space := ⟨space.spaceId, r.title, r.warehouseId, r.description, r.document⟩
      (.ok space, w.replaceSpace r.spaceId space)
  | none => (.error (spaceUnknown r.spaceId), w)

def trashSpace (w : Workspace) (spaceId : String) : Except ApiError Unit × Workspace :=
  match w.spaces.get? spaceId with
  | some _ => (.ok (), w.removeSpace spaceId)
  | none => (.error (spaceUnknown spaceId), w)

def deploy (w : Workspace) (r : Deploy) : Except ApiError Deployment × Workspace :=
  let deployment : Deployment := ⟨w.nextId "deploy", r.sourceCodePath⟩
  (.ok deployment, w.advance.insertDeployment r.appName deployment)

def getDeployment (w : Workspace) (appName deploymentId : String) :
    Except ApiError Deployment × Workspace :=
  match w.deployment? appName deploymentId with
  | some deployment => (.ok deployment, w)
  | none => (.error (deploymentUnknown appName deploymentId), w)

/-- A statement is recorded and numbered also when its outcome is an error. -/
def executeStatement (w : Workspace) (r : ExecuteStatement) :
    Except ApiError StatementResponse × Workspace :=
  ((w.outcome r.statement).map fun status => ⟨w.nextId "statement", status⟩,
    { w.advance with statements := w.statements ++ [r] })

def serve : Client Workspace
  | .createSpace r, w => w.createSpace r
  | .getSpace r, w => w.getSpace r
  | .updateSpace r, w => w.updateSpace r
  | .trashSpace spaceId, w => w.trashSpace spaceId
  | .deploy r, w => w.deploy r
  | .getDeployment appName deploymentId, w => w.getDeployment appName deploymentId
  | .executeStatement r, w => w.executeStatement r

def answer : Client Workspace := fun request w =>
  match w.failures request.operation with
  | some e => (.error e, w)
  | none => serve request w

/-! ### Small facts -/

/-- A failure answers every call of its kind, and nothing happens. -/
theorem answer_of_failure {w : Workspace} {request : Request} {e : ApiError}
    (h : w.failures request.operation = some e) : answer request w = (.error e, w) := by
  simp only [answer, h]

theorem answer_of_no_failure {w : Workspace} {request : Request}
    (h : w.failures request.operation = none) : answer request w = serve request w := by
  simp only [answer, h]

/-- A deployment is stored for its app and its identifier alone. -/
theorem deployment?_insertDeployment (w : Workspace) (appName : String) (d : Deployment)
    (app id : String) :
    (w.insertDeployment appName d).deployment? app id =
      if app = appName ∧ id = d.deploymentId then some d else w.deployment? app id := by
  simp only [deployment?, insertDeployment, Dict.get?_insert]
  by_cases happ : app = appName
  · subst happ
    cases hold : w.deployments.get? app with
    | none => by_cases hid : id = d.deploymentId <;> simp [Dict.get?_insert, hid]
    | some older => by_cases hid : id = d.deploymentId <;> simp [Dict.get?_insert, hid]
  · simp [happ]

end Workspace

end Provisioner
