import Provisioner.Resource.Adapter
import Provisioner.Text.Parts
/-!
# Deployments of apps

A deployment is made and read back, never changed: a change of any field asks for a new one. It is
not deleted either, since a newer deployment takes the place of an older one.
-/

namespace Provisioner.AppDeployment

open Json (Codec Field)
open Space (IdSupply)

structure State where
  appName : String
  sourceCodePath : String
  /-- Values without a meaning of their own; a change of one asks for a new deployment. -/
  triggers : Option (Dict String)
  /-- The identifier that the workspace gave. -/
  deploymentId : Option String
deriving DecidableEq, Repr

namespace State

def fields : List Field :=
  [.defaulting "app_name" .string "", .defaulting "source_code_path" .string "",
   { Field.optional "triggers" (.dict .string) with omitted := Option.isNone },
   .optional "deployment_id" .string]

def codec : Codec State :=
  (Codec.record "AppDeploymentModel" fields).map
    (fun (appName, sourceCodePath, triggers, deploymentId, ()) =>
      ⟨appName, sourceCodePath, triggers, deploymentId⟩)
    (fun s => (s.appName, s.sourceCodePath, s.triggers, s.deploymentId, ()))

end State

/-- The failure of a read that does not know both names. -/
def unnamed (appName deploymentId : String) : Failure :=
  .validation ("both app_name and deployment_id must be set, got app_name=" ++
    Text.quoted appName ++ " deployment_id=" ++ Text.quoted deploymentId)

def create (_ : IdSupply) (plan : State) : Task State :=
  .call (.deploy ⟨plan.appName, plan.sourceCodePath⟩) fun
    | .error e => .error (.api "failed to deploy app" e)
    | .ok deployment => .ok { plan with deploymentId := some deployment.deploymentId }

def read (state : State) : Task (Refreshed State) :=
  let deploymentId := state.deploymentId.getD ""
  if state.appName.isEmpty || deploymentId.isEmpty then
    .fail (unnamed state.appName deploymentId)
  else
    .call (.getDeployment state.appName deploymentId) fun
      | .error e =>
          if e.isMissing then .ok .removed else .error (.api "failed to read app deployment" e)
      | .ok deployment =>
          .ok (.found { state with
            deploymentId := some deployment.deploymentId
            sourceCodePath := deployment.sourceCodePath })

def update (_ : IdSupply) (_prior _plan : State) : Task State :=
  .fail (.unimplemented "all fields force replacement; update should not be called")

def delete (_ : State) : Task Unit := .done (.ok ())

/-- The character between the two names of an import. -/
def separator : Char := '|'

def importState (id : String) : Except Failure State :=
  match Text.splitOnce separator id with
  | some (appName, deploymentId) =>
      if appName.isEmpty || deploymentId.isEmpty then illFormed
      else .ok ⟨appName, "", none, some deploymentId⟩
  | none => illFormed
where
  illFormed : Except Failure State :=
    .error (.validation ("expected format: app_name|deployment_id, got: " ++ id))

def adapter : Adapter State where
  typeName := "app_deployment"
  codec := State.codec
  create := create
  read := read
  update := update
  delete := delete
  importState := importState

end Provisioner.AppDeployment
