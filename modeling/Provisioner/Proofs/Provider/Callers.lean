import Provisioner.Provider
import Provisioner.Workspace
/-!
# Callers that share a workspace

Any number of callers use one provider at the same time. An operation is begun, and at some later
time it makes its call of the workspace and ends; in between the other callers go on, and so does
whoever edits the workspace directly. The workspace locks itself for each call, so that the calls
take place one after the other. All that took place is kept as a history.
-/

namespace Provisioner

open Space (IdSupply)

variable {ι α β σ : Type}

/-- The task makes a call, and the client answers it with a result. -/
def Task.carriedOut (client : Client σ) : Task α → σ → Bool
  | .done _, _ => false
  | .call r _, s => (client r s).1.isOk

@[simp] theorem Task.carriedOut_map (client : Client σ) (f : α → β) (t : Task α) (s : σ) :
    (t.map f).carriedOut client s = t.carriedOut client s := by
  cases t <;> rfl

/-- An operation of the provider, with the identifiers that it takes for its questions. -/
structure Job where
  ids : IdSupply
  call : Call Json

inductive Action (ι : Type) where
  | begin (caller : ι) (job : Job)
  /-- The operation of a caller makes its call of the workspace. -/
  | finish (caller : ι)
  | insertSpace (space : Api.Space)
  | removeSpace (spaceId : String)
  | fail (operation : Operation) (error : ApiError)

/-- What took place. -/
inductive Event (ι : Type) where
  /-- An operation ended. If it was not carried out, it made no call or got an error. -/
  | ended (caller : ι) (job : Job) (carriedOut : Bool) (reply : Except Failure job.call.Reply)
  | inserted (space : Api.Space)
  | removed (spaceId : String)

structure Shared (ι : Type) where
  workspace : Workspace
  /-- The operations that have begun and not ended. -/
  jobs : ι → Option Job
  history : List (Event ι)

namespace Shared

def empty : Shared ι := ⟨.empty, fun _ => none, []⟩

variable [DecidableEq ι]

/-- A caller that is busy begins nothing else, and one that is not has nothing to finish. -/
def act (p : Provider) (s : Shared ι) : Action ι → Shared ι
  | .begin caller job =>
      match s.jobs caller with
      | some _ => s
      | none => { s with jobs := fun i => if i = caller then some job else s.jobs i }
  | .finish caller =>
      match s.jobs caller with
      | none => s
      | some job =>
          let task := p.task job.ids job.call
          let (reply, workspace) := task.run Workspace.answer s.workspace
          { workspace
            jobs := fun i => if i = caller then none else s.jobs i
            history := s.history ++
              [.ended caller job (task.carriedOut Workspace.answer s.workspace) reply] }
  | .insertSpace space =>
      { s with
        workspace := s.workspace.insertSpace space
        history := s.history ++ [.inserted space] }
  | .removeSpace spaceId =>
      { s with
        workspace := s.workspace.removeSpace spaceId
        history := s.history ++ [.removed spaceId] }
  | .fail operation error => { s with workspace := s.workspace.fail operation error }

def actAll (p : Provider) (s : Shared ι) (actions : List (Action ι)) : Shared ι :=
  actions.foldl (act p) s

end Shared

end Provisioner
