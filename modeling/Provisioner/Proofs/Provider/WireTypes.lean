import Provisioner.Proofs.GenieSpace.Operations
import Provisioner.Proofs.Provider.Requests
/-!
# The types that travel as JSON

States, configurations, requests and answers travel as JSON, as do the parts of the documents of
spaces. `WireType` lists the types, and the codec of each is faithful (`WireType.faithful`): what is
written is read again. For most of them this follows from the list of their fields. Where fields are
left out, it takes that only such contents are left out as stand for an absent field.
-/

namespace Provisioner

open Json
open Json.Codec (faithful_enumeration)

/-! ### Requests and answers -/

namespace Api

theorem faithful_unlessEmpty (name : String) : (unlessEmpty name).Faithful := by
  apply (Field.faithful_defaulting Codec.faithful_string "").omitting
  intro text hempty
  exact congrArg some (String.isEmpty_iff.mp hempty).symm

theorem Space.faithful : codec.Faithful :=
  (Record.faithful (by simp [fields]) (by decide)).map fun _ => rfl

theorem CreateSpace.faithful : codec.Faithful :=
  (Record.faithful (by simp [fields, faithful_unlessEmpty]) (by decide)).map fun _ => rfl

theorem GetSpace.faithful : codec.Faithful :=
  (Record.faithful (by simp [fields]) (by decide)).map fun _ => rfl

theorem UpdateSpace.faithful : codec.Faithful :=
  (Record.faithful (by simp [fields]) (by decide)).map fun _ => rfl

theorem Deployment.faithful : codec.Faithful :=
  (Record.faithful (by simp [fields]) (by decide)).map fun _ => rfl

theorem Deploy.faithful : codec.Faithful :=
  (Record.faithful (by simp [fields]) (by decide)).map fun _ => rfl

theorem OnWaitTimeout.faithful : codec.Faithful := by
  apply faithful_enumeration
  intro choice
  cases choice <;> rfl

theorem StatementState.faithful : codec.Faithful := by
  apply faithful_enumeration
  intro choice
  cases choice <;> rfl

theorem ServiceError.faithful : codec.Faithful :=
  (Record.faithful (by simp [fields]) (by decide)).map fun _ => rfl

theorem StatementStatus.faithful : codec.Faithful := by
  have hfields : ∀ field ∈ fields, field.Faithful := by
    rw [fields, List.forall_mem_cons, List.forall_mem_singleton]
    exact ⟨Field.faithful_required StatementState.faithful,
      Field.faithful_unlessNone ServiceError.faithful⟩
  exact (Record.faithful hfields (by decide)).map fun _ => rfl

theorem ExecuteStatement.faithful : codec.Faithful :=
  (Record.faithful (by simp [fields, OnWaitTimeout.faithful]) (by decide)).map fun _ => rfl

theorem StatementResponse.faithful : codec.Faithful :=
  (Record.faithful (by simp [fields, StatementStatus.faithful]) (by decide)).map fun _ => rfl

end Api

/-! ### States and configurations -/

theorem GenieSpace.Lookup.faithful : codec.Faithful :=
  (Record.faithful (by simp [fields]) (by decide)).map fun _ => rfl

theorem AppDeployment.State.faithful : codec.Faithful := by
  have htriggers : Field.Faithful
      { Field.optional "triggers" (.dict .string) with omitted := Option.isNone } :=
    Field.faithful_unlessNone Codec.faithful_string.dict
  exact (Record.faithful (by simp [fields, htriggers]) (by decide)).map fun _ => rfl

theorem MetricView.State.faithful : codec.Faithful :=
  (Record.faithful (by simp [fields]) (by decide)).map fun _ => rfl

theorem SqlExecution.State.faithful : codec.Faithful :=
  (Record.faithful (by simp [fields]) (by decide)).map fun _ => rfl

theorem Metadata.faithful : codec.Faithful :=
  (Record.faithful (by simp [fields]) (by decide)).map fun _ => rfl

theorem Kind.faithful (k : Kind) : k.codec.Faithful := by
  cases k with
  | genieSpace => exact GenieSpace.State.faithful
  | appDeployment => exact AppDeployment.State.faithful
  | metricView => exact MetricView.State.faithful
  | sqlExecution => exact SqlExecution.State.faithful

/-! ### All types -/

inductive WireType where
  | space
  | createSpace
  | getSpace
  | updateSpace
  | deployment
  | deploy
  | onWaitTimeout
  | statementState
  | serviceError
  | statementStatus
  | executeStatement
  | statementResponse
  /-- The states of a kind of resources. -/
  | state (k : Kind)
  | lookup
  | metadata
  | question
  | table
  | config
  | dataSources
  | document

namespace WireType

abbrev Value : WireType → Type
  | space => Api.Space
  | createSpace => Api.CreateSpace
  | getSpace => Api.GetSpace
  | updateSpace => Api.UpdateSpace
  | deployment => Api.Deployment
  | deploy => Api.Deploy
  | onWaitTimeout => Api.OnWaitTimeout
  | statementState => Api.StatementState
  | serviceError => Api.ServiceError
  | statementStatus => Api.StatementStatus
  | executeStatement => Api.ExecuteStatement
  | statementResponse => Api.StatementResponse
  | state k => k.State
  | lookup => GenieSpace.Lookup
  | metadata => Metadata
  | question => Space.Question
  | table => Space.Table
  | config => Space.Config
  | dataSources => Space.DataSources
  | document => Space.Document

def codec : (t : WireType) → Codec t.Value
  | space => Api.Space.codec
  | createSpace => Api.CreateSpace.codec
  | getSpace => Api.GetSpace.codec
  | updateSpace => Api.UpdateSpace.codec
  | deployment => Api.Deployment.codec
  | deploy => Api.Deploy.codec
  | onWaitTimeout => Api.OnWaitTimeout.codec
  | statementState => Api.StatementState.codec
  | serviceError => Api.ServiceError.codec
  | statementStatus => Api.StatementStatus.codec
  | executeStatement => Api.ExecuteStatement.codec
  | statementResponse => Api.StatementResponse.codec
  | state k => k.codec
  | lookup => GenieSpace.Lookup.codec
  | metadata => Metadata.codec
  | question => Space.Question.codec
  | table => Space.Table.codec
  | config => Space.Config.codec
  | dataSources => Space.DataSources.codec
  | document => Space.Document.codec

/-- Everything that travels as JSON is read again as it was written. -/
theorem faithful (t : WireType) : t.codec.Faithful := by
  cases t with
  | space => exact Api.Space.faithful
  | createSpace => exact Api.CreateSpace.faithful
  | getSpace => exact Api.GetSpace.faithful
  | updateSpace => exact Api.UpdateSpace.faithful
  | deployment => exact Api.Deployment.faithful
  | deploy => exact Api.Deploy.faithful
  | onWaitTimeout => exact Api.OnWaitTimeout.faithful
  | statementState => exact Api.StatementState.faithful
  | serviceError => exact Api.ServiceError.faithful
  | statementStatus => exact Api.StatementStatus.faithful
  | executeStatement => exact Api.ExecuteStatement.faithful
  | statementResponse => exact Api.StatementResponse.faithful
  | state k => exact k.faithful
  | lookup => exact GenieSpace.Lookup.faithful
  | metadata => exact Metadata.faithful
  | question => exact Space.Question.faithful
  | table => exact Space.Table.faithful
  | config => exact Space.Config.faithful
  | dataSources => exact Space.DataSources.faithful
  | document => exact Space.Document.faithful

end WireType

end Provisioner
