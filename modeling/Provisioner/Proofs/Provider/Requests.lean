import Provisioner.Proofs.Provider.Kinds
/-!
# What the provider sends

For every call of the provider a table says which call of the workspace it makes, if any
(`Call.sends`). The table is written in terms of the states that the call brings: which field of
which state goes where. A call that names no kind, brings a state that does not fit, or lacks an
identifier sends nothing. Only the wording of the documents of spaces is left open, since it depends
on the identifiers of their questions.

That the provider keeps to the table (`Provider.request?_task`) holds of its tasks, and so of what any
client gets to see of them (`Task.run_recording`).
-/

namespace Provisioner

open Api
open Space (Contents IdSupply)

variable {α β σ : Type} {o : Options} {ids : IdSupply}

/-! ### Kinds -/

/-- A name that is given and not empty. -/
def filled (name : Option String) : Option String := name.filter fun s => !s.isEmpty

theorem filled_some (s : String) : filled (some s) = if s.isEmpty then none else some s := by
  cases hempty : s.isEmpty <;> simp [filled, Option.filter, hempty]

namespace Kind

def codec : (k : Kind) → Json.Codec k.State
  | genieSpace => GenieSpace.State.codec
  | appDeployment => AppDeployment.State.codec
  | metricView => MetricView.State.codec
  | sqlExecution => SqlExecution.State.codec

/-- The state that a value is. -/
def fit (k : Kind) (v : Json) : Option k.State := (k.codec.ofValue v).toOption

theorem codec_adapter (k : Kind) (wait : Nat) : (k.adapter wait).codec = k.codec := by
  cases k <;> rfl

section Table

variable (wait : Nat) (document : Contents → String)

def onCreate : (k : Kind) → (plan : k.State) → Option Request
  | genieSpace, plan =>
      some (.createSpace
        { title := plan.title
          warehouseId := plan.warehouseId
          description := plan.description.getD ""
          parentPath := plan.parentPath.getD ""
          document := document ⟨plan.tables, plan.sampleQuestions⟩ })
  | appDeployment, plan => some (.deploy ⟨plan.appName, plan.sourceCodePath⟩)
  | metricView, plan =>
      some (.executeStatement
        { statement := "CREATE METRIC VIEW " ++ plan.sqlName ++ " AS\n" ++ plan.yamlSpecification ++ ";"
          warehouseId := plan.warehouseId
          waitTimeout := formatWait wait
          onWaitTimeout := .cancel })
  | sqlExecution, plan =>
      some (.executeStatement
        { statement := plan.createSql
          warehouseId := plan.warehouseId
          waitTimeout := formatWait wait
          onWaitTimeout := .cancel })

def onRead : (k : Kind) → (state : k.State) → Option Request
  | genieSpace, state => (filled state.id).map fun id => .getSpace ⟨id, true⟩
  | appDeployment, state =>
      (filled (some state.appName)).bind fun appName =>
        (filled state.deploymentId).map fun deploymentId => .getDeployment appName deploymentId
  | metricView, state =>
      some (.executeStatement
        { statement := "DESCRIBE EXTENDED " ++ state.sqlName ++ ";"
          warehouseId := state.warehouseId
          waitTimeout := formatWait wait
          onWaitTimeout := .cancel })
  | sqlExecution, state =>
      some (.executeStatement
        { statement := state.readSql
          warehouseId := state.warehouseId
          waitTimeout := formatWait wait
          onWaitTimeout := .cancel })

def onUpdate : (k : Kind) → (prior plan : k.State) → Option Request
  | genieSpace, prior, plan =>
      (filled prior.id).map fun id => .updateSpace
        { spaceId := id
          title := plan.title
          warehouseId := plan.warehouseId
          description := plan.description.getD ""
          document := document ⟨plan.tables, plan.sampleQuestions⟩ }
  | appDeployment, _, _ => none
  | metricView, _, plan =>
      some (.executeStatement
        { statement := "CREATE OR REPLACE METRIC VIEW " ++ plan.sqlName ++ " AS\n" ++
            plan.yamlSpecification ++ ";"
          warehouseId := plan.warehouseId
          waitTimeout := formatWait wait
          onWaitTimeout := .cancel })
  | sqlExecution, _, _ => none

def onDelete : (k : Kind) → (state : k.State) → Option Request
  | genieSpace, state => (filled state.id).map .trashSpace
  | appDeployment, _ => none
  | metricView, state =>
      some (.executeStatement
        { statement := "DROP METRIC VIEW IF EXISTS " ++ state.sqlName ++ ";"
          warehouseId := state.warehouseId
          waitTimeout := formatWait wait
          onWaitTimeout := .cancel })
  | sqlExecution, state =>
      some (.executeStatement
        { statement := state.destroySql
          warehouseId := state.warehouseId
          waitTimeout := formatWait wait
          onWaitTimeout := .cancel })

end Table

end Kind

/-- The call is one of those about spaces. -/
def Request.OnSpaces : Request → Prop
  | createSpace _ => True
  | getSpace _ => True
  | updateSpace _ => True
  | trashSpace _ => True
  | _ => False

/-- The call of the workspace that a call of the provider makes. -/
def Call.sends (o : Options) (document : Contents → String) : Call Json → Option Request
  | .create t plan => do
      let k ← o.kind? t
      let plan ← k.fit plan
      k.onCreate o.waitTimeout document plan
  | .read t state => do
      let k ← o.kind? t
      let state ← k.fit state
      k.onRead o.waitTimeout state
  | .update t prior plan => do
      let k ← o.kind? t
      let prior ← k.fit prior
      let plan ← k.fit plan
      k.onUpdate o.waitTimeout document prior plan
  | .delete t state => do
      let k ← o.kind? t
      let state ← k.fit state
      k.onDelete o.waitTimeout state
  | .importResource _ _ => none
  | .readDataSource t config => do
      guard (t = o.typeName .genieSpace)
      let config ← (GenieSpace.Lookup.codec.ofValue config).toOption
      some (.getSpace ⟨config.spaceId, true⟩)

/-! ### Adapters -/

theorem GenieSpace.toOption_requireId (state : State) :
    state.requireId.toOption = filled state.id := by
  unfold State.requireId
  cases state.id with
  | none => rfl
  | some id =>
    rw [filled_some]
    by_cases hempty : id.isEmpty = true
    · simp [State.requireId.idUnset, hempty, Except.toOption]
    · simp [hempty, Except.toOption]

/-- A deployment is asked for by both its names, or not at all. -/
theorem AppDeployment.request?_read (state : State) :
    (read state).request? = (filled (some state.appName)).bind fun appName =>
      (filled state.deploymentId).map fun deploymentId => .getDeployment appName deploymentId := by
  unfold read
  rw [filled_some]
  cases state.deploymentId with
  | none => simp [filled, Task.fail, Task.request?]
  | some deploymentId =>
    rw [filled_some]
    by_cases happ : state.appName.isEmpty = true
    · simp [happ, Task.fail, Task.request?]
    · by_cases hid : deploymentId.isEmpty = true
      · simp [happ, hid, Task.fail, Task.request?]
      · simp [happ, hid, Task.request?]

namespace Kind

variable {k : Kind} {wait : Nat}

theorem request?_create (plan : k.State) :
    ((k.adapter wait).create ids plan).request? =
      k.onCreate wait (fun contents => contents.encode ids) plan := by
  cases k with
  | genieSpace => rfl
  | appDeployment => rfl
  | metricView => rfl
  | sqlExecution => rfl

theorem request?_read (state : k.State) :
    ((k.adapter wait).read state).request? = k.onRead wait state := by
  cases k with
  | genieSpace =>
    show (GenieSpace.read state).request? = (filled state.id).map _
    rw [← GenieSpace.toOption_requireId, GenieSpace.read]
    cases state.requireId <;> rfl
  | appDeployment => exact AppDeployment.request?_read state
  | metricView => rfl
  | sqlExecution => rfl

theorem request?_update (prior plan : k.State) :
    ((k.adapter wait).update ids prior plan).request? =
      k.onUpdate wait (fun contents => contents.encode ids) prior plan := by
  cases k with
  | genieSpace =>
    show (GenieSpace.update ids prior plan).request? = (filled prior.id).map _
    rw [← GenieSpace.toOption_requireId, GenieSpace.update]
    cases prior.requireId <;> rfl
  | appDeployment => rfl
  | metricView => rfl
  | sqlExecution => rfl

theorem request?_delete (state : k.State) :
    ((k.adapter wait).delete state).request? = k.onDelete wait state := by
  cases k with
  | genieSpace =>
    show (GenieSpace.delete state).request? = (filled state.id).map _
    rw [← GenieSpace.toOption_requireId, GenieSpace.delete]
    cases state.requireId <;> rfl
  | appDeployment => rfl
  | metricView => rfl
  | sqlExecution => rfl

/-! Only spaces send calls about spaces. -/

variable {document : Contents → String} {r : Request}

theorem not_onSpaces_onCreate (hk : k ≠ .genieSpace) {plan : k.State}
    (h : k.onCreate wait document plan = some r) : ¬ r.OnSpaces := by
  cases k with
  | genieSpace => exact absurd rfl hk
  | _ => obtain rfl := Option.some.inj h; exact id

theorem not_onSpaces_onRead (hk : k ≠ .genieSpace) {state : k.State}
    (h : k.onRead wait state = some r) : ¬ r.OnSpaces := by
  cases k with
  | genieSpace => exact absurd rfl hk
  | appDeployment =>
    obtain ⟨appName, -, h⟩ := Option.bind_eq_some_iff.mp h
    obtain ⟨deploymentId, -, rfl⟩ := Option.map_eq_some_iff.mp h
    exact id
  | _ => obtain rfl := Option.some.inj h; exact id

theorem not_onSpaces_onUpdate (hk : k ≠ .genieSpace) {prior plan : k.State}
    (h : k.onUpdate wait document prior plan = some r) : ¬ r.OnSpaces := by
  cases k with
  | genieSpace => exact absurd rfl hk
  | metricView => obtain rfl := Option.some.inj h; exact id
  | _ => cases h

theorem not_onSpaces_onDelete (hk : k ≠ .genieSpace) {state : k.State}
    (h : k.onDelete wait state = some r) : ¬ r.OnSpaces := by
  cases k with
  | genieSpace => exact absurd rfl hk
  | appDeployment => cases h
  | _ => obtain rfl := Option.some.inj h; exact id

end Kind

/-! ### The provider -/

@[simp] theorem Task.request?_reading (value : Except Json.Error β) (next : β → Task α) :
    (Task.reading value next).request? = value.toOption.bind fun b => (next b).request? := by
  cases value <;> rfl

namespace Provider

theorem request?_serving (t : String) (next : Resource → Task α) :
    (serving ((standard o).resource t) next).request? =
      (o.kind? t).bind fun k => (next (k.adapter o.waitTimeout).erase).request? := by
  rw [resource_standard]
  cases o.kind? t <;> rfl

/-- Each call of the provider makes the call of the workspace that the table says. -/
theorem request?_task (o : Options) (ids : IdSupply) (call : Call Json) :
    ((standard o).task ids call).request? =
      call.sends o fun contents => contents.encode ids := by
  cases call with
  | create t plan =>
    rw [task, request?_serving]
    simp only [Adapter.erase, Task.request?_reading, Task.request?_map, Kind.request?_create,
      Kind.codec_adapter]
    rfl
  | read t state =>
    rw [task, request?_serving]
    simp only [Adapter.erase, Task.request?_reading, Task.request?_map, Kind.request?_read,
      Kind.codec_adapter]
    rfl
  | update t prior plan =>
    rw [task, request?_serving]
    simp only [Adapter.erase, Task.request?_reading, Task.request?_map, Kind.request?_update,
      Kind.codec_adapter]
    rfl
  | delete t state =>
    rw [task, request?_serving]
    simp only [Adapter.erase, Task.request?_reading, Kind.request?_delete, Kind.codec_adapter]
    rfl
  | importResource t id =>
    rw [task, request?_serving]
    cases o.kind? t <;> rfl
  | readDataSource t config =>
    rw [task, dataSource_standard]
    by_cases ht : t = o.typeName .genieSpace
    · have hguard : (guard (t = o.typeName .genieSpace) : Option Unit) = some () := if_pos ht
      rw [if_pos ht, Call.sends, hguard]
      simp only [serving, LookupAdapter.erase, Task.request?_reading, Task.request?_map]
      rfl
    · have hguard : (guard (t = o.typeName .genieSpace) : Option Unit) = none := if_neg ht
      rw [if_neg ht, Call.sends, hguard]
      rfl

end Provider

/-! ### Recording clients -/

/-- The client that also keeps the calls that it answers. -/
def Client.recording (client : Client σ) : Client (σ × List Request) := fun r s =>
  let (answer, s') := client r s.1
  (answer, s', s.2 ++ [r])

/-- The record is all that a recording client adds to a run. -/
theorem Task.run_recording (client : Client σ) (t : Task α) (s : σ) (log : List Request) :
    t.run client.recording (s, log) =
      ((t.run client s).1, (t.run client s).2, log ++ t.request?.toList) := by
  cases t with
  | done result => simp [run, request?]
  | call r resume => rfl

end Provisioner
