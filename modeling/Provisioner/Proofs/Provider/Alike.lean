import Provisioner.Proofs.Provider.Requests
import Provisioner.Proofs.Workspace.Alike
/-!
# Tasks and wordings

The identifiers that an operation takes from its supply go into a document that it sends, and
nowhere else; and of the documents in the answers an operation uses the contents alone. So the tasks
of one call with two supplies are alike (`Provider.task_alike`): they send calls that differ in
wording only, and what becomes of alike answers is the same.
-/

namespace Provisioner

open Space (IdSupply SameDocument)

variable {α β : Type} {t₁ t₂ : Task α} {w₁ w₂ : Workspace}

/-- Only answers about spaces bring documents. -/
theorem Request.AnswerAlike.eq {r : Request} (hr : ¬ r.OnSpaces) {a b : r.Answer}
    (h : AnswerAlike r r a b) : a = b := by
  cases r with
  | deploy r => exact h
  | getDeployment appName deploymentId => exact h
  | executeStatement r => exact h
  | _ => exact absurd trivial hr

namespace Task

/-- The tasks send calls that differ at most in wording, and make the same of alike answers. -/
inductive Alike : Task α → Task α → Prop
  | done (result : Except Failure α) : Alike (.done result) (.done result)
  | call {r₁ r₂ : Request} {resume₁ : Except ApiError r₁.Answer → Except Failure α}
      {resume₂ : Except ApiError r₂.Answer → Except Failure α} (hr : r₁.Alike r₂)
      (h : ∀ a₁ a₂, Paired (Request.AnswerAlike r₁ r₂) a₁ a₂ → resume₁ a₁ = resume₂ a₂) :
      Alike (.call r₁ resume₁) (.call r₂ resume₂)

namespace Alike

theorem run (h : t₁.Alike t₂) (hw : w₁.Alike w₂) :
    (t₁.run Workspace.answer w₁).1 = (t₂.run Workspace.answer w₂).1 ∧
      (t₁.run Workspace.answer w₁).2.Alike (t₂.run Workspace.answer w₂).2 := by
  cases h with
  | done result => exact ⟨rfl, hw⟩
  | call hr h =>
    obtain ⟨hanswers, hrest⟩ := hw.answer hr
    exact ⟨h _ _ hanswers, hrest⟩

theorem shown_eq (h : t₁.Alike t₂) :
    t₁.request?.map Request.shown = t₂.request?.map Request.shown := by
  cases h with
  | done result => rfl
  | call hr h => exact congrArg some hr.shown_eq

theorem map (h : t₁.Alike t₂) (f : α → β) : (t₁.map f).Alike (t₂.map f) := by
  cases h with
  | done result => exact .done _
  | call hr h =>
    apply Alike.call hr
    intro a₁ a₂ ha
    rw [h a₁ a₂ ha]

/-- A task that does not ask about spaces sees no documents. -/
theorem self {t : Task α} (h : ∀ r, t.request? = some r → ¬ r.OnSpaces) : t.Alike t := by
  cases t with
  | done result => exact .done result
  | call r resume =>
    apply Alike.call (.same r)
    intro a₁ a₂ ha
    rw [ha.eq fun _ _ => Request.AnswerAlike.eq (h r rfl)]

theorem reading {value : Except Json.Error β} {next₁ next₂ : β → Task α}
    (h : ∀ b, (next₁ b).Alike (next₂ b)) :
    (Task.reading value next₁).Alike (.reading value next₂) := by
  cases value with
  | error e => exact .done _
  | ok b => exact h b

end Alike

end Task

/-! ### Operations -/

namespace GenieSpace

variable {a b : Api.Space}

theorem contentsOf_eq (h : a.Alike b) : contentsOf a = contentsOf b := by
  obtain ⟨d, rfl, hd⟩ := h
  simp only [contentsOf, hd.decode_eq]

theorem create_alike (ids₁ ids₂ : IdSupply) (plan : State) :
    (create ids₁ plan).Alike (create ids₂ plan) := by
  apply Task.Alike.call (.createSpace (createRequest ids₁ plan) (.encode plan.contents ids₁ ids₂))
  intro a₁ a₂ ha
  cases ha with
  | error e => rfl
  | ok h =>
    obtain ⟨d, rfl, -⟩ := h
    rfl

theorem read_alike (state : State) : (read state).Alike (read state) := by
  unfold read
  cases state.requireId with
  | error f => exact .done _
  | ok id =>
    apply Task.Alike.call (.same _)
    intro a₁ a₂ ha
    cases ha with
    | error e => rfl
    | ok h =>
      dsimp only
      rw [contentsOf_eq h]
      obtain ⟨d, rfl, -⟩ := h
      rfl

theorem update_alike (ids₁ ids₂ : IdSupply) (prior plan : State) :
    (update ids₁ prior plan).Alike (update ids₂ prior plan) := by
  unfold update
  cases prior.requireId with
  | error f => exact .done _
  | ok id =>
    apply Task.Alike.call
      (.updateSpace (updateRequest ids₁ id plan) (.encode plan.contents ids₁ ids₂))
    intro a₁ a₂ ha
    cases ha <;> rfl

theorem delete_alike (state : State) : (delete state).Alike (delete state) := by
  unfold delete
  cases state.requireId with
  | error f => exact .done _
  | ok id =>
    apply Task.Alike.call (.same _)
    intro a₁ a₂ ha
    cases ha <;> rfl

theorem lookup_alike (config : Lookup) : (lookup config).Alike (lookup config) := by
  apply Task.Alike.call (.same _)
  intro a₁ a₂ ha
  cases ha with
  | error e => rfl
  | ok h =>
    dsimp only
    rw [contentsOf_eq h]
    obtain ⟨d, rfl, -⟩ := h
    rfl

end GenieSpace

namespace Kind

variable {wait : Nat}

theorem create_alike (k : Kind) (ids₁ ids₂ : IdSupply) (plan : k.State) :
    ((k.adapter wait).create ids₁ plan).Alike ((k.adapter wait).create ids₂ plan) := by
  cases k with
  | genieSpace => exact GenieSpace.create_alike ids₁ ids₂ plan
  | _ =>
    apply Task.Alike.self
    intro r hr
    exact not_onSpaces_onCreate (by decide) (request?_create plan ▸ hr)

theorem read_alike (k : Kind) (state : k.State) :
    ((k.adapter wait).read state).Alike ((k.adapter wait).read state) := by
  cases k with
  | genieSpace => exact GenieSpace.read_alike state
  | _ =>
    apply Task.Alike.self
    intro r hr
    exact not_onSpaces_onRead (by decide) (request?_read state ▸ hr)

theorem update_alike (k : Kind) (ids₁ ids₂ : IdSupply) (prior plan : k.State) :
    ((k.adapter wait).update ids₁ prior plan).Alike ((k.adapter wait).update ids₂ prior plan) := by
  cases k with
  | genieSpace => exact GenieSpace.update_alike ids₁ ids₂ prior plan
  | _ =>
    apply Task.Alike.self
    intro r hr
    exact not_onSpaces_onUpdate (by decide) (request?_update prior plan ▸ hr)

theorem delete_alike (k : Kind) (state : k.State) :
    ((k.adapter wait).delete state).Alike ((k.adapter wait).delete state) := by
  cases k with
  | genieSpace => exact GenieSpace.delete_alike state
  | _ =>
    apply Task.Alike.self
    intro r hr
    exact not_onSpaces_onDelete (by decide) (request?_delete state ▸ hr)

end Kind

/-! ### The provider -/

namespace Provider

theorem serving_alike {o : Options} {t : String} {next₁ next₂ : Resource → Task α}
    (h : ∀ k : Kind, (next₁ (k.adapter o.waitTimeout).erase).Alike
      (next₂ (k.adapter o.waitTimeout).erase)) :
    (serving ((standard o).resource t) next₁).Alike (serving ((standard o).resource t) next₂) := by
  rw [resource_standard]
  cases o.kind? t with
  | none => exact .done _
  | some k => exact h k

/-- One call makes the same of any two supplies. -/
theorem task_alike (o : Options) (ids₁ ids₂ : IdSupply) (call : Call Json) :
    ((standard o).task ids₁ call).Alike ((standard o).task ids₂ call) := by
  cases call with
  | create t plan =>
    apply serving_alike
    intro k
    apply Task.Alike.reading
    intro p
    exact (k.create_alike ids₁ ids₂ p).map _
  | read t state =>
    apply serving_alike
    intro k
    apply Task.Alike.reading
    intro q
    exact (k.read_alike q).map _
  | update t prior plan =>
    apply serving_alike
    intro k
    apply Task.Alike.reading
    intro q
    apply Task.Alike.reading
    intro p
    exact (k.update_alike ids₁ ids₂ q p).map _
  | delete t state =>
    apply serving_alike
    intro k
    apply Task.Alike.reading
    intro q
    exact k.delete_alike q
  | importResource t id =>
    apply serving_alike
    intro k
    exact .done _
  | readDataSource t config =>
    simp only [task, dataSource_standard]
    by_cases ht : t = o.typeName .genieSpace
    · rw [if_pos ht]
      apply Task.Alike.reading
      intro c
      exact (GenieSpace.lookup_alike c).map _
    · rw [if_neg ht]
      exact .done _

end Provider

end Provisioner
