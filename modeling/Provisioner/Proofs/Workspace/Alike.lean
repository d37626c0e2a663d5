import Provisioner.Proofs.Space.Edits
/-!
# Workspaces with other wordings

Two workspaces are alike if they differ in nothing but the wordings of the documents of their spaces
(`Workspace.Alike`). Calls that differ in nothing else are answered alike by them, and leave them
alike (`Workspace.Alike.answer`).
-/

namespace Provisioner

open Api
open Space (SameDocument)

variable {w₁ w₂ : Workspace} {a b : Api.Space}

/-! ### Workspaces -/

/-- The workspaces differ at most in the wordings of the documents of their spaces. -/
def Workspace.Alike (w₁ w₂ : Workspace) : Prop :=
  ∃ spaces, w₂ = { w₁ with spaces } ∧
    ∀ x, Option.Rel Api.Space.Alike (w₁.spaces.get? x) (spaces.get? x)

namespace Workspace.Alike

theorem refl (w : Workspace) : w.Alike w := by
  refine ⟨w.spaces, rfl, ?_⟩
  intro x
  cases w.spaces.get? x with
  | none => exact .none
  | some a => exact .some (.refl a)

theorem space_cases (h : w₁.Alike w₂) (x : String) :
    (w₁.spaces.get? x = none ∧ w₂.spaces.get? x = none) ∨
      ∃ a b, w₁.spaces.get? x = some a ∧ w₂.spaces.get? x = some b ∧ a.Alike b := by
  obtain ⟨spaces, rfl, hspaces⟩ := h
  have hspace := hspaces x
  dsimp only
  generalize w₁.spaces.get? x = a at hspace ⊢
  generalize spaces.get? x = b at hspace ⊢
  cases hspace with
  | none => exact .inl ⟨rfl, rfl⟩
  | some hab => exact .inr ⟨_, _, rfl, rfl, hab⟩

theorem replaceSpace (h : w₁.Alike w₂) (x : String) (hspace : a.Alike b) :
    (w₁.replaceSpace x a).Alike (w₂.replaceSpace x b) := by
  obtain ⟨spaces, rfl, hspaces⟩ := h
  refine ⟨spaces.insert x b, rfl, ?_⟩
  intro y
  show Option.Rel Api.Space.Alike ((w₁.spaces.insert x a).get? y) ((spaces.insert x b).get? y)
  rw [Dict.get?_insert, Dict.get?_insert]
  split
  · exact .some hspace
  · exact hspaces y

theorem removeSpace (h : w₁.Alike w₂) (x : String) :
    (w₁.removeSpace x).Alike (w₂.removeSpace x) := by
  obtain ⟨spaces, rfl, hspaces⟩ := h
  refine ⟨spaces.erase x, rfl, ?_⟩
  intro y
  show Option.Rel Api.Space.Alike ((w₁.spaces.erase x).get? y) ((spaces.erase x).get? y)
  rw [Dict.get?_erase, Dict.get?_erase]
  split
  · exact .none
  · exact hspaces y

/-! All but the spaces is the same. -/

theorem rest_eq (h : w₁.Alike w₂) : w₂ = { w₁ with spaces := w₂.spaces } := by
  obtain ⟨_, rfl, _⟩ := h
  rfl

theorem parentPaths_eq (h : w₁.Alike w₂) : w₁.parentPaths = w₂.parentPaths := by
  obtain ⟨_, rfl, _⟩ := h
  rfl

theorem deployment?_eq (h : w₁.Alike w₂) (appName deploymentId : String) :
    w₁.deployment? appName deploymentId = w₂.deployment? appName deploymentId := by
  obtain ⟨_, rfl, _⟩ := h
  rfl

theorem statements_eq (h : w₁.Alike w₂) : w₁.statements = w₂.statements := by
  obtain ⟨_, rfl, _⟩ := h
  rfl

theorem insertDeployment (h : w₁.Alike w₂) (appName : String) (d : Deployment) :
    (w₁.insertDeployment appName d).Alike (w₂.insertDeployment appName d) := by
  obtain ⟨spaces, rfl, hspaces⟩ := h
  exact ⟨spaces, rfl, hspaces⟩

theorem respond (h : w₁.Alike w₂) (pattern : String) (outcome : Except ApiError StatementStatus) :
    (w₁.respond pattern outcome).Alike (w₂.respond pattern outcome) := by
  obtain ⟨spaces, rfl, hspaces⟩ := h
  exact ⟨spaces, rfl, hspaces⟩

theorem fail (h : w₁.Alike w₂) (operation : Operation) (e : ApiError) :
    (w₁.fail operation e).Alike (w₂.fail operation e) := by
  obtain ⟨spaces, rfl, hspaces⟩ := h
  exact ⟨spaces, rfl, hspaces⟩

end Workspace.Alike

/-! ### Calls -/

namespace Request

/-- The calls differ at most in the wording of the document that they send. -/
inductive Alike : Request → Request → Prop
  | same (r : Request) : Alike r r
  | createSpace (r : CreateSpace) {document : String} (h : SameDocument r.document document) :
      Alike (.createSpace r) (.createSpace { r with document })
  | updateSpace (r : UpdateSpace) {document : String} (h : SameDocument r.document document) :
      Alike (.updateSpace r) (.updateSpace { r with document })

/-- The answers differ at most in the wording of the document that they bring. -/
def AnswerAlike : (r₁ r₂ : Request) → r₁.Answer → r₂.Answer → Prop
  | .createSpace _, .createSpace _, a, b => Api.Space.Alike a b
  | .getSpace _, .getSpace _, a, b => Api.Space.Alike a b
  | .updateSpace _, .updateSpace _, a, b => Api.Space.Alike a b
  | .trashSpace _, .trashSpace _, _, _ => True
  | .deploy _, .deploy _, a, b => a = b
  | .getDeployment _ _, .getDeployment _ _, a, b => a = b
  | .executeStatement _, .executeStatement _, a, b => a = b
  | _, _, _, _ => False

variable {r₁ r₂ : Request}

theorem shownAnswer_eq {r : Request} {a b : r.Answer} (h : AnswerAlike r r a b) :
    r.shownAnswer a = r.shownAnswer b := by
  cases r with
  | createSpace r => exact Api.Space.Alike.shown_eq h
  | getSpace r => exact Api.Space.Alike.shown_eq h
  | updateSpace r => exact Api.Space.Alike.shown_eq h
  | trashSpace spaceId => rfl
  | deploy r => exact congrArg Deployment.codec.toValue h
  | getDeployment appName deploymentId => exact congrArg Deployment.codec.toValue h
  | executeStatement r => exact congrArg StatementResponse.codec.toValue h

theorem Alike.operation_eq (h : r₁.Alike r₂) : r₁.operation = r₂.operation := by
  cases h <;> rfl

/-- Records of calls show no wording. -/
theorem Alike.shown_eq (h : r₁.Alike r₂) : r₁.shown = r₂.shown := by
  cases h with
  | same r => rfl
  | createSpace r hd => simp only [shown, shownArguments, operation, hd.masked_eq]
  | updateSpace r hd => simp only [shown, shownArguments, operation, hd.masked_eq]

/-- Two answers to calls, with what is left of two workspaces. -/
def AnsweredAlike (r₁ r₂ : Request) (a₁ : Except ApiError r₁.Answer × Workspace)
    (a₂ : Except ApiError r₂.Answer × Workspace) : Prop :=
  Paired (AnswerAlike r₁ r₂) a₁.1 a₂.1 ∧ a₁.2.Alike a₂.2

end Request

namespace Workspace.Alike

variable {d : String}

theorem createSpace (h : w₁.Alike w₂) (r : CreateSpace) (hd : SameDocument r.document d) :
    Request.AnsweredAlike (.createSpace r) (.createSpace { r with document := d })
      (w₁.createSpace r) (w₂.createSpace { r with document := d }) := by
  let id := w₁.nextId "space"
  let parentPaths :=
    if r.parentPath.isEmpty then w₁.parentPaths else w₁.parentPaths.insert id r.parentPath
  have hspace : Api.Space.Alike ⟨id, r.title, r.warehouseId, r.description, r.document⟩
      ⟨id, r.title, r.warehouseId, r.description, d⟩ := ⟨d, rfl, hd⟩
  obtain ⟨spaces, rfl, hspaces⟩ := h
  have hrest : Workspace.Alike { w₁.advance with parentPaths }
      { w₁.advance with spaces, parentPaths } := ⟨spaces, rfl, hspaces⟩
  exact ⟨.ok hspace, hrest.replaceSpace id hspace⟩

theorem getSpace (h : w₁.Alike w₂) (r : GetSpace) :
    Request.AnsweredAlike (.getSpace r) (.getSpace r) (w₁.getSpace r) (w₂.getSpace r) := by
  unfold Workspace.getSpace
  rcases h.space_cases r.spaceId with ⟨h₁, h₂⟩ | ⟨a, b, h₁, h₂, hab⟩
  · rw [h₁, h₂]
    exact ⟨.error _, h⟩
  · rw [h₁, h₂]
    refine ⟨.ok ?_, h⟩
    obtain ⟨d, rfl, hd⟩ := hab
    cases r.withDocument with
    | true => exact ⟨d, rfl, hd⟩
    | false => exact ⟨"", rfl, .refl ""⟩

theorem updateSpace (h : w₁.Alike w₂) (r : UpdateSpace) (hd : SameDocument r.document d) :
    Request.AnsweredAlike (.updateSpace r) (.updateSpace { r with document := d })
      (w₁.updateSpace r) (w₂.updateSpace { r with document := d }) := by
  unfold Workspace.updateSpace
  rcases h.space_cases r.spaceId with ⟨h₁, h₂⟩ | ⟨a, b, h₁, h₂, hab⟩
  · rw [h₁, h₂]
    exact ⟨.error _, h⟩
  · rw [h₁, h₂]
    obtain ⟨-, rfl, -⟩ := hab
    exact ⟨.ok ⟨d, rfl, hd⟩, h.replaceSpace r.spaceId ⟨d, rfl, hd⟩⟩

theorem trashSpace (h : w₁.Alike w₂) (x : String) :
    Request.AnsweredAlike (.trashSpace x) (.trashSpace x) (w₁.trashSpace x) (w₂.trashSpace x) := by
  unfold Workspace.trashSpace
  rcases h.space_cases x with ⟨h₁, h₂⟩ | ⟨a, b, h₁, h₂, -⟩
  · rw [h₁, h₂]
    exact ⟨.error _, h⟩
  · rw [h₁, h₂]
    exact ⟨.ok trivial, h.removeSpace x⟩

/-- The same call is answered alike, whatever it is. -/
theorem serve_same (h : w₁.Alike w₂) (r : Request) :
    Request.AnsweredAlike r r (serve r w₁) (serve r w₂) := by
  cases r with
  | createSpace r => exact h.createSpace r (.refl _)
  | getSpace r => exact h.getSpace r
  | updateSpace r => exact h.updateSpace r (.refl _)
  | trashSpace x => exact h.trashSpace x
  | deploy r =>
    obtain ⟨spaces, rfl, hspaces⟩ := h
    exact ⟨.ok rfl, spaces, rfl, hspaces⟩
  | getDeployment appName deploymentId =>
    obtain ⟨spaces, rfl, hspaces⟩ := h
    have hsame : Workspace.deployment? { w₁ with spaces } appName deploymentId =
        w₁.deployment? appName deploymentId := rfl
    simp only [serve, Workspace.getDeployment, hsame]
    cases w₁.deployment? appName deploymentId with
    | none => exact ⟨.error _, spaces, rfl, hspaces⟩
    | some deployment => exact ⟨.ok rfl, spaces, rfl, hspaces⟩
  | executeStatement r =>
    obtain ⟨spaces, rfl, hspaces⟩ := h
    refine ⟨?_, spaces, rfl, hspaces⟩
    exact .refl (fun _ => rfl) _

theorem answer (h : w₁.Alike w₂) {r₁ r₂ : Request} (hr : r₁.Alike r₂) :
    Request.AnsweredAlike r₁ r₂ (w₁.answer r₁) (w₂.answer r₂) := by
  have hfailures : w₁.failures r₁.operation = w₂.failures r₂.operation := by
    obtain ⟨spaces, rfl, -⟩ := h
    rw [hr.operation_eq]
  cases hfailure : w₂.failures r₂.operation with
  | some e =>
    rw [answer_of_failure (hfailures.trans hfailure), answer_of_failure hfailure]
    exact ⟨.error e, h⟩
  | none =>
    rw [answer_of_no_failure (hfailures.trans hfailure), answer_of_no_failure hfailure]
    cases hr with
    | same r => exact h.serve_same r₁
    | createSpace r hd => exact h.createSpace r hd
    | updateSpace r hd => exact h.updateSpace r hd

end Workspace.Alike

end Provisioner
