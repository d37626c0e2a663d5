import Provisioner.Proofs.Provider.Alike
import Provisioner.Proofs.Session.Standard
/-!
# Identifiers of questions are not observed

Run the same steps twice, with different identifiers for the questions. All answers are the same,
and so are the events and the statements; only the stored documents differ, and only in these
identifiers (`Session.ids_unobserved`). Every step keeps the two sessions alike (`Session.Alike`)
and gives the same answer in both, so that the states that later steps take from earlier answers are
the same too.
-/

namespace Provisioner

open Api (StatementStatus)
open Json (Members)
open Space (IdSupply SameButIds SameDocument)

variable {α β γ : Type} {s₁ s₂ : Session}

namespace Session

/-- Two standard sessions that differ at most in the wordings of documents. -/
structure Alike (s₁ s₂ : Session) : Prop where
  standard : s₁.Standard
  provider : s₂.provider = s₁.provider
  amendments : s₂.amendments = s₁.amendments
  workspace : s₁.workspace.Alike s₂.workspace
  calls : s₁.calls.map Request.shown = s₂.calls.map Request.shown
  events : s₁.events = s₂.events

/-- The same results, in alike sessions. -/
def Agree (r₁ r₂ : α × Session) : Prop := r₁.1 = r₂.1 ∧ r₁.2.Alike r₂.2

/-! ### Calls of the provider -/

theorem Alike.standard_right (h : s₁.Alike s₂) : s₂.Standard := by
  refine ⟨?_, h.amendments.trans h.standard.amendments⟩
  rw [h.provider]
  exact h.standard.provider

theorem Alike.perform (h : s₁.Alike s₂) (call : Call Json) :
    Agree (s₁.perform call) (s₂.perform call) := by
  have htask : (s₁.provider.task (s₁.supply s₁.performed) call).Alike
      (s₂.provider.task (s₂.supply s₂.performed) call) := by
    rw [h.provider, h.standard.provider]
    exact Provider.task_alike _ _ _ call
  have hrun := htask.run h.workspace
  rw [perform_eq h.standard call, perform_eq h.standard_right call] at hrun
  obtain ⟨hresult, hworkspace⟩ := hrun
  refine ⟨hresult, ⟨h.standard.provider, h.standard.amendments⟩, h.provider, h.amendments,
    hworkspace, ?calls, ?events⟩
  case calls =>
    have hrequest (t : Task call.Reply) : t.request?.toList.map Request.shown =
        (t.request?.map Request.shown).toList := by cases t <;> rfl
    show (s₁.calls ++ (Task.request? _).toList).map _ = (s₂.calls ++ (Task.request? _).toList).map _
    rw [List.map_append, List.map_append, h.calls, hrequest, hrequest, htask.shown_eq]
  case events =>
    show s₁.events ++ call.events (s₁.perform call).1 = s₂.events ++ call.events (s₂.perform call).1
    rw [h.events, hresult]

theorem Agree.andThen {step₁ step₂ : Except Failure α × Session}
    {next : α → Session → Except Failure β × Session} (h : Agree step₁ step₂)
    (hnext : ∀ a s₁ s₂, s₁.Alike s₂ → Agree (next a s₁) (next a s₂)) :
    Agree (Session.andThen step₁ next) (Session.andThen step₂ next) := by
  rcases step₁ with ⟨result₁, s₁⟩
  rcases step₂ with ⟨result₂, s₂⟩
  obtain ⟨hresult, hs⟩ := h
  obtain rfl : result₁ = result₂ := hresult
  cases result₁ with
  | error f => exact ⟨rfl, hs⟩
  | ok a => exact hnext a s₁ s₂ hs

theorem Alike.readExisting (h : s₁.Alike s₂) (typeName : String) (state : Json) :
    Agree (s₁.readExisting typeName state) (s₂.readExisting typeName state) := by
  apply (h.perform _).andThen
  intro found s₁ s₂ hs
  cases found with
  | none => exact ⟨rfl, hs⟩
  | some state => exact ⟨rfl, hs⟩

theorem Alike.lifecycleCreate (h : s₁.Alike s₂) (typeName : String) (config : Json) :
    Agree (s₁.lifecycleCreate typeName config) (s₂.lifecycleCreate typeName config) :=
  (h.perform _).andThen fun state _ _ hs => hs.readExisting typeName state

theorem Alike.lifecycleUpdate (h : s₁.Alike s₂) (typeName : String) (prior plan : Json) :
    Agree (s₁.lifecycleUpdate typeName prior plan) (s₂.lifecycleUpdate typeName prior plan) :=
  (h.perform _).andThen fun state _ _ hs => hs.readExisting typeName state

theorem Alike.live (h : s₁.Alike s₂) (l : Lifecycle Json) : Agree (s₁.live l) (s₂.live l) := by
  cases l with
  | create t config => exact h.lifecycleCreate t config
  | update t prior plan => exact h.lifecycleUpdate t prior plan
  | importResource t id =>
    apply (h.perform _).andThen
    intro imported s₁ s₂ hs
    exact hs.readExisting t imported.state
  | crud t initial updated =>
    apply (h.lifecycleCreate t initial).andThen
    intro created s₁ s₂ hs
    apply (hs.lifecycleUpdate t created updated).andThen
    intro state s₁ s₂ hs
    apply (hs.perform (.delete t state)).andThen
    intro _ s₁ s₂ hs
    exact ⟨rfl, hs⟩

/-! ### Steps -/

theorem Agree.reply {r₁ r₂ : Except Failure α × Session} (h : Agree r₁ r₂) (shown : α → Json) :
    Agree (Session.reply shown r₁) (Session.reply shown r₂) := by
  refine ⟨?_, h.2⟩
  show (r₁.1.map shown).mapError _ = (r₂.1.map shown).mapError _
  rw [h.1]

theorem Alike.withWorkspace (h : s₁.Alike s₂) {w₁ w₂ : Workspace} (hw : w₁.Alike w₂) :
    Alike { s₁ with workspace := w₁ } { s₂ with workspace := w₂ } :=
  ⟨⟨h.standard.provider, h.standard.amendments⟩, h.provider, h.amendments, hw, h.calls, h.events⟩

theorem Alike.look (h : s₁.Alike s₂) {v₁ v₂ : Json} (hv : v₁ = v₂) :
    Agree (s₁.look v₁) (s₂.look v₂) := ⟨congrArg Except.ok hv, h⟩

theorem Alike.edit (h : s₁.Alike s₂) {w₁ w₂ : Workspace} (hw : w₁.Alike w₂) :
    Agree (s₁.edit w₁) (s₂.edit w₂) := ⟨rfl, h.withWorkspace hw⟩

theorem Alike.shown_eq (h : s₁.Alike s₂) (spaceId : String) :
    optionShown Api.Space.shown (s₁.workspace.spaces.get? spaceId) =
      optionShown Api.Space.shown (s₂.workspace.spaces.get? spaceId) := by
  rcases h.workspace.space_cases spaceId with ⟨h₁, h₂⟩ | ⟨a, b, h₁, h₂, hab⟩
  · rw [h₁, h₂]
  · rw [h₁, h₂]
    exact hab.shown_eq

theorem Alike.modifySpace (h : s₁.Alike s₂) (spaceId : String) (edits : Members) :
    Agree (s₁.modifySpace spaceId edits) (s₂.modifySpace spaceId edits) := by
  unfold Session.modifySpace
  rcases h.workspace.space_cases spaceId with ⟨h₁, h₂⟩ | ⟨a, b, h₁, h₂, hab⟩
  · rw [h₁, h₂]
    exact h.look rfl
  · rw [h₁, h₂]
    have hedit := hab.edit edits
    dsimp only
    generalize Api.Space.codec.ofValue _ = a' at hedit ⊢
    generalize Api.Space.codec.ofValue _ = b' at hedit ⊢
    cases hedit with
    | error e => exact ⟨rfl, h⟩
    | ok hab' => exact h.edit (h.workspace.replaceSpace spaceId hab')

theorem Alike.request (h : s₁.Alike s₂) (r : Request) : Agree (s₁.request r) (s₂.request r) := by
  obtain ⟨hanswer, hworkspace⟩ := h.workspace.answer (.same r)
  refine ⟨?_, h.withWorkspace hworkspace⟩
  show ((s₁.workspace.answer r).1.map r.shownAnswer).mapError _ =
    ((s₂.workspace.answer r).1.map r.shownAnswer).mapError _
  rw [hanswer.map_eq fun _ _ => Request.shownAnswer_eq]

theorem Alike.step (h : s₁.Alike s₂) (answers : List StepAnswer) (step : Step) :
    Agree (s₁.step answers step) (s₂.step answers step) := by
  cases step with
  | call c => exact (h.perform _).reply _
  | live l => exact (h.live _).reply _
  | metadata => exact h.look (by rw [h.provider])
  | resourceTypes => exact h.look (by rw [h.provider])
  | dataSourceTypes => exact h.look (by rw [h.provider])
  | options => exact h.look (by rw [h.provider])
  | space spaceId => exact h.look (h.shown_eq spaceId)
  | parentPath spaceId => exact h.look (by rw [h.workspace.parentPaths_eq])
  | deployment appName deploymentId => exact h.look (by rw [h.workspace.deployment?_eq])
  | statements => exact h.look (by rw [h.workspace.statements_eq])
  | statementRequests => exact h.look (by rw [h.workspace.statements_eq])
  | insertSpace space => exact h.edit (h.workspace.replaceSpace space.spaceId (.refl space))
  | modifySpace spaceId edits => exact h.modifySpace spaceId edits
  | removeSpace spaceId =>
    exact ⟨congrArg Except.ok (h.shown_eq spaceId),
      h.withWorkspace (h.workspace.removeSpace spaceId)⟩
  | insertDeployment appName deployment => exact h.edit (h.workspace.insertDeployment _ _)
  | respond pattern outcome => exact h.edit (h.workspace.respond pattern outcome)
  | fail operation error => exact h.edit (h.workspace.fail operation error)
  | calls => exact h.look (by rw [h.calls])
  | request r => exact h.request r
  | runStatement warehouseId statement wait =>
    obtain ⟨hanswer, hworkspace⟩ :=
      h.workspace.answer (.same (statementRequest wait warehouseId statement))
    refine ⟨congrArg (Except.mapError Refusal.api) (hanswer.map_eq ?_), h.withWorkspace hworkspace⟩
    intro _ _ hresponse
    exact congrArg (fun r => StatementStatus.codec.toValue r.status) hresponse
  | unreadable error => exact ⟨rfl, h⟩

theorem Alike.runFrom (h : s₁.Alike s₂) (answers : List StepAnswer) (steps : List Step) :
    Agree (s₁.runFrom answers steps) (s₂.runFrom answers steps) := by
  induction steps generalizing answers s₁ s₂ with
  | nil => exact ⟨rfl, h⟩
  | cons first rest ih =>
    obtain ⟨hanswer, hs⟩ := h.step answers first
    simp only [Session.runFrom]
    rw [hanswer]
    exact ih hs _

/-- Two runs of the same steps give the same answers, log the same events and run the same
    statements, whatever identifiers their questions get. Of what they leave in the workspace, only
    documents may differ: documents that were written for the same contents, in the identifiers of
    the questions. -/
theorem ids_unobserved (o : Options) (supply₁ supply₂ : Nat → IdSupply) (steps : List Step) :
    let run₁ := (start (.standard o) (fun _ => []) supply₁).run steps
    let run₂ := (start (.standard o) (fun _ => []) supply₂).run steps
    run₁.1 = run₂.1 ∧ run₁.2.events = run₂.2.events ∧
      run₁.2.workspace.statements = run₂.2.workspace.statements ∧
      run₂.2.workspace = { run₁.2.workspace with spaces := run₂.2.workspace.spaces } ∧
      ∀ spaceId, Option.Rel
        (fun a b => b = { a with document := b.document } ∧ SameDocument a.document b.document ∧
          SameButIds a.document.toList b.document.toList)
        (run₁.2.workspace.spaces.get? spaceId) (run₂.2.workspace.spaces.get? spaceId) := by
  intro run₁ run₂
  have hstart : (start (.standard o) (fun _ => []) supply₁).Alike
      (start (.standard o) (fun _ => []) supply₂) :=
    ⟨standard_start o supply₁, rfl, rfl, .refl _, rfl, rfl⟩
  have hagree : Agree run₁ run₂ := hstart.runFrom [] steps
  obtain ⟨hanswers, halike⟩ := hagree
  refine ⟨hanswers, halike.events, halike.workspace.statements_eq, halike.workspace.rest_eq, ?_⟩
  intro spaceId
  rcases halike.workspace.space_cases spaceId with ⟨h₁, h₂⟩ | ⟨a, b, h₁, h₂, hab⟩
  · rw [h₁, h₂]
    exact .none
  · rw [h₁, h₂]
    obtain ⟨d, rfl, hd⟩ := hab
    exact .some ⟨rfl, hd, hd.sameButIds⟩

end Session

end Provisioner
