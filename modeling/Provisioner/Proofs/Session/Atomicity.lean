import Provisioner.Proofs.GenieSpace.Drift
import Provisioner.Proofs.Provider.Outcomes
import Provisioner.Proofs.Session.Standard
/-!
# Failed calls change nothing

A call of the provider that fails leaves all objects of the workspace as they are. It may have run a
statement, which the workspace records; other than that there is no trace of it. Two facts make this
so: a call of the workspace that stores something never ends in a failure once it has succeeded
(`Task.Concludes`), and whatever is wrong with a call itself is found before any call of the workspace
(`Failure.Early`, `Provider.task_late`).
-/

namespace Provisioner

open Api
open Space (IdSupply)

variable {α β : Type} {o : Options} {ids : IdSupply} {w w' : Workspace} {r : Request} {t : Task α}
  {f : Failure} {s s' : Session}

/-- The calls that change what the workspace stores. -/
def Request.Stores : Request → Prop
  | createSpace _ => True
  | updateSpace _ => True
  | trashSpace _ => True
  | deploy _ => True
  | _ => False

theorem Request.not_stores_getSpace (r : GetSpace) : ¬ (Request.getSpace r).Stores := not_false

/-- The failures that do not come from the workspace. -/
def Failure.Early : Failure → Prop
  | unknownResource _ => True
  | serialization _ => True
  | validation _ => True
  | unimplemented _ => True
  | _ => False

/-! ### Failures after a call -/

/-- No failure that could have been found earlier. -/
def Late (reply : Except Failure α) : Prop := ∀ f, reply = .error f → ¬ f.Early

section Late

variable {P : Prop} {a found gone : α} {e : ApiError} {status : StatementStatus}
  {reply : Except Failure α}

theorem late_ok (a : α) : Late (.ok a) := by
  intro f h
  cases h

theorem Late.map (h : Late reply) (g : α → β) : Late (reply.map g) := by
  cases reply with
  | error f =>
    intro f' hf'
    obtain rfl := Except.error.inj hf'
    exact h f rfl
  | ok a => exact late_ok (g a)

theorem Refused.late (h : Refused e reply) : Late reply := by
  rcases h with ⟨action, rfl⟩
  intro f hf
  obtain rfl := Except.error.inj hf
  exact id

theorem Unsuccessful.late (h : Unsuccessful status reply) : Late reply := by
  rcases h with ⟨action, rfl⟩
  intro f hf
  obtain rfl := Except.error.inj hf
  exact id

theorem Forgives.late (h : Forgives P a e reply) : Late reply := by
  by_cases hP : P
  · rw [h.1.mpr hP]
    exact late_ok a
  · exact (h.2.mpr hP).late

theorem Settles.late (h : Settles status reply) : Late reply := by
  by_cases hsucceeded : status.state = .succeeded
  · obtain ⟨a, rfl⟩ := h.1.mpr hsucceeded
    exact late_ok a
  · exact (h.2.mpr hsucceeded).late

theorem Probes.late (h : Probes P found gone status reply) : Late reply := by
  by_cases hsucceeded : status.state = .succeeded
  · rw [h.1.mpr hsucceeded]
    exact late_ok found
  · by_cases hP : P
    · rw [h.2.1.mpr ⟨hsucceeded, hP⟩]
      exact late_ok gone
    · exact (h.2.2.mpr ⟨hsucceeded, hP⟩).late

end Late

theorem Provider.task_late (call : Call Json) :
    ((standard o).task ids call).Replies (fun _ => Late) fun _ => Late := by
  apply (Provider.task_replies call).mono
  · intro e reply h
    cases call with
    | create t plan => exact Refused.late h
    | read t state => exact Forgives.late h
    | update t prior plan => exact Refused.late h
    | delete t state => exact Forgives.late h
    | importResource t id => exact h.elim
    | readDataSource t config => exact Refused.late h
  · intro status reply h
    cases call with
    | create t plan => exact Settles.late h
    | read t state =>
      rcases h with ⟨-, q, -, hprobes⟩ | ⟨-, q, -, hprobes⟩
      · exact hprobes.late
      · exact hprobes.late
    | update t prior plan => exact Settles.late h
    | delete t state => exact Settles.late h
    | importResource t id => exact h.elim
    | readDataSource t config => exact h.elim

/-! ### Calls that succeed -/

/-- The reply to a call of the workspace that has succeeded. Only a space that was fetched, and so not
    changed, may turn out to have a document that cannot be read. -/
def Concluded (r : Request) (reply : Except Failure α) : Prop :=
  (∃ a, reply = .ok a) ∨ ¬ r.Stores ∧ ∃ e, reply = .error (.malformedDocument e)

theorem Concluded.map {reply : Except Failure α} (h : Concluded r reply) (f : α → β) :
    Concluded r (reply.map f) := by
  rcases h with ⟨a, rfl⟩ | ⟨hstores, e, rfl⟩
  · exact Or.inl ⟨f a, rfl⟩
  · exact Or.inr ⟨hstores, e, rfl⟩

theorem GenieSpace.concluded_contentsOf (h : ¬ r.Stores) (space : Space) :
    Concluded r (contentsOf space) := by
  unfold contentsOf
  cases Space.Contents.decode space.document with
  | error e => exact Or.inr ⟨h, e, rfl⟩
  | ok contents => exact Or.inl ⟨contents, rfl⟩

/-- Statements apart, the task makes a success of the success of its call. -/
def Task.Concludes : Task α → Prop
  | .done _ => True
  | .call (.executeStatement _) _ => True
  | .call r resume => ∀ a, Concluded r (resume (.ok a))

theorem Task.Concludes.map (h : t.Concludes) (f : α → β) : (t.map f).Concludes := by
  cases t with
  | done result => trivial
  | call r resume =>
    cases r with
    | executeStatement r => trivial
    | _ => exact fun a => (h a).map f

structure Adapter.Concludes {State : Type} (a : Adapter State) : Prop where
  create ids plan : (a.create ids plan).Concludes
  read q : (a.read q).Concludes
  update ids prior plan : (a.update ids prior plan).Concludes
  delete q : (a.delete q).Concludes

theorem GenieSpace.adapter_concludes : adapter.Concludes where
  create ids plan := fun space => Or.inl ⟨created plan space, rfl⟩
  read q := by
    show (GenieSpace.read q).Concludes
    unfold GenieSpace.read
    cases q.requireId with
    | error f => trivial
    | ok spaceId => exact fun space => (concluded_contentsOf (Request.not_stores_getSpace _) space).map _
  update ids prior plan := by
    show (GenieSpace.update ids prior plan).Concludes
    unfold GenieSpace.update
    cases prior.requireId with
    | error f => trivial
    | ok spaceId => exact fun _ => Or.inl ⟨_, rfl⟩
  delete q := by
    show (GenieSpace.delete q).Concludes
    unfold GenieSpace.delete
    cases q.requireId with
    | error f => trivial
    | ok spaceId => exact fun _ => Or.inl ⟨(), rfl⟩

theorem AppDeployment.adapter_concludes : adapter.Concludes where
  create ids plan := fun _ => Or.inl ⟨_, rfl⟩
  read q := by
    show (AppDeployment.read q).Concludes
    unfold AppDeployment.read
    dsimp only
    split
    · trivial
    · exact fun _ => Or.inl ⟨_, rfl⟩
  update ids prior plan := trivial
  delete q := trivial

theorem Kind.adapter_concludes {wait : Nat} (k : Kind) : (k.adapter wait).Concludes := by
  cases k with
  | genieSpace => exact GenieSpace.adapter_concludes
  | appDeployment => exact AppDeployment.adapter_concludes
  -- The other two only run statements.
  | metricView => exact ⟨fun _ _ => trivial, fun _ => trivial, fun _ _ _ => trivial, fun _ => trivial⟩
  | sqlExecution =>
    exact ⟨fun _ _ => trivial, fun _ => trivial, fun _ _ _ => trivial, fun _ => trivial⟩

theorem Provider.task_concludes (call : Call Json) : ((standard o).task ids call).Concludes := by
  apply Provider.task_cases (P := fun _ task => task.Concludes)
  · intro call t
    trivial
  · intro call e
    trivial
  · intro k plan p _
    exact (k.adapter_concludes.create ids p).map _
  · intro k state q _
    exact (k.adapter_concludes.read q).map _
  · intro k prior plan q p _ _
    exact (k.adapter_concludes.update ids q p).map _
  · intro k state q _
    exact k.adapter_concludes.delete q
  · intro k id
    trivial
  · intro config c _
    exact Task.Concludes.map (t := GenieSpace.lookup c)
      (fun space => (GenieSpace.concluded_contentsOf (Request.not_stores_getSpace _) space).map _) _

/-! ### What a call leaves behind -/

namespace Workspace

/-- Objects, rules and failures of two workspaces are the same; only what was recorded may differ. -/
structure SameObjects (w w' : Workspace) : Prop where
  spaces : w'.spaces = w.spaces
  parentPaths : w'.parentPaths = w.parentPaths
  deployments : w'.deployments = w.deployments
  rules : w'.rules = w.rules
  failures : w'.failures = w.failures

theorem SameObjects.refl (w : Workspace) : w.SameObjects w := ⟨rfl, rfl, rfl, rfl, rfl⟩

/-- The workspace after a statement was run. -/
def recorded (w : Workspace) (r : ExecuteStatement) : Workspace :=
  { w.advance with statements := w.statements ++ [r] }

theorem sameObjects_recorded (w : Workspace) (r : ExecuteStatement) :
    w.SameObjects (w.recorded r) := ⟨rfl, rfl, rfl, rfl, rfl⟩

/-- A call either changes nothing, or succeeds in storing something, or runs a statement. -/
theorem snd_answer (w : Workspace) (r : Request) :
    (w.answer r).2 = w ∨ (r.Stores ∧ ∃ a, (w.answer r).1 = .ok a) ∨
      ∃ q, r = .executeStatement q ∧ (w.answer r).2 = w.recorded q := by
  cases hfailure : w.failures r.operation with
  | some e => exact Or.inl (congrArg Prod.snd (answer_of_failure hfailure))
  | none =>
    rw [answer_of_no_failure hfailure]
    cases r with
    | createSpace r => exact Or.inr (Or.inl ⟨trivial, _, rfl⟩)
    | getSpace r =>
      simp only [serve, getSpace]
      split <;> exact Or.inl rfl
    | updateSpace r =>
      simp only [serve, updateSpace]
      split
      · exact Or.inr (Or.inl ⟨trivial, _, rfl⟩)
      · exact Or.inl rfl
    | trashSpace spaceId =>
      simp only [serve, trashSpace]
      split
      · exact Or.inr (Or.inl ⟨trivial, _, rfl⟩)
      · exact Or.inl rfl
    | deploy r => exact Or.inr (Or.inl ⟨trivial, _, rfl⟩)
    | getDeployment appName deploymentId =>
      simp only [serve, getDeployment]
      split <;> exact Or.inl rfl
    | executeStatement r => exact Or.inr (Or.inr ⟨r, rfl, rfl⟩)

end Workspace

namespace Task

/-- An early failure comes before any call. -/
theorem request?_of_early {client : Client Workspace} (hconcludes : t.Concludes)
    (hlate : t.Replies (fun _ => Late) fun _ => Late) (hrun : (t.run client w).1 = .error f)
    (hearly : f.Early) : t.request? = none := by
  cases t with
  | done result => rfl
  | call r resume =>
    cases hanswer : (client r w).1 with
    | error e =>
      exact absurd hearly (hlate.of_failsWith ⟨r, rfl, hanswer⟩ f hrun)
    | ok a =>
      have hreply : resume (.ok a) = .error f := by
        rw [← hanswer]
        exact hrun
      cases r with
      | executeStatement r =>
        rcases a with ⟨id, status⟩
        exact absurd hearly (hlate.of_reaches ⟨r, id, rfl, hanswer⟩ f hrun)
      | _ =>
        -- After a success of the call only the document can be at fault, and that shows late.
        rcases hconcludes a with ⟨b, hok⟩ | ⟨-, e, hmalformed⟩
        · rw [hok] at hreply
          cases hreply
        · rw [hmalformed] at hreply
          cases hreply
          exact hearly.elim

/-- A failure leaves the workspace as it is, or with one more statement recorded. -/
theorem snd_run_of_error (hconcludes : t.Concludes)
    (hrun : (t.run Workspace.answer w).1 = .error f) :
    (t.run Workspace.answer w).2 = w ∨ ∃ q, t.request? = some (.executeStatement q) ∧
      (t.run Workspace.answer w).2 = w.recorded q := by
  cases t with
  | done result => exact Or.inl rfl
  | call r resume =>
    rcases w.snd_answer r with hsame | ⟨hstores, a, hok⟩ | ⟨q, rfl, hrecorded⟩
    · exact Or.inl hsame
    · -- Something was stored, so that the task has succeeded.
      have hreply : resume (.ok a) = .error f := by
        rw [← hok]
        exact hrun
      cases r with
      | executeStatement r => exact hstores.elim
      | _ =>
        rcases hconcludes a with ⟨b, h⟩ | ⟨h, -⟩
        · rw [h] at hreply
          cases hreply
        · exact absurd hstores h
    · exact Or.inr ⟨q, rfl, hrecorded⟩

end Task

/-! ### Failed calls of a session -/

namespace Session

section Failing

variable {call : Call Json} (hs : s.Standard) (hperform : s.perform call = (.error f, s'))

include hperform

theorem calls_of_perform :
    s'.calls = s.calls ++ (s.provider.task (s.supply s.performed) call).request?.toList := by
  obtain ⟨-, rfl⟩ := Prod.mk.inj hperform
  rfl

include hs

theorem run_of_perform :
    (s.provider.task (s.supply s.performed) call).run Workspace.answer s.workspace =
      (.error f, s'.workspace) := by
  rw [perform_eq hs call, hperform]

theorem workspace_of_perform_error :
    s'.workspace = s.workspace ∨ ∃ q, s'.calls = s.calls ++ [.executeStatement q] ∧
      s'.workspace = s.workspace.recorded q := by
  have hconcludes : (s.provider.task (s.supply s.performed) call).Concludes := by
    rw [hs.provider]
    exact Provider.task_concludes call
  have hrun := run_of_perform hs hperform
  rcases Task.snd_run_of_error hconcludes (congrArg Prod.fst hrun) with hsame | ⟨q, hq, hrecorded⟩
  · left
    rwa [hrun] at hsame
  · right
    rw [hrun] at hrecorded
    refine ⟨q, ?_, hrecorded⟩
    rw [calls_of_perform hperform, hq]
    rfl

theorem perform_of_early (hearly : f.Early) :
    s'.calls = s.calls ∧ s'.workspace = s.workspace := by
  have hlate : (s.provider.task (s.supply s.performed) call).Replies (fun _ => Late)
      fun _ => Late := by
    rw [hs.provider]
    exact Provider.task_late call
  have hconcludes : (s.provider.task (s.supply s.performed) call).Concludes := by
    rw [hs.provider]
    exact Provider.task_concludes call
  have hrun := run_of_perform hs hperform
  have hnone := Task.request?_of_early hconcludes hlate (congrArg Prod.fst hrun) hearly
  constructor
  · rw [calls_of_perform hperform, hnone]
    exact List.append_nil s.calls
  · have hworkspace := Task.snd_run Workspace.answer
      (s.provider.task (s.supply s.performed) call) s.workspace
    rwa [hrun, hnone] at hworkspace

end Failing

/-- A failed call of the provider leaves all objects of the workspace as they are, with all rules and
    failures, and records at most the one statement that it ran. An early failure leaves no trace at
    all. -/
theorem perform_of_failure {call : Call Json} (hs : s.Standard)
    (hperform : s.perform call = (.error f, s')) :
    s.workspace.SameObjects s'.workspace ∧
      (s'.workspace.statements = s.workspace.statements ∨
        ∃ q, s'.calls = s.calls ++ [.executeStatement q] ∧
          s'.workspace.statements = s.workspace.statements ++ [q]) ∧
      (f.Early → s'.calls = s.calls ∧ s'.workspace = s.workspace) := by
  refine ⟨?objects, ?statements, perform_of_early hs hperform⟩
  case objects =>
    rcases workspace_of_perform_error hs hperform with hsame | ⟨q, -, hrecorded⟩
    · rw [hsame]
      exact Workspace.SameObjects.refl s.workspace
    · rw [hrecorded]
      exact Workspace.sameObjects_recorded s.workspace q
  case statements =>
    rcases workspace_of_perform_error hs hperform with hsame | ⟨q, hcalls, hrecorded⟩
    · left
      rw [hsame]
    · right
      refine ⟨q, hcalls, ?_⟩
      rw [hrecorded]
      rfl

/-- A session in which every statement fails. -/
def fruitless : Session :=
  { GenieSpace.newSession with
    workspace := Workspace.empty.respond "" (.ok (.failed "no warehouse")) }

theorem standard_fruitless : fruitless.Standard := ⟨rfl, rfl⟩

/-- A delete fails with its statement, which is recorded, and a call of nothing known without. -/
theorem perform_of_failure_fruitless :
    (∃ f s', fruitless.perform (.delete "databricks_metric_view" MetricView.bareView) =
        (.error f, s') ∧ fruitless.workspace.SameObjects s'.workspace ∧
      s'.workspace.statements.length = 1) ∧
    ∃ f s', fruitless.perform (.delete "databricks_view" MetricView.bareView) = (.error f, s') ∧
      f.Early ∧ s'.workspace = fruitless.workspace := by
  constructor
  · have hdelete : fruitless.perform (.delete "databricks_metric_view" MetricView.bareView) =
        (.error (.statement "failed to delete metric view" "FAILED: no warehouse"),
          (fruitless.perform (.delete "databricks_metric_view" MetricView.bareView)).2) := rfl
    exact ⟨_, _, hdelete, (perform_of_failure standard_fruitless hdelete).1, rfl⟩
  · have hdelete : fruitless.perform (.delete "databricks_view" MetricView.bareView) =
        (.error (.unknownResource "databricks_view"),
          (fruitless.perform (.delete "databricks_view" MetricView.bareView)).2) := rfl
    exact ⟨_, _, hdelete, trivial,
      ((perform_of_failure standard_fruitless hdelete).2.2 trivial).2⟩

end Session

end Provisioner
