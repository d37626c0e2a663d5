import Provisioner.Proofs.GenieSpace.Operations
import Provisioner.Proofs.Provider.Callers
/-!
# How operations on spaces end

Each operation on a space has few endings. Either the workspace is left as it is, or the operation
was carried out, and then it is known what was stored under which identifier and what is returned.
The lemmas say so for every state, every plan and every workspace: first of tasks, then of calls of
a standard session that have returned a state.
-/

namespace Provisioner

variable {α β σ : Type}

/-- A value that has been read, of a task that has succeeded. -/
theorem Task.run_reading_ok {client : Client σ} {value : Except Json.Error β} {next : β → Task α}
    {c c' : σ} {a : α} (h : (Task.reading value next).run client c = (.ok a, c')) :
    ∃ b, value = .ok b ∧ (next b).run client c = (.ok a, c') := by
  cases value with
  | error e => cases h
  | ok b => exact ⟨b, rfl, h⟩

theorem Task.run_map_ok {client : Client σ} {t : Task α} {f : α → β} {c c' : σ} {b : β}
    (h : (t.map f).run client c = (.ok b, c')) :
    ∃ a, t.run client c = (.ok a, c') ∧ f a = b := by
  rw [Task.run_map] at h
  obtain ⟨hresult, hstate⟩ := Prod.mk.inj h
  rcases hrun : t.run client c with ⟨result, c''⟩
  rw [hrun] at hresult hstate
  cases result with
  | error e => cases hresult
  | ok a => exact ⟨a, Prod.ext rfl hstate, Except.ok.inj hresult⟩

theorem Session.run_eq_of_perform {s s' : Session} (hs : s.Standard) {call : Call Json}
    {reply : Except Failure call.Reply} (h : s.perform call = (reply, s')) :
    (s.provider.task (s.supply s.performed) call).run Workspace.answer s.workspace =
      (reply, s'.workspace) := by
  rw [perform_eq hs call, h]

namespace GenieSpace

open Api (CreateSpace UpdateSpace)
open Json
open Space (Contents IdSupply)
open Workspace (answer_of_failure answer_of_no_failure spaceUnknown)

variable {w : Workspace} {ids : IdSupply} {p q : State} {x : String} {stored : Api.Space}
  {s s' : Session} {v plan prior state : Json}

/-! ### Tasks -/

theorem create_cases (ids : IdSupply) (p : State) (w : Workspace) :
    (∃ f, (create ids p).run Workspace.answer w = (.error f, w) ∧
      (create ids p).carriedOut Workspace.answer w = false) ∨
    ((create ids p).run Workspace.answer w =
        (.ok (p.under (w.nextId "space") (w.nextId "space")),
          (w.createSpace (createRequest ids p)).2) ∧
      (create ids p).carriedOut Workspace.answer w = true) := by
  cases hfailure : w.failures .createSpace with
  | some e =>
    have hanswer : w.answer (.createSpace (createRequest ids p)) = (.error e, w) :=
      answer_of_failure hfailure
    left
    simp only [create, Task.run, Task.carriedOut, hanswer]
    exact ⟨_, rfl, rfl⟩
  | none =>
    have hanswer : w.answer (.createSpace (createRequest ids p)) =
        w.createSpace (createRequest ids p) := answer_of_no_failure hfailure
    right
    refine ⟨run_create hfailure, ?_⟩
    simp only [create, Task.carriedOut, hanswer]
    rfl

theorem read_cases (q : State) (w : Workspace) :
    (∃ reply, (read q).run Workspace.answer w = (reply, w) ∧ ∀ p, reply ≠ .ok (.found p)) ∨
    ∃ x stored contents, q.id = some x ∧ x ≠ "" ∧ w.spaces.get? x = some stored ∧
      (read q).run Workspace.answer w = (.ok (.found (refreshed q stored contents)), w) := by
  unfold read
  cases hid : q.requireId with
  | error f =>
    left
    refine ⟨.error f, rfl, ?_⟩
    intro p hp
    cases hp
  | ok x =>
    obtain ⟨hx, hne⟩ := requireId_eq_ok hid
    cases hanswer : (w.answer (.getSpace ⟨x, true⟩)).1 with
    | error e =>
      left
      simp only [Task.run, hanswer, snd_answer_getSpace]
      refine ⟨_, rfl, ?_⟩
      intro p hp
      split at hp <;> cases hp
    | ok stored =>
      have hstored := get?_of_answer hanswer
      simp only [Task.run, hanswer, snd_answer_getSpace]
      cases hcontents : contentsOf stored with
      | error f =>
        left
        refine ⟨_, rfl, ?_⟩
        intro p hp
        cases hp
      | ok contents =>
        right
        exact ⟨x, stored, contents, hx, hne, hstored, rfl⟩

theorem update_cases (ids : IdSupply) (q p : State) (w : Workspace) :
    (∃ f, (update ids q p).run Workspace.answer w = (.error f, w) ∧
      (update ids q p).carriedOut Workspace.answer w = false) ∨
    ∃ x stored, q.id = some x ∧ x ≠ "" ∧ w.spaces.get? x = some stored ∧
      (update ids q p).run Workspace.answer w =
        (.ok { p with id := q.id, spaceId := q.spaceId },
          w.replaceSpace x (p.space ids stored.spaceId)) ∧
      (update ids q p).carriedOut Workspace.answer w = true := by
  unfold update
  cases hid : q.requireId with
  | error f => exact Or.inl ⟨f, rfl, rfl⟩
  | ok x =>
    obtain ⟨hx, hne⟩ := requireId_eq_ok hid
    cases hfailure : w.failures .updateSpace with
    | some e =>
      have hanswer : w.answer (.updateSpace (updateRequest ids x p)) = (.error e, w) :=
        answer_of_failure hfailure
      left
      simp only [Task.run, Task.carriedOut, hanswer]
      exact ⟨_, rfl, rfl⟩
    | none =>
      have hanswer : w.answer (.updateSpace (updateRequest ids x p)) =
          w.updateSpace (updateRequest ids x p) := answer_of_no_failure hfailure
      cases hstored : w.spaces.get? x with
      | none =>
        have hunknown : w.updateSpace (updateRequest ids x p) = (.error (spaceUnknown x), w) := by
          simp only [Workspace.updateSpace, updateRequest, hstored]
        left
        simp only [Task.run, Task.carriedOut, hanswer, hunknown]
        exact ⟨_, rfl, rfl⟩
      | some stored =>
        have hupdated : w.updateSpace (updateRequest ids x p) =
            (.ok (p.space ids stored.spaceId), w.replaceSpace x (p.space ids stored.spaceId)) := by
          simp only [Workspace.updateSpace, updateRequest, hstored]
          rfl
        right
        refine ⟨x, stored, hx, hne, hstored, ?_, ?_⟩
        · simp only [Task.run, hanswer, hupdated]
        · simp only [Task.carriedOut, hanswer, hupdated]
          rfl

theorem delete_cases (q : State) (w : Workspace) :
    (∃ reply, (delete q).run Workspace.answer w = (reply, w) ∧
      (delete q).carriedOut Workspace.answer w = false) ∨
    ∃ x, q.id = some x ∧ (delete q).run Workspace.answer w = (.ok (), w.removeSpace x) ∧
      (delete q).carriedOut Workspace.answer w = true := by
  unfold delete
  cases hid : q.requireId with
  | error f => exact Or.inl ⟨.error f, rfl, rfl⟩
  | ok x =>
    obtain ⟨hx, hne⟩ := requireId_eq_ok hid
    cases hfailure : w.failures .trashSpace with
    | some e =>
      have hanswer : w.answer (.trashSpace x) = (.error e, w) := answer_of_failure hfailure
      left
      simp only [Task.run, Task.carriedOut, hanswer]
      exact ⟨_, rfl, rfl⟩
    | none =>
      have hanswer : w.answer (.trashSpace x) = w.trashSpace x := answer_of_no_failure hfailure
      cases hstored : w.spaces.get? x with
      | none =>
        have hunknown : w.trashSpace x = (.error (spaceUnknown x), w) := by
          simp only [Workspace.trashSpace, hstored]
        left
        simp only [Task.run, Task.carriedOut, hanswer, hunknown]
        exact ⟨_, rfl, rfl⟩
      | some stored =>
        have htrashed : w.trashSpace x = (.ok (), w.removeSpace x) := by
          simp only [Workspace.trashSpace, hstored]
        right
        refine ⟨x, hx, ?_, ?_⟩
        · simp only [Task.run, hanswer, htrashed]
        · simp only [Task.carriedOut, hanswer, htrashed]
          rfl

/-! ### Calls of a standard session that return a state -/

/-- A state of the space with an identifier. -/
def HasId (x : String) (v : Json) : Prop := ∃ q, State.codec.ofValue v = .ok q ∧ q.id = some x

theorem state_of_create (hs : s.Standard)
    (h : s.perform (.create s.provider.options.genieSpace plan) = (.ok state, s')) :
    ∃ p, State.codec.ofValue plan = .ok p ∧
      state = State.codec.toValue
        (p.under (s.workspace.nextId "space") (s.workspace.nextId "space")) ∧
      s'.workspace =
        (s.workspace.createSpace (createRequest (s.supply s.performed) p)).2 := by
  have hrun := Session.run_eq_of_perform hs h
  simp only [Provider.task, resource_eq hs, Provider.serving] at hrun
  obtain ⟨p, hplan, hrun⟩ := Task.run_reading_ok hrun
  obtain ⟨q, hcreate, hstate⟩ := Task.run_map_ok hrun
  rcases create_cases (s.supply s.performed) p s.workspace with ⟨f, hfailed, -⟩ | ⟨hcreated, -⟩
  · cases hfailed.symm.trans hcreate
  · obtain ⟨hq, hworkspace⟩ := Prod.mk.inj (hcreated.symm.trans hcreate)
    obtain rfl := Except.ok.inj hq
    exact ⟨p, hplan, hstate.symm, hworkspace.symm⟩

theorem state_of_read (hs : s.Standard)
    (h : s.perform (.read s.provider.options.genieSpace v) = (.ok (some state), s')) :
    ∃ q x stored contents, State.codec.ofValue v = .ok q ∧ q.id = some x ∧ x ≠ "" ∧
      s.workspace.spaces.get? x = some stored ∧
      state = State.codec.toValue (refreshed q stored contents) := by
  have hrun := Session.run_eq_of_perform hs h
  simp only [Provider.task, resource_eq hs, Provider.serving] at hrun
  obtain ⟨q, hv, hrun⟩ := Task.run_reading_ok hrun
  obtain ⟨found, hread, hstate⟩ := Task.run_map_ok hrun
  rcases read_cases q s.workspace with
    ⟨reply, hreply, hnot⟩ | ⟨x, stored, contents, hx, hne, hstored, hrefreshed⟩
  · obtain ⟨rfl, -⟩ := Prod.mk.inj (hreply.symm.trans hread)
    cases found with
    | removed => cases hstate
    | found p => exact absurd rfl (hnot p)
  · obtain ⟨hok, -⟩ := Prod.mk.inj (hrefreshed.symm.trans hread)
    obtain rfl := Except.ok.inj hok
    exact ⟨q, x, stored, contents, hv, hx, hne, hstored, (Option.some.inj hstate).symm⟩

theorem state_of_update (hs : s.Standard)
    (h : s.perform (.update s.provider.options.genieSpace prior plan) = (.ok state, s')) :
    ∃ q p, State.codec.ofValue prior = .ok q ∧ State.codec.ofValue plan = .ok p ∧
      state = State.codec.toValue { p with id := q.id, spaceId := q.spaceId } := by
  have hrun := Session.run_eq_of_perform hs h
  simp only [Provider.task, resource_eq hs, Provider.serving] at hrun
  obtain ⟨q, hprior, hrun⟩ := Task.run_reading_ok hrun
  obtain ⟨p, hplan, hrun⟩ := Task.run_reading_ok hrun
  obtain ⟨q', hupdate, hstate⟩ := Task.run_map_ok hrun
  rcases update_cases (s.supply s.performed) q p s.workspace with
    ⟨f, hfailed, -⟩ | ⟨x, stored, -, -, -, hupdated, -⟩
  · cases hfailed.symm.trans hupdate
  · obtain ⟨hq', -⟩ := Prod.mk.inj (hupdated.symm.trans hupdate)
    obtain rfl := Except.ok.inj hq'
    exact ⟨q, p, hprior, hplan, hstate.symm⟩

end GenieSpace

end Provisioner
