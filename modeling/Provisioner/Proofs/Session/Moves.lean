import Provisioner.Proofs.Session.Trace
import Provisioner.Proofs.Workspace.Moves
/-!
# What a session does to its workspace

The steps of a session change the workspace by moves alone: the calls that the provider makes of it,
which the session records, and the moves that a step is by itself (`Step.moves`). The moves of a run
are known from its steps (`Session.movesFrom`), and to run the steps is to play the moves
(`Session.workspace_runFrom`). The provider and the relay of a session stay what they are.
-/

namespace Provisioner

open Api
open Json (Members)

variable {s s' s'' : Session} {rs rs' : List Request} {answers : List StepAnswer}
  {steps : List Step}

namespace Session

/-- `s'` is `s` after the provider has made some calls. -/
structure Requests (s : Session) (rs : List Request) (s' : Session) : Prop where
  provider : s'.provider = s.provider
  amendments : s'.amendments = s.amendments
  calls : s'.calls = s.calls ++ rs
  workspace : s'.workspace = s.workspace.playAll (rs.map .request)

theorem Requests.refl (s : Session) : s.Requests [] s := ⟨rfl, rfl, by simp, rfl⟩

theorem Requests.trans (h : s.Requests rs s') (h' : s'.Requests rs' s'') :
    s.Requests (rs ++ rs') s'' where
  provider := h'.provider.trans h.provider
  amendments := h'.amendments.trans h.amendments
  calls := by rw [h'.calls, h.calls, List.append_assoc]
  workspace := by rw [h'.workspace, h.workspace, List.map_append, Workspace.playAll_append]

/-- A relay changes answers, and nothing of what a call does. -/
theorem snd_relay (amendments : Amendments) (r : Request) (w : Workspace) :
    (relay amendments r w).2 = (w.answer r).2 := by
  unfold relay
  dsimp only
  split <;> rfl

theorem requests_perform (call : Call Json) (s : Session) :
    ∃ rs, s.Requests rs (s.perform call).2 := by
  refine ⟨(s.provider.task (s.supply s.performed) call).request?.toList, rfl, rfl, rfl, ?_⟩
  have hrun := Task.snd_run (relay s.amendments) (s.provider.task (s.supply s.performed) call)
    s.workspace
  show ((s.provider.task (s.supply s.performed) call).run (relay s.amendments) s.workspace).2 = _
  rw [hrun]
  cases (s.provider.task (s.supply s.performed) call).request? with
  | none => rfl
  | some r => exact snd_relay s.amendments r s.workspace

theorem requests_performAll (cs : List (Call Json)) (s : Session) :
    ∃ rs, s.Requests rs (s.performAll cs) := by
  induction cs generalizing s with
  | nil => exact ⟨[], Requests.refl s⟩
  | cons c cs ih =>
    obtain ⟨rs, hrs⟩ := requests_perform c s
    obtain ⟨rs', hrs'⟩ := ih (s.perform c).2
    exact ⟨rs ++ rs', hrs.trans hrs'⟩

theorem requests_live (l : Lifecycle Json) (s : Session) : ∃ rs, s.Requests rs (s.live l).2 := by
  rw [snd_live]
  exact requests_performAll (s.liveCalls l) s

end Session

/-! ### Steps -/

/-- What a step does to the workspace by itself, without the provider. -/
def Step.moves : Step → List Move
  | insertSpace new => [.insertSpace new]
  | modifySpace spaceId edits => [.modifySpace spaceId (amended Space.codec edits)]
  | removeSpace spaceId => [.removeSpace spaceId]
  | insertDeployment appName new => [.insertDeployment appName new]
  | respond pattern outcome => [.respond pattern outcome]
  | fail operation error => [.fail operation error]
  | request r => [.request r]
  | runStatement warehouseId statement wait =>
      [.request (statementRequest wait warehouseId statement)]
  | _ => []

namespace Session

/-- All that a step does to the workspace: the calls that the provider makes in it, and the moves
    that it is by itself. -/
def moves (answers : List StepAnswer) (s : Session) (step : Step) : List Move :=
  ((s.step answers step).2.calls.drop s.calls.length).map .request ++ step.moves

/-- All that some steps do to the workspace, in order. -/
def movesFrom (answers : List StepAnswer) (s : Session) : List Step → List Move
  | [] => []
  | first :: rest =>
      s.moves answers first ++
        movesFrom (answers ++ [(s.step answers first).1]) (s.step answers first).2 rest

theorem replaceSpace_self {w : Workspace} {spaceId : String} {space : Space}
    (h : w.spaces.get? spaceId = some space) : w.replaceSpace spaceId space = w := by
  have hspaces : w.spaces.insert spaceId space = w.spaces := by
    refine Dict.ext_get? fun key => ?_
    rw [Dict.get?_insert]
    by_cases hkey : key = spaceId
    · rw [if_pos hkey, hkey, h]
    · rw [if_neg hkey]
  rw [Workspace.replaceSpace, hspaces]

theorem workspace_modifySpace (spaceId : String) (edits : Members) (s : Session) :
    (s.modifySpace spaceId edits).2.workspace =
      s.workspace.play (.modifySpace spaceId (amended Space.codec edits)) := by
  simp only [modifySpace, Workspace.play]
  cases hget : s.workspace.spaces.get? spaceId with
  | none => rfl
  | some space =>
    simp only [amended, Json.Codec.ofValue]
    cases Space.codec.decode ((Space.codec.toValue space).amend edits) with
    | error m => exact (replaceSpace_self hget).symm
    | ok space' => rfl

/-- A step that is no call of the provider leaves everything but the workspace as it is. -/
theorem step_direct (answers : List StepAnswer) (s : Session) (step : Step)
    (hcall : ∀ c, step ≠ .call c) (hlive : ∀ l, step ≠ .live l) :
    (s.step answers step).2.provider = s.provider ∧
      (s.step answers step).2.amendments = s.amendments ∧
      (s.step answers step).2.calls = s.calls ∧
      (s.step answers step).2.workspace = s.workspace.playAll step.moves := by
  obtain ⟨-, w, hw⟩ := step_of_no_call answers s hcall hlive
  refine ⟨by rw [hw], by rw [hw], by rw [hw], ?_⟩
  cases step with
  | call c => exact absurd rfl (hcall c)
  | live l => exact absurd rfl (hlive l)
  | modifySpace spaceId edits => exact workspace_modifySpace spaceId edits s
  | _ => rfl

theorem requests_step {step : Step} (h : ∃ rs, s.Requests rs (s.step answers step).2)
    (hmoves : step.moves = []) :
    s.Requests ((s.step answers step).2.calls.drop s.calls.length) (s.step answers step).2 ∧
      s.moves answers step =
        ((s.step answers step).2.calls.drop s.calls.length).map .request := by
  rcases h with ⟨rs, hrs⟩
  have hdrop : (s.step answers step).2.calls.drop s.calls.length = rs := by
    rw [hrs.calls, List.drop_left]
  refine ⟨hdrop.symm ▸ hrs, ?_⟩
  rw [moves, hmoves, List.append_nil]

/-- A step plays its moves, and leaves the provider and the relay as they are. -/
theorem step_moves (answers : List StepAnswer) (s : Session) (step : Step) :
    (s.step answers step).2.provider = s.provider ∧
      (s.step answers step).2.amendments = s.amendments ∧
      (s.step answers step).2.workspace = s.workspace.playAll (s.moves answers step) := by
  have hprovider (h : ∃ rs, s.Requests rs (s.step answers step).2) (hmoves : step.moves = []) :
      (s.step answers step).2.provider = s.provider ∧
        (s.step answers step).2.amendments = s.amendments ∧
        (s.step answers step).2.workspace = s.workspace.playAll (s.moves answers step) := by
    obtain ⟨hrequests, heq⟩ := requests_step h hmoves
    exact ⟨hrequests.provider, hrequests.amendments, heq ▸ hrequests.workspace⟩
  by_cases hcall : ∃ c, step = .call c
  · rcases hcall with ⟨c, rfl⟩
    exact hprovider (requests_perform _ s) rfl
  by_cases hlive : ∃ l, step = .live l
  · rcases hlive with ⟨l, rfl⟩
    exact hprovider (requests_live _ s) rfl
  obtain ⟨hsame, hrelay, hcalls, hworkspace⟩ := step_direct answers s step
    (fun c h => hcall ⟨c, h⟩) (fun l h => hlive ⟨l, h⟩)
  refine ⟨hsame, hrelay, ?_⟩
  rw [hworkspace, moves, hcalls, List.drop_length]
  rfl

/-- All moves of a run are calls, or moves that one of its steps is by itself. -/
theorem mem_movesFrom {m : Move} (h : m ∈ s.movesFrom answers steps) :
    (∃ r, m = .request r) ∨ ∃ step ∈ steps, m ∈ step.moves := by
  induction steps generalizing answers s with
  | nil => exact absurd h List.not_mem_nil
  | cons first rest ih =>
    rw [movesFrom, List.mem_append, moves, List.mem_append] at h
    rcases h with (hcall | hmove) | hrest
    · obtain ⟨r, -, rfl⟩ := List.mem_map.mp hcall
      exact .inl ⟨r, rfl⟩
    · exact .inr ⟨first, List.mem_cons_self, hmove⟩
    · rcases ih hrest with hcall | ⟨step, hmem, hmove⟩
      · exact .inl hcall
      · exact .inr ⟨step, List.mem_cons_of_mem first hmem, hmove⟩

/-- To run steps is to play their moves. -/
theorem runFrom_moves (answers : List StepAnswer) (s : Session) (steps : List Step) :
    (s.runFrom answers steps).2.provider = s.provider ∧
      (s.runFrom answers steps).2.amendments = s.amendments ∧
      (s.runFrom answers steps).2.workspace = s.workspace.playAll (s.movesFrom answers steps) := by
  induction steps generalizing answers s with
  | nil => exact ⟨rfl, rfl, rfl⟩
  | cons first rest ih =>
    obtain ⟨hprovider, hrelay, hworkspace⟩ := step_moves answers s first
    obtain ⟨hprovider', hrelay', hworkspace'⟩ :=
      ih (answers ++ [(s.step answers first).1]) (s.step answers first).2
    refine ⟨hprovider'.trans hprovider, hrelay'.trans hrelay, ?_⟩
    rw [movesFrom, Workspace.playAll_append, ← hworkspace]
    exact hworkspace'

end Session

end Provisioner
