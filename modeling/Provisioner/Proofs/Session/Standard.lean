import Provisioner.Proofs.Provider.Kinds
import Provisioner.Proofs.Session.Moves
/-!
# Sessions of the standard provider

The sessions that matter most are those of the provider with all kinds of resources, at work on a
workspace that answers for itself, without a relay (`Session.Standard`). There a call of the
provider is the task of its resource, run on the workspace (`Session.perform_eq`).
-/

namespace Provisioner

variable {s : Session} {call : Call Json} {w : Workspace}

/-! ### Type names -/

/-- The type name of spaces. -/
def Options.genieSpace (o : Options) : String := qualifiedName o.typeNamePrefix "genie_space"

theorem Provider.resource_genieSpace (o : Options) :
    (standard o).resource o.genieSpace = .ok GenieSpace.adapter.erase :=
  resource_typeName o .genieSpace

/-! ### Standard sessions -/

namespace Session

/-- A session of the standard provider without a relay. -/
structure Standard (s : Session) : Prop where
  provider : s.provider = .standard s.provider.options
  amendments : s.amendments = fun _ => []

theorem standard_start (o : Options) (supply : Nat → Space.IdSupply) :
    (start (.standard o) (fun _ => []) supply).Standard := ⟨rfl, rfl⟩

/-- A standard session has gone on to another one, with the same provider and this workspace. -/
structure GoesTo (s : Session) (w : Workspace) (s' : Session) : Prop where
  standard : s'.Standard
  provider : s'.provider = s.provider
  workspace : s'.workspace = w

theorem Standard.goesTo_runFrom (h : s.Standard) (answers : List StepAnswer) (steps : List Step) :
    s.GoesTo (s.workspace.playAll (s.movesFrom answers steps)) (s.runFrom answers steps).2 := by
  obtain ⟨hprovider, hrelay, hworkspace⟩ := runFrom_moves answers s steps
  refine ⟨⟨?_, hrelay.trans h.amendments⟩, hprovider, hworkspace⟩
  rw [hprovider]
  exact h.provider

theorem relay_nil : relay (fun _ => []) = Workspace.answer := rfl

/-- To perform a call is to run its task on the workspace. -/
theorem perform_eq (h : s.Standard) (call : Call Json) :
    (s.provider.task (s.supply s.performed) call).run Workspace.answer s.workspace =
      ((s.perform call).1, (s.perform call).2.workspace) := by
  unfold Session.perform
  dsimp only
  rw [h.amendments, relay_nil]

theorem task_eq (h : s.Standard) (ids : Space.IdSupply) (call : Call Json) :
    s.provider.task ids call = (Provider.standard s.provider.options).task ids call :=
  congrArg (fun p : Provider => p.task ids call) h.provider

theorem perform_of_run (h : s.Standard) {result : Except Failure call.Reply}
    (hrun : (s.provider.task (s.supply s.performed) call).run Workspace.answer s.workspace =
      (result, w)) :
    ∃ s', s.perform call = (result, s') ∧ s.GoesTo w s' := by
  rw [perform_eq h call] at hrun
  obtain ⟨hresult, hworkspace⟩ := Prod.mk.inj hrun
  exact ⟨(s.perform call).2, Prod.ext hresult rfl, ⟨h.provider, h.amendments⟩, rfl, hworkspace⟩

/-- A read returns what the task of the adapter comes to on the workspace. -/
theorem fst_perform_read (h : s.Standard) {k : Kind} {state : Json} {q : k.State}
    (hstate : (k.adapter s.provider.options.waitTimeout).codec.ofValue state = .ok q) :
    (s.perform (.read (s.provider.options.typeName k) state)).1 =
      (((k.adapter s.provider.options.waitTimeout).read q).run Workspace.answer s.workspace).1.map
        fun refreshed => refreshed.toOption.map
          (k.adapter s.provider.options.waitTimeout).codec.toValue := by
  have hrun := perform_eq h (.read (s.provider.options.typeName k) state)
  rw [task_eq h, Provider.task_read hstate, Task.run_map] at hrun
  exact (congrArg Prod.fst hrun).symm

/-- What a read finds, the adapter has found for a state that fits. -/
theorem found_of_perform_read (h : s.Standard) {k : Kind} {state found : Json}
    (hread : (s.perform (.read (s.provider.options.typeName k) state)).1 = .ok (some found)) :
    ∃ q q', (k.adapter s.provider.options.waitTimeout).codec.ofValue state = .ok q ∧
      (((k.adapter s.provider.options.waitTimeout).read q).run Workspace.answer s.workspace).1 =
        .ok (.found q') ∧
      found = (k.adapter s.provider.options.waitTimeout).codec.toValue q' := by
  cases hstate : (k.adapter s.provider.options.waitTimeout).codec.ofValue state with
  | error e =>
    have hmisfit := congrArg Prod.fst (perform_eq h (.read (s.provider.options.typeName k) state))
    rw [task_eq h, Provider.task_read_misfit hstate] at hmisfit
    cases hmisfit.trans hread
  | ok q =>
    rw [fst_perform_read h hstate] at hread
    cases hrun : (((k.adapter s.provider.options.waitTimeout).read q).run Workspace.answer
        s.workspace).1 with
    | error f =>
      rw [hrun] at hread
      cases hread
    | ok refreshed =>
      rw [hrun] at hread
      cases refreshed with
      | removed => cases hread
      | found q' => exact ⟨q, q', rfl, hrun, (Option.some.inj (Except.ok.inj hread)).symm⟩

end Session

end Provisioner
