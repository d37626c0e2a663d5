import Provisioner.Proofs.GenieSpace.Drift
import Provisioner.Proofs.Workspace.Keys
/-!
# A space that was removed does not come back

The identifier of a created space is never given again, and no operation but an insert stores
anything under an identifier that has no space. So once a space is removed, by a delete or behind
the provider's back, whatever is done next leaves it removed (`never_returns`): a read reports it as
gone, an update finds nothing to change, and a delete has nothing left to do.
-/

namespace Provisioner

open Workspace (answer_of_no_failure numbered_ne_empty spaceUnknown)

variable {answers : List StepAnswer} {steps : List Step}

/-- The only inserts of a run are those among its steps. -/
theorem Session.insertSpace_mem_movesFrom {s : Session} {space : Api.Space}
    (h : Move.insertSpace space ∈ s.movesFrom answers steps) : Step.insertSpace space ∈ steps := by
  rcases mem_movesFrom h with ⟨r, hr⟩ | ⟨step, hmem, hmove⟩
  · cases hr
  · have hstep : step = .insertSpace space := by
      cases step with
      | insertSpace new =>
        obtain rfl := Move.insertSpace.inj (List.mem_singleton.mp hmove)
        rfl
      | _ => simp [Step.moves] at hmove
    exact hstep ▸ hmem

namespace GenieSpace

variable {w : Workspace} {ids : Space.IdSupply} {p q : State} {x : String} {s s' s₁ s₂ s₃ : Session}
  {plan prior state v : Json}

/-! ### Operations on a space that is not there -/

theorem run_read_missing (h : w.failures .getSpace = none) (hid : q.id = some x) (hne : x ≠ "")
    (hmissing : w.spaces.get? x = none) :
    (read q).run Workspace.answer w = (.ok .removed, w) := by
  have hanswer : w.answer (.getSpace ⟨x, true⟩) = (.error (spaceUnknown x), w) := by
    rw [answer_of_no_failure h, Workspace.serve, Workspace.getSpace, hmissing]
  simp only [read, requireId_eq hid hne, Task.run, hanswer]
  rfl

theorem run_update_missing (h : w.failures .updateSpace = none) (hid : q.id = some x)
    (hne : x ≠ "") (hmissing : w.spaces.get? x = none) :
    (update ids q p).run Workspace.answer w =
      (.error (.api "failed to update genie space" (spaceUnknown x)), w) := by
  have hanswer : w.answer (.updateSpace (updateRequest ids x p)) =
      (.error (spaceUnknown x), w) := by
    rw [answer_of_no_failure h, Workspace.serve, Workspace.updateSpace]
    simp only [updateRequest, hmissing]
  simp only [update, requireId_eq hid hne, Task.run, hanswer]

theorem removeSpace_of_missing (hmissing : w.spaces.get? x = none) : w.removeSpace x = w := by
  rw [Workspace.removeSpace, Dict.erase_eq_self hmissing]

/-- A delete leaves nothing under the identifier, whether there was a space or not. -/
theorem run_delete (h : w.failures .trashSpace = none) (hid : q.id = some x) (hne : x ≠ "") :
    (delete q).run Workspace.answer w = (.ok (), w.removeSpace x) := by
  have hanswer : w.answer (.trashSpace x) = w.trashSpace x := answer_of_no_failure h
  simp only [delete, requireId_eq hid hne, Task.run, hanswer, Workspace.trashSpace]
  cases hstored : w.spaces.get? x with
  | none =>
    rw [removeSpace_of_missing hstored]
    rfl
  | some stored => rfl

/-! ### Calls of a standard session -/

theorem perform_read_missing (hs : s.Standard) (hv : HasId x v) (hne : x ≠ "")
    (h : s.workspace.failures .getSpace = none) (hmissing : s.workspace.spaces.get? x = none) :
    (s.perform (.read s.provider.options.genieSpace v)).1 = .ok none := by
  obtain ⟨q, hq, hid⟩ := hv
  have hrun := Session.perform_eq hs (.read s.provider.options.genieSpace v)
  simp only [Provider.task, resource_eq hs, Provider.serving, erase_read hq, Task.run_map,
    run_read_missing h hid hne hmissing] at hrun
  exact (congrArg Prod.fst hrun).symm

theorem perform_update_missing (hs : s.Standard) (hprior : HasId x prior) (hne : x ≠ "")
    (hplan : State.codec.ofValue plan = .ok p) (h : s.workspace.failures .updateSpace = none)
    (hmissing : s.workspace.spaces.get? x = none) :
    (s.perform (.update s.provider.options.genieSpace prior plan)).1 =
        .error (.api "failed to update genie space" (spaceUnknown x)) ∧
      (s.perform (.update s.provider.options.genieSpace prior plan)).2.workspace = s.workspace := by
  obtain ⟨q, hq, hid⟩ := hprior
  have hrun := Session.perform_eq hs (.update s.provider.options.genieSpace prior plan)
  simp only [Provider.task, resource_eq hs, Provider.serving, erase_update hq hplan, Task.run_map,
    run_update_missing h hid hne hmissing] at hrun
  exact ⟨(congrArg Prod.fst hrun).symm, (congrArg Prod.snd hrun).symm⟩

theorem perform_delete (hs : s.Standard) (hv : HasId x v) (hne : x ≠ "")
    (h : s.workspace.failures .trashSpace = none) :
    (s.perform (.delete s.provider.options.genieSpace v)).1 = .ok () ∧
      (s.perform (.delete s.provider.options.genieSpace v)).2.workspace =
        s.workspace.removeSpace x := by
  obtain ⟨q, hq, hid⟩ := hv
  have hrun := Session.perform_eq hs (.delete s.provider.options.genieSpace v)
  simp only [Provider.task, resource_eq hs, Provider.serving, erase_delete hq,
    run_delete h hid hne] at hrun
  exact ⟨(congrArg Prod.fst hrun).symm, (congrArg Prod.snd hrun).symm⟩

/-! ### Removals -/

/-- The space with an identifier is removed: by a delete, for which no failure is set, or behind the
    provider's back. -/
inductive Removes (x : String) (s : Session) : Session → Prop
  | delete {v : Json} (hv : HasId x v) (h : s.workspace.failures .trashSpace = none) :
      Removes x s (s.perform (.delete s.provider.options.genieSpace v)).2
  | removeSpace (answers : List StepAnswer) : Removes x s (s.step answers (.removeSpace x)).2

theorem Removes.goesTo (h : Removes x s s') (hs : s.Standard) (hne : x ≠ "") :
    s.GoesTo (s.workspace.removeSpace x) s' := by
  cases h with
  | delete hv h =>
    obtain ⟨-, hworkspace⟩ := perform_delete hs hv hne h
    exact ⟨⟨hs.provider, hs.amendments⟩, rfl, hworkspace⟩
  | removeSpace answers => exact ⟨⟨hs.provider, hs.amendments⟩, rfl, rfl⟩

/-- The identifier that a create returns is the one that the workspace gave, and counts as given. -/
theorem numbered_of_create (hs : s.Standard)
    (hcreate : s.perform (.create s.provider.options.genieSpace plan) = (.ok state, s'))
    (hid : HasId x state) : x ≠ "" ∧ s'.workspace.Numbered x := by
  obtain ⟨p, -, rfl, hworkspace⟩ := state_of_create hs hcreate
  obtain ⟨q, hq, hx⟩ := hid
  rw [State.ofValue_toValue] at hq
  obtain rfl := Except.ok.inj hq
  obtain rfl : s.workspace.nextId "space" = x := Option.some.inj hx
  refine ⟨numbered_ne_empty "space" _, ?_⟩
  rw [hworkspace]
  exact ⟨s.workspace.lastNumber + 1, Nat.le_refl _, rfl⟩

/-- Once the space of a create is removed, it is gone in every session that is reached without an
    insert under its identifier. As long as the calls do not fail for another reason, a read says
    so, an update fails for this reason and stores nothing, and a delete succeeds and changes
    nothing. -/
theorem never_returns (hs : s.Standard)
    (hcreate : s.perform (.create s.provider.options.genieSpace plan) = (.ok state, s₁))
    (hid : HasId x state) (answers : List StepAnswer) (before : List Step)
    (hremoves : Removes x (s₁.runFrom answers before).2 s₂) (answers' : List StepAnswer)
    (after : List Step) (hinsert : ∀ space, Step.insertSpace space ∈ after → space.spaceId ≠ x)
    (hafter : (s₂.runFrom answers' after).2 = s₃) :
    (∀ v, HasId x v → s₃.workspace.failures .getSpace = none →
      (s₃.perform (.read s.provider.options.genieSpace v)).1 = .ok none) ∧
    (∀ prior plan p, HasId x prior → State.codec.ofValue plan = .ok p →
      s₃.workspace.failures .updateSpace = none →
      ∃ f, (s₃.perform (.update s.provider.options.genieSpace prior plan)).1 = .error f ∧
        f.isMissing ∧
        (s₃.perform (.update s.provider.options.genieSpace prior plan)).2.workspace =
          s₃.workspace) ∧
    (∀ v, HasId x v → s₃.workspace.failures .trashSpace = none →
      (s₃.perform (.delete s.provider.options.genieSpace v)).1 = .ok () ∧
        (s₃.perform (.delete s.provider.options.genieSpace v)).2.workspace = s₃.workspace) := by
  obtain ⟨hne, hnumbered⟩ := numbered_of_create hs hcreate hid
  have hs₁ : s₁.Standard ∧ s₁.provider = s.provider := by
    obtain rfl : (s.perform _).2 = s₁ := congrArg Prod.snd hcreate
    exact ⟨⟨hs.provider, hs.amendments⟩, rfl⟩
  have hbefore := hs₁.1.goesTo_runFrom answers before
  have hremoved := hremoves.goesTo hbefore.standard hne
  have hreached := hremoved.standard.goesTo_runFrom answers' after
  rw [hafter] at hreached
  have hprovider : s₃.provider = s.provider := by
    rw [hreached.provider, hremoved.provider, hbefore.provider, hs₁.2]
  -- The invariant of the rest of the run: the identifier is without a space, and was given already.
  have hlacks : s₂.workspace.Lacks x := by
    rw [hremoved.workspace, hbefore.workspace]
    exact ⟨Dict.get?_erase_self .., hnumbered.playAll _⟩
  have hgone : s₃.workspace.Lacks x := by
    rw [hreached.workspace]
    apply hlacks.playAll
    intro space hmem
    exact hinsert space (Session.insertSpace_mem_movesFrom hmem)
  rw [← hprovider]
  refine ⟨?read, ?update, ?delete⟩
  case read =>
    intro v hv h
    exact perform_read_missing hreached.standard hv hne h hgone.missing
  case update =>
    intro prior plan p hprior hplan h
    obtain ⟨hreply, hsame⟩ :=
      perform_update_missing hreached.standard hprior hne hplan h hgone.missing
    exact ⟨_, hreply, ApiError.isMissing_notFound _, hsame⟩
  case delete =>
    intro v hv h
    obtain ⟨hreply, hsame⟩ := perform_delete hreached.standard hv hne h
    rw [removeSpace_of_missing hgone.missing] at hsame
    exact ⟨hreply, hsame⟩

/-- A space that is renamed and then deleted is missed by its state, also when others are
    created. -/
theorem never_returns_after_delete :
    ∃ state s₁ s₃,
      newSession.perform (.create "databricks_genie_space" barePlan) = (.ok state, s₁) ∧
      ((((s₁.runFrom [] [.modifySpace "space-1" [("title", .string "Renamed")]]).2.perform
        (.delete "databricks_genie_space" state)).2).runFrom [] otherSteps).2 = s₃ ∧
      s₃.workspace.spaces.keys = ["space-3"] ∧
      (s₃.perform (.read "databricks_genie_space" state)).1 = .ok none ∧
      (∃ f, (s₃.perform (.update "databricks_genie_space" state barePlan)).1 = .error f ∧
        f.isMissing) ∧
      (s₃.perform (.delete "databricks_genie_space" state)).1 = .ok () := by
  obtain ⟨s₁, hcreate, -⟩ := perform_create standard_newSession rfl ofValue_barePlan
  have hid : HasId "space-1" (State.codec.toValue (bareState.under "space-1" "space-1")) :=
    ⟨_, State.ofValue_toValue _, rfl⟩
  obtain rfl : (newSession.perform (.create "databricks_genie_space" barePlan)).2 = s₁ :=
    congrArg Prod.snd hcreate
  have hinsert : ∀ space, Step.insertSpace space ∈ otherSteps → space.spaceId ≠ "space-1" := by
    simp [otherSteps]
  obtain ⟨hread, hupdate, hdelete⟩ := never_returns standard_newSession hcreate hid []
    [.modifySpace "space-1" [("title", .string "Renamed")]] (.delete hid rfl) [] otherSteps hinsert
    rfl
  obtain ⟨f, hfails, hmissing, -⟩ := hupdate _ barePlan _ hid ofValue_barePlan rfl
  exact ⟨_, _, _, hcreate, rfl, rfl, hread _ hid rfl, ⟨f, hfails, hmissing⟩, (hdelete _ hid rfl).1⟩

end GenieSpace

end Provisioner
