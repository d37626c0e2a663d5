import Provisioner.Proofs.GenieSpace.Removal
/-!
# Lifecycles of spaces

A lifecycle feeds each call with the state that the one before it returned. For a space the states
fit together whatever the plans are: what the create returns can be read, what is read can be
updated, and what is read then can be deleted. In the end the workspace is back where it was, but for
the identifier that was given and the folder that was noted under it (`lifecycle_of_plans`).
-/

namespace Provisioner

variable {s s₁ s₂ s₃ : Session} {t : String} {config state found prior plan initial updated : Json}

/-! ### Lifecycles of calls that succeed -/

namespace Session

theorem readExisting_of_perform (h : s.perform (.read t state) = (.ok (some found), s₁)) :
    s.readExisting t state = (.ok found, s₁) := by
  rw [readExisting, h]
  rfl

theorem lifecycleCreate_of_perform (hcreate : s.perform (.create t config) = (.ok state, s₁))
    (hread : s₁.perform (.read t state) = (.ok (some found), s₂)) :
    s.lifecycleCreate t config = (.ok found, s₂) := by
  rw [lifecycleCreate, hcreate]
  exact readExisting_of_perform hread

theorem lifecycleUpdate_of_perform (hupdate : s.perform (.update t prior plan) = (.ok state, s₁))
    (hread : s₁.perform (.read t state) = (.ok (some found), s₂)) :
    s.lifecycleUpdate t prior plan = (.ok found, s₂) := by
  rw [lifecycleUpdate, hupdate]
  exact readExisting_of_perform hread

theorem lifecycleCrud_of_perform (hcreate : s.lifecycleCreate t initial = (.ok prior, s₁))
    (hupdate : s₁.lifecycleUpdate t prior updated = (.ok state, s₂))
    (hdelete : s₂.perform (.delete t state) = (.ok (), s₃)) :
    s.live (.crud t initial updated) = (.ok state, s₃) := by
  show s.lifecycleCrud t initial updated = _
  rw [lifecycleCrud, hcreate]
  show andThen (s₁.lifecycleUpdate t prior updated) _ = _
  rw [hupdate]
  show andThen (s₂.perform (.delete t state)) _ = _
  rw [hdelete]
  rfl

end Session

namespace GenieSpace

variable {w : Workspace} {ids : Space.IdSupply} {p p₁ p₂ q : State} {x y : String}
  {stored : Api.Space}

/-! ### The first and the second half -/

/-- A created space is read back with the state of its plan. -/
theorem lifecycleCreate_eq (hs : s.Standard) (hcreate : s.workspace.failures .createSpace = none)
    (hget : s.workspace.failures .getSpace = none) (hplan : State.codec.ofValue plan = .ok p) :
    ∃ s', s.lifecycleCreate s.provider.options.genieSpace plan =
        (.ok (State.codec.toValue
          (p.under (s.workspace.nextId "space") (s.workspace.nextId "space"))), s') ∧
      s.GoesTo (s.workspace.createSpace (createRequest (s.supply s.performed) p)).2 s' := by
  obtain ⟨s₁, hperform, hs₁⟩ := perform_create hs hcreate hplan
  have hfetchable : s₁.workspace.failures .getSpace = none := by
    rw [hs₁.workspace]
    exact hget
  have hstored : s₁.workspace.spaces.get? (s.workspace.nextId "space") =
      some (p.space (s.supply s.performed) (s.workspace.nextId "space")) := by
    rw [hs₁.workspace]
    exact get?_createSpace
  obtain ⟨s₂, hread, hs₂⟩ := perform_read (q := p.under (s.workspace.nextId "space")
    (s.workspace.nextId "space")) hs₁.standard hfetchable rfl
    (Workspace.numbered_ne_empty "space" _) hstored
  rw [hs₁.provider] at hread
  exact ⟨s₂, Session.lifecycleCreate_of_perform hperform hread, hs₂.standard,
    hs₂.provider.trans hs₁.provider, hs₂.workspace.trans hs₁.workspace⟩

/-- An updated space is read back with the state of its new plan. -/
theorem lifecycleUpdate_eq (hs : s.Standard) (hupdate : s.workspace.failures .updateSpace = none)
    (hget : s.workspace.failures .getSpace = none) (hq : q.Tracks s.workspace x stored)
    (hplan : State.codec.ofValue plan = .ok p) :
    ∃ s', s.lifecycleUpdate s.provider.options.genieSpace (State.codec.toValue q) plan =
        (.ok (State.codec.toValue (p.under x stored.spaceId)), s') ∧
      s.GoesTo (s.workspace.replaceSpace x (p.space (s.supply s.performed) stored.spaceId)) s' := by
  obtain ⟨s₁, hperform, hs₁⟩ := perform_update hs hupdate hq (State.ofValue_toValue q) hplan
  have hfetchable : s₁.workspace.failures .getSpace = none := by
    rw [hs₁.workspace]
    exact hget
  have hstored : s₁.workspace.spaces.get? x =
      some (p.space (s.supply s.performed) stored.spaceId) := by
    rw [hs₁.workspace]
    exact Dict.get?_insert_self ..
  obtain ⟨s₂, hread, hs₂⟩ := perform_read
    (q := { p with id := some x, spaceId := some stored.spaceId }) hs₁.standard hfetchable rfl
    hq.ne_empty hstored
  rw [hs₁.provider] at hread
  exact ⟨s₂, Session.lifecycleUpdate_of_perform hperform hread, hs₂.standard,
    hs₂.provider.trans hs₁.provider, hs₂.workspace.trans hs₁.workspace⟩

/-! ### The whole lifecycle -/

/-- A space that is made, changed and removed under an identifier that was free leaves the spaces as
    they were. -/
theorem removeSpace_replaceSpace_createSpace (hfree : w.spaces.get? (w.nextId "space") = none)
    (r : Api.CreateSpace) (stored : Api.Space) :
    ((w.createSpace r).2.replaceSpace (w.nextId "space") stored).removeSpace (w.nextId "space") =
      { (w.createSpace r).2 with spaces := w.spaces } := by
  have hspaces : (((w.createSpace r).2.spaces.insert (w.nextId "space") stored).erase
      (w.nextId "space")) = w.spaces := by
    rw [Dict.erase_insert_self]
    exact (Dict.erase_insert_self ..).trans (Dict.erase_eq_self hfree)
  rw [Workspace.removeSpace, Workspace.replaceSpace, hspaces]

/-- A space goes through a whole lifecycle for every two plans. What is returned is the second plan
    under the new identifier, described as the workspace had it. The workspace has only given the
    identifier, and keeps the folder of the first plan if that names one. -/
theorem lifecycle_of_plans (hs : s.Standard)
    (hcreate : s.workspace.failures .createSpace = none)
    (hget : s.workspace.failures .getSpace = none)
    (hupdate : s.workspace.failures .updateSpace = none)
    (htrash : s.workspace.failures .trashSpace = none)
    (hfree : s.workspace.spaces.get? (s.workspace.nextId "space") = none)
    (hinitial : State.codec.ofValue initial = .ok p₁)
    (hupdated : State.codec.ofValue updated = .ok p₂) :
    ∃ s', s.live (.crud s.provider.options.genieSpace initial updated) =
        (.ok (State.codec.toValue
          { p₂ with
            id := some (s.workspace.nextId "space")
            spaceId := some (s.workspace.nextId "space")
            description := some (p₂.description.getD "") }), s') ∧
      s.GoesTo
        { s.workspace with
          lastNumber := s.workspace.lastNumber + 1
          parentPaths :=
            if (p₁.parentPath.getD "").isEmpty then s.workspace.parentPaths
            else s.workspace.parentPaths.insert (s.workspace.nextId "space")
              (p₁.parentPath.getD "") } s' := by
  obtain ⟨s₁, hfirst, hs₁⟩ := lifecycleCreate_eq hs hcreate hget hinitial
  have htracks : (p₁.under (s.workspace.nextId "space") (s.workspace.nextId "space")).Tracks
      s₁.workspace (s.workspace.nextId "space")
      (p₁.space (s.supply s.performed) (s.workspace.nextId "space")) := by
    rw [hs₁.workspace]
    exact tracks_createSpace s.workspace _ p₁
  have hupdate₁ : s₁.workspace.failures .updateSpace = none := by
    rw [hs₁.workspace]
    exact hupdate
  have hget₁ : s₁.workspace.failures .getSpace = none := by
    rw [hs₁.workspace]
    exact hget
  obtain ⟨s₂, hsecond, hs₂⟩ := lifecycleUpdate_eq hs₁.standard hupdate₁ hget₁ htracks hupdated
  have htrash₂ : s₂.workspace.failures .trashSpace = none := by
    rw [hs₂.workspace, hs₁.workspace]
    exact htrash
  have hid : HasId (s.workspace.nextId "space") (State.codec.toValue
      (p₂.under (s.workspace.nextId "space") (s.workspace.nextId "space"))) :=
    ⟨_, State.ofValue_toValue _, rfl⟩
  obtain ⟨hreply, hremoved⟩ := perform_delete hs₂.standard hid
    (Workspace.numbered_ne_empty "space" _) htrash₂
  rw [hs₂.provider, hs₁.provider] at hreply hremoved
  rw [hs₁.provider] at hsecond
  refine ⟨_, Session.lifecycleCrud_of_perform hfirst hsecond (Prod.ext hreply rfl),
    ⟨hs₂.standard.provider, hs₂.standard.amendments⟩, hs₂.provider.trans hs₁.provider, ?_⟩
  refine hremoved.trans ?_
  rw [hs₂.workspace, hs₁.workspace]
  exact removeSpace_replaceSpace_createSpace hfree _ _

/-- The first plan names a folder, the second one tables and no description. -/
theorem lifecycle_of_plans_in_folder :
    let initial := Json.object [("title", .string "Sales"), ("warehouse_id", .string "main"),
      ("parent_path", .string "/Teams")]
    let updated := Json.object [("title", .string "Costs"), ("warehouse_id", .string "main"),
      ("tables", .array [.string "sales.orders"])]
    ∃ s', newSession.live (.crud "databricks_genie_space" initial updated) =
        (.ok (State.codec.toValue
          ⟨some "space-1", "Costs", "main", some "", none, some "space-1", ["sales.orders"], []⟩),
          s') ∧
      s'.workspace.spaces = .empty ∧ s'.workspace.lastNumber = 1 ∧
      s'.workspace.parentPaths.get? "space-1" = some "/Teams" := by
  intro initial updated
  have hinitial : State.codec.ofValue initial =
      .ok ⟨none, "Sales", "main", none, some "/Teams", none, [], []⟩ := rfl
  have hupdated : State.codec.ofValue updated =
      .ok ⟨none, "Costs", "main", none, none, none, ["sales.orders"], []⟩ := rfl
  obtain ⟨s', hlive, hs'⟩ :=
    lifecycle_of_plans standard_newSession rfl rfl rfl rfl rfl hinitial hupdated
  refine ⟨s', hlive, ?_⟩
  rw [hs'.workspace]
  exact ⟨rfl, rfl, rfl⟩

end GenieSpace

end Provisioner
