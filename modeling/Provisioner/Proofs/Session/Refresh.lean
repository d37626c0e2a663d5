import Provisioner.Proofs.AppDeployment.Drift
import Provisioner.Proofs.GenieSpace.Lookup
/-!
# Refreshes

A read of a space or of a deployment takes from the state that it is given nothing but what names
the object and what the workspace does not know (`Adapter.Refreshes.agrees`). These fields it leaves
as they are (`Adapter.Refreshes.keeps`). So what is read is read again unchanged, and since the read
does nothing to the workspace, it makes no difference how often it is repeated
(`Session.refreshes_standard`).
-/

namespace Provisioner

open Api
open Space (Contents)

variable {α : Type} {w : Workspace} {r : Request} {s s' : Session} {k : Kind} {o : Options}

/-! ### Calls that only look -/

/-- Reads of the kind only ask for an object. -/
def Kind.ReadsLook (k : Kind) : Prop := ∀ wait q r, k.onRead wait q = some r → r.Looks

theorem Kind.readsLook_genieSpace : genieSpace.ReadsLook := by
  intro wait q r h
  obtain ⟨id, -, rfl⟩ := Option.map_eq_some_iff.mp h
  trivial

theorem Kind.readsLook_appDeployment : appDeployment.ReadsLook := by
  intro wait q r h
  obtain ⟨appName, -, h⟩ := Option.bind_eq_some_iff.mp h
  obtain ⟨deploymentId, -, rfl⟩ := Option.map_eq_some_iff.mp h
  trivial

namespace Call

variable {document : Contents → String}

theorem looks_of_read (hk : k.ReadsLook) {state : Json}
    (h : (Call.read (o.typeName k) state).sends o document = some r) : r.Looks := by
  have hkind : o.kind? (o.typeName k) = some k := Options.kind?_eq_some_iff.mpr rfl
  simp only [sends, hkind, Option.bind_eq_bind, Option.bind_some] at h
  obtain ⟨q, -, hr⟩ := Option.bind_eq_some_iff.mp h
  exact hk _ q r hr

theorem looks_of_readDataSource {t : String} {config : Json}
    (h : (Call.readDataSource t config).sends o document = some r) : r.Looks := by
  obtain ⟨-, -, h⟩ := Option.bind_eq_some_iff.mp h
  obtain ⟨config, -, h⟩ := Option.bind_eq_some_iff.mp h
  obtain rfl := Option.some.inj h
  trivial

end Call

/-- A call of the provider that only looks leaves the workspace as it is. -/
theorem Session.workspace_perform_of_looks (hs : s.Standard) {call : Call Json}
    (h : ∀ document r, call.sends s.provider.options document = some r → r.Looks) :
    (s.perform call).2.workspace = s.workspace := by
  have hrun := congrArg Prod.snd (perform_eq hs call)
  rw [task_eq hs, Task.snd_run, Provider.request?_task] at hrun
  refine hrun.symm.trans ?_
  split
  · rename_i r hr
    exact (Workspace.effect_answer r s.workspace).eq_of_looks (h _ r hr)
  · rfl

/-! ### Adapters -/

/-- States that agree are read alike, and what is read in a workspace agrees with the state that it
    was read for. -/
structure Adapter.Refreshes (a : Adapter α) (Agree : α → α → Prop) (w : Workspace) : Prop where
  agrees : ∀ q q', Agree q q' → a.read q = a.read q'
  keeps : ∀ q q', ((a.read q).run Workspace.answer w).1 = .ok (.found q') → Agree q q'

/-- What is read of a space is decided by its identifier and, as for the folder, by the state. -/
def GenieSpace.State.Agree (q q' : State) : Prop := q.id = q'.id ∧ q.parentPath = q'.parentPath

theorem GenieSpace.refreshes (w : Workspace) : adapter.Refreshes State.Agree w where
  agrees := by
    rintro q q' ⟨hid, hfolder⟩
    have hrequire : q.requireId = q'.requireId := by
      rw [State.requireId, State.requireId, hid]
    have hrefreshed : refreshed q = refreshed q' := by
      funext space contents
      simp only [refreshed, hid, hfolder]
    show read q = read q'
    rw [read, read, hrequire, hrefreshed]
  keeps := by
    intro q q' h
    have hread : ((read q).run Workspace.answer w).1 = .ok (.found q') := h
    rcases read_cases q w with ⟨reply, hrun, hnone⟩ | ⟨x, stored, contents, -, -, -, hrun⟩
    · rw [hrun] at hread
      exact absurd hread (hnone q')
    · rw [hrun] at hread
      obtain rfl := Refreshed.found.inj (Except.ok.inj hread)
      exact ⟨rfl, rfl⟩

/-- What is read of a deployment is decided by its names and, as for the triggers, by the state. -/
def AppDeployment.State.Agree (q q' : State) : Prop :=
  q.appName = q'.appName ∧ q.deploymentId = q'.deploymentId ∧ q.triggers = q'.triggers

theorem AppDeployment.refreshes (h : w.KeyedDeployments) : adapter.Refreshes State.Agree w where
  agrees := by
    rintro q ⟨appName, path, triggers, deploymentId⟩ ⟨rfl, rfl, rfl⟩
    show read q = read { q with sourceCodePath := path }
    unfold read
    refine if_congr Iff.rfl rfl (congrArg (Task.call _) ?_)
    funext answer
    cases answer with
    | error e => rfl
    | ok d => rfl
  keeps := by
    intro q q' hread
    rcases read_cases q w with hnone | ⟨x, d, hid, hstored, hrun⟩
    · exact absurd hread (hnone q')
    · obtain rfl := Refreshed.found.inj (Except.ok.inj (hrun.symm.trans hread))
      refine ⟨rfl, ?_, rfl⟩
      rw [hid, h q.appName x d hstored]

/-! ### Sessions -/

/-- Refreshing states of a kind takes everything from the workspace but what `Agree` compares,
    changes nothing, and has come to its end after one read. -/
structure Session.Refreshes (s : Session) (k : Kind) (Agree : k.State → k.State → Prop) :
    Prop where
  agrees : ∀ v v' q q', k.codec.ofValue v = .ok q → k.codec.ofValue v' = .ok q' → Agree q q' →
    (s.perform (.read (s.provider.options.typeName k) v)).1 =
      (s.perform (.read (s.provider.options.typeName k) v')).1
  unchanged : ∀ v, (s.perform (.read (s.provider.options.typeName k) v)).2.workspace = s.workspace
  settles : ∀ v found, (s.perform (.read (s.provider.options.typeName k) v)).1 = .ok (some found) →
    ∀ s', s.GoesTo s.workspace s' →
      (s'.perform (.read (s.provider.options.typeName k) found)).1 = .ok (some found)

theorem Session.refreshes_of_adapter (hs : s.Standard) (hlook : k.ReadsLook)
    {Agree : k.State → k.State → Prop}
    (h : (k.adapter s.provider.options.waitTimeout).Refreshes Agree s.workspace) :
    s.Refreshes k Agree where
  agrees := by
    intro v v' q q' hv hv' hagree
    rw [← k.codec_adapter s.provider.options.waitTimeout] at hv hv'
    rw [fst_perform_read hs hv, fst_perform_read hs hv', h.agrees q q' hagree]
  unchanged := by
    intro v
    apply workspace_perform_of_looks hs
    intro document r hr
    exact Call.looks_of_read hlook hr
  settles := by
    intro v found hfound s' hs'
    obtain ⟨q, q', -, hread, rfl⟩ := found_of_perform_read hs hfound
    have hq' : (k.adapter s'.provider.options.waitTimeout).codec.ofValue
        ((k.adapter s.provider.options.waitTimeout).codec.toValue q') = .ok q' := by
      rw [k.codec_adapter, k.codec_adapter]
      exact k.faithful.roundTrips.ofValue_toValue q'
    have hagain := fst_perform_read hs'.standard hq'
    rw [hs'.provider] at hagain
    rw [hagain, hs'.workspace, ← h.agrees q q' (h.keeps q q' hread), hread]
    rfl

/-- What is reached from a workspace by steps is reached from the empty one if that workspace was. -/
theorem Session.Standard.reachable_runFrom (hs : s.Standard) (hw : s.workspace.Reachable)
    (answers : List StepAnswer) (steps : List Step) :
    (s.runFrom answers steps).2.workspace.Reachable := by
  rw [(hs.goesTo_runFrom answers steps).workspace]
  exact hw.playAll _

/-- A space that someone renamed, and an app that was deployed. -/
def renamedSteps : List Step :=
  [.call (.create "databricks_genie_space" (.value GenieSpace.barePlan)),
   .modifySpace "space-1" [("title", .string "Renamed")],
   .call (.create "databricks_app_deployment" (.value (AppDeployment.versionPlan "v1")))]

/-- What a read of a space or a deployment returns is decided by the workspace and by what names the
    object, with the folder of a space and the triggers of a deployment. It changes nothing, and
    what it returns is read again unchanged. Look-ups change nothing either. -/
theorem Session.refreshes_standard (hs : s.Standard) (hw : s.workspace.Reachable) :
    s.Refreshes .genieSpace GenieSpace.State.Agree ∧
    s.Refreshes .appDeployment AppDeployment.State.Agree ∧
    ∀ t config, (s.perform (.readDataSource t config)).2.workspace = s.workspace := by
  refine ⟨?spaces, ?deployments, ?lookups⟩
  case spaces =>
    exact refreshes_of_adapter hs Kind.readsLook_genieSpace (GenieSpace.refreshes s.workspace)
  case deployments =>
    exact refreshes_of_adapter hs Kind.readsLook_appDeployment
      (AppDeployment.refreshes hw.keyedDeployments)
  case lookups =>
    intro t config
    apply workspace_perform_of_looks hs
    intro document r hr
    exact Call.looks_of_readDataSource hr

/-- Whether the old state of the space is read or one that says nothing about it, the new name is
    found, and is found again. Where a deployment came from does not matter to its read. -/
theorem Session.refreshes_standard_renamed :
    let s := (GenieSpace.newSession.runFrom [] renamedSteps).2
    let old := GenieSpace.State.codec.toValue (GenieSpace.bareState.under "space-1" "space-1")
    let imported := GenieSpace.State.codec.toValue (.imported "space-1")
    let renamed := GenieSpace.State.codec.toValue
      ({ GenieSpace.bareState with title := "Renamed" }.under "space-1" "space-1")
    let app (path : String) := AppDeployment.State.codec.toValue
      { AppDeployment.versionState "v1" with
        sourceCodePath := path
        deploymentId := some "deploy-2" }
    (s.perform (.read "databricks_genie_space" old)).1 = .ok (some renamed) ∧
    (s.perform (.read "databricks_genie_space" imported)).1 = .ok (some renamed) ∧
    (s.perform (.read "databricks_genie_space" old)).2.workspace = s.workspace ∧
    ((s.perform (.read "databricks_genie_space" old)).2.perform
      (.read "databricks_genie_space" renamed)).1 = .ok (some renamed) ∧
    (s.perform (.read "databricks_app_deployment" (app "v1"))).1 =
      (s.perform (.read "databricks_app_deployment" (app "v2"))).1 ∧
    (s.perform (.readDataSource "databricks_genie_space" old)).2.workspace = s.workspace := by
  intro s old imported renamed app
  have hs : s.Standard := (GenieSpace.standard_newSession.goesTo_runFrom [] renamedSteps).standard
  have hw : s.workspace.Reachable :=
    GenieSpace.standard_newSession.reachable_runFrom Workspace.reachable_empty [] renamedSteps
  obtain ⟨hspaces, hdeployments, hlookups⟩ := refreshes_standard hs hw
  have hstored : s.workspace.spaces.get? "space-1" =
      some ({ GenieSpace.bareState with title := "Renamed" }.space (fun _ => ⟨0, 0, 0, 0⟩)
        "space-1") := rfl
  obtain ⟨_, hread, -⟩ := GenieSpace.perform_read
    (q := GenieSpace.bareState.under "space-1" "space-1")
    hs rfl rfl (by decide) hstored
  have hold : (s.perform (.read "databricks_genie_space" old)).1 = .ok (some renamed) :=
    congrArg Prod.fst hread
  have hagree : GenieSpace.State.Agree (.imported "space-1")
      (GenieSpace.bareState.under "space-1" "space-1") := ⟨rfl, rfl⟩
  have himported := hspaces.agrees imported old _ _ (GenieSpace.State.ofValue_toValue _)
    (GenieSpace.State.ofValue_toValue _) hagree
  refine ⟨hold, himported.trans hold, hspaces.unchanged old, ?_, ?_, hlookups _ old⟩
  · apply hspaces.settles old renamed hold
    exact ⟨⟨hs.provider, hs.amendments⟩, rfl, hspaces.unchanged old⟩
  · exact hdeployments.agrees (app "v1") (app "v2") _ _ (AppDeployment.State.ofValue_toValue _)
      (AppDeployment.State.ofValue_toValue _) ⟨rfl, rfl, rfl⟩

end Provisioner
