import Provisioner.Proofs.AppDeployment.Import
import Provisioner.Proofs.Session.Standard
import Provisioner.Proofs.Workspace.Deployments
/-!
# Deployments and what is read back

The state that a deploy returns is the state that a read returns, then and whatever else is deployed
or deleted later (`read_of_deploy`). A newer deployment of an app takes a new identifier, so that it
hides none of the older ones, and a delete does nothing at all.
-/

namespace Provisioner

/-- The step neither inserts a deployment under both names nor lets the fetching of deployments
    fail. No step of the provider does either. -/
def Step.LeavesDeployment (appName deploymentId : String) : Step → Prop
  | insertDeployment app d => ¬ (app = appName ∧ d.deploymentId = deploymentId)
  | fail operation _ => operation ≠ .getDeployment
  | _ => True

theorem Step.LeavesDeployment.moves {appName deploymentId : String} {step : Step} {m : Move}
    (h : step.LeavesDeployment appName deploymentId) (hm : m ∈ step.moves) :
    ¬ m.Replaces appName deploymentId ∧ ¬ m.Breaks .getDeployment := by
  cases step with
  | insertDeployment app d =>
    obtain rfl := List.mem_singleton.mp hm
    exact ⟨h, id⟩
  | fail operation e =>
    obtain rfl := List.mem_singleton.mp hm
    exact ⟨id, h⟩
  | insertSpace _ | modifySpace _ _ | removeSpace _ | respond _ _ | request _
  | runStatement _ _ _ =>
    obtain rfl := List.mem_singleton.mp hm
    exact ⟨id, id⟩
  | _ => cases hm

namespace AppDeployment

open Space (IdSupply)

variable {w w' : Workspace} {ids : IdSupply} {p q : State} {x appName deploymentId : String}
  {s : Session} {o : Options} {plan state : Json}

/-! ### A small app -/

/-- A plan to deploy a version of an app, with the version as a trigger. -/
def versionPlan (version : String) : Json :=
  .object [("app_name", .string "sales"), ("source_code_path", .string version),
    ("triggers", .object [("version", .string version)])]

def versionState (version : String) : State :=
  ⟨"sales", version, some (.ofList [("version", version)]), none⟩

theorem ofValue_versionPlan (version : String) :
    State.codec.ofValue (versionPlan version) = .ok (versionState version) := rfl

/-- A delete of a deployment, another deploy of its app, and one that someone else makes. -/
def superseding (state : Json) : List Step :=
  [.call (.delete "databricks_app_deployment" (.value state)),
   .call (.create "databricks_app_deployment" (.value (versionPlan "v3"))),
   .insertDeployment "sales" ⟨"theirs", "v4"⟩]

theorem superseding_leaves (state : Json) (hx : x ≠ "theirs") :
    ∀ step ∈ superseding state, step.LeavesDeployment "sales" x := by
  simp [superseding, Step.LeavesDeployment, hx.symm]

/-! ### Tasks -/

/-- The state of a plan under the identifier of a deployment. -/
def State.under (p : State) (x : String) : State := { p with deploymentId := some x }

theorem run_create (h : w.failures .deploy = none) :
    (create ids p).run Workspace.answer w =
      (.ok (p.under (w.nextId "deploy")), (w.deploy ⟨p.appName, p.sourceCodePath⟩).2) := by
  have hanswer : w.answer (.deploy ⟨p.appName, p.sourceCodePath⟩) =
      w.deploy ⟨p.appName, p.sourceCodePath⟩ := Workspace.answer_of_no_failure h
  simp only [create, Task.run, hanswer, Workspace.deploy, State.under]

/-- The deployment of a plan is stored under the next identifier. -/
theorem deployment?_deploy :
    (w.deploy ⟨p.appName, p.sourceCodePath⟩).2.deployment? p.appName (w.nextId "deploy") =
      some ⟨w.nextId "deploy", p.sourceCodePath⟩ :=
  (Workspace.deployment?_insertDeployment ..).trans (if_pos ⟨rfl, rfl⟩)

/-- The deployment of a plan is read back as the plan has it. -/
theorem run_read (h : w.failures .getDeployment = none) (happ : p.appName ≠ "") (hne : x ≠ "")
    (hstored : w.deployment? p.appName x = some ⟨x, p.sourceCodePath⟩) :
    (read (p.under x)).run Workspace.answer w = (.ok (.found (p.under x)), w) := by
  have hanswer : w.answer (.getDeployment p.appName x) = (.ok ⟨x, p.sourceCodePath⟩, w) := by
    rw [Workspace.answer_of_no_failure h, Workspace.serve, Workspace.getDeployment, hstored]
  simp [read, State.under, Task.run, hanswer, happ, hne]

/-- The answer depends on what is stored under both names, and on the failure that is set. -/
theorem fst_answer_getDeployment (hfailure : w'.failures .getDeployment = w.failures .getDeployment)
    (hstored : w'.deployment? appName x = w.deployment? appName x) :
    (w'.answer (.getDeployment appName x)).1 = (w.answer (.getDeployment appName x)).1 := by
  apply Workspace.fst_answer_congr hfailure
  simp only [Workspace.serve, Workspace.getDeployment, hstored]
  split <;> rfl

theorem fst_run_read (hfailure : w'.failures .getDeployment = w.failures .getDeployment)
    (hid : q.deploymentId = some x)
    (hstored : w'.deployment? q.appName x = w.deployment? q.appName x) :
    ((read q).run Workspace.answer w').1 = ((read q).run Workspace.answer w).1 := by
  unfold read
  dsimp only
  split
  · rfl
  · rw [hid]
    simp only [Task.run, Option.getD_some, fst_answer_getDeployment hfailure hstored]

theorem deployment?_of_answer {d : Api.Deployment}
    (h : (w.answer (.getDeployment appName x)).1 = .ok d) : w.deployment? appName x = some d := by
  have hserve := Workspace.fst_serve_of_answer h
  simp only [Workspace.serve, Workspace.getDeployment] at hserve
  split at hserve
  · rename_i stored hstored
    obtain rfl := Except.ok.inj hserve
    exact hstored
  · cases hserve

/-- A read finds nothing, or the deployment that is stored under both names of the state. -/
theorem read_cases (q : State) (w : Workspace) :
    (∀ p, ((read q).run Workspace.answer w).1 ≠ .ok (.found p)) ∨
    ∃ x d, q.deploymentId = some x ∧ w.deployment? q.appName x = some d ∧
      ((read q).run Workspace.answer w).1 =
        .ok (.found { q with
          deploymentId := some d.deploymentId
          sourceCodePath := d.sourceCodePath }) := by
  unfold read
  cases hid : q.deploymentId with
  | none =>
    left
    intro p hp
    simp [Task.fail, Task.run] at hp
  | some x =>
    dsimp only [Option.getD_some]
    split
    · left
      intro p hp
      cases hp
    · cases hanswer : (w.answer (.getDeployment q.appName x)).1 with
      | error e =>
        left
        intro p hp
        simp only [Task.run, hanswer] at hp
        split at hp <;> cases hp
      | ok d =>
        right
        refine ⟨x, d, rfl, deployment?_of_answer hanswer, ?_⟩
        simp only [Task.run, hanswer]

/-! ### Calls of a standard session -/

theorem task_create (hplan : State.codec.ofValue plan = .ok p) :
    (Provider.standard o).task ids (.create (o.typeName .appDeployment) plan) =
      (create ids p).map State.codec.toValue :=
  Provider.task_create (k := .appDeployment) hplan

/-- A create stores the deployment of the plan under the next identifier, and returns its state. -/
theorem perform_create (hs : s.Standard) (h : s.workspace.failures .deploy = none)
    (hplan : State.codec.ofValue plan = .ok p) :
    ∃ s', s.perform (.create (s.provider.options.typeName .appDeployment) plan) =
        (.ok (State.codec.toValue (p.under (s.workspace.nextId "deploy"))), s') ∧
      s.GoesTo (s.workspace.deploy ⟨p.appName, p.sourceCodePath⟩).2 s' := by
  apply Session.perform_of_run hs
  rw [Session.task_eq hs, task_create hplan, Task.run_map, run_create h]
  rfl

theorem fst_perform_read (hs : s.Standard) (hstate : State.codec.ofValue state = .ok q) :
    (s.perform (.read (s.provider.options.typeName .appDeployment) state)).1 =
      ((read q).run Workspace.answer s.workspace).1.map fun refreshed =>
        refreshed.toOption.map State.codec.toValue :=
  Session.fst_perform_read (k := .appDeployment) hs hstate

/-! ### No drift -/

theorem leaves_movesFrom (s : Session) (answers : List StepAnswer) {steps : List Step}
    (h : ∀ step ∈ steps, step.LeavesDeployment appName x) :
    ∀ m ∈ s.movesFrom answers steps, ¬ m.Replaces appName x ∧ ¬ m.Breaks .getDeployment := by
  intro m hm
  rcases Session.mem_movesFrom hm with ⟨r, rfl⟩ | ⟨step, hstep, hmove⟩
  · exact ⟨id, id⟩
  · exact (h step hstep).moves hmove

/-- What a read of a state with an identifier returns stays the same through all steps, whatever is
    deployed in them, if the identifier was given already. -/
theorem fst_perform_read_runFrom (hs : s.Standard) (hstate : State.codec.ofValue state = .ok q)
    (hid : q.deploymentId = some x) (hx : s.workspace.Deployed x) {answers : List StepAnswer}
    {steps : List Step} (hsteps : ∀ step ∈ steps, step.LeavesDeployment q.appName x) :
    ((s.runFrom answers steps).2.perform
        (.read (s.provider.options.typeName .appDeployment) state)).1 =
      (s.perform (.read (s.provider.options.typeName .appDeployment) state)).1 := by
  have hlater := hs.goesTo_runFrom answers steps
  have hmoves := leaves_movesFrom s answers hsteps
  have hread := fst_perform_read hlater.standard hstate
  rw [hlater.provider] at hread
  rw [hread, fst_perform_read hs hstate, hlater.workspace]
  rw [fst_run_read (Workspace.failures_playAll fun m hm => (hmoves m hm).2) hid
    (hx.deployment?_playAll fun m hm => (hmoves m hm).1)]

/-- A create succeeds for every plan, with the state of the plan under the next identifier. Whatever
    else is done, a read of this state returns it unchanged, and a read of an earlier deployment
    returns what it returned before the create. -/
theorem read_of_deploy (hs : s.Standard) (hdeploy : s.workspace.failures .deploy = none)
    (hget : s.workspace.failures .getDeployment = none)
    (hplan : State.codec.ofValue plan = .ok p) (happ : p.appName ≠ "") :
    ∃ state s',
      s.perform (.create (s.provider.options.typeName .appDeployment) plan) = (.ok state, s') ∧
      state = State.codec.toValue (p.under (s.workspace.nextId "deploy")) ∧
      ∀ answers steps,
        ((∀ step ∈ steps, step.LeavesDeployment p.appName (s.workspace.nextId "deploy")) →
          ((s'.runFrom answers steps).2.perform
            (.read (s.provider.options.typeName .appDeployment) state)).1 = .ok (some state)) ∧
        ∀ earlier q n, State.codec.ofValue earlier = .ok q → n ≤ s.workspace.lastNumber →
          q.deploymentId = some (Workspace.numbered "deploy" n) →
          (∀ step ∈ steps, step.LeavesDeployment q.appName (Workspace.numbered "deploy" n)) →
          ((s'.runFrom answers steps).2.perform
              (.read (s.provider.options.typeName .appDeployment) earlier)).1 =
            (s.perform (.read (s.provider.options.typeName .appDeployment) earlier)).1 := by
  obtain ⟨s', hperform, hs'⟩ := perform_create hs hdeploy hplan
  have hfetchable : s'.workspace.failures .getDeployment = none := by
    rw [hs'.workspace]
    exact hget
  refine ⟨_, s', hperform, rfl, ?_⟩
  rw [← hs'.provider]
  intro answers steps
  refine ⟨?new, ?earlier⟩
  case new =>
    intro hsteps
    have hx : s'.workspace.Deployed (s.workspace.nextId "deploy") := by
      rw [hs'.workspace]
      exact ⟨s.workspace.lastNumber + 1, Nat.le_refl _, rfl⟩
    have hstored : s'.workspace.deployment? p.appName (s.workspace.nextId "deploy") =
        some ⟨s.workspace.nextId "deploy", p.sourceCodePath⟩ := by
      rw [hs'.workspace]
      exact deployment?_deploy
    have hne : s.workspace.nextId "deploy" ≠ "" := Workspace.numbered_ne_empty "deploy" _
    rw [fst_perform_read_runFrom (q := p.under (s.workspace.nextId "deploy")) hs'.standard
        (State.ofValue_toValue _) rfl hx hsteps,
      fst_perform_read hs'.standard (State.ofValue_toValue _),
      run_read hfetchable happ hne hstored]
    rfl
  case earlier =>
    intro earlier q n hearlier hn hid hsteps
    have hx : s'.workspace.Deployed (Workspace.numbered "deploy" n) := by
      rw [hs'.workspace]
      exact ⟨n, Nat.le_succ_of_le hn, rfl⟩
    have hstored : s'.workspace.deployment? q.appName (Workspace.numbered "deploy" n) =
        s.workspace.deployment? q.appName (Workspace.numbered "deploy" n) := by
      rw [hs'.workspace]
      refine (Workspace.deployment?_insertDeployment ..).trans (if_neg ?_)
      rintro ⟨-, hnext⟩
      exact Workspace.numbered_ne_next hn hnext
    rw [fst_perform_read_runFrom hs'.standard hearlier hid hx hsteps,
      fst_perform_read hs'.standard hearlier, hs'.provider, fst_perform_read hs hearlier,
      fst_run_read (hfetchable.trans hget.symm) hid hstored]

/-- The second deployment of an app is read back after it was superseded, and so is the first. -/
theorem read_of_deploy_superseded :
    let s := (GenieSpace.newSession.runFrom []
      [.call (.create "databricks_app_deployment" (.value (versionPlan "v1")))]).2
    let first := State.codec.toValue ((versionState "v1").under "deploy-1")
    ∃ state s', s.perform (.create "databricks_app_deployment" (versionPlan "v2")) =
        (.ok state, s') ∧
      let later := (s'.runFrom [] (superseding state)).2
      (later.perform (.read "databricks_app_deployment" state)).1 = .ok (some state) ∧
        (later.perform (.read "databricks_app_deployment" first)).1 = .ok (some first) := by
  intro s first
  have hs : s.Standard := (GenieSpace.standard_newSession.goesTo_runFrom [] _).standard
  have hread : (s.perform (.read "databricks_app_deployment" first)).1 = .ok (some first) := by
    have hrun := fst_perform_read hs (State.ofValue_toValue ((versionState "v1").under "deploy-1"))
    rw [run_read rfl (by decide) (by decide) rfl] at hrun
    exact hrun
  obtain ⟨state, s', hcreate, -, hlater⟩ :=
    read_of_deploy hs rfl rfl (ofValue_versionPlan "v2") (by decide)
  obtain ⟨hnew, hearlier⟩ := hlater [] (superseding state)
  have hlast : s.workspace.lastNumber = 1 := rfl
  have hid : s.workspace.nextId "deploy" = "deploy-2" := by
    rw [Workspace.nextId, hlast]
    rfl
  refine ⟨state, s', hcreate, ?new, ?first⟩
  case new =>
    apply hnew
    rw [hid]
    exact superseding_leaves state (by decide)
  case first =>
    refine (hearlier first _ 1 (State.ofValue_toValue _) (Nat.le_refl 1) rfl ?_).trans hread
    exact superseding_leaves state (by decide)

end AppDeployment

end Provisioner
