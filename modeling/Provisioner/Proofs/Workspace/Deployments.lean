import Provisioner.Proofs.Workspace.Moves
/-!
# What becomes of deployments

A move leaves all deployments as they are, or it puts a single one (`Workspace.deployments_play`).
Two things follow. Every deployment stands under its own identifier, whatever has happened so far
(`Workspace.Reachable.keyedDeployments`). And since a call puts a deployment under an identifier
that was never given before, nothing changes under an identifier that was given until someone
inserts something there (`Workspace.Deployed.deployment?_playAll`).
-/

namespace Provisioner

open Api

variable {w w' : Workspace} {m : Move} {ms : List Move} {appName deploymentId : String}
  {d : Deployment}

namespace Move

/-- The move puts a deployment of an app. -/
inductive Deploys (w : Workspace) : String → Deployment → Move → Prop
  | call (r : Deploy) :
      Deploys w r.appName ⟨w.nextId "deploy", r.sourceCodePath⟩ (.request (.deploy r))
  | insert (appName : String) (d : Deployment) : Deploys w appName d (.insertDeployment appName d)

/-- The move inserts a deployment in the place of one that there may have been. -/
def Replaces (appName deploymentId : String) : Move → Prop
  | insertDeployment app d => app = appName ∧ d.deploymentId = deploymentId
  | _ => False

end Move

namespace Workspace

/-! ### One move -/

theorem deployment?_congr (h : w.deployments = w'.deployments) :
    w.deployment? appName deploymentId = w'.deployment? appName deploymentId := by
  rw [deployment?, deployment?, h]

theorem Effect.deployments_eq {r : Request} (h : w.Effect r w') :
    w'.deployments = w.deployments ∨
      ∃ app d, (Move.request r).Deploys w app d ∧
        w'.deployments = (w.insertDeployment app d).deployments := by
  cases h with
  | deploy r => exact .inr ⟨_, _, .call r, rfl⟩
  | _ => exact .inl rfl

/-- A move puts one deployment or none. -/
theorem deployments_play (w : Workspace) (m : Move) :
    (w.play m).deployments = w.deployments ∨
      ∃ app d, m.Deploys w app d ∧
        (w.play m).deployments = (w.insertDeployment app d).deployments := by
  cases m with
  | request r => exact (effect_answer r w).deployments_eq
  | modifySpace spaceId edit =>
    simp only [play]
    split <;> exact .inl rfl
  | insertDeployment appName d => exact .inr ⟨_, _, .insert appName d, rfl⟩
  | _ => exact .inl rfl

/-- What stands in the place of a deployment after a move stood there before, unless it is what the
    move puts. -/
theorem deployment?_play (w : Workspace) (m : Move) (appName deploymentId : String) :
    (w.play m).deployment? appName deploymentId = w.deployment? appName deploymentId ∨
      ∃ d, m.Deploys w appName d ∧ d.deploymentId = deploymentId ∧
        (w.play m).deployment? appName deploymentId = some d := by
  rcases deployments_play w m with hsame | ⟨app, d, hdeploys, hput⟩
  · exact .inl (deployment?_congr hsame)
  · rw [deployment?_congr hput, deployment?_insertDeployment]
    by_cases hplace : appName = app ∧ deploymentId = d.deploymentId
    · obtain ⟨rfl, rfl⟩ := hplace
      exact .inr ⟨d, hdeploys, rfl, if_pos ⟨rfl, rfl⟩⟩
    · exact .inl (if_neg hplace)

/-! ### Deployments stand under their own identifiers -/

/-- What is stored under an identifier, for whatever app, has this identifier. -/
def KeyedDeployments (w : Workspace) : Prop :=
  ∀ appName deploymentId d, w.deployment? appName deploymentId = some d →
    d.deploymentId = deploymentId

theorem keyedDeployments_empty : empty.KeyedDeployments := by
  intro appName deploymentId d h
  cases h

theorem KeyedDeployments.play (h : w.KeyedDeployments) (m : Move) :
    (w.play m).KeyedDeployments := by
  intro appName deploymentId d hstored
  rcases deployment?_play w m appName deploymentId with hsame | ⟨d', -, hid, hput⟩
  · exact h appName deploymentId d (hsame.symm.trans hstored)
  · obtain rfl := Option.some.inj (hput.symm.trans hstored)
    exact hid

theorem KeyedDeployments.playAll (h : w.KeyedDeployments) (ms : List Move) :
    (w.playAll ms).KeyedDeployments := by
  induction ms generalizing w with
  | nil => exact h
  | cons m ms ih => exact ih (h.play m)

/-- Some moves have led from the empty workspace to this one. -/
def Reachable (w : Workspace) : Prop := ∃ ms, w = empty.playAll ms

theorem reachable_empty : empty.Reachable := ⟨[], rfl⟩

theorem Reachable.playAll (h : w.Reachable) (ms : List Move) : (w.playAll ms).Reachable := by
  rcases h with ⟨earlier, rfl⟩
  exact ⟨earlier ++ ms, (playAll_append empty earlier ms).symm⟩

theorem Reachable.keyedDeployments (h : w.Reachable) : w.KeyedDeployments := by
  rcases h with ⟨ms, rfl⟩
  exact keyedDeployments_empty.playAll ms

/-! ### What stays deployed -/

/-- An identifier of a deployment that was given already. -/
def Deployed (w : Workspace) (deploymentId : String) : Prop :=
  ∃ n ≤ w.lastNumber, deploymentId = numbered "deploy" n

theorem Deployed.play (h : w.Deployed deploymentId) (m : Move) :
    (w.play m).Deployed deploymentId := by
  rcases h with ⟨n, hn, hid⟩
  exact ⟨n, Nat.le_trans hn (lastNumber_play m), hid⟩

/-- A call deploys under no identifier that was given already, so that only an insert can put
    something there. -/
theorem Deployed.replaces (h : w.Deployed deploymentId) (hdeploys : m.Deploys w appName d)
    (hid : d.deploymentId = deploymentId) : m.Replaces appName deploymentId := by
  cases hdeploys with
  | call r =>
    rcases h with ⟨n, hn, rfl⟩
    exact absurd hid.symm (numbered_ne_next hn)
  | insert appName d => exact ⟨rfl, hid⟩

theorem Deployed.deployment?_play (h : w.Deployed deploymentId)
    (hreplaces : ¬ m.Replaces appName deploymentId) :
    (w.play m).deployment? appName deploymentId = w.deployment? appName deploymentId := by
  rcases Workspace.deployment?_play w m appName deploymentId with hsame | ⟨d, hdeploys, hid, -⟩
  · exact hsame
  · exact absurd (h.replaces hdeploys hid) hreplaces

/-- Under an identifier that was given already nothing changes through all moves that do not insert
    something there. -/
theorem Deployed.deployment?_playAll (h : w.Deployed deploymentId)
    (hms : ∀ m ∈ ms, ¬ m.Replaces appName deploymentId) :
    (w.playAll ms).deployment? appName deploymentId = w.deployment? appName deploymentId := by
  induction ms generalizing w with
  | nil => rfl
  | cons m ms ih =>
    rw [List.forall_mem_cons] at hms
    exact (ih (h.play m) hms.2).trans (h.deployment?_play hms.1)

end Workspace

end Provisioner
