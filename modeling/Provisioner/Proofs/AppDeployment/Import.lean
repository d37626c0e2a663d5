import Provisioner.Proofs.Provider.Fitting
import Provisioner.Proofs.Session.Atomicity
/-!
# Imports of deployments

A deployment is imported by an identifier of two names with a separator between them
(`AppDeployment.Spells`). The import and the read that follows it check the same of the names, each
by itself, so that what the one has let pass the other never refuses, and the deployment is asked for
by just these names (`AppDeployment.importState_spells`).
-/

namespace Provisioner.AppDeployment

open Space (IdSupply)

variable {o : Options} {ids : IdSupply} {id appName deploymentId : String} {q : State}
  {state : Json}

/-! ### Identifiers -/

/-- An identifier is spelled by two names. The separator between them is the first one that it has. -/
structure Spells (id appName deploymentId : String) : Prop where
  text : id = appName ++ "|" ++ deploymentId
  first : separator ∉ appName.toList
  appName_ne : appName ≠ ""
  deploymentId_ne : deploymentId ≠ ""

theorem spells_iff :
    Spells id appName deploymentId ↔
      Text.splitOnce separator id = some (appName, deploymentId) ∧ appName ≠ "" ∧
        deploymentId ≠ "" := by
  have hlists : id.toList = appName.toList ++ separator :: deploymentId.toList ↔
      id = appName ++ "|" ++ deploymentId := by
    rw [← String.toList_inj]
    simp [separator]
  rw [Text.splitOnce_eq_some_iff, hlists]
  constructor
  · intro h
    exact ⟨⟨h.text, h.first⟩, h.appName_ne, h.deploymentId_ne⟩
  · rintro ⟨⟨htext, hfirst⟩, happ, hdeployment⟩
    exact ⟨htext, hfirst, happ, hdeployment⟩

/-- The state that is imported by two names. -/
def State.named (appName deploymentId : String) : State := ⟨appName, "", none, some deploymentId⟩

theorem importState_eq_ok_iff :
    importState id = .ok q ↔
      ∃ appName deploymentId, Spells id appName deploymentId ∧ q = .named appName deploymentId := by
  simp only [spells_iff]
  constructor
  · intro h
    unfold importState at h
    split at h
    · rename_i appName deploymentId hsplit
      split at h
      · cases h
      · rename_i hnames
        cases h
        simp only [Bool.or_eq_true, String.isEmpty_iff, not_or] at hnames
        exact ⟨appName, deploymentId, ⟨hsplit, hnames⟩, rfl⟩
    · cases h
  · rintro ⟨appName, deploymentId, ⟨hsplit, happ, hdeployment⟩, rfl⟩
    simp [importState, hsplit, happ, hdeployment, State.named]

/-! ### Reads -/

/-- A state that knows both names is read by asking for the deployment that they name. -/
theorem request?_read_named (happ : appName ≠ "") (hdeployment : deploymentId ≠ "") :
    (read (.named appName deploymentId)).request? = some (.getDeployment appName deploymentId) := by
  rw [request?_read, State.named, filled_some, filled_some]
  simp [happ, hdeployment]

theorem late_read_named (happ : appName ≠ "") (hdeployment : deploymentId ≠ "") :
    (read (.named appName deploymentId)).Ends Late := by
  unfold read
  dsimp only
  split
  · rename_i hunnamed
    simp [State.named, happ, hdeployment] at hunnamed
  · intro answer
    cases answer with
    | error e => exact (forgives_ite ApiError.isMissing_iff _ e _).late
    | ok deployment => exact late_ok _

/-! ### The provider -/

/-- Whoever answers it, a read of the state asks for the deployment with these names and for nothing
    else. It fails neither because it finds the names not valid nor because the state does not fit. -/
def AsksFor (o : Options) (v : Json) (appName deploymentId : String) : Prop :=
  ∀ (ids : IdSupply) (σ : Type) (client : Client σ) (c : σ),
    let run := ((Provider.standard o).task ids (.read (o.typeName .appDeployment) v)).run
      client.recording (c, [])
    run.2.2 = [.getDeployment appName deploymentId] ∧
      (∀ text, run.1 ≠ .error (.validation text)) ∧ ∀ e, run.1 ≠ .error (.serialization e)

theorem State.ofValue_toValue (q : State) : State.codec.ofValue (State.codec.toValue q) = .ok q :=
  State.faithful.roundTrips.ofValue_toValue q

theorem task_read (hstate : State.codec.ofValue state = .ok q) :
    (Provider.standard o).task ids (.read (o.typeName .appDeployment) state) =
      (read q).map fun refreshed => refreshed.toOption.map State.codec.toValue :=
  Provider.task_read (k := .appDeployment) hstate

theorem task_import (h : importState id = .ok q) :
    (Provider.standard o).task ids (.importResource (o.typeName .appDeployment) id) =
      .done (.ok ⟨o.typeName .appDeployment, State.codec.toValue q⟩) := by
  have himport : adapter.importState id = .ok q := h
  simp only [Provider.task, Provider.resource_typeName, Provider.serving, Kind.adapter,
    Adapter.erase, himport]
  rfl

theorem asksFor_named (o : Options) (happ : appName ≠ "") (hdeployment : deploymentId ≠ "") :
    AsksFor o (State.codec.toValue (.named appName deploymentId)) appName deploymentId := by
  intro ids σ client c
  rw [task_read (State.ofValue_toValue _)]
  have hlate : ((read (.named appName deploymentId)).map fun refreshed =>
      refreshed.toOption.map State.codec.toValue).Ends Late :=
    (late_read_named happ hdeployment).map fun _ h => h.map _
  refine ⟨?_, fun text h => hlate.run _ _ _ h trivial, fun e h => hlate.run _ _ _ h trivial⟩
  rw [Task.run_recording, Task.request?_map, request?_read_named happ hdeployment]
  rfl

/-- An import accepts just the identifiers that two names spell. The state that it gives has these
    names, which make up the identifier again, and it is read by them. Two names are recovered if the
    first of them has no separator, and only then. -/
theorem importState_spells (o : Options) :
    (∀ id, (∃ q, importState id = .ok q) ↔
      ∃ before after, id = before ++ "|" ++ after ∧ '|' ∉ before.toList ∧ before ≠ "" ∧
        after ≠ "") ∧
    (∀ id q, importState id = .ok q → ∃ deploymentId, q.deploymentId = some deploymentId ∧
      q.appName ++ "|" ++ deploymentId = id ∧
      (∀ ids, (Provider.standard o).task ids (.importResource (o.typeName .appDeployment) id) =
        .done (.ok ⟨o.typeName .appDeployment, State.codec.toValue q⟩)) ∧
      AsksFor o (State.codec.toValue q) q.appName deploymentId) ∧
    ∀ appName deploymentId, appName ≠ "" → deploymentId ≠ "" →
      ((∃ q, importState (appName ++ "|" ++ deploymentId) = .ok q ∧ q.appName = appName ∧
        q.deploymentId = some deploymentId) ↔ '|' ∉ appName.toList) := by
  refine ⟨?accepted, ?imported, ?recovered⟩
  case accepted =>
    intro id
    simp only [importState_eq_ok_iff]
    constructor
    · rintro ⟨q, before, after, hspells, -⟩
      exact ⟨before, after, hspells.text, hspells.first, hspells.appName_ne,
        hspells.deploymentId_ne⟩
    · rintro ⟨before, after, htext, hfirst, hbefore, hafter⟩
      exact ⟨_, before, after, ⟨htext, hfirst, hbefore, hafter⟩, rfl⟩
  case imported =>
    intro id q h
    obtain ⟨appName, deploymentId, hspells, rfl⟩ := importState_eq_ok_iff.mp h
    exact ⟨deploymentId, rfl, hspells.text.symm, fun _ => task_import h,
      asksFor_named o hspells.appName_ne hspells.deploymentId_ne⟩
  case recovered =>
    intro appName deploymentId happ hdeployment
    simp only [importState_eq_ok_iff]
    constructor
    · rintro ⟨q, ⟨before, after, hspells, rfl⟩, rfl, -⟩
      exact hspells.first
    · intro hfirst
      exact ⟨_, ⟨appName, deploymentId, ⟨rfl, hfirst, happ, hdeployment⟩, rfl⟩, rfl, rfl⟩

/-- Only the first separator counts. -/
theorem importState_spells_two_separators :
    ∃ q, importState "sales|v1|b" = .ok q ∧ q.appName = "sales" ∧ q.deploymentId = some "v1|b" ∧
      AsksFor .standard (State.codec.toValue q) "sales" "v1|b" := by
  obtain ⟨-, himported, hrecovered⟩ := importState_spells .standard
  obtain ⟨q, h, happ, hid⟩ := (hrecovered "sales" "v1|b" (by decide) (by decide)).mpr (by decide)
  obtain ⟨deploymentId, hid', -, -, hasks⟩ := himported _ q h
  obtain rfl := Option.some.inj (hid'.symm.trans hid)
  rw [happ] at hasks
  exact ⟨q, h, happ, hid, hasks⟩

end Provisioner.AppDeployment
