import Provisioner.Proofs.Workspace.Deployments
import Provisioner.Proofs.Workspace.Failures
import Provisioner.Proofs.Workspace.Keys
/-!
# What a create puts something in the place of

The identifier of a new space or deployment is one that was never given before. That nothing is stored
under it does not follow: someone may have inserted an object under just this identifier, for the
numbering takes no notice of inserts. This is the only way in which a create can hit something
(`Workspace.space_missing_iff`, `Workspace.deployment_missing_iff`). For spaces the insert must not
have been undone by a removal (`Inserted`), which a deployment never meets.
-/

namespace Provisioner

open Api

variable {w w' : Workspace} {r : Request} {m : Move} {ms : List Move} {x : String}
  {appName deploymentId : String}

/-- After some moves, the move removes a space if there is one. -/
def Move.Removes (ms : List Move) (x : String) : Move → Prop
  | removeSpace spaceId => spaceId = x
  | request (.trashSpace spaceId) => spaceId = x ∧ ∀ e, .fail .trashSpace e ∉ ms
  | _ => False

/-- Someone has inserted a space under an identifier, and it was not removed since. -/
inductive Inserted (x : String) : List Move → Prop
  | insert (ms : List Move) (space : Space) (hid : space.spaceId = x) :
      Inserted x (ms ++ [.insertSpace space])
  | keep (ms : List Move) (m : Move) (hinserted : Inserted x ms) (hm : ¬ m.Removes ms x) :
      Inserted x (ms ++ [m])

namespace Workspace

/-! ### Spaces -/

theorem stored_replaceSpace {y : String} {space : Space} (hstored : w.spaces.get? x ≠ none) :
    (w.replaceSpace y space).spaces.get? x ≠ none := by
  rw [get?_replaceSpace]
  split
  · exact Option.some_ne_none space
  · exact hstored

theorem stored_removeSpace {y : String} (hy : y ≠ x) (hstored : w.spaces.get? x ≠ none) :
    (w.removeSpace y).spaces.get? x ≠ none := by
  rw [get?_removeSpace, if_neg (Ne.symm hy)]
  exact hstored

theorem Effect.stored (heffect : w.Effect r w') (hr : r ≠ .trashSpace x)
    (hstored : w.spaces.get? x ≠ none) : w'.spaces.get? x ≠ none := by
  cases heffect with
  | createSpace r => exact stored_replaceSpace hstored
  | updateSpace r stored h => exact stored_replaceSpace hstored
  | trashSpace spaceId =>
    apply stored_removeSpace _ hstored
    rintro rfl
    exact hr rfl
  | _ => exact hstored

/-- Only a removal takes away what is stored under an identifier. -/
theorem stored_play (hm : ¬ m.Removes ms x) (hstored : (empty.playAll ms).spaces.get? x ≠ none) :
    ((empty.playAll ms).play m).spaces.get? x ≠ none := by
  cases m with
  | request r =>
    by_cases hr : r = .trashSpace x
    · subst hr
      obtain ⟨e, hfailure⟩ : ∃ e, (empty.playAll ms).failures .trashSpace = some e := by
        apply Option.ne_none_iff_exists'.mp
        intro hfree
        exact hm ⟨rfl, failures_eq_none_iff.mp hfree⟩
      rw [play_of_stopped hfailure]
      exact hstored
    · exact (effect_answer r _).stored hr hstored
  | insertSpace space => exact stored_replaceSpace hstored
  | modifySpace spaceId edit =>
    simp only [play]
    split
    · exact stored_replaceSpace hstored
    · exact hstored
  | removeSpace spaceId => exact stored_removeSpace hm hstored
  | _ => exact hstored

theorem stored_of_inserted (h : Inserted x ms) : (empty.playAll ms).spaces.get? x ≠ none := by
  induction h with
  | insert ms space hid =>
    subst hid
    rw [playAll_snoc]
    exact fun hnone => Option.some_ne_none space ((Dict.get?_insert_self ..).symm.trans hnone)
  | keep ms m hinserted hm ih =>
    rw [playAll_snoc]
    exact stored_play hm ih

/-- A removal leaves nothing. -/
theorem missing_of_removes (hm : m.Removes ms x) :
    ((empty.playAll ms).play m).spaces.get? x = none := by
  cases m with
  | request r =>
    cases r with
    | trashSpace spaceId =>
      obtain ⟨rfl, hunset⟩ := hm
      rw [play_of_free (failures_eq_none_iff.mpr hunset)]
      simp only [serve, trashSpace]
      split
      · exact Dict.get?_erase_self ..
      · assumption
    | _ => exact hm.elim
  | removeSpace spaceId =>
    obtain rfl : spaceId = x := hm
    exact Dict.get?_erase_self ..
  | _ => exact hm.elim

theorem Effect.missing_of_ungiven (heffect : w.Effect r w')
    (hmissing : w.spaces.get? x = none) (hx : ¬ w'.Numbered x) : w'.spaces.get? x = none := by
  cases heffect with
  | createSpace r =>
    have hne : x ≠ w.nextId "space" := by
      rintro rfl
      exact hx ⟨w.lastNumber + 1, Nat.le_refl _, rfl⟩
    exact (Dict.get?_insert ..).trans ((if_neg hne).trans hmissing)
  | updateSpace r stored hstored =>
    have hne : x ≠ r.spaceId := by
      rintro rfl
      exact Option.some_ne_none stored (hstored.symm.trans hmissing)
    exact get?_replaceSpace.trans ((if_neg hne).trans hmissing)
  | trashSpace spaceId =>
    rw [get?_removeSpace, hmissing, ite_self]
  | _ => exact hmissing

/-- Under an identifier that is not given yet only an insert puts a space. -/
theorem missing_play_of_ungiven (hmissing : w.spaces.get? x = none)
    (hinsert : ∀ space, m = .insertSpace space → space.spaceId ≠ x)
    (hx : ¬ (w.play m).Numbered x) : (w.play m).spaces.get? x = none := by
  cases m with
  | request r => exact (effect_answer r w).missing_of_ungiven hmissing hx
  | insertSpace space =>
    exact get?_replaceSpace.trans ((if_neg (Ne.symm (hinsert space rfl))).trans hmissing)
  | modifySpace spaceId edit =>
    simp only [play]
    split
    · rename_i stored hstored
      have hne : x ≠ spaceId := by
        rintro rfl
        exact Option.some_ne_none stored (hstored.symm.trans hmissing)
      exact get?_replaceSpace.trans ((if_neg hne).trans hmissing)
    · exact hmissing
  | removeSpace spaceId =>
    rw [play, get?_removeSpace, hmissing, ite_self]
  | _ => exact hmissing

theorem inserted_of_stored (hx : ¬ (empty.playAll ms).Numbered x)
    (hstored : (empty.playAll ms).spaces.get? x ≠ none) : Inserted x ms := by
  induction ms using List.reverseRecOn with
  | nil => exact absurd rfl hstored
  | append_singleton ms m ih =>
    rw [playAll_snoc] at hx hstored
    have hm : ¬ m.Removes ms x := fun hremoves => hstored (missing_of_removes hremoves)
    by_cases hbefore : (empty.playAll ms).spaces.get? x = none
    · -- What was not there before the move is inserted by it.
      by_cases hinsert : ∃ space, m = .insertSpace space ∧ space.spaceId = x
      · obtain ⟨space, rfl, hid⟩ := hinsert
        exact .insert ms space hid
      · exact absurd (missing_play_of_ungiven hbefore (fun space hm hid => hinsert ⟨space, hm, hid⟩)
          hx) hstored
    · exact .keep ms m (ih (fun hnumbered => hx (hnumbered.play m)) hbefore) hm

/-- Under an identifier that is not given yet there is a space just if someone has inserted it. -/
theorem space_missing_iff (hx : ¬ (empty.playAll ms).Numbered x) :
    (empty.playAll ms).spaces.get? x = none ↔ ¬ Inserted x ms := by
  constructor
  · exact fun hmissing hinserted => stored_of_inserted hinserted hmissing
  · exact fun hinserted => Decidable.not_not.mp fun hstored =>
      hinserted (inserted_of_stored hx hstored)

/-! ### Deployments -/

/-- A deployment is never taken away. -/
theorem deployed_play (m : Move) (hstored : w.deployment? appName deploymentId ≠ none) :
    (w.play m).deployment? appName deploymentId ≠ none := by
  rcases deployment?_play w m appName deploymentId with hsame | ⟨d, -, -, hput⟩
  · rw [hsame]
    exact hstored
  · rw [hput]
    exact Option.some_ne_none d

theorem deployed_playAll (ms : List Move) (hstored : w.deployment? appName deploymentId ≠ none) :
    (w.playAll ms).deployment? appName deploymentId ≠ none := by
  induction ms generalizing w with
  | nil => exact hstored
  | cons m ms ih => exact ih (deployed_play m hstored)

/-- Under an identifier that is not given yet only an insert puts a deployment. -/
theorem undeployed_play (hmissing : w.deployment? appName deploymentId = none)
    (hinsert : ∀ d, m = .insertDeployment appName d → d.deploymentId ≠ deploymentId)
    (hid : ¬ (w.play m).Deployed deploymentId) :
    (w.play m).deployment? appName deploymentId = none := by
  rcases deployment?_play w m appName deploymentId with hsame | ⟨d, hdeploys, hd, hput⟩
  · exact hsame.trans hmissing
  · cases hdeploys with
    | call r =>
      cases hfailure : w.failures (Request.deploy r).operation with
      | some e =>
        rw [play_of_stopped hfailure]
        exact hmissing
      | none =>
        rw [play_of_free hfailure] at hid
        exact absurd ⟨w.lastNumber + 1, Nat.le_refl _, hd.symm⟩ hid
    | insert appName d => exact absurd hd (hinsert d rfl)

/-- Under an identifier that is not given yet an app has a deployment just if someone has inserted
    it. -/
theorem deployment_missing_iff (hid : ¬ (empty.playAll ms).Deployed deploymentId) :
    (empty.playAll ms).deployment? appName deploymentId = none ↔
      ∀ d, .insertDeployment appName d ∈ ms → d.deploymentId ≠ deploymentId := by
  constructor
  · rintro hmissing d hd rfl
    obtain ⟨before, after, rfl⟩ := List.append_of_mem hd
    rw [playAll_append, playAll_cons] at hmissing
    apply deployed_playAll after _ hmissing
    show ((empty.playAll before).insertDeployment appName d).deployment? appName d.deploymentId ≠
      none
    rw [deployment?_insertDeployment, if_pos ⟨rfl, rfl⟩]
    exact Option.some_ne_none d
  · intro hinsert
    induction ms using List.reverseRecOn with
    | nil => rfl
    | append_singleton ms m ih =>
      rw [playAll_snoc] at hid ⊢
      have hbefore := ih (fun hdeployed => hid (hdeployed.play m)) fun d hd =>
        hinsert d (List.mem_append_left [m] hd)
      apply undeployed_play hbefore _ hid
      rintro d rfl
      exact hinsert d (List.mem_append_right ms List.mem_cons_self)

/-! ### Creates -/

/-- A space is put where there was none, and all others stay as they are. -/
structure AddsSpace (w w' : Workspace) (x : String) : Prop where
  fresh : w.spaces.get? x = none
  kept : ∀ y space, w.spaces.get? y = some space → w'.spaces.get? y = some space

/-- A deployment of an app is put where there was none, and all others stay as they are. -/
structure AddsDeployment (w w' : Workspace) (appName deploymentId : String) : Prop where
  fresh : w.deployment? appName deploymentId = none
  kept : ∀ app id d, w.deployment? app id = some d → w'.deployment? app id = some d

theorem addsSpace_iff (h : ∀ y ≠ x, w'.spaces.get? y = w.spaces.get? y) :
    AddsSpace w w' x ↔ w.spaces.get? x = none := by
  refine ⟨AddsSpace.fresh, fun hfresh => ⟨hfresh, ?_⟩⟩
  intro y space hspace
  rw [h y]
  · exact hspace
  · rintro rfl
    exact Option.some_ne_none space (hspace.symm.trans hfresh)

theorem addsDeployment_iff
    (h : ∀ app id, ¬ (app = appName ∧ id = deploymentId) →
      w'.deployment? app id = w.deployment? app id) :
    AddsDeployment w w' appName deploymentId ↔ w.deployment? appName deploymentId = none := by
  refine ⟨AddsDeployment.fresh, fun hfresh => ⟨hfresh, ?_⟩⟩
  intro app id d hd
  rw [h app id]
  · exact hd
  · rintro ⟨rfl, rfl⟩
    exact Option.some_ne_none d (hd.symm.trans hfresh)

theorem not_numbered_nextId (w : Workspace) : ¬ w.Numbered (w.nextId "space") :=
  fun h => numbered_ne_nextId h rfl

theorem not_deployed_nextId (w : Workspace) : ¬ w.Deployed (w.nextId "deploy") := by
  rintro ⟨n, hn, hid⟩
  exact numbered_ne_next hn hid.symm

/-- A call that succeeds was served. -/
theorem serve_of_success {a : r.Answer} (h : w.answer r = (.ok a, w')) :
    serve r w = (.ok a, w') := by
  unfold answer at h
  split at h
  · cases h
  · exact h

/-- Whatever has happened before, a create changes nothing but what is stored under the identifier
    that it returns. There was nothing, unless someone has inserted an object under this identifier
    and, if it is a space, nobody has removed it since: this one is lost. -/
theorem creates_unless_inserted (ms : List Move) :
    (∀ r space w', (empty.playAll ms).answer (.createSpace r) = (.ok space, w') →
      w'.spaces.get? space.spaceId = some space ∧
      (∀ y ≠ space.spaceId, w'.spaces.get? y = (empty.playAll ms).spaces.get? y) ∧
      ((empty.playAll ms).AddsSpace w' space.spaceId ↔ ¬ Inserted space.spaceId ms)) ∧
    (∀ r d w', (empty.playAll ms).answer (.deploy r) = (.ok d, w') →
      w'.deployment? r.appName d.deploymentId = some d ∧
      (∀ app id, ¬ (app = r.appName ∧ id = d.deploymentId) →
        w'.deployment? app id = (empty.playAll ms).deployment? app id) ∧
      ((empty.playAll ms).AddsDeployment w' r.appName d.deploymentId ↔
        ∀ d', .insertDeployment r.appName d' ∈ ms → d'.deploymentId ≠ d.deploymentId)) := by
  constructor
  · intro r space w' hanswer
    obtain ⟨hspace, rfl⟩ := Prod.mk.inj (serve_of_success hanswer)
    obtain rfl := Except.ok.inj hspace
    have hothers : ∀ y ≠ (empty.playAll ms).nextId "space",
        (serve (.createSpace r) (empty.playAll ms)).2.spaces.get? y =
          (empty.playAll ms).spaces.get? y :=
      fun y hy => get?_replaceSpace.trans (if_neg hy)
    refine ⟨Dict.get?_insert_self .., hothers, ?_⟩
    exact (addsSpace_iff hothers).trans (space_missing_iff (not_numbered_nextId _))
  · intro r d w' hanswer
    obtain ⟨hd, rfl⟩ := Prod.mk.inj (serve_of_success hanswer)
    obtain rfl := Except.ok.inj hd
    have hothers : ∀ app id,
        ¬ (app = r.appName ∧ id = (empty.playAll ms).nextId "deploy") →
        (serve (.deploy r) (empty.playAll ms)).2.deployment? app id =
          (empty.playAll ms).deployment? app id :=
      fun app id hplace => (deployment?_insertDeployment ..).trans (if_neg hplace)
    refine ⟨(deployment?_insertDeployment ..).trans (if_pos ⟨rfl, rfl⟩), hothers, ?_⟩
    exact (addsDeployment_iff hothers).trans (deployment_missing_iff (not_deployed_nextId _))

/-- Inserts under the identifiers that are given first. -/
def firstInserts : List Move :=
  [.insertDeployment "sales" ⟨"deploy-1", "theirs"⟩,
   .insertSpace ⟨"space-1", "Theirs", "main", "", "{}"⟩]

/-- A create puts its space in the place of the inserted one. A deploy does the same, but only if the
    deployment was inserted for its app. -/
theorem creates_unless_inserted_taken :
    ¬ (empty.playAll firstInserts).AddsSpace
        ((empty.playAll firstInserts).createSpace ⟨"Mine", "main", "", "", "{}"⟩).2 "space-1" ∧
      ¬ (empty.playAll firstInserts).AddsDeployment
        ((empty.playAll firstInserts).deploy ⟨"sales", "mine"⟩).2 "sales" "deploy-1" ∧
      (empty.playAll firstInserts).AddsDeployment
        ((empty.playAll firstInserts).deploy ⟨"stock", "mine"⟩).2 "stock" "deploy-1" := by
  obtain ⟨hspaces, hdeployments⟩ := creates_unless_inserted firstInserts
  refine ⟨?space, ?deployment, ?elsewhere⟩
  case space =>
    obtain ⟨-, -, hiff⟩ := hspaces ⟨"Mine", "main", "", "", "{}"⟩
      ⟨"space-1", "Mine", "main", "", "{}"⟩ _ rfl
    have hinserted : Inserted "space-1" firstInserts :=
      .insert [.insertDeployment "sales" ⟨"deploy-1", "theirs"⟩] _ rfl
    exact fun hadds => hiff.mp hadds hinserted
  case deployment =>
    obtain ⟨-, -, hiff⟩ := hdeployments ⟨"sales", "mine"⟩ ⟨"deploy-1", "mine"⟩ _ rfl
    exact fun hadds => hiff.mp hadds ⟨"deploy-1", "theirs"⟩ (by simp [firstInserts]) rfl
  case elsewhere =>
    obtain ⟨-, -, hiff⟩ := hdeployments ⟨"stock", "mine"⟩ ⟨"deploy-1", "mine"⟩ _ rfl
    exact hiff.mpr (by simp [firstInserts])

end Workspace

end Provisioner
