import Provisioner.Proofs.Session.Standard
import Provisioner.Proofs.Space.Reading
/-!
# What the operations on spaces do

Each operation on a space is a single call of the workspace. The lemmas here say what comes of it:
what is stored afterwards and which state is returned, first for tasks on a workspace and then for
calls of a standard session.
-/

namespace Provisioner.GenieSpace

open Json
open Space (Contents IdSupply)

variable {w : Workspace} {ids : IdSupply} {p q : State} {x y : String} {stored : Api.Space}
  {s : Session} {plan prior state : Json}

theorem State.faithful : State.codec.Faithful :=
  (Record.faithful (by simp [fields]) (by decide)).map fun _ => rfl

theorem State.lawful : State.codec.Lawful := State.faithful.lawful

theorem State.ofValue_toValue (q : State) : State.codec.ofValue (State.codec.toValue q) = .ok q :=
  State.faithful.roundTrips.ofValue_toValue q

/-! ### Spaces and states of a plan -/

/-- The space that is stored for a plan. -/
def State.space (p : State) (ids : IdSupply) (x : String) : Api.Space :=
  ⟨x, p.title, p.warehouseId, p.description.getD "", p.contents.encode ids⟩

/-- The state of a plan under the identifiers of a space, described as it is stored. -/
def State.under (p : State) (x y : String) : State :=
  { p with id := some x, spaceId := some y, description := some (p.description.getD "") }

/-- A state of the space that is stored under an identifier. -/
structure State.Tracks (q : State) (w : Workspace) (x : String) (stored : Api.Space) : Prop where
  id : q.id = some x
  ne_empty : x ≠ ""
  get? : w.spaces.get? x = some stored
  spaceId : q.spaceId = some stored.spaceId

theorem contentsOf_space (p : State) (ids : IdSupply) (x : String) :
    contentsOf (p.space ids x) = .ok p.contents := by
  have hdecode : Contents.decode (p.contents.encode ids) = .ok p.contents :=
    (Space.Document.decode_toText _).trans (congrArg Except.ok (p.contents.contents_document ids))
  simp only [contentsOf, State.space, hdecode]
  rfl

theorem requireId_eq (hid : q.id = some x) (hne : x ≠ "") : q.requireId = .ok x := by
  have hempty : x.isEmpty = false := by simpa using hne
  simp [State.requireId, hid, hempty]

theorem requireId_eq_ok (h : q.requireId = .ok x) : q.id = some x ∧ x ≠ "" := by
  unfold State.requireId at h
  split at h
  · rename_i id hid
    split at h
    · cases h
    · rename_i hempty
      obtain rfl := Except.ok.inj h
      exact ⟨hid, by simpa using hempty⟩
  · cases h

/-! ### Tasks -/

theorem get?_of_answer (h : (w.answer (.getSpace ⟨x, true⟩)).1 = .ok stored) :
    w.spaces.get? x = some stored := by
  have hserve := Workspace.fst_serve_of_answer h
  simp only [Workspace.serve, Workspace.getSpace] at hserve
  split at hserve
  · rename_i space hget
    obtain rfl := Except.ok.inj hserve
    exact hget
  · cases hserve

/-- A space is fetched without a change of the workspace. -/
theorem snd_answer_getSpace (w : Workspace) (x : String) :
    (w.answer (.getSpace ⟨x, true⟩)).2 = w :=
  (Workspace.effect_answer (.getSpace ⟨x, true⟩) w).eq_of_looks trivial

theorem run_create (h : w.failures .createSpace = none) :
    (create ids p).run Workspace.answer w =
      (.ok (p.under (w.nextId "space") (w.nextId "space")),
        (w.createSpace (createRequest ids p)).2) := by
  have hanswer : w.answer (.createSpace (createRequest ids p)) =
      w.createSpace (createRequest ids p) := Workspace.answer_of_no_failure h
  simp only [create, Task.run, hanswer, Workspace.createSpace]
  cases hdescription : p.description <;>
    simp [created, State.under, createRequest, hdescription]

/-- The space of a plan is stored under the next identifier. -/
theorem get?_createSpace :
    (w.createSpace (createRequest ids p)).2.spaces.get? (w.nextId "space") =
      some (p.space ids (w.nextId "space")) :=
  Dict.get?_insert_self ..

theorem run_read (h : w.failures .getSpace = none) (hid : q.id = some x) (hne : x ≠ "")
    (hstored : w.spaces.get? x = some (p.space ids y)) :
    (read q).run Workspace.answer w =
      (.ok (.found { p.under x y with parentPath := q.parentPath }), w) := by
  have hanswer : w.answer (.getSpace ⟨x, true⟩) = (.ok (p.space ids y), w) := by
    rw [Workspace.answer_of_no_failure h, Workspace.serve, Workspace.getSpace, hstored]
    rfl
  simp only [read, requireId_eq hid hne, Task.run, hanswer, contentsOf_space, Except.map]
  simp only [refreshed, State.under, State.space, State.contents, hid]

theorem run_update (h : w.failures .updateSpace = none) (hq : q.Tracks w x stored) :
    (update ids q p).run Workspace.answer w =
      (.ok { p with id := some x, spaceId := some stored.spaceId },
        w.replaceSpace x (p.space ids stored.spaceId)) := by
  have hanswer : w.answer (.updateSpace (updateRequest ids x p)) =
      (.ok (p.space ids stored.spaceId), w.replaceSpace x (p.space ids stored.spaceId)) := by
    rw [Workspace.answer_of_no_failure h, Workspace.serve, Workspace.updateSpace]
    simp only [updateRequest, hq.get?]
    rfl
  simp only [update, requireId_eq hq.id hq.ne_empty, Task.run, hanswer, hq.id, hq.spaceId]

/-! ### Calls of a standard session -/

theorem resource_eq (hs : s.Standard) :
    s.provider.resource s.provider.options.genieSpace = .ok adapter.erase := by
  rw [hs.provider]
  exact Provider.resource_genieSpace s.provider.options

theorem erase_create (hplan : State.codec.ofValue plan = .ok p) :
    adapter.erase.create ids plan = (create ids p).map State.codec.toValue := by
  show Task.reading (State.codec.ofValue plan) _ = _
  rw [hplan]
  rfl

theorem erase_read (hstate : State.codec.ofValue state = .ok q) :
    adapter.erase.read state =
      (read q).map fun refreshed => refreshed.toOption.map State.codec.toValue := by
  show Task.reading (State.codec.ofValue state) _ = _
  rw [hstate]
  rfl

theorem erase_update (hprior : State.codec.ofValue prior = .ok q)
    (hplan : State.codec.ofValue plan = .ok p) :
    adapter.erase.update ids prior plan = (update ids q p).map State.codec.toValue := by
  show Task.reading (State.codec.ofValue prior) (fun _ =>
    Task.reading (State.codec.ofValue plan) _) = _
  rw [hprior, hplan]
  rfl

theorem erase_delete (hstate : State.codec.ofValue state = .ok q) :
    adapter.erase.delete state = delete q := by
  show Task.reading (State.codec.ofValue state) _ = _
  rw [hstate]
  rfl

/-- A create stores the space of the plan under the next identifier, and returns its state. -/
theorem perform_create (hs : s.Standard) (h : s.workspace.failures .createSpace = none)
    (hplan : State.codec.ofValue plan = .ok p) :
    ∃ s', s.perform (.create s.provider.options.genieSpace plan) =
        (.ok (State.codec.toValue
          (p.under (s.workspace.nextId "space") (s.workspace.nextId "space"))), s') ∧
      s.GoesTo (s.workspace.createSpace (createRequest (s.supply s.performed) p)).2 s' := by
  apply Session.perform_of_run hs
  simp only [Provider.task, resource_eq hs, Provider.serving, erase_create hplan, Task.run_map,
    run_create h, Except.map]

/-- A read of the space of a plan returns the state of the plan, but for the folder. -/
theorem perform_read (hs : s.Standard) (h : s.workspace.failures .getSpace = none)
    (hid : q.id = some x) (hne : x ≠ "")
    (hstored : s.workspace.spaces.get? x = some (p.space ids y)) :
    ∃ s', s.perform (.read s.provider.options.genieSpace (State.codec.toValue q)) =
        (.ok (some (State.codec.toValue { p.under x y with parentPath := q.parentPath })), s') ∧
      s.GoesTo s.workspace s' := by
  apply Session.perform_of_run hs
  simp only [Provider.task, resource_eq hs, Provider.serving, erase_read q.ofValue_toValue,
    Task.run_map, run_read h hid hne hstored, Except.map, Refreshed.toOption, Option.map_some]

/-- An update stores the space of the plan, and returns the plan under the identifiers that the
    prior state has. -/
theorem perform_update (hs : s.Standard) (h : s.workspace.failures .updateSpace = none)
    (hq : q.Tracks s.workspace x stored) (hprior : State.codec.ofValue prior = .ok q)
    (hplan : State.codec.ofValue plan = .ok p) :
    ∃ s', s.perform (.update s.provider.options.genieSpace prior plan) =
        (.ok (State.codec.toValue { p with id := some x, spaceId := some stored.spaceId }), s') ∧
      s.GoesTo (s.workspace.replaceSpace x (p.space (s.supply s.performed) stored.spaceId)) s' := by
  apply Session.perform_of_run hs
  simp only [Provider.task, resource_eq hs, Provider.serving, erase_update hprior hplan,
    Task.run_map, run_update h hq, Except.map]

/-- An import asks the workspace nothing. -/
theorem perform_importResource (hs : s.Standard) (id : String) :
    ∃ s', s.perform (.importResource s.provider.options.genieSpace id) =
        (.ok ⟨s.provider.options.genieSpace, State.codec.toValue (.imported id)⟩, s') ∧
      s.GoesTo s.workspace s' := by
  apply Session.perform_of_run hs
  simp only [Provider.task, resource_eq hs, Provider.serving]
  rfl

end Provisioner.GenieSpace
