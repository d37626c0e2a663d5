import Provisioner.Proofs.GenieSpace.Endings
/-!
# States and what is read back

The state that a create returns is the state that a read returns, then and as long as nobody changes
the space (`read_of_create`). The state that an update returns is read back only if the plan gives a
description (`read_of_update`): what the workspace stores for a missing one is the empty text, which
a create puts into its state and an update does not.
-/

namespace Provisioner.GenieSpace

open Workspace (numbered_ne_empty)

variable {w : Workspace} {ids : Space.IdSupply} {p q : State} {x : String} {stored : Api.Space}
  {s : Session} {plan prior state : Json}

/-! ### A small session -/

/-- A session on an empty workspace. -/
def newSession : Session := .start (.standard .standard) (fun _ => []) fun _ _ => ⟨0, 0, 0, 0⟩

/-- A plan that says no more than it has to. -/
def barePlan : Json := .object [("title", .string "Sales"), ("warehouse_id", .string "main")]

def bareState : State := ⟨none, "Sales", "main", none, none, none, [], []⟩

theorem standard_newSession : newSession.Standard := Session.standard_start _ _

theorem ofValue_barePlan : State.codec.ofValue barePlan = .ok bareState := rfl

/-- Steps with other spaces and without any luck for new ones. -/
def otherSteps : List Step :=
  [.call (.create "databricks_genie_space" (.value barePlan)),
   .insertSpace ⟨"space-3", "Other", "main", "", ""⟩,
   .removeSpace "space-2",
   .fail .createSpace (ApiError.notFound "no folder")]

/-! ### After a create -/

/-- The space of a plan is kept from its create on. -/
theorem keeps_createSpace (hget : w.failures .getSpace = none) :
    (w.createSpace (createRequest ids p)).2.Keeps (w.nextId "space")
      (p.space ids (w.nextId "space")) :=
  ⟨get?_createSpace, ⟨w.lastNumber + 1, Nat.le_refl _, rfl⟩, hget⟩

/-- A create succeeds for every plan, with the state of the plan under the next identifier. Whatever
    happens next, but for moves aimed at this space and failures of the fetching of spaces, a read
    of this state returns it unchanged. -/
theorem read_of_create (hs : s.Standard) (hcreate : s.workspace.failures .createSpace = none)
    (hget : s.workspace.failures .getSpace = none) (hplan : State.codec.ofValue plan = .ok p) :
    ∃ state s',
      s.perform (.create s.provider.options.genieSpace plan) = (.ok state, s') ∧
      state = State.codec.toValue
        (p.under (s.workspace.nextId "space") (s.workspace.nextId "space")) ∧
      ∀ answers steps,
        (∀ m ∈ s'.movesFrom answers steps,
          ¬ m.Writes (s.workspace.nextId "space") ∧ ¬ m.Breaks .getSpace) →
        ((s'.runFrom answers steps).2.perform
          (.read s.provider.options.genieSpace state)).1 = .ok (some state) := by
  obtain ⟨s', hperform, hs'⟩ := perform_create hs hcreate hplan
  refine ⟨_, s', hperform, rfl, ?_⟩
  intro answers steps hmoves
  have hlater := hs'.standard.goesTo_runFrom answers steps
  have hkeeps : (s'.runFrom answers steps).2.workspace.Keeps (s.workspace.nextId "space")
      (p.space (s.supply s.performed) (s.workspace.nextId "space")) := by
    rw [hlater.workspace, hs'.workspace]
    apply Workspace.Keeps.playAll (keeps_createSpace hget)
    exact hmoves
  obtain ⟨s'', hread, _⟩ := perform_read (q := p.under (s.workspace.nextId "space")
    (s.workspace.nextId "space")) hlater.standard hkeeps.fetchable rfl
    (numbered_ne_empty "space" _) hkeeps.stored
  rw [hlater.provider, hs'.provider] at hread
  exact congrArg Prod.fst hread

/-- A plan that leaves nothing open, with a question that has to be escaped in the document. -/
def fullPlan : Json :=
  .object [("title", .string "Sales"), ("warehouse_id", .string "main"),
    ("description", .string "Net figures"), ("parent_path", .string "/Teams"),
    ("tables", .array [.string "main.sales.orders", .string "main.sales.items"]),
    ("sample_questions", .array [.string "What is \"net\"?", .string ""])]

def fullState : State :=
  ⟨none, "Sales", "main", some "Net figures", some "/Teams", none,
    ["main.sales.orders", "main.sales.items"], ["What is \"net\"?", ""]⟩

theorem ofValue_fullPlan : State.codec.ofValue fullPlan = .ok fullState := rfl

/-- All that the plan says is read back when other spaces have come and gone. -/
theorem read_of_create_among_others :
    let state := State.codec.toValue { fullState with id := some "space-1", spaceId := some "space-1" }
    ∃ s',
      newSession.perform (.create "databricks_genie_space" fullPlan) = (.ok state, s') ∧
      ((s'.runFrom [] otherSteps).2.perform (.read "databricks_genie_space" state)).1 =
        .ok (some state) := by
  obtain ⟨_, s', hcreate, rfl, hread⟩ :=
    read_of_create standard_newSession rfl rfl ofValue_fullPlan
  refine ⟨s', hcreate, hread [] otherSteps ?_⟩
  obtain rfl : s' = (newSession.perform (.create "databricks_genie_space" fullPlan)).2 :=
    (congrArg Prod.snd hcreate).symm
  have hmoves : (newSession.perform (.create "databricks_genie_space" fullPlan)).2.movesFrom []
      otherSteps =
        [.request (.createSpace (createRequest (fun _ => ⟨0, 0, 0, 0⟩) bareState)),
         .insertSpace ⟨"space-3", "Other", "main", "", ""⟩, .removeSpace "space-2",
         .fail .createSpace (ApiError.notFound "no folder")] := rfl
  have hid : newSession.workspace.nextId "space" = "space-1" := rfl
  rw [hmoves, hid]
  simp [Move.Writes, Move.Breaks]

/-! ### After an update -/

/-- What a create returns is a state of a stored space. -/
theorem tracks_createSpace (w : Workspace) (ids : Space.IdSupply) (p : State) :
    (p.under (w.nextId "space") (w.nextId "space")).Tracks
      (w.createSpace (createRequest ids p)).2 (w.nextId "space")
      (p.space ids (w.nextId "space")) :=
  ⟨rfl, numbered_ne_empty "space" _, get?_createSpace, rfl⟩

/-- Whatever a read returns is a state of a stored space too. -/
theorem tracks_of_read (hs : s.Standard)
    (h : (s.perform (.read s.provider.options.genieSpace prior)).1 = .ok (some state)) :
    ∃ q x stored, State.codec.ofValue state = .ok q ∧ q.Tracks s.workspace x stored := by
  obtain ⟨q, x, stored, contents, -, hx, hne, hstored, rfl⟩ := state_of_read hs (Prod.ext h rfl)
  exact ⟨refreshed q stored contents, x, stored, State.ofValue_toValue _, hx, hne, hstored, rfl⟩

/-- An update of a space succeeds for every plan, with the plan under the identifiers of the space.
    The next read returns the same but for the description, for which it has the stored text; so it
    returns the state of the update exactly if the plan gives a description. -/
theorem read_of_update (hs : s.Standard) (hupdate : s.workspace.failures .updateSpace = none)
    (hget : s.workspace.failures .getSpace = none) (hq : q.Tracks s.workspace x stored)
    (hprior : State.codec.ofValue prior = .ok q) (hplan : State.codec.ofValue plan = .ok p) :
    ∃ state s',
      s.perform (.update s.provider.options.genieSpace prior plan) = (.ok state, s') ∧
      state = State.codec.toValue { p with id := some x, spaceId := some stored.spaceId } ∧
      (s'.perform (.read s.provider.options.genieSpace state)).1 =
        .ok (some (State.codec.toValue (p.under x stored.spaceId))) ∧
      ((s'.perform (.read s.provider.options.genieSpace state)).1 = .ok (some state) ↔
        p.description ≠ none) := by
  obtain ⟨s', hperform, hs'⟩ := perform_update hs hupdate hq hprior hplan
  have hfetchable : s'.workspace.failures .getSpace = none := by
    rw [hs'.workspace]
    exact hget
  have hstored : s'.workspace.spaces.get? x =
      some (p.space (s.supply s.performed) stored.spaceId) := by
    rw [hs'.workspace]
    exact Dict.get?_insert_self ..
  obtain ⟨s'', hread, _⟩ := perform_read
    (q := { p with id := some x, spaceId := some stored.spaceId }) hs'.standard hfetchable rfl
    hq.ne_empty hstored
  rw [hs'.provider] at hread
  refine ⟨_, s', hperform, rfl, congrArg Prod.fst hread, ?_⟩
  rw [hread]
  constructor
  · intro heq hnone
    have hstates := State.lawful.readsBack.toValue_inj (Option.some.inj (Except.ok.inj heq))
    simpa [State.under, hnone] using congrArg State.description hstates
  · intro hsome
    obtain ⟨description, hdescription⟩ := Option.ne_none_iff_exists'.mp hsome
    simp [State.under, hdescription]

/-- An update that gives no description is read back with one. -/
theorem read_of_bare_update :
    ∃ prior s state s',
      newSession.perform (.create "databricks_genie_space" barePlan) = (.ok prior, s) ∧
      s.perform (.update "databricks_genie_space" prior barePlan) = (.ok state, s') ∧
      (s'.perform (.read "databricks_genie_space" state)).1 ≠ .ok (some state) := by
  obtain ⟨s, hcreate, hs⟩ := perform_create standard_newSession rfl ofValue_barePlan
  have htracks : (bareState.under "space-1" "space-1").Tracks s.workspace "space-1"
      (bareState.space (fun _ => ⟨0, 0, 0, 0⟩) "space-1") := by
    rw [hs.workspace]
    exact tracks_createSpace newSession.workspace _ bareState
  obtain ⟨state, s', hupdate, _, _, hiff⟩ := read_of_update hs.standard (by rw [hs.workspace]; rfl)
    (by rw [hs.workspace]; rfl) htracks (State.ofValue_toValue _) ofValue_barePlan
  rw [hs.provider] at hupdate hiff
  refine ⟨_, s, state, s', hcreate, hupdate, ?_⟩
  intro hread
  exact hiff.mp hread rfl

end Provisioner.GenieSpace
