import Provisioner.Proofs.GenieSpace.Drift
import Provisioner.Proofs.Provider.Answers
/-!
# A space read as a resource and as a data source

A space can be imported and read, or be looked up. Both ask the workspace for the same space, and
both report what they get alike (`ReadAlike`): the same fields, or the same error. Only a space that
is missing is an answer to the one and an error to the other (`read_alike_lookup`).

Neither the configuration of the look-up nor the workspace is restricted: a document may be
malformed, and the fields that a look-up fills in may have stood in its configuration already.
-/

namespace Provisioner.GenieSpace

open Json
open Space (Contents)

variable {w w' : Workspace} {q : State} {x : String} {s s' : Session} {config state : Json} {c : Lookup}

/-- What a read and a look-up of one space reply. -/
inductive ReadAlike : Except Failure (Option Json) → Except Failure Json → Prop where
  | found (q : State) (l : Lookup) (id : l.id = q.spaceId) (title : l.title = some q.title)
      (warehouseId : l.warehouseId = some q.warehouseId) (description : l.description = q.description)
      (tables : l.tables = q.tables) (sampleQuestions : l.sampleQuestions = q.sampleQuestions) :
      ReadAlike (.ok (some (State.codec.toValue q))) (.ok (Lookup.codec.toValue l))
  | malformed (e : Json.Error) :
      ReadAlike (.error (.malformedDocument e)) (.error (.malformedDocument e))
  | refused (action : String) (e : ApiError) (present : ¬ e.Missing) :
      ReadAlike (.error (.api action e)) (.error (.api action e))
  | missing (action : String) (e : ApiError) (missing : e.Missing) :
      ReadAlike (.ok none) (.error (.api action e))

/-! ### Tasks -/

/-- The answer depends on what is stored under the identifier, and on the failure that is set. -/
theorem fst_answer_getSpace (hfailure : w'.failures .getSpace = w.failures .getSpace)
    (hstored : w'.spaces.get? x = w.spaces.get? x) :
    (w'.answer (.getSpace ⟨x, true⟩)).1 = (w.answer (.getSpace ⟨x, true⟩)).1 := by
  apply Workspace.fst_answer_congr hfailure
  simp only [Workspace.serve, Workspace.getSpace, hstored]
  split <;> rfl

theorem run_read_of_answer (hid : q.id = some x) (hne : x ≠ "") (w : Workspace) :
    (read q).run Workspace.answer w =
      (match (w.answer (.getSpace ⟨x, true⟩)).1 with
        | .error e => if e.isMissing then .ok .removed else .error (.api "failed to read genie space" e)
        | .ok space => (contentsOf space).map fun contents => .found (refreshed q space contents),
        w) := by
  simp only [read, requireId_eq hid hne, Task.run]
  exact congrArg (Prod.mk _) (snd_answer_getSpace w x)

theorem run_lookup_of_answer (c : Lookup) (w : Workspace) :
    (lookup c).run Workspace.answer w =
      (match (w.answer (.getSpace ⟨c.spaceId, true⟩)).1 with
        | .error e => .error (.api "failed to read genie space" e)
        | .ok space => (contentsOf space).map fun contents => c.filled space contents,
        w) := by
  simp only [lookup, Task.run]
  exact congrArg (Prod.mk _) (snd_answer_getSpace w c.spaceId)

/-! ### Calls -/

/-- Whatever the workspace answers, a read of an imported space and a look-up make the same of it. -/
theorem readAlike_run (hne : c.spaceId ≠ "") (hfailure : w'.failures .getSpace = w.failures .getSpace)
    (hstored : w'.spaces.get? c.spaceId = w.spaces.get? c.spaceId) :
    ReadAlike
      (((read (.imported c.spaceId)).map fun refreshed =>
        refreshed.toOption.map State.codec.toValue).run Workspace.answer w).1
      (((lookup c).map Lookup.codec.toValue).run Workspace.answer w').1 := by
  rw [Task.run_map, Task.run_map, run_read_of_answer rfl hne, run_lookup_of_answer,
    fst_answer_getSpace hfailure hstored]
  cases (w.answer (.getSpace ⟨c.spaceId, true⟩)).1 with
  | error e =>
    by_cases hmissing : e.isMissing = true
    · simp only [hmissing, if_true]
      exact .missing _ e (ApiError.isMissing_iff.mp hmissing)
    · simp only [hmissing]
      exact .refused _ e fun h => hmissing (ApiError.isMissing_iff.mpr h)
  | ok space =>
    dsimp only [contentsOf]
    cases Contents.decode space.document with
    | error e => exact .malformed e
    | ok contents =>
      exact .found (refreshed (.imported c.spaceId) space contents) (c.filled space contents)
        rfl rfl rfl rfl rfl rfl

theorem dataSource_eq (hs : s.Standard) :
    s.provider.dataSource s.provider.options.genieSpace = .ok lookupAdapter.erase := by
  rw [hs.provider]
  exact (Provider.dataSource_standard ..).trans (if_pos rfl)

theorem erase_lookup (hconfig : Lookup.codec.ofValue config = .ok c) :
    lookupAdapter.erase.read config = (lookup c).map Lookup.codec.toValue := by
  show Task.reading (Lookup.codec.ofValue config) _ = _
  rw [hconfig]
  rfl

theorem fst_perform_read (hs : s.Standard) (hstate : State.codec.ofValue state = .ok q) :
    (s.perform (.read s.provider.options.genieSpace state)).1 =
      (((read q).map fun refreshed => refreshed.toOption.map State.codec.toValue).run
        Workspace.answer s.workspace).1 := by
  rw [Task.run_map]
  exact Session.fst_perform_read (k := .genieSpace) hs hstate

theorem fst_perform_lookup (hs : s.Standard) (hconfig : Lookup.codec.ofValue config = .ok c) :
    (s.perform (.readDataSource s.provider.options.genieSpace config)).1 =
      (((lookup c).map Lookup.codec.toValue).run Workspace.answer s.workspace).1 := by
  have hrun := Session.perform_eq hs (.readDataSource s.provider.options.genieSpace config)
  simp only [Provider.task, dataSource_eq hs, Provider.serving, erase_lookup hconfig] at hrun
  exact (congrArg Prod.fst hrun).symm

/-- An import of a space and a read report what a look-up of the space reports: both find it, with
    the same fields, or both fail with the same error of its document or of the call. A missing space
    is the one exception. Nothing else has a part in it, be it what the configuration of the look-up
    says besides the identifier, or other spaces. -/
theorem read_alike_lookup (hs : s.Standard) (hs' : s'.Standard)
    (hfailure : s'.workspace.failures .getSpace = s.workspace.failures .getSpace)
    (hstored : s'.workspace.spaces.get? x = s.workspace.spaces.get? x) (hne : x ≠ "")
    (hconfig : Lookup.codec.ofValue config = .ok c) (hspaceId : c.spaceId = x) :
    ∃ state s₁, s.perform (.importResource s.provider.options.genieSpace x) =
        (.ok ⟨s.provider.options.genieSpace, state⟩, s₁) ∧
      ReadAlike (s₁.perform (.read s.provider.options.genieSpace state)).1
        (s'.perform (.readDataSource s'.provider.options.genieSpace config)).1 := by
  subst hspaceId
  obtain ⟨s₁, himport, hs₁⟩ := perform_importResource hs c.spaceId
  refine ⟨_, s₁, himport, ?_⟩
  rw [← hs₁.provider, fst_perform_read hs₁.standard (State.ofValue_toValue _),
    fst_perform_lookup hs' hconfig, hs₁.workspace]
  exact readAlike_run hne hfailure hstored

/-- The document of a space is malformed, and the look-up is configured with what it once found. -/
theorem read_alike_lookup_malformed :
    let s := (newSession.runFrom [] [.insertSpace ⟨"theirs", "Sales", "main", "", "no document"⟩]).2
    let config := Json.object [("space_id", .string "theirs"), ("id", .string "theirs"),
      ("title", .string "Costs"), ("tables", .array [.string "sales.old"])]
    ∃ state s₁, s.perform (.importResource "databricks_genie_space" "theirs") =
        (.ok ⟨"databricks_genie_space", state⟩, s₁) ∧
      ReadAlike (s₁.perform (.read "databricks_genie_space" state)).1
        (s.perform (.readDataSource "databricks_genie_space" config)).1 := by
  intro s config
  have hs : s.Standard :=
    ((Session.standard_start .standard _).goesTo_runFrom [] _).standard
  have hconfig : Lookup.codec.ofValue config =
      .ok ⟨"theirs", some "theirs", some "Costs", none, none, ["sales.old"], []⟩ := rfl
  exact read_alike_lookup hs hs rfl rfl (by decide) hconfig rfl

end Provisioner.GenieSpace
