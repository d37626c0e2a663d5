import Mathlib.Data.Set.Defs
import Provisioner.Proofs.Json.Views
import Provisioner.Proofs.Provider.Callers
import Provisioner.Proofs.Provider.Requests
import Provisioner.Proofs.Workspace.Moves
/-!
# Callers of different spaces do not notice each other

Callers share a workspace, and each reads, updates, deletes and looks up spaces of its own only
(`Action.Within`). Then each gets the replies that it would get alone, and leaves its spaces as it
would alone, in whichever order the calls take place (`callers_isolated`).

The proof follows one caller through two runs at once, the shared one and its own. The two agree on
its spaces and on the failures that are set (`Workspace.Agrees`). Its own operations keep them in
agreement, since their answers depend on nothing else; those of the others do, since they change
nothing but spaces of others (`Workspace.ChangesOn`).
-/

namespace Provisioner

open GenieSpace (Lookup State)

variable {α ι : Type} {o : Options} {xs ys : Set String} {w w' w'' : Workspace}

/-! ### Calls of the workspace -/

/-- The call is about spaces of a set, and creates none. -/
def Request.Within (xs : Set String) : Request → Prop
  | getSpace r => r.spaceId ∈ xs
  | updateSpace r => r.spaceId ∈ xs
  | trashSpace spaceId => spaceId ∈ xs
  | _ => False

namespace Workspace

/-- Two workspaces have the same spaces under some identifiers, and the same failures. -/
structure Agrees (xs : Set String) (w w' : Workspace) : Prop where
  failures : w.failures = w'.failures
  spaces : ∀ x ∈ xs, w.spaces.get? x = w'.spaces.get? x

theorem Agrees.refl (xs : Set String) (w : Workspace) : w.Agrees xs w :=
  ⟨rfl, fun _ _ => rfl⟩

theorem Agrees.trans (h : w.Agrees xs w') (h' : w'.Agrees xs w'') : w.Agrees xs w'' where
  failures := h.failures.trans h'.failures
  spaces x hx := (h.spaces x hx).trans (h'.spaces x hx)

theorem Agrees.insert {x : String} (h : w.Agrees xs w') (space : Api.Space) :
    (w.replaceSpace x space).Agrees xs (w'.replaceSpace x space) where
  failures := h.failures
  spaces y hy := by
    simp only [replaceSpace, Dict.get?_insert, h.spaces y hy]

theorem Agrees.erase (h : w.Agrees xs w') (x : String) :
    (w.removeSpace x).Agrees xs (w'.removeSpace x) where
  failures := h.failures
  spaces y hy := by
    simp only [removeSpace, Dict.get?_erase, h.spaces y hy]

/-- Calls about some spaces are answered alike where these spaces are alike. -/
theorem Agrees.serve {r : Request} (h : w.Agrees xs w') (hr : r.Within xs) :
    (serve r w).1 = (serve r w').1 ∧ (serve r w).2.Agrees xs (serve r w').2 := by
  cases r with
  | getSpace r =>
    simp only [Workspace.serve, getSpace, h.spaces r.spaceId hr]
    split
    · exact ⟨rfl, h⟩
    · exact ⟨rfl, h⟩
  | updateSpace r =>
    simp only [Workspace.serve, updateSpace, h.spaces r.spaceId hr]
    split
    · exact ⟨rfl, h.insert _⟩
    · exact ⟨rfl, h⟩
  | trashSpace spaceId =>
    simp only [Workspace.serve, trashSpace, h.spaces spaceId hr]
    split
    · exact ⟨rfl, h.erase spaceId⟩
    · exact ⟨rfl, h⟩
  | _ => exact hr.elim

theorem Agrees.answer {r : Request} (h : w.Agrees xs w') (hr : r.Within xs) :
    (w.answer r).1 = (w'.answer r).1 ∧ (w.answer r).2.Agrees xs (w'.answer r).2 := by
  unfold Workspace.answer
  rw [h.failures]
  split
  · exact ⟨rfl, h⟩
  · exact h.serve hr

/-- Nothing but spaces under some identifiers was changed: other spaces, the folders, deployments,
    statements, failures and the number of the last object are what they were. -/
structure ChangesOn (xs : Set String) (w w' : Workspace) : Prop where
  rest : w' = { w with spaces := w'.spaces }
  spaces : ∀ x ∉ xs, w'.spaces.get? x = w.spaces.get? x

theorem ChangesOn.refl (xs : Set String) (w : Workspace) : w.ChangesOn xs w :=
  ⟨rfl, fun _ _ => rfl⟩

theorem ChangesOn.trans (h : w.ChangesOn xs w') (h' : w'.ChangesOn xs w'') :
    w.ChangesOn xs w'' where
  rest := by
    rw [h'.rest, h.rest]
  spaces x hx := (h'.spaces x hx).trans (h.spaces x hx)

theorem ChangesOn.mono (h : w.ChangesOn xs w') (hsub : xs ⊆ ys) : w.ChangesOn ys w' :=
  ⟨h.rest, fun x hx => h.spaces x fun hmem => hx (hsub hmem)⟩

theorem ChangesOn.agrees (h : w.ChangesOn xs w') (hapart : ∀ x ∈ xs, x ∉ ys) :
    w'.Agrees ys w where
  failures := by
    rw [h.rest]
  spaces y hy := h.spaces y fun hmem => hapart y hmem hy

theorem Effect.changesOn {r : Request} (heffect : w.Effect r w') (hr : r.Within xs) :
    w.ChangesOn xs w' := by
  have hne {x y : String} (hx : x ∈ xs) (hy : y ∉ xs) : y ≠ x := by
    rintro rfl
    exact hy hx
  cases heffect with
  | unchanged r => exact .refl xs w
  | updateSpace r stored hstored =>
    exact ⟨rfl, fun y hy => (Dict.get?_insert ..).trans (if_neg (hne hr hy))⟩
  | trashSpace spaceId =>
    exact ⟨rfl, fun y hy => (Dict.get?_erase ..).trans (if_neg (hne hr hy))⟩
  | _ => exact hr.elim

end Workspace

/-! ### Tasks -/

/-- The task calls the workspace about spaces of a set, if at all. -/
def Task.Within (xs : Set String) (t : Task α) : Prop := ∀ r, t.request? = some r → r.Within xs

theorem Workspace.Agrees.run {t : Task α} (h : w.Agrees xs w') (ht : t.Within xs) :
    (t.run Workspace.answer w).1 = (t.run Workspace.answer w').1 ∧
      t.carriedOut Workspace.answer w = t.carriedOut Workspace.answer w' ∧
      (t.run Workspace.answer w).2.Agrees xs (t.run Workspace.answer w').2 := by
  cases t with
  | done result => exact ⟨rfl, rfl, h⟩
  | call r resume =>
    obtain ⟨hanswer, hagrees⟩ := h.answer (ht r rfl)
    refine ⟨?_, ?_, hagrees⟩
    · simp only [Task.run, hanswer]
    · simp only [Task.carriedOut, hanswer]

theorem Workspace.changesOn_run {t : Task α} (ht : t.Within xs) (w : Workspace) :
    w.ChangesOn xs (t.run answer w).2 := by
  rw [Task.snd_run]
  cases hr : t.request? with
  | none => exact .refl xs w
  | some r => exact (effect_answer r w).changesOn (ht r hr)

/-! ### Operations -/

/-- A state of a space with an identifier in a set, of one without an identifier, or of none. -/
def GenieSpace.IdWithin (xs : Set String) (v : Json) : Prop :=
  ∀ q x, State.codec.ofValue v = .ok q → q.id = some x → x ∈ xs

open GenieSpace (IdWithin)

/-- A read, an update or a delete of spaces of a set, or a look-up of one. -/
def Call.Within (o : Options) (xs : Set String) : Call Json → Prop
  | .read t state => t = o.typeName .genieSpace ∧ IdWithin xs state
  | .update t prior _ => t = o.typeName .genieSpace ∧ IdWithin xs prior
  | .delete t state => t = o.typeName .genieSpace ∧ IdWithin xs state
  | .readDataSource t config =>
      t = o.typeName .genieSpace ∧ ∀ c, Lookup.codec.ofValue config = .ok c → c.spaceId ∈ xs
  | _ => False

/-- The actions of callers, each on the spaces that it owns. -/
def Action.Within (o : Options) (own : ι → Set String) : Action ι → Prop
  | .begin caller job => job.call.Within o (own caller)
  | .finish _ => True
  | _ => False

theorem Options.kind?_typeName (o : Options) (k : Kind) : o.kind? (o.typeName k) = some k :=
  Options.kind?_eq_some_iff.mpr rfl

theorem GenieSpace.IdWithin.mem {v : Json} {q : State} {x : String} (h : IdWithin xs v)
    (hq : Kind.genieSpace.fit v = some q) (hx : filled q.id = some x) : x ∈ xs :=
  h q x (Json.toOption_eq_some_iff.mp hq) (Option.eq_some_of_filter_eq_some hx)

/-- An operation on spaces of a set calls the workspace about these spaces only. -/
theorem Call.Within.task {call : Call Json} (h : call.Within o xs) (ids : Space.IdSupply) :
    ((Provider.standard o).task ids call).Within xs := by
  intro r hr
  rw [Provider.request?_task] at hr
  cases call with
  | read t state =>
    obtain ⟨rfl, hstate⟩ := h
    simp only [Call.sends, Options.kind?_typeName, bind, Option.bind_some,
      Option.bind_eq_some_iff] at hr
    obtain ⟨q, hq, hr⟩ := hr
    obtain ⟨x, hx, rfl⟩ := Option.map_eq_some_iff.mp hr
    exact hstate.mem hq hx
  | update t prior plan =>
    obtain ⟨rfl, hprior⟩ := h
    simp only [Call.sends, Options.kind?_typeName, bind, Option.bind_some,
      Option.bind_eq_some_iff] at hr
    obtain ⟨q, hq, p, -, hr⟩ := hr
    obtain ⟨x, hx, rfl⟩ := Option.map_eq_some_iff.mp hr
    exact hprior.mem hq hx
  | delete t state =>
    obtain ⟨rfl, hstate⟩ := h
    simp only [Call.sends, Options.kind?_typeName, bind, Option.bind_some,
      Option.bind_eq_some_iff] at hr
    obtain ⟨q, hq, hr⟩ := hr
    obtain ⟨x, hx, rfl⟩ := Option.map_eq_some_iff.mp hr
    exact hstate.mem hq hx
  | readDataSource t config =>
    obtain ⟨rfl, hconfig⟩ := h
    obtain ⟨-, -, hr⟩ := Option.bind_eq_some_iff.mp hr
    obtain ⟨c, hc, hr⟩ := Option.bind_eq_some_iff.mp hr
    obtain rfl := Option.some.inj hr
    exact hconfig c (Json.toOption_eq_some_iff.mp hc)
  | _ => exact h.elim

/-! ### Runs -/

section Callers

variable [DecidableEq ι]

def Action.isOf (i : ι) : Action ι → Bool
  | .begin caller _ => caller = i
  | .finish caller => caller = i
  | _ => false

def Event.isOf (i : ι) : Event ι → Bool
  | .ended caller _ _ _ => caller = i
  | _ => false

namespace Shared

/-- Callers that have a workspace before them and have done nothing yet. -/
def on (w : Workspace) : Shared ι := ⟨w, fun _ => none, []⟩

variable {own : ι → Set String} {i : ι} {s a : Shared ι}

/-- All operations that have begun are on spaces of their callers. -/
def JobsWithin (o : Options) (own : ι → Set String) (s : Shared ι) : Prop :=
  ∀ i job, s.jobs i = some job → job.call.Within o (own i)

theorem JobsWithin.act {action : Action ι} (h : s.JobsWithin o own)
    (haction : action.Within o own) : (s.act (.standard o) action).JobsWithin o own := by
  cases action with
  | begin caller job =>
    simp only [Shared.act]
    split
    · exact h
    · intro i job' hjob
      simp only at hjob
      split at hjob
      · rename_i hi
        obtain rfl := Option.some.inj hjob
        exact hi ▸ haction
      · exact h i job' hjob
  | finish caller =>
    simp only [Shared.act]
    split
    · exact h
    · intro i job' hjob
      simp only at hjob
      split at hjob
      · cases hjob
      · exact h i job' hjob
  | _ => exact haction.elim

/-- Where a caller is after its own actions and those of others, compared to its own alone. -/
structure Mirrors (xs : Set String) (i : ι) (s a : Shared ι) : Prop where
  workspace : s.workspace.Agrees xs a.workspace
  job : s.jobs i = a.jobs i
  history : s.history.filter (Event.isOf i) = a.history

theorem Mirrors.mine {action : Action ι} (h : Mirrors (own i) i s a) (hjobs : s.JobsWithin o own)
    (haction : action.isOf i = true) :
    Mirrors (own i) i (s.act (.standard o) action) (a.act (.standard o) action) := by
  cases action with
  | begin caller job =>
    obtain rfl : caller = i := of_decide_eq_true haction
    simp only [Shared.act, h.job]
    split
    · exact h
    · refine ⟨h.workspace, ?_, h.history⟩
      simp only [if_true]
  | finish caller =>
    obtain rfl : caller = i := of_decide_eq_true haction
    simp only [Shared.act, h.job]
    split
    · exact h
    · rename_i job hjob
      have hcall := hjobs caller job (h.job.trans hjob)
      obtain ⟨hreply, hcarriedOut, hworkspace⟩ := h.workspace.run (hcall.task job.ids)
      refine ⟨hworkspace, ?job, ?history⟩
      case job => simp only [if_true]
      case history =>
        rw [List.filter_append, h.history, hreply, hcarriedOut]
        simp [Event.isOf]
  | _ => cases haction

theorem Mirrors.theirs {action : Action ι} (h : Mirrors (own i) i s a) (hjobs : s.JobsWithin o own)
    (hapart : ∀ i j, i ≠ j → ∀ x ∈ own i, x ∉ own j) (haction : action.Within o own)
    (hother : ¬ action.isOf i = true) : Mirrors (own i) i (s.act (.standard o) action) a := by
  cases action with
  | begin caller job =>
    have hne : i ≠ caller := fun heq => hother (decide_eq_true heq.symm)
    simp only [Shared.act]
    split
    · exact h
    · exact ⟨h.workspace, (if_neg hne).trans h.job, h.history⟩
  | finish caller =>
    have hne : i ≠ caller := fun heq => hother (decide_eq_true heq.symm)
    simp only [Shared.act]
    split
    · exact h
    · rename_i job hjob
      have hchanges := Workspace.changesOn_run ((hjobs caller job hjob).task job.ids) s.workspace
      refine ⟨(hchanges.agrees (hapart caller i hne.symm)).trans h.workspace,
        (if_neg hne).trans h.job, ?_⟩
      rw [List.filter_append, h.history]
      simp [Event.isOf, hne.symm]
  | _ => exact haction.elim

/-- A caller ends where it would alone, as long as everyone keeps to its own spaces. -/
theorem Mirrors.actAll {actions : List (Action ι)} (h : Mirrors (own i) i s a)
    (hjobs : s.JobsWithin o own) (hapart : ∀ i j, i ≠ j → ∀ x ∈ own i, x ∉ own j)
    (hactions : ∀ action ∈ actions, action.Within o own) :
    Mirrors (own i) i (s.actAll (.standard o) actions)
      (a.actAll (.standard o) (actions.filter (Action.isOf i))) := by
  induction actions generalizing s a with
  | nil => exact h
  | cons action actions ih =>
    have haction := hactions action List.mem_cons_self
    have hrest : ∀ action ∈ actions, action.Within o own :=
      fun action hmem => hactions action (List.mem_cons_of_mem _ hmem)
    by_cases hown : action.isOf i = true
    · rw [List.filter_cons_of_pos hown]
      exact ih (h.mine hjobs hown) (hjobs.act haction) hrest
    · rw [List.filter_cons_of_neg hown]
      exact ih (h.theirs hjobs hapart haction hown) (hjobs.act haction) hrest

theorem changesOn_act {action : Action ι} (hjobs : s.JobsWithin o own)
    (haction : action.Within o own) :
    s.workspace.ChangesOn {x | ∃ i, x ∈ own i} (s.act (.standard o) action).workspace := by
  cases action with
  | begin caller job =>
    simp only [Shared.act]
    split <;> exact .refl _ _
  | finish caller =>
    simp only [Shared.act]
    split
    · exact .refl _ _
    · rename_i job hjob
      have hchanges := Workspace.changesOn_run ((hjobs caller job hjob).task job.ids) s.workspace
      exact hchanges.mono fun x hx => ⟨caller, hx⟩
  | _ => exact haction.elim

theorem changesOn_actAll {actions : List (Action ι)} (hjobs : s.JobsWithin o own)
    (hactions : ∀ action ∈ actions, action.Within o own) :
    s.workspace.ChangesOn {x | ∃ i, x ∈ own i}
      (s.actAll (.standard o) actions).workspace := by
  induction actions generalizing s with
  | nil => exact .refl _ _
  | cons action actions ih =>
    have haction := hactions action List.mem_cons_self
    exact (changesOn_act hjobs haction).trans
      (ih (hjobs.act haction) fun action hmem => hactions action (List.mem_cons_of_mem _ hmem))

end Shared

/-- Callers that read, update, delete and look up spaces of their own do so as if each were alone,
    on any workspace, whatever fails there and in whichever order their calls take place. Each gets
    the replies that it gets alone, and each space is left as its owner alone leaves it. Spaces
    that nobody owns are left as they were, as is all of the workspace that is not a space. So the
    order among the callers decides nothing. -/
theorem callers_isolated (o : Options) (w : Workspace) (own : ι → Set String)
    (hapart : ∀ i j, i ≠ j → ∀ x ∈ own i, x ∉ own j) (actions : List (Action ι))
    (hactions : ∀ action ∈ actions, action.Within o own) :
    let run := fun actions : List (Action ι) => (Shared.on w).actAll (.standard o) actions
    let alone := fun i => run (actions.filter (Action.isOf i))
    (∀ i, (run actions).history.filter (Event.isOf i) = (alone i).history) ∧
    (∀ i, ∀ x ∈ own i,
      (run actions).workspace.spaces.get? x = (alone i).workspace.spaces.get? x) ∧
    (∀ x, (∀ i, x ∉ own i) → (run actions).workspace.spaces.get? x = w.spaces.get? x) ∧
    (run actions).workspace = { w with spaces := (run actions).workspace.spaces } ∧
    ∀ actions' : List (Action ι), (∀ action ∈ actions', action.Within o own) →
      (∀ i, actions'.filter (Action.isOf i) = actions.filter (Action.isOf i)) →
      (run actions').workspace = (run actions).workspace := by
  have hjobs : (Shared.on w : Shared ι).JobsWithin o own := by
    intro i job hjob
    cases hjob
  have hmirrors (i : ι) (actions' : List (Action ι))
      (hwithin : ∀ action ∈ actions', action.Within o own) :
      Shared.Mirrors (own i) i ((Shared.on w).actAll (.standard o) actions')
        ((Shared.on w).actAll (.standard o) (actions'.filter (Action.isOf i))) :=
    Shared.Mirrors.actAll ⟨.refl _ w, rfl, rfl⟩ hjobs hapart hwithin
  have hchanges := Shared.changesOn_actAll hjobs hactions
  refine ⟨fun i => (hmirrors i actions hactions).history,
    fun i => (hmirrors i actions hactions).workspace.spaces, ?nobody, hchanges.rest, ?orders⟩
  case nobody =>
    intro x hx
    apply hchanges.spaces x
    rintro ⟨i, hi⟩
    exact hx i hi
  case orders =>
    intro actions' hwithin hfilter
    have hchanges' := Shared.changesOn_actAll hjobs hwithin
    have hspaces : ((Shared.on w).actAll (.standard o) actions').workspace.spaces =
        ((Shared.on w).actAll (.standard o) actions).workspace.spaces := by
      apply Dict.ext_get?
      intro x
      by_cases howned : ∃ i, x ∈ own i
      · obtain ⟨i, hi⟩ := howned
        calc _ = _ := (hmirrors i actions' hwithin).workspace.spaces x hi
          _ = _ := by rw [hfilter i]
          _ = _ := ((hmirrors i actions hactions).workspace.spaces x hi).symm
      · exact (hchanges'.spaces x howned).trans (hchanges.spaces x howned).symm
    calc _ = _ := hchanges'.rest
      _ = _ := by rw [hspaces]
      _ = _ := hchanges.rest.symm

end Callers

/-- One caller updates a space while another deletes its own, then looks it up in vain. -/
theorem callers_isolated_pair :
    let update : Job :=
      { ids := fun _ => ⟨0, 0, 0, 0⟩
        call := .update "databricks_genie_space"
          (.object [("id", .string "mine"), ("title", .string "Sales"),
            ("warehouse_id", .string "main")])
          (.object [("title", .string "Revenue"), ("warehouse_id", .string "main")]) }
    let delete : Job :=
      { ids := fun _ => ⟨0, 0, 0, 0⟩
        call := .delete "databricks_genie_space"
          (.object [("id", .string "theirs"), ("title", .string "Costs"),
            ("warehouse_id", .string "main")]) }
    let lookup : Job :=
      { ids := fun _ => ⟨0, 0, 0, 0⟩
        call := .readDataSource "databricks_genie_space"
          (.object [("space_id", .string "theirs")]) }
    let w := (Workspace.empty.insertSpace ⟨"mine", "Sales", "main", "", ""⟩).insertSpace
      ⟨"theirs", "Costs", "main", "", ""⟩
    let run := fun actions : List (Action Bool) =>
      (Shared.on w).actAll (.standard .standard) actions
    let actions : List (Action Bool) := [.begin true update, .begin false delete, .finish false,
      .begin false lookup, .finish true, .finish false]
    let turns : List (Action Bool) := [.begin false delete, .finish false, .begin false lookup,
      .finish false, .begin true update, .finish true]
    (run actions).history.length = 3 ∧
      (run actions).history.filter (Event.isOf true) =
        (run [.begin true update, .finish true]).history ∧
      (run turns).workspace = (run actions).workspace := by
  intro update delete lookup w run actions turns
  have hupdate : update.call.Within .standard {"mine"} := by
    refine ⟨rfl, ?_⟩
    intro q x hq hx
    obtain rfl : (⟨some "mine", "Sales", "main", none, none, none, [], []⟩ : State) = q :=
      Except.ok.inj hq
    exact (Option.some.inj hx).symm
  have hdelete : delete.call.Within .standard {"theirs"} := by
    refine ⟨rfl, ?_⟩
    intro q x hq hx
    obtain rfl : (⟨some "theirs", "Costs", "main", none, none, none, [], []⟩ : State) = q :=
      Except.ok.inj hq
    exact (Option.some.inj hx).symm
  have hlookup : lookup.call.Within .standard {"theirs"} := by
    refine ⟨rfl, ?_⟩
    intro c hc
    obtain rfl : (⟨"theirs", none, none, none, none, [], []⟩ : Lookup) = c := Except.ok.inj hc
    rfl
  have hapart : ∀ i j : Bool, i ≠ j → ∀ x ∈ (if i then {"mine"} else {"theirs"} : Set String),
      x ∉ (if j then {"mine"} else {"theirs"} : Set String) := by
    intro i j hne x hi hj
    cases i <;> cases j
    · exact hne rfl
    · exact absurd (hi.symm.trans hj) (by decide)
    · exact absurd (hi.symm.trans hj) (by decide)
    · exact hne rfl
  obtain ⟨hreplies, -, -, -, horders⟩ := callers_isolated .standard w _ hapart actions (by
    intro action haction
    simp only [actions, List.mem_cons, List.not_mem_nil, or_false] at haction
    rcases haction with rfl | rfl | rfl | rfl | rfl | rfl
    · exact hupdate
    · exact hdelete
    · trivial
    · exact hlookup
    · trivial
    · trivial)
  refine ⟨rfl, hreplies true, ?_⟩
  apply horders turns
  · intro action haction
    simp only [turns, List.mem_cons, List.not_mem_nil, or_false] at haction
    rcases haction with rfl | rfl | rfl | rfl | rfl | rfl
    · exact hdelete
    · trivial
    · exact hlookup
    · trivial
    · exact hupdate
    · trivial
  · intro i
    cases i <;> rfl

end Provisioner
