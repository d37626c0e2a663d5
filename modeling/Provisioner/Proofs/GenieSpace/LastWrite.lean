import Provisioner.Proofs.GenieSpace.Endings
import Provisioner.Proofs.Provider.Requests
import Provisioner.Proofs.Workspace.Keys
/-!
# The last write of a space wins

Callers that share a workspace write its spaces at the same time: by creates, updates and deletes of
the provider, and by inserts and removals. What is stored under an identifier is always what the
last write of this space put there, as a whole (`last_write_wins`). Nothing of an earlier write is
left, and nothing of a write that was begun earlier and got in between.

A write is known from the history alone: from the arguments and the reply of an operation that was
carried out (`Event.write?`). The invariant is that what is stored under an identifier is what its
last write left there, and has this identifier (`Shared.Settled`). Every operation keeps it, since
its end tells all that it stored (`tells_task`).
-/

namespace Provisioner

open Space (Contents IdSupply)

variable {α ι : Type} {o : Options} {w : Workspace} {x : String}

/-! ### Calls that store nothing -/

/-- The call changes the spaces, if it is carried out. -/
def Request.WritesSpace : Request → Prop
  | createSpace _ => True
  | updateSpace _ => True
  | trashSpace _ => True
  | _ => False

theorem Request.not_writesSpace {r : Request} (h : ¬ r.OnSpaces) : ¬ r.WritesSpace := by
  cases r with
  | getSpace r => exact id
  | _ => exact h

theorem Workspace.Effect.spaces_eq {w w' : Workspace} {r : Request} (heffect : w.Effect r w')
    (h : ¬ r.WritesSpace) : w'.spaces = w.spaces := by
  cases heffect with
  | createSpace r | updateSpace r stored hstored | trashSpace spaceId => exact absurd trivial h
  | _ => rfl

theorem Task.spaces_run {t : Task α} (h : ∀ r, t.request? = some r → ¬ r.WritesSpace)
    (w : Workspace) : (t.run Workspace.answer w).2.spaces = w.spaces := by
  rw [Task.snd_run]
  cases hr : t.request? with
  | none => rfl
  | some r => exact (Workspace.effect_answer r w).spaces_eq (h r hr)

/-! ### Writes -/

namespace GenieSpace

/-- What a write of a space leaves. -/
inductive Write where
  /-- The space of a plan, with identifiers of its questions from a supply. -/
  | planned (plan : State) (ids : IdSupply)
  | inserted (space : Api.Space)
  | removed

def Write.stored? (x : String) : Write → Option Api.Space
  | planned plan ids => some (plan.space ids x)
  | inserted space => some space
  | removed => none

end GenieSpace

open GenieSpace (State Write)

/-- What an operation that was carried out has written under an identifier: a create wrote under the
    one in the state that it returned, an update and a delete under that of the state that they were
    given. -/
def Call.write? (o : Options) (x : String) (ids : IdSupply) :
    (call : Call Json) → call.Reply → Option Write
  | .create t plan, state =>
      if t = o.genieSpace then do
        let p ← (State.codec.ofValue plan).toOption
        let q ← (State.codec.ofValue state).toOption
        if q.id = some x then some (.planned p ids) else none
      else none
  | .update t prior plan, _ =>
      if t = o.genieSpace then do
        let q ← (State.codec.ofValue prior).toOption
        let p ← (State.codec.ofValue plan).toOption
        if q.id = some x then some (.planned p ids) else none
      else none
  | .delete t state, _ =>
      if t = o.genieSpace then do
        let q ← (State.codec.ofValue state).toOption
        if q.id = some x then some .removed else none
      else none
  | _, _ => none

def Job.write? (o : Options) (x : String) (job : Job) (carriedOut : Bool)
    (reply : Except Failure job.call.Reply) : Option Write :=
  match carriedOut, reply with
  | true, .ok reply => job.call.write? o x job.ids reply
  | _, _ => none

/-- What an event has written under an identifier. -/
def Event.write? (o : Options) (x : String) : Event ι → Option Write
  | .ended _ job carriedOut reply => job.write? o x carriedOut reply
  | .inserted space => if space.spaceId = x then some (.inserted space) else none
  | .removed spaceId => if spaceId = x then some .removed else none

/-- The last write under an identifier. -/
def lastWrite? (o : Options) (x : String) (history : List (Event ι)) : Option Write :=
  history.reverse.findSome? (Event.write? o x)

/-- What is stored under an identifier by its last write. -/
def storedBy (o : Options) (x : String) (history : List (Event ι)) : Option Api.Space :=
  (lastWrite? o x history).bind (Write.stored? x)

theorem storedBy_append (history : List (Event ι)) (e : Event ι) :
    storedBy o x (history ++ [e]) =
      match e.write? o x with
      | some write => write.stored? x
      | none => storedBy o x history := by
  rw [storedBy, lastWrite?, List.reverse_append, List.reverse_singleton, List.singleton_append,
    List.findSome?_cons]
  cases e.write? o x <;> rfl

/-! ### Operations -/

/-- A task stores under an identifier what its end tells to be written there. -/
def Tells (o : Options) (x : String) (ids : IdSupply) (call : Call Json) (t : Task call.Reply) :
    Prop :=
  ∀ w, w.KeyedAt x → (t.run Workspace.answer w).2.spaces.get? x =
    match (Job.mk ids call).write? o x (t.carriedOut Workspace.answer w)
      (t.run Workspace.answer w).1 with
    | some write => write.stored? x
    | none => w.spaces.get? x

variable {ids : IdSupply} {call : Call Json}

theorem Job.write?_eq_none {job : Job} (h : ∀ reply, job.call.write? o x job.ids reply = none)
    (carriedOut : Bool) (reply : Except Failure job.call.Reply) :
    job.write? o x carriedOut reply = none := by
  unfold Job.write?
  split
  · exact h _
  · rfl

theorem tells_of_not_writesSpace {t : Task call.Reply}
    (h : ∀ r, t.request? = some r → ¬ r.WritesSpace)
    (hnone : ∀ reply, call.write? o x ids reply = none) : Tells o x ids call t := by
  intro w _
  rw [Job.write?_eq_none hnone, Task.spaces_run h w]

theorem tells_fail (f : Failure) : Tells o x ids call (.fail f) := by
  intro w _
  rfl

theorem typeName_ne_genieSpace {k : Kind} (hk : k ≠ .genieSpace) :
    o.typeName k ≠ o.genieSpace := by
  intro h
  exact hk (Options.typeName_inj.mp h)

namespace GenieSpace

variable {v plan prior : Json} {p q : State}

theorem write?_create (hplan : State.codec.ofValue plan = .ok p) (q : State) :
    (Job.mk ids (.create o.genieSpace plan)).write? o x true (.ok (State.codec.toValue q)) =
      if q.id = some x then some (.planned p ids) else none := by
  simp [Job.write?, Call.write?, hplan, q.ofValue_toValue, Except.toOption]

theorem write?_update (hprior : State.codec.ofValue prior = .ok q)
    (hplan : State.codec.ofValue plan = .ok p) (state : Json) :
    (Job.mk ids (.update o.genieSpace prior plan)).write? o x true (.ok state) =
      if q.id = some x then some (.planned p ids) else none := by
  simp [Job.write?, Call.write?, hprior, hplan, Except.toOption]

theorem write?_delete (hstate : State.codec.ofValue v = .ok q) :
    (Job.mk ids (.delete o.genieSpace v)).write? o x true (.ok ()) =
      if q.id = some x then some .removed else none := by
  simp [Job.write?, Call.write?, hstate, Except.toOption]

theorem tells_create (hplan : State.codec.ofValue plan = .ok p) :
    Tells o x ids (.create o.genieSpace plan) ((create ids p).map State.codec.toValue) := by
  intro w _
  rw [Task.run_map, Task.carriedOut_map]
  rcases create_cases ids p w with ⟨f, hrun, hfailed⟩ | ⟨hrun, hcarriedOut⟩
  · rw [hrun, hfailed]
    rfl
  · have hid : (p.under (w.nextId "space") (w.nextId "space")).id = some (w.nextId "space") := rfl
    have hget : (w.createSpace (createRequest ids p)).2.spaces.get? x =
        if x = w.nextId "space" then some (p.space ids (w.nextId "space"))
        else w.spaces.get? x := Dict.get?_insert ..
    rw [hrun, hcarriedOut, Except.map, write?_create hplan, hid, hget]
    by_cases hx : x = w.nextId "space"
    · rw [if_pos hx, if_pos (congrArg some hx.symm), hx]
      rfl
    · rw [if_neg hx, if_neg fun h => hx (Option.some.inj h).symm]

theorem tells_update (hprior : State.codec.ofValue prior = .ok q)
    (hplan : State.codec.ofValue plan = .ok p) :
    Tells o x ids (.update o.genieSpace prior plan)
      ((update ids q p).map State.codec.toValue) := by
  intro w hkeyed
  rw [Task.run_map, Task.carriedOut_map]
  rcases update_cases ids q p w with
    ⟨f, hrun, hfailed⟩ | ⟨y, stored, hid, -, hstored, hrun, hcarriedOut⟩
  · rw [hrun, hfailed]
    rfl
  · rw [hrun, hcarriedOut, Except.map, write?_update hprior hplan, hid,
      Workspace.get?_replaceSpace]
    by_cases hx : x = y
    · subst hx
      rw [if_pos rfl, if_pos rfl, hkeyed stored hstored]
      rfl
    · rw [if_neg hx, if_neg fun h => hx (Option.some.inj h).symm]

theorem tells_delete (hstate : State.codec.ofValue v = .ok q) :
    Tells o x ids (.delete o.genieSpace v) (delete q) := by
  intro w _
  rcases delete_cases q w with ⟨reply, hrun, hfailed⟩ | ⟨y, hid, hrun, hcarriedOut⟩
  · rw [hrun, hfailed]
    rfl
  · rw [hrun, hcarriedOut, write?_delete hstate, hid, Workspace.get?_removeSpace]
    by_cases hx : x = y
    · subst hx
      rw [if_pos rfl, if_pos rfl]
      rfl
    · rw [if_neg hx, if_neg fun h => hx (Option.some.inj h).symm]

end GenieSpace

/-- Every call of the standard provider tells what it writes. -/
theorem tells_task (o : Options) (x : String) (ids : IdSupply) (call : Call Json) :
    Tells o x ids call ((Provider.standard o).task ids call) := by
  apply Provider.task_cases (P := Tells o x ids)
  case unknown => exact fun _ _ => tells_fail _
  case misfit => exact fun _ _ => tells_fail _
  case create =>
    intro k plan p hplan
    by_cases hk : k = .genieSpace
    · subst hk
      exact GenieSpace.tells_create hplan
    · apply tells_of_not_writesSpace
      · intro r hr
        rw [Task.request?_map, Kind.request?_create] at hr
        exact Request.not_writesSpace (Kind.not_onSpaces_onCreate hk hr)
      · intro reply
        simp [Call.write?, typeName_ne_genieSpace hk]
  case read =>
    intro k state q hstate
    apply tells_of_not_writesSpace
    · intro r hr
      rw [Task.request?_map, Kind.request?_read] at hr
      by_cases hk : k = .genieSpace
      · subst hk
        obtain ⟨x, -, rfl⟩ := Option.map_eq_some_iff.mp hr
        exact id
      · exact Request.not_writesSpace (Kind.not_onSpaces_onRead hk hr)
    · exact fun _ => rfl
  case update =>
    intro k prior plan q p hprior hplan
    by_cases hk : k = .genieSpace
    · subst hk
      exact GenieSpace.tells_update hprior hplan
    · apply tells_of_not_writesSpace
      · intro r hr
        rw [Task.request?_map, Kind.request?_update] at hr
        exact Request.not_writesSpace (Kind.not_onSpaces_onUpdate hk hr)
      · intro reply
        simp [Call.write?, typeName_ne_genieSpace hk]
  case delete =>
    intro k state q hstate
    by_cases hk : k = .genieSpace
    · subst hk
      exact GenieSpace.tells_delete hstate
    · apply tells_of_not_writesSpace
      · intro r hr
        rw [Kind.request?_delete] at hr
        exact Request.not_writesSpace (Kind.not_onSpaces_onDelete hk hr)
      · intro reply
        simp [Call.write?, typeName_ne_genieSpace hk]
  case importResource =>
    intro k id
    exact tells_of_not_writesSpace (fun r hr => nomatch hr) fun _ => rfl
  case lookup =>
    intro config c hconfig
    apply tells_of_not_writesSpace
    · intro r hr
      obtain rfl := Option.some.inj hr
      exact id
    · exact fun _ => rfl

/-! ### Runs -/

theorem Workspace.KeyedAt.run (h : w.KeyedAt x) (t : Task α) :
    (t.run Workspace.answer w).2.KeyedAt x := by
  rw [Task.snd_run]
  cases t.request? with
  | none => exact h
  | some r => exact h.answer r

namespace Shared

/-- The space under an identifier is that of its last write, and has this identifier. -/
structure Settled (o : Options) (x : String) (s : Shared ι) : Prop where
  keyed : s.workspace.KeyedAt x
  stored : s.workspace.spaces.get? x = storedBy o x s.history

theorem settled_empty (o : Options) (x : String) : (empty : Shared ι).Settled o x :=
  ⟨Workspace.keyedAt_empty x, rfl⟩

variable [DecidableEq ι] {s : Shared ι}

theorem Settled.act (h : s.Settled o x) (action : Action ι) :
    (s.act (.standard o) action).Settled o x := by
  cases action with
  | begin caller job =>
    simp only [Shared.act]
    split
    · exact h
    · exact ⟨h.keyed, h.stored⟩
  | finish caller =>
    simp only [Shared.act]
    split
    · exact h
    · rename_i job hjob
      refine ⟨h.keyed.run _, ?_⟩
      -- The call is made only now, in the workspace as the others have left it.
      rw [storedBy_append, ← h.stored]
      exact tells_task o x job.ids job.call s.workspace h.keyed
  | insertSpace space =>
    refine ⟨h.keyed.replaceSpace fun _ => rfl, ?_⟩
    have hget : (s.workspace.insertSpace space).spaces.get? x =
        if x = space.spaceId then some space else s.workspace.spaces.get? x := Dict.get?_insert ..
    show (s.workspace.insertSpace space).spaces.get? x = _
    rw [hget, h.stored]
    simp only [Shared.act, storedBy_append, Event.write?, eq_comm (a := x)]
    split <;> rfl
  | removeSpace spaceId =>
    refine ⟨h.keyed.removeSpace spaceId, ?_⟩
    show (s.workspace.removeSpace spaceId).spaces.get? x = _
    rw [Workspace.get?_removeSpace, h.stored]
    simp only [Shared.act, storedBy_append, Event.write?, eq_comm (a := x)]
    split <;> rfl
  | fail operation error => exact ⟨h.keyed, h.stored⟩

theorem Settled.actAll (h : s.Settled o x) (actions : List (Action ι)) :
    (s.actAll (.standard o) actions).Settled o x := by
  induction actions generalizing s with
  | nil => exact h
  | cons action actions ih => exact ih (h.act action)

end Shared

/-- The workspace has stored just what a write leaves, of a plan each part and the document as the
    plan has them. -/
def Workspace.Shows (w : Workspace) (x : String) : Option Write → Prop
  | some (.planned p ids) =>
      w.spaces.get? x = some
        { spaceId := x
          title := p.title
          warehouseId := p.warehouseId
          description := p.description.getD ""
          document := p.contents.encode ids } ∧
      Contents.decode (p.contents.encode ids) = .ok ⟨p.tables, p.sampleQuestions⟩
  | some (.inserted space) => w.spaces.get? x = some space
  | some .removed => w.spaces.get? x = none
  | none => w.spaces.get? x = none

/-- Whatever callers do and in whichever order their calls take place, each space is stored as its
    last write left it. -/
theorem last_write_wins [DecidableEq ι] (o : Options) (actions : List (Action ι)) (x : String) :
    (Shared.empty.actAll (.standard o) actions).workspace.Shows x
      (lastWrite? o x (Shared.empty.actAll (.standard o) actions).history) := by
  have hstored := ((Shared.settled_empty o x).actAll actions).stored
  rw [storedBy] at hstored
  cases hlast : lastWrite? o x (Shared.empty.actAll (.standard o) actions).history with
  | none =>
    rw [hlast] at hstored
    exact hstored
  | some write =>
    rw [hlast] at hstored
    cases write with
    | planned p ids =>
      refine ⟨hstored, ?_⟩
      calc Contents.decode (p.contents.encode ids)
          = .ok (p.contents.document ids).contents := Space.Document.decode_toText _
        _ = .ok p.contents := congrArg Except.ok (p.contents.contents_document ids)
    | inserted space => exact hstored
    | removed => exact hstored

/-- Two callers update a space at the same time. The one that begins first ends last, and wins. -/
example :
    let update (title : String) : Job :=
      { ids := fun _ => ⟨0, 0, 0, 0⟩
        call := .update "databricks_genie_space"
          (.object [("id", .string "theirs"), ("title", .string "Sales"),
            ("warehouse_id", .string "main")])
          (.object [("title", .string title), ("warehouse_id", .string "main")]) }
    let s := (Shared.empty : Shared Bool).actAll (.standard .standard)
      [.insertSpace ⟨"theirs", "Sales", "main", "", ""⟩, .begin true (update "First"),
       .begin false (update "Second"), .finish false, .finish true]
    (s.workspace.spaces.get? "theirs").map Api.Space.title = some "First" := rfl

end Provisioner
