import Provisioner.Proofs.GenieSpace.Drift
import Provisioner.Proofs.Provider.Requests
import Provisioner.Proofs.Workspace.Keys
/-!
# Identity along chains of calls

A space is managed by a chain of calls: a create, or an import and a read, and then reads and
updates, each of which is given the state that was returned last. Other steps may come in between,
and updates may follow any plan, also one with other identifiers. All states of a chain name one
space by both their identifiers, and all its calls of the workspace are about this space
(`Chain.names_follow`).

What carries this from link to link is that the last state names the space (`Names`) and that spaces
are stored under their own identifiers (`Workspace.KeyedAt`). The second is why nobody may edit the
identifier inside a stored space.
-/

namespace Provisioner

open Api

/-- The call is about the space with an identifier, or makes one. -/
def Request.IsAbout (x : String) : Request → Prop
  | createSpace _ => True
  | getSpace r => r.spaceId = x
  | updateSpace r => r.spaceId = x
  | _ => False

namespace GenieSpace

open Json

variable {x : String} {s : Session} {v prior plan state : Json} {q : State}

/-! ### Chains -/

/-- What a chain does next. -/
inductive Link where
  | read
  | update (plan : Json)
  /-- Steps that do not belong to the chain. -/
  | others (answers : List StepAnswer) (steps : List Step)

inductive Beginning where
  | create (plan : Json)
  /-- An import and a read, with other steps in between. -/
  | importResource (id : String) (answers : List StepAnswer) (steps : List Step)

/-- The session that a chain has come to, the last state that was returned, all the states, and the
    calls of the workspace that the chain has made. -/
structure Chain where
  session : Session
  last : Json
  returned : List Json
  sent : List Request

namespace Chain

/-- A chain that nothing was returned to yet. -/
def new (s : Session) (state : Json) : Chain := ⟨s, state, [], []⟩

/-- Make a call, whose reply may bring a state. -/
def ask (c : Chain) (call : Call Json) (state? : call.Reply → Option Json) : Chain :=
  let (reply, s) := c.session.perform call
  let state := reply.toOption.bind state?
  { session := s
    last := state.getD c.last
    returned := c.returned ++ state.toList
    sent := c.sent ++ s.calls.drop c.session.calls.length }

def take (c : Chain) : Link → Chain
  | .read => c.ask (.read c.session.provider.options.genieSpace c.last) id
  | .update plan => c.ask (.update c.session.provider.options.genieSpace c.last plan) some
  | .others answers steps => { c with session := (c.session.runFrom answers steps).2 }

def follow (c : Chain) (links : List Link) : Chain := links.foldl take c

/-- The steps between the links edit no identifier of a stored space. -/
def KeepsIds (c : Chain) : List Link → Prop
  | [] => True
  | .others answers steps :: rest =>
      c.session.workspace.KeepsIds (c.session.movesFrom answers steps) ∧
        (c.take (.others answers steps)).KeepsIds rest
  | link :: rest => (c.take link).KeepsIds rest

end Chain

/-- The space that a chain is about: the next one to be made, or the one that is imported. -/
def Beginning.spaceId (s : Session) : Beginning → String
  | .create _ => s.workspace.nextId "space"
  | .importResource id _ _ => id

def Beginning.Imports : Beginning → Prop
  | .create _ => False
  | .importResource _ _ _ => True

/-- The chain that begins in a session. It has begun in truth if it has been returned a state. -/
def begin (s : Session) : Beginning → Chain
  | .create plan => (Chain.new s .null).ask (.create s.provider.options.genieSpace plan) some
  | .importResource id answers steps =>
      match s.perform (.importResource s.provider.options.genieSpace id) with
      | (.error _, s') => .new s' .null
      | (.ok imported, s') => (Chain.new (s'.runFrom answers steps).2 imported.state).take .read

/-- The steps between an import and its read edit no identifier of a stored space. -/
def Beginning.KeepsIds (s : Session) : Beginning → Prop
  | .create _ => True
  | .importResource id answers steps => s.workspace.KeepsIds
      ((s.perform (.importResource s.provider.options.genieSpace id)).2.movesFrom answers steps)

/-! ### States that name a space -/

/-- A state both of whose identifiers are those of a space. -/
def Names (x : String) (v : Json) : Prop :=
  ∃ q, v = State.codec.toValue q ∧ q.id = some x ∧ q.spaceId = some x

theorem Names.hasId (h : Names x v) : HasId x v := by
  obtain ⟨q, rfl, hid, -⟩ := h
  exact ⟨q, q.ofValue_toValue, hid⟩

/-! ### Single calls -/

theorem names_of_create (hs : s.Standard)
    (h : (s.perform (.create s.provider.options.genieSpace plan)).1 = .ok state) :
    Names (s.workspace.nextId "space") state := by
  obtain ⟨p, -, hstate, -⟩ := state_of_create hs (Prod.ext h rfl)
  exact ⟨_, hstate, rfl, rfl⟩

/-- A read keeps the one identifier and takes the other from the stored space. -/
theorem names_of_read (hs : s.Standard) (hkeyed : s.workspace.KeyedAt x) (hv : HasId x v)
    (h : (s.perform (.read s.provider.options.genieSpace v)).1 = .ok (some state)) :
    Names x state := by
  obtain ⟨q, hq, hid⟩ := hv
  obtain ⟨q', x', stored, contents, hq', hid', -, hstored, hstate⟩ :=
    state_of_read hs (Prod.ext h rfl)
  obtain rfl : q = q' := Except.ok.inj (hq.symm.trans hq')
  obtain rfl : x = x' := Option.some.inj (hid.symm.trans hid')
  exact ⟨_, hstate, hid, congrArg some (hkeyed stored hstored)⟩

/-- An update keeps both identifiers, whatever the plan says about them. -/
theorem names_of_update (hs : s.Standard) (hprior : Names x prior)
    (h : (s.perform (.update s.provider.options.genieSpace prior plan)).1 = .ok state) :
    Names x state := by
  obtain ⟨q, rfl, hid, hspaceId⟩ := hprior
  obtain ⟨q', p, hq', -, hstate⟩ := state_of_update hs (Prod.ext h rfl)
  rw [q.ofValue_toValue] at hq'
  obtain rfl := Except.ok.inj hq'
  exact ⟨_, hstate, hid, hspaceId⟩

/-- What a call sends is the call of the workspace that its task makes. -/
theorem mem_drop_calls_perform {call : Call Json} {r : Request}
    (h : r ∈ (s.perform call).2.calls.drop s.calls.length) :
    (s.provider.task (s.supply s.performed) call).request? = some r := by
  have hcalls : (s.perform call).2.calls =
      s.calls ++ (s.provider.task (s.supply s.performed) call).request?.toList := rfl
  rw [hcalls, List.drop_left] at h
  exact Option.mem_toList.mp h

theorem isAbout_of_create (hs : s.Standard) {r : Request}
    (h : r ∈ (s.perform (.create s.provider.options.genieSpace plan)).2.calls.drop
      s.calls.length) : r.IsAbout x := by
  have hrequest := mem_drop_calls_perform h
  simp only [Provider.task, resource_eq hs, Provider.serving, Adapter.erase,
    Task.request?_reading, Task.request?_map, Option.bind_eq_some_iff] at hrequest
  obtain ⟨p, -, hr⟩ := hrequest
  obtain rfl := Option.some.inj hr
  trivial

theorem isAbout_of_read (hs : s.Standard) (hv : HasId x v) {r : Request}
    (h : r ∈ (s.perform (.read s.provider.options.genieSpace v)).2.calls.drop s.calls.length) :
    r.IsAbout x := by
  obtain ⟨q, hq, hid⟩ := hv
  have hrequest := mem_drop_calls_perform h
  simp only [Provider.task, resource_eq hs, Provider.serving, erase_read hq,
    Task.request?_map] at hrequest
  unfold read at hrequest
  cases hx : q.requireId with
  | error f =>
    rw [hx] at hrequest
    cases hrequest
  | ok y =>
    rw [hx] at hrequest
    obtain rfl := Option.some.inj hrequest
    exact Option.some.inj ((requireId_eq_ok hx).1.symm.trans hid)

theorem isAbout_of_update (hs : s.Standard) (hprior : HasId x prior) {r : Request}
    (h : r ∈ (s.perform (.update s.provider.options.genieSpace prior plan)).2.calls.drop
      s.calls.length) : r.IsAbout x := by
  obtain ⟨q, hq, hid⟩ := hprior
  have hrequest := mem_drop_calls_perform h
  simp only [Provider.task, resource_eq hs, Provider.serving, Adapter.erase,
    Task.request?_reading, Task.request?_map, Option.bind_eq_some_iff] at hrequest
  obtain ⟨q', hq', p, -, hr⟩ := hrequest
  obtain rfl : q' = q := Option.some.inj (hq'.symm.trans (congrArg Except.toOption hq))
  replace hr : (update (s.supply s.performed) q' p).request? = some r := hr
  unfold update at hr
  cases hx : q'.requireId with
  | error f =>
    rw [hx] at hr
    cases hr
  | ok y =>
    rw [hx] at hr
    obtain rfl := Option.some.inj hr
    exact Option.some.inj ((requireId_eq_ok hx).1.symm.trans hid)

/-! ### Chains of calls -/

theorem keyedAt_perform (h : s.workspace.KeyedAt x) (call : Call Json) :
    (s.perform call).2.workspace.KeyedAt x := by
  obtain ⟨rs, hrs⟩ := Session.requests_perform call s
  rw [hrs.workspace]
  exact h.playAll (s.workspace.keepsIds_requests rs)

namespace Chain

variable {c : Chain} {links : List Link}

/-- The chain is about a space, which stands under its own identifier. -/
structure Follows (c : Chain) (x : String) : Prop where
  standard : c.session.Standard
  keyed : c.session.workspace.KeyedAt x
  last : Names x c.last
  returned : ∀ state ∈ c.returned, Names x state
  sent : ∀ r ∈ c.sent, r.IsAbout x

/-- A call keeps to the space if what it returns and what it sends does. -/
theorem follows_ask {call : Call Json} {state? : call.Reply → Option Json}
    (hs : c.session.Standard) (hkeyed : (c.session.perform call).2.workspace.KeyedAt x)
    (hlast : (c.ask call state?).returned = c.returned → Names x c.last)
    (hreturned : ∀ state ∈ c.returned, Names x state) (hsent : ∀ r ∈ c.sent, r.IsAbout x)
    (hreply : ∀ reply state, (c.session.perform call).1 = .ok reply →
      state? reply = some state → Names x state)
    (hcalls : ∀ r ∈ (c.session.perform call).2.calls.drop c.session.calls.length, r.IsAbout x) :
    (c.ask call state?).Follows x := by
  have hstate : ∀ state, (c.session.perform call).1.toOption.bind state? = some state →
      Names x state := by
    intro state hbind
    obtain ⟨reply, hok, hsome⟩ := Option.bind_eq_some_iff.mp hbind
    cases hperform : (c.session.perform call).1 with
    | error f =>
      rw [hperform] at hok
      cases hok
    | ok reply' =>
      rw [hperform] at hok
      obtain rfl : reply' = reply := Option.some.inj hok
      exact hreply reply' state hperform hsome
  refine ⟨⟨hs.provider, hs.amendments⟩, hkeyed, ?last, ?returned, ?sent⟩
  case last =>
    show Names x (((c.session.perform call).1.toOption.bind state?).getD c.last)
    cases hbind : (c.session.perform call).1.toOption.bind state? with
    | some state => exact hstate state hbind
    | none =>
      apply hlast
      show c.returned ++ ((c.session.perform call).1.toOption.bind state?).toList = c.returned
      rw [hbind]
      exact List.append_nil c.returned
  case returned =>
    intro state hmem
    rcases List.mem_append.mp hmem with hold | hnew
    · exact hreturned state hold
    · exact hstate state (Option.mem_toList.mp hnew)
  case sent =>
    intro r hmem
    rcases List.mem_append.mp hmem with hold | hnew
    · exact hsent r hold
    · exact hcalls r hnew

theorem Follows.read (h : c.Follows x) : (c.take .read).Follows x := by
  apply follows_ask h.standard (keyedAt_perform h.keyed _) (fun _ => h.last) h.returned h.sent
  · intro reply state hok hsome
    obtain rfl : reply = some state := hsome
    exact names_of_read h.standard h.keyed h.last.hasId hok
  · intro r hmem
    exact isAbout_of_read h.standard h.last.hasId hmem

theorem Follows.update (h : c.Follows x) (plan : Json) : (c.take (.update plan)).Follows x := by
  apply follows_ask h.standard (keyedAt_perform h.keyed _) (fun _ => h.last) h.returned h.sent
  · intro reply state hok hsome
    obtain rfl : reply = state := Option.some.inj hsome
    exact names_of_update h.standard h.last hok
  · intro r hmem
    exact isAbout_of_update h.standard h.last.hasId hmem

theorem Follows.others (h : c.Follows x) {answers : List StepAnswer} {steps : List Step}
    (hkeeps : c.session.workspace.KeepsIds (c.session.movesFrom answers steps)) :
    (c.take (.others answers steps)).Follows x := by
  have hlater := h.standard.goesTo_runFrom answers steps
  refine ⟨hlater.standard, ?_, h.last, h.returned, h.sent⟩
  show (c.session.runFrom answers steps).2.workspace.KeyedAt x
  rw [hlater.workspace]
  exact h.keyed.playAll hkeeps

theorem Follows.follow (h : c.Follows x) (hkeeps : c.KeepsIds links) :
    (c.follow links).Follows x := by
  induction links generalizing c with
  | nil => exact h
  | cons link links ih =>
    cases link with
    | read => exact ih h.read hkeeps
    | update plan => exact ih (h.update plan) hkeeps
    | others answers steps => exact ih (h.others hkeeps.1) hkeeps.2

/-! ### How chains begin -/

/-- A chain that begins with a create is about the space that this made. -/
theorem follows_create (hs : s.Standard) (hbegun : (begin s (.create plan)).returned ≠ []) :
    (begin s (.create plan)).Follows (s.workspace.nextId "space") := by
  have hnone : ∀ state, state ∉ (Chain.new s .null).returned := fun _ => List.not_mem_nil
  apply follows_ask (c := Chain.new s .null) hs
  · intro stored hstored
    cases hperform : (s.perform (.create s.provider.options.genieSpace plan)).1 with
    | error f =>
      -- The chain would not have begun.
      refine absurd ?_ hbegun
      show [] ++ ((s.perform (.create s.provider.options.genieSpace plan)).1.toOption.bind
        some).toList = []
      rw [hperform]
      rfl
    | ok state =>
      obtain ⟨p, -, -, hworkspace⟩ := state_of_create hs (Prod.ext hperform rfl)
      replace hstored : (s.perform
        (.create s.provider.options.genieSpace plan)).2.workspace.spaces.get?
          (s.workspace.nextId "space") = some stored := hstored
      rw [hworkspace, get?_createSpace] at hstored
      obtain rfl := Option.some.inj hstored
      rfl
  · intro hsame
    exact absurd hsame hbegun
  · intro state hmem
    exact absurd hmem (hnone state)
  · intro r hmem
    cases hmem
  · intro reply state hok hsome
    obtain rfl : reply = state := Option.some.inj hsome
    exact names_of_create hs hok
  · intro r hmem
    exact isAbout_of_create hs hmem

/-- A chain that begins with an import is about the space that was imported, if it stands under its
    own identifier. -/
theorem follows_import {id : String} {answers : List StepAnswer} {steps : List Step}
    (hs : s.Standard) (hkeyed : s.workspace.KeyedAt id)
    (hkeeps : (Beginning.importResource id answers steps).KeepsIds s)
    (hbegun : (begin s (.importResource id answers steps)).returned ≠ []) :
    (begin s (.importResource id answers steps)).Follows id := by
  obtain ⟨s', hperform, hs'⟩ := perform_importResource hs id
  have hlater := hs'.standard.goesTo_runFrom answers steps
  simp only [Beginning.KeepsIds, hperform] at hkeeps
  have hbegin : begin s (.importResource id answers steps) =
      (Chain.new (s'.runFrom answers steps).2 (State.codec.toValue (.imported id))).take .read := by
    simp only [begin, hperform]
  rw [hbegin] at hbegun ⊢
  have himported : HasId id (State.codec.toValue (.imported id)) :=
    ⟨.imported id, State.ofValue_toValue _, rfl⟩
  have hkeyed' : (s'.runFrom answers steps).2.workspace.KeyedAt id := by
    rw [hlater.workspace, hs'.workspace]
    exact hkeyed.playAll hkeeps
  apply follows_ask
    (c := Chain.new (s'.runFrom answers steps).2 (State.codec.toValue (.imported id)))
    hlater.standard (keyedAt_perform hkeyed' _)
  · intro hsame
    exact absurd hsame hbegun
  · intro state hmem
    cases hmem
  · intro r hmem
    cases hmem
  · intro reply state hok hsome
    obtain rfl : reply = some state := hsome
    exact names_of_read hlater.standard hkeyed' himported hok
  · intro r hmem
    exact isAbout_of_read hlater.standard himported hmem

/-- Both identifiers in every state that a chain returns are those of one space, and all calls that
    the chain makes of the workspace are about it, whatever the updates plan and whatever else
    happens. Only edits of identifiers inside stored spaces are ruled out, before an import as well
    as during the chain. -/
theorem names_follow (o : Options) (supply : Nat → Space.IdSupply) (answers : List StepAnswer)
    (before : List Step) (b : Beginning)
    (hs : ((Session.start (.standard o) (fun _ => []) supply).runFrom answers before).2 = s)
    (hbefore : b.Imports → Workspace.empty.KeepsIds
      ((Session.start (.standard o) (fun _ => []) supply).movesFrom answers before))
    (hbegins : b.KeepsIds s) (hbegun : (begin s b).returned ≠ []) (links : List Link)
    (hkeeps : (begin s b).KeepsIds links) :
    (∀ state ∈ ((begin s b).follow links).returned, Names (b.spaceId s) state) ∧
      ∀ r ∈ ((begin s b).follow links).sent, r.IsAbout (b.spaceId s) := by
  have hreached := (Session.standard_start o supply).goesTo_runFrom answers before
  rw [hs] at hreached
  have hfollows : (begin s b).Follows (b.spaceId s) := by
    cases b with
    | create plan => exact follows_create hreached.standard hbegun
    | importResource id answers' steps =>
      apply follows_import hreached.standard _ hbegins hbegun
      rw [hreached.workspace]
      exact (Workspace.keyedAt_empty id).playAll (hbefore trivial)
  exact ⟨(hfollows.follow hkeeps).returned, (hfollows.follow hkeeps).sent⟩

/-- Someone else's space is imported, renamed, and updated by a plan that claims other
    identifiers. -/
theorem names_follow_imported :
    ∃ s c, (newSession.runFrom [] [.insertSpace ⟨"theirs", "Sales", "main", "", ""⟩]).2 = s ∧
      (begin s (.importResource "theirs" [] [])).follow
        [.others [] [.modifySpace "theirs" [("title", .string "Renamed")]], .read,
          .update (.object [("title", .string "Sales"), ("warehouse_id", .string "main"),
            ("id", .string "mine"), ("space_id", .string "mine")])] = c ∧
      c.returned.length = 3 ∧ ∀ state ∈ c.returned, Names "theirs" state := by
  refine ⟨_, _, rfl, rfl, ?_, ?_⟩
  · rfl
  · apply (names_follow .standard _ [] [.insertSpace ⟨"theirs", "Sales", "main", "", ""⟩]
      (.importResource "theirs" [] []) rfl _ _ _ _ _).1
    · exact fun _ => ⟨trivial, trivial⟩
    · trivial
    · exact List.cons_ne_nil _ _
    · refine ⟨⟨?_, trivial⟩, trivial⟩
      intro space hspace
      obtain rfl : (⟨"theirs", "Sales", "main", "", ""⟩ : Api.Space) = space :=
        Option.some.inj hspace
      rfl

end Chain

end GenieSpace

end Provisioner
