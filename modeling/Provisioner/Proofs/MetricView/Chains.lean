import Provisioner.Proofs.GenieSpace.Endings
import Provisioner.Proofs.MetricView.Import
import Provisioner.Proofs.Provider.WireTypes
/-!
# Chains of calls about metric views

A view is managed by a chain of calls: a create or an import, and then reads and updates, each of
which is given the state that was returned last. The names in a state are those of the view that the
chain has defined last. The identifier is the full name in the first state, and every update carries
it over; a plan that renames the view makes another one, and leaves the identifier with the old name.
So a state has its full name as its identifier exactly if it has the full name with which the chain
began (`MetricView.id_of_chain`).
-/

namespace Provisioner

open Space (IdSupply)

/-! ### Statements that define views -/

namespace MetricView

/-- The parts of the name under which a statement defines a view, if it does so. -/
def defined? (text : String) : Option (List String) :=
  (((Verb.create.behind? text).or (Verb.replace.behind? text)).bind Sql.name?).map Prod.fst

/-- A statement defines a view if its verb does, and this is the view that it names. -/
theorem defined?_statement (s : State) (v : Verb) :
    defined? (s.statement v) = if v.defines then some s.parts else none := by
  have hother {v' : Verb} (h : v' ≠ v) : v'.behind? (s.statement v) = none := by
    rw [behind?_statement, if_neg h]
  cases v with
  | create =>
    have hreplace : Verb.replace.behind? (s.statement .create) = none := hother (by decide)
    rw [defined?, hreplace, Option.or_none, name?_behind]
    rfl
  | replace =>
    have hcreate : Verb.create.behind? (s.statement .replace) = none := hother (by decide)
    rw [defined?, hcreate, Option.none_or, name?_behind]
    rfl
  | describe =>
    rw [defined?, hother (by decide), hother (by decide)]
    rfl
  | drop =>
    rw [defined?, hother (by decide), hother (by decide)]
    rfl

end MetricView

/-- The parts of the name of the view that a call defines, if it defines one. -/
def Request.view? : Request → Option (List String)
  | executeStatement r => MetricView.defined? r.statement
  | _ => none

namespace MetricView

/-- The parts of the name of the view that some calls have defined last. -/
def lastView? (sent : List Request) : Option (List String) :=
  (sent.filterMap Request.view?).getLast?

theorem lastView?_concat (sent : List Request) (r : Request) :
    lastView? (sent ++ [r]) = r.view?.or (lastView? sent) := by
  cases h : r.view? <;> simp [lastView?, List.filterMap_append, h]

theorem view?_statement (wait : Nat) (warehouseId : String) (s : State) (v : Verb) :
    (statementRequest wait warehouseId (s.statement v)).view? =
      if v.defines then some s.parts else none :=
  defined?_statement s v

/-! ### Single calls -/

variable {α β σ : Type} {o : Options} {client : Client σ} {ids : IdSupply} {c c' : σ} {wait : Nat}
  {sent sent' : List Request} {q₀ q : State} {plan state : Json}

theorem eq_ok_of_map {reply : Except Failure α} {f : α → β} {b : β} (h : reply.map f = .ok b) :
    ∃ a, reply = .ok a ∧ f a = b := by
  cases reply with
  | error e => cases h
  | ok a => exact ⟨a, rfl, Except.ok.inj h⟩

/-- A statement is recorded when it is run, and its answer decides. -/
theorem recorded_statement {warehouseId text : String} {a : α}
    {resume : Except ApiError Api.StatementStatus → Except Failure α}
    (h : (Task.statement wait warehouseId text resume).run client.recording (c, sent) =
      (.ok a, c', sent')) :
    (∃ answer, resume answer = .ok a) ∧
      sent' = sent ++ [statementRequest wait warehouseId text] := by
  rw [Task.run_recording] at h
  obtain ⟨hresult, hstate⟩ := Prod.mk.inj h
  refine ⟨?_, (Prod.mk.inj hstate).2.symm⟩
  simp only [Task.statement, Task.run] at hresult
  split at hresult
  · exact ⟨_, hresult⟩
  · exact ⟨_, hresult⟩

theorem ofValue_toValue (wait : Nat) (q : State) :
    (adapter wait).codec.ofValue (State.codec.toValue q) = .ok q :=
  State.faithful.roundTrips.ofValue_toValue q

theorem recorded_create
    (h : ((Provider.standard o).task ids (.create (o.typeName .metricView) plan)).run
      client.recording (c, sent) = (.ok state, c', sent')) :
    ∃ p : State, state = State.codec.toValue { p with id := some p.fullName } ∧
      sent' = sent ++ [statementRequest o.waitTimeout p.warehouseId (p.statement .create)] := by
  simp only [Provider.task, Provider.resource_typeName, Provider.serving, Kind.adapter] at h
  obtain ⟨p, -, h⟩ := Task.run_reading_ok h
  obtain ⟨q, hcreate, rfl⟩ := Task.run_map_ok h
  simp only [adapter, create] at hcreate
  obtain ⟨⟨answer, hanswer⟩, hsent⟩ := recorded_statement hcreate
  obtain ⟨-, -, rfl⟩ := eq_ok_of_map hanswer
  exact ⟨p, rfl, hsent⟩

theorem recorded_import {id : String} {imported : ImportedResource}
    (h : ((Provider.standard o).task ids (.importResource (o.typeName .metricView) id)).run
      client.recording (c, sent) = (.ok imported, c', sent')) :
    ∃ q, importState id = .ok q ∧ imported.state = State.codec.toValue q ∧ sent' = sent := by
  simp only [Provider.task, Provider.resource_typeName, Provider.serving, Kind.adapter,
    Task.run] at h
  obtain ⟨hresult, hstate⟩ := Prod.mk.inj h
  obtain ⟨-, hsent⟩ := Prod.mk.inj hstate
  obtain ⟨state, himport, rfl⟩ := eq_ok_of_map hresult
  obtain ⟨q, hq, rfl⟩ := eq_ok_of_map himport
  exact ⟨q, hq, rfl, hsent.symm⟩

/-- A read that finds the view gives the state back as it is. -/
theorem recorded_read
    (h : ((Provider.standard o).task ids
      (.read (o.typeName .metricView) (State.codec.toValue q))).run client.recording (c, sent) =
        (.ok (some state), c', sent')) :
    state = State.codec.toValue q ∧
      sent' = sent ++ [statementRequest o.waitTimeout q.warehouseId (q.statement .describe)] := by
  simp only [Provider.task, Provider.resource_typeName, Provider.serving, Kind.adapter,
    Adapter.erase, ofValue_toValue, Task.reading] at h
  obtain ⟨refreshed, hread, hstate⟩ := Task.run_map_ok h
  obtain ⟨q', hfound, rfl⟩ := Option.map_eq_some_iff.mp hstate
  simp only [adapter, read] at hread
  obtain ⟨⟨answer, hanswer⟩, hsent⟩ := recorded_statement hread
  refine ⟨?_, hsent⟩
  cases answer with
  | error e =>
    -- An error that is overlooked tells that the view is gone.
    dsimp only at hanswer
    split at hanswer <;> cases hanswer
    cases hfound
  | ok status =>
    dsimp only at hanswer
    split at hanswer
    · cases hanswer
      cases hfound
      rfl
    · split at hanswer <;> cases hanswer
      cases hfound

/-- An update gives the plan back, under the identifier that the state before had. -/
theorem recorded_update
    (h : ((Provider.standard o).task ids
      (.update (o.typeName .metricView) (State.codec.toValue q) plan)).run
        client.recording (c, sent) = (.ok state, c', sent')) :
    ∃ p : State, state = State.codec.toValue { p with id := q.id.or (some p.fullName) } ∧
      sent' = sent ++ [statementRequest o.waitTimeout p.warehouseId (p.statement .replace)] := by
  simp only [Provider.task, Provider.resource_typeName, Provider.serving, Kind.adapter,
    Adapter.erase, ofValue_toValue] at h
  obtain ⟨prior, hprior, h⟩ := Task.run_reading_ok h
  obtain rfl := Except.ok.inj hprior
  obtain ⟨p, -, h⟩ := Task.run_reading_ok h
  obtain ⟨q', hupdate, rfl⟩ := Task.run_map_ok h
  simp only [adapter, update] at hupdate
  obtain ⟨⟨answer, hanswer⟩, hsent⟩ := recorded_statement hupdate
  obtain ⟨-, -, rfl⟩ := eq_ok_of_map hanswer
  exact ⟨p, rfl, hsent⟩

/-! ### Chains -/

/-- A chain of calls that have all succeeded: the state that was returned first, the one that was
    returned last, and the calls of the workspace that the chain has made. Each call may be answered
    by another client, in any state, so anything may happen in between. -/
inductive Chain (o : Options) : (first last : Json) → (sent : List Request) → Prop where
  | create {σ : Type} {client : Client σ} {ids : IdSupply} {c c' : σ} {plan state : Json}
      {sent : List Request}
      (h : ((Provider.standard o).task ids (.create (o.typeName .metricView) plan)).run
        client.recording (c, []) = (.ok state, c', sent)) :
      Chain o state state sent
  | importResource {σ : Type} {client : Client σ} {ids : IdSupply} {c c' : σ} {id : String}
      {imported : ImportedResource} {sent : List Request}
      (h : ((Provider.standard o).task ids (.importResource (o.typeName .metricView) id)).run
        client.recording (c, []) = (.ok imported, c', sent)) :
      Chain o imported.state imported.state sent
  | read {σ : Type} {client : Client σ} {ids : IdSupply} {c c' : σ} {first last state : Json}
      {sent sent' : List Request} (chain : Chain o first last sent)
      (h : ((Provider.standard o).task ids (.read (o.typeName .metricView) last)).run
        client.recording (c, sent) = (.ok (some state), c', sent')) :
      Chain o first state sent'
  | update {σ : Type} {client : Client σ} {ids : IdSupply} {c c' : σ} {first last plan state : Json}
      {sent sent' : List Request} (chain : Chain o first last sent)
      (h : ((Provider.standard o).task ids (.update (o.typeName .metricView) last plan)).run
        client.recording (c, sent) = (.ok state, c', sent')) :
      Chain o first state sent'

/-- A state that a chain has come to. It is under the identifier with which the chain began, and has
    the name of the view that the chain has defined last. -/
structure Manages (q₀ : State) (sent : List Request) (q : State) : Prop where
  begun : q₀.id = some q₀.fullName
  id : q.id = q₀.id
  parts : q.parts = (lastView? sent).getD q₀.parts

theorem manages_created (wait : Nat) (p : State) :
    Manages { p with id := some p.fullName }
      ([] ++ [statementRequest wait p.warehouseId (p.statement .create)])
      { p with id := some p.fullName } := by
  refine ⟨rfl, rfl, ?_⟩
  rw [lastView?_concat, view?_statement]
  rfl

theorem manages_imported {id : String} (h : importState id = .ok q) : Manages q [] q := by
  obtain ⟨hid, hname, -⟩ := fullName_of_importState h
  exact ⟨by rw [hid, hname], rfl, rfl⟩

theorem Manages.described (h : Manages q₀ sent q) (wait : Nat) :
    Manages q₀ (sent ++ [statementRequest wait q.warehouseId (q.statement .describe)]) q := by
  refine ⟨h.begun, h.id, ?_⟩
  rw [lastView?_concat, view?_statement]
  exact h.parts

/-- The view may have any name after an update, but the identifier stays. -/
theorem Manages.replaced (h : Manages q₀ sent q) (wait : Nat) (p : State) :
    Manages q₀ (sent ++ [statementRequest wait p.warehouseId (p.statement .replace)])
      { p with id := q.id.or (some p.fullName) } := by
  refine ⟨h.begun, ?_, ?_⟩
  · -- There is an identifier to carry over, so the names of the plan do not count.
    rw [h.id, h.begun]
    rfl
  · rw [lastView?_concat, view?_statement]
    rfl

theorem Chain.manages {first last : Json} (h : Chain o first last sent) :
    ∃ q₀ q, first = State.codec.toValue q₀ ∧ last = State.codec.toValue q ∧ Manages q₀ sent q := by
  induction h with
  | create h =>
    obtain ⟨p, rfl, rfl⟩ := recorded_create h
    exact ⟨_, _, rfl, rfl, manages_created _ p⟩
  | importResource h =>
    obtain ⟨q, hq, hstate, rfl⟩ := recorded_import h
    exact ⟨q, q, hstate, hstate, manages_imported hq⟩
  | read chain h ih =>
    obtain ⟨q₀, q, hfirst, rfl, hmanages⟩ := ih
    obtain ⟨rfl, rfl⟩ := recorded_read h
    exact ⟨q₀, q, hfirst, rfl, hmanages.described _⟩
  | update chain h ih =>
    obtain ⟨q₀, q, hfirst, rfl, hmanages⟩ := ih
    obtain ⟨p, rfl, rfl⟩ := recorded_update h
    exact ⟨q₀, _, hfirst, rfl, hmanages.replaced _ p⟩

/-- All states of a chain keep the identifier of the first one, which is the full name in that state.
    So the identifier of a state is its full name exactly if the view has not been renamed since the
    chain began. The three names always are those of the view that the chain has defined last. -/
theorem id_of_chain {first last : Json} (h : Chain o first last sent) :
    ∃ q₀ q, first = State.codec.toValue q₀ ∧ last = State.codec.toValue q ∧
      q₀.id = some q₀.fullName ∧ q.id = q₀.id ∧
      (q.id = some q.fullName ↔ q.fullName = q₀.fullName) ∧
      q.parts = (lastView? sent).getD q₀.parts := by
  obtain ⟨q₀, q, hfirst, hlast, hmanages⟩ := h.manages
  refine ⟨q₀, q, hfirst, hlast, hmanages.begun, hmanages.id, ?_, hmanages.parts⟩
  rw [hmanages.id, hmanages.begun, Option.some.injEq, eq_comm]

/-- The state of a view that has just been created. -/
def revenue : State := ⟨"", "revenue", "main", "sales", "", some "main.sales.revenue"⟩

/-- What is left of it once an update has renamed the view. -/
def income : State := { revenue with name := "income" }

/-- A view that is renamed by an update keeps the identifier with its old name. -/
theorem id_of_renamed_chain :
    ∃ sent, Chain .standard (State.codec.toValue revenue) (State.codec.toValue income) sent ∧
      income.id = revenue.id ∧ income.id ≠ some income.fullName ∧
      income.parts = (lastView? sent).getD revenue.parts := by
  have hcreate : (((Provider.standard .standard).task (fun _ => ⟨0, 0, 0, 0⟩)
      (.create (Options.standard.typeName .metricView) (State.codec.toValue revenue))).run
        Workspace.answer.recording (.empty, [])).1 = .ok (State.codec.toValue revenue) := rfl
  have hupdate (sent : List Request) : (((Provider.standard .standard).task
      (fun _ => ⟨0, 0, 0, 0⟩) (.update (Options.standard.typeName .metricView)
        (State.codec.toValue revenue) (State.codec.toValue income))).run
          Workspace.answer.recording (.empty, sent)).1 = .ok (State.codec.toValue income) := rfl
  have chain := (Chain.create (Prod.ext hcreate rfl)).update (Prod.ext (hupdate _) rfl)
  obtain ⟨q₀, q, hfirst, hlast, -, hid, hname, hparts⟩ := id_of_chain chain
  have hreads := State.faithful.lawful.readsBack
  obtain rfl := hreads.toValue_inj hfirst
  obtain rfl := hreads.toValue_inj hlast
  refine ⟨_, chain, hid, ?_, hparts⟩
  rw [Ne, hname]
  decide

end MetricView

end Provisioner
