import Provisioner.Proofs.Provider.WireTypes
/-!
# States that fit

A call of the standard provider is refused as not fitting only for a state or a configuration that
the type of the call does not take (`Call.Takes`): once its arguments are read, nothing that the
workspace answers is such a misfit (`Provider.fitting_task`). And what a call returns is again a
state that calls of its type take (`Provider.returns_task`).
-/

namespace Provisioner

open Space (IdSupply)

variable {α β σ : Type} {o : Options} {ids : IdSupply} {wait : Nat} {c c' : Call Json}

/-! ### How tasks end -/

/-- The task ends with results of a kind only, whatever it is answered. -/
def Task.Ends (P : Except Failure α → Prop) : Task α → Prop
  | .done result => P result
  | .call _ resume => ∀ answer, P (resume answer)

theorem Task.Ends.run {P : Except Failure α → Prop} {t : Task α} (h : t.Ends P)
    (client : Client σ) (s : σ) : P (t.run client s).1 := by
  cases t with
  | done result => exact h
  | call r resume => exact h _

theorem Task.Ends.map {P : Except Failure α → Prop} {Q : Except Failure β → Prop} {t : Task α}
    (h : t.Ends P) {f : α → β} (hmap : ∀ reply, P reply → Q (reply.map f)) : (t.map f).Ends Q := by
  cases t with
  | done result => exact hmap _ h
  | call r resume => exact fun answer => hmap _ (h answer)

theorem Task.Ends.mono {P Q : Except Failure α → Prop} {t : Task α} (h : t.Ends P)
    (himp : ∀ reply, P reply → Q reply) : t.Ends Q := by
  cases t with
  | done result => exact himp _ h
  | call r resume => exact fun answer => himp _ (h answer)

/-- What ends all successes of a task ends in particular those that a function has made. -/
theorem Task.ends_map (t : Task α) {f : α → β} {Q : β → Prop} (hf : ∀ a, Q (f a)) :
    (t.map f).Ends fun reply => ∀ b, reply = .ok b → Q b := by
  apply Task.Ends.map (P := fun _ => True)
  · cases t with
    | done result => trivial
    | call r resume => exact fun _ => trivial
  · intro reply _ b hb
    cases reply with
    | error f => cases hb
    | ok a =>
      obtain rfl := Except.ok.inj hb
      exact hf a

/-! ### Adapters -/

/-- The reply does not say that a state does not fit. -/
def Fitting (reply : Except Failure α) : Prop := ∀ e, reply ≠ .error (.serialization e)

@[simp] theorem fitting_ok (a : α) : Fitting (.ok a) := by
  intro e h
  cases h

@[simp] theorem fitting_error {f : Failure} :
    Fitting (.error f : Except Failure α) ↔ ∀ e, f ≠ .serialization e := by
  simp [Fitting]

@[simp] theorem fitting_map {reply : Except Failure α} {f : α → β} :
    Fitting (reply.map f) ↔ Fitting reply := by
  cases reply <;> simp [Except.map]

/-- An adapter, which is given states of its own type, finds no fault with them. -/
structure Adapter.Fits {State : Type} (a : Adapter State) : Prop where
  create ids plan : (a.create ids plan).Ends Fitting
  read q : (a.read q).Ends Fitting
  update ids prior plan : (a.update ids prior plan).Ends Fitting
  delete q : (a.delete q).Ends Fitting
  importState id : Fitting (a.importState id)

/-- The failures that the provider finds before it turns to an adapter. -/
@[simp] def Failure.ByProvider : Failure → Prop
  | unknownResource _ => True
  | serialization _ => True
  | _ => False

/-- The reply is none of the failures that the provider finds by itself. -/
def ByAdapter (reply : Except Failure α) : Prop := ∀ f, reply = .error f → ¬ f.ByProvider

@[simp] theorem byAdapter_ok (a : α) : ByAdapter (.ok a) := by
  intro f h
  cases h

@[simp] theorem byAdapter_error {f : Failure} :
    ByAdapter (.error f : Except Failure α) ↔ ¬ f.ByProvider := by
  simp [ByAdapter]

@[simp] theorem byAdapter_map {reply : Except Failure α} {f : α → β} :
    ByAdapter (reply.map f) ↔ ByAdapter reply := by
  cases reply <;> simp [Except.map]

@[simp] theorem byAdapter_require (status : Api.StatementStatus) (action : String) :
    ByAdapter (status.require action) := by
  unfold Api.StatementStatus.require
  split <;> simp

theorem ByAdapter.fitting {reply : Except Failure α} (h : ByAdapter reply) : Fitting reply := by
  rintro e rfl
  exact h _ rfl trivial

/-- Whatever an adapter is asked, its reply is one of its own. -/
structure Adapter.Answers {State : Type} (a : Adapter State) : Prop where
  create ids plan : (a.create ids plan).Ends ByAdapter
  read q : (a.read q).Ends ByAdapter
  update ids prior plan : (a.update ids prior plan).Ends ByAdapter
  delete q : (a.delete q).Ends ByAdapter
  importState id : ByAdapter (a.importState id)

theorem Adapter.Answers.fits {State : Type} {a : Adapter State} (h : a.Answers) : a.Fits where
  create ids plan := (h.create ids plan).mono fun _ => ByAdapter.fitting
  read q := (h.read q).mono fun _ => ByAdapter.fitting
  update ids prior plan := (h.update ids prior plan).mono fun _ => ByAdapter.fitting
  delete q := (h.delete q).mono fun _ => ByAdapter.fitting
  importState id := (h.importState id).fitting

namespace GenieSpace

theorem byAdapter_contentsOf (space : Api.Space) : ByAdapter (contentsOf space) := by
  rw [contentsOf]
  cases Space.Contents.decode space.document with
  | error e => exact byAdapter_error.mpr id
  | ok contents => exact byAdapter_ok contents

theorem byAdapter_requireId {q : State} {f : Failure} (h : q.requireId = .error f) :
    ¬ f.ByProvider := by
  unfold State.requireId at h
  split at h
  · split at h <;> cases h
    simp
  · cases h
    simp

theorem adapter_answers : adapter.Answers where
  create ids plan := by
    intro answer
    cases answer <;> simp
  read q := by
    show (read q).Ends ByAdapter
    unfold read
    cases hid : q.requireId with
    | error f => exact byAdapter_error.mpr (byAdapter_requireId hid)
    | ok x =>
      intro answer
      cases answer with
      | error e =>
        dsimp only
        split <;> simp
      | ok space => exact byAdapter_map.mpr (byAdapter_contentsOf space)
  update ids prior plan := by
    show (update ids prior plan).Ends ByAdapter
    unfold update
    cases hid : prior.requireId with
    | error f => exact byAdapter_error.mpr (byAdapter_requireId hid)
    | ok x =>
      intro answer
      cases answer <;> simp
  delete q := by
    show (delete q).Ends ByAdapter
    unfold delete
    cases hid : q.requireId with
    | error f => exact byAdapter_error.mpr (byAdapter_requireId hid)
    | ok x =>
      intro answer
      cases answer with
      | error e =>
        dsimp only
        split <;> simp
      | ok reply => simp
  importState id := byAdapter_ok _

theorem byAdapter_lookup (config : Lookup) : (lookup config).Ends ByAdapter := by
  intro answer
  cases answer with
  | error e => simp
  | ok space => exact byAdapter_map.mpr (byAdapter_contentsOf space)

end GenieSpace

theorem AppDeployment.adapter_answers : adapter.Answers where
  create ids plan := by
    intro answer
    cases answer <;> simp
  read q := by
    show (AppDeployment.read q).Ends ByAdapter
    unfold AppDeployment.read
    dsimp only
    split
    · simp [Task.fail, Task.Ends, unnamed]
    · intro answer
      cases answer with
      | error e =>
        dsimp only
        split <;> simp
      | ok deployment => simp
  update ids prior plan := by simp [adapter, AppDeployment.update, Task.fail, Task.Ends]
  delete q := byAdapter_ok ()
  importState id := by
    show ByAdapter (AppDeployment.importState id)
    unfold AppDeployment.importState
    split
    · split <;> simp [AppDeployment.importState.illFormed]
    · simp [AppDeployment.importState.illFormed]

namespace MetricView

@[simp] theorem byAdapter_outcome (action : String) (answer : Except ApiError Api.StatementStatus) :
    ByAdapter (outcome action answer) := by
  cases answer with
  | error e => simp [outcome]
  | ok status => exact byAdapter_require status action

theorem adapter_answers : (adapter wait).Answers where
  create ids plan := by
    intro answer
    cases answer <;> simp
  read q := by
    intro answer
    cases answer with
    | error e =>
      dsimp only
      split <;> simp
    | ok response =>
      dsimp only
      split
      · simp
      · rename_i f hrequire
        split
        · simp
        · have hown := byAdapter_require response.status "failed to read metric view"
          rw [hrequire] at hown
          exact byAdapter_error.mpr (byAdapter_error.mp hown)
  update ids prior plan := by
    intro answer
    cases answer <;> simp
  delete q := by
    intro answer
    cases answer with
    | error e =>
      dsimp only [outcome]
      split <;> simp
    | ok response =>
      dsimp only [outcome]
      cases hrequire : response.status.require "failed to delete metric view" with
      | error f =>
        have hown := byAdapter_require response.status "failed to delete metric view"
        rw [hrequire] at hown
        dsimp only
        split
        · exact byAdapter_ok ()
        · exact hown
      | ok _ => exact byAdapter_ok ()
  importState id := by
    show ByAdapter (MetricView.importState id)
    unfold MetricView.importState
    split <;> simp

end MetricView

theorem SqlExecution.adapter_answers : (adapter wait).Answers where
  create ids plan := by
    intro answer
    cases answer <;> simp
  read q := by
    intro answer
    cases answer with
    | error e =>
      dsimp only
      split <;> simp
    | ok response =>
      dsimp only
      split <;> simp
  update ids prior plan := byAdapter_ok _
  delete q := by
    intro answer
    cases answer with
    | error e =>
      dsimp only
      split <;> simp
    | ok response => exact byAdapter_require _ _
  importState id := byAdapter_ok _

theorem Kind.adapter_answers (k : Kind) : (k.adapter wait).Answers := by
  cases k with
  | genieSpace => exact GenieSpace.adapter_answers
  | appDeployment => exact AppDeployment.adapter_answers
  | metricView => exact MetricView.adapter_answers
  | sqlExecution => exact SqlExecution.adapter_answers

theorem Kind.adapter_fits (k : Kind) : (k.adapter wait).Fits := k.adapter_answers.fits

/-! ### Calls -/

namespace Call

/-- The states and configurations that a call brings. -/
def arguments : Call α → List α
  | create _ plan => [plan]
  | read _ state => [state]
  | update _ prior plan => [prior, plan]
  | delete _ state => [state]
  | importResource _ _ => []
  | readDataSource _ config => [config]

def typeName : Call α → String
  | create t _ => t
  | read t _ => t
  | update t _ _ => t
  | delete t _ => t
  | importResource t _ => t
  | readDataSource t _ => t

/-- The call is of a data source, and not of a resource. -/
def looksUp : Call α → Bool
  | readDataSource _ _ => true
  | _ => false

/-- Both calls are of one type of resources, or both of one data source. -/
def SameType (c c' : Call α) : Prop := c.typeName = c'.typeName ∧ c.looksUp = c'.looksUp

/-- The state or the result of a look-up that a reply brings. -/
def Reply.state? : {call : Call α} → call.Reply → Option Json
  | create _ _, state => some state
  | read _ _, state => state
  | update _ _ _, state => some state
  | delete _ _, () => none
  | importResource _ _, imported => some imported.state
  | readDataSource _ _, state => some state

/-- Calls of the type of this one can read the value as a state, or as a configuration. -/
def Takes (o : Options) (c : Call α) (v : Json) : Prop :=
  if c.looksUp then ∃ l, GenieSpace.Lookup.codec.ofValue v = .ok l
  else ∀ k, c.typeName = o.typeName k → ∃ q, k.codec.ofValue v = .ok q

theorem takes_congr {v : Json} (h : c.SameType c') : c.Takes o v ↔ c'.Takes o v := by
  rw [Takes, Takes, h.1, h.2]

theorem takes_toValue {c : Call α} {k : Kind} (hresource : c.looksUp = false)
    (hname : c.typeName = o.typeName k) (q : k.State) : c.Takes o (k.codec.toValue q) := by
  rw [Takes, hresource]
  intro k' hname'
  obtain rfl : k = k' := Options.typeName_inj.mp (hname.symm.trans hname')
  exact ⟨q, k.faithful.roundTrips.ofValue_toValue q⟩

end Call

namespace Provider

/-- What a call returns is a state that calls of its type take. -/
theorem returns_task (o : Options) (ids : IdSupply) (call : Call Json) :
    ((standard o).task ids call).Ends fun reply =>
      ∀ a, reply = .ok a → ∀ v, a.state? = some v → call.Takes o v := by
  apply task_cases (P := fun call t => t.Ends fun reply =>
    ∀ a, reply = .ok a → ∀ v, a.state? = some v → call.Takes o v)
  case unknown =>
    intro call t a ha
    cases ha
  case misfit =>
    intro call e a ha
    cases ha
  case create =>
    intro k plan p _
    apply Task.ends_map
    intro q v hv
    obtain rfl := Option.some.inj hv
    rw [Kind.codec_adapter]
    exact Call.takes_toValue rfl rfl q
  case read =>
    intro k state q _
    apply Task.ends_map
    intro refreshed v hv
    obtain ⟨q', -, rfl⟩ := Option.map_eq_some_iff.mp hv
    rw [Kind.codec_adapter]
    exact Call.takes_toValue rfl rfl q'
  case update =>
    intro k prior plan q p _ _
    apply Task.ends_map
    intro q' v hv
    obtain rfl := Option.some.inj hv
    rw [Kind.codec_adapter]
    exact Call.takes_toValue rfl rfl q'
  case delete =>
    intro k state q _
    cases (k.adapter o.waitTimeout).delete q with
    | done result =>
      intro a _ v hv
      cases hv
    | call r resume =>
      intro answer a _ v hv
      cases hv
  case importResource =>
    intro k id a ha v hv
    cases himport : (k.adapter o.waitTimeout).importState id with
    | error f =>
      rw [himport] at ha
      cases ha
    | ok q =>
      rw [himport] at ha
      obtain rfl := Except.ok.inj ha
      obtain rfl := Option.some.inj hv
      rw [Kind.codec_adapter]
      exact Call.takes_toValue rfl rfl q
  case lookup =>
    intro config c _
    apply Task.ends_map
    intro l v hv
    obtain rfl := Option.some.inj hv
    exact ⟨l, GenieSpace.Lookup.faithful.roundTrips.ofValue_toValue l⟩

theorem fitting_serving {t : String} {next : Resource → Task α}
    (h : ∀ k, t = o.typeName k → (next (k.adapter o.waitTimeout).erase).Ends Fitting) :
    (serving ((standard o).resource t) next).Ends Fitting :=
  serving_cases (P := Task.Ends Fitting) (by simp [Task.fail, Task.Ends]) h

theorem fitting_reading {value : Except Json.Error β} {next : β → Task α}
    (hvalue : ∃ b, value = .ok b) (h : ∀ b, (next b).Ends Fitting) :
    (Task.reading value next).Ends Fitting := by
  obtain ⟨b, rfl⟩ := hvalue
  exact h b

/-- A call whose arguments are taken is never refused as not fitting. -/
theorem fitting_task (ids : IdSupply) {call : Call Json}
    (h : ∀ v ∈ call.arguments, call.Takes o v) : ((standard o).task ids call).Ends Fitting := by
  have htaken {v : Json} (hresource : call.looksUp = false) (hv : v ∈ call.arguments) (k : Kind)
      (hname : call.typeName = o.typeName k) :
      ∃ q, (k.adapter o.waitTimeout).codec.ofValue v = .ok q := by
    have htakes := h v hv
    rw [Call.Takes, hresource] at htakes
    rw [Kind.codec_adapter]
    exact htakes k hname
  cases call with
  | create t plan =>
    apply fitting_serving
    intro k hname
    apply fitting_reading (htaken rfl List.mem_cons_self k hname)
    intro p
    exact (k.adapter_fits.create ids p).map fun _ => fitting_map.mpr
  | read t state =>
    apply fitting_serving
    intro k hname
    apply fitting_reading (htaken rfl List.mem_cons_self k hname)
    intro q
    exact (k.adapter_fits.read q).map fun _ => fitting_map.mpr
  | update t prior plan =>
    apply fitting_serving
    intro k hname
    apply fitting_reading (htaken rfl List.mem_cons_self k hname)
    intro q
    apply fitting_reading (htaken rfl (List.mem_cons_of_mem _ List.mem_cons_self) k hname)
    intro p
    exact (k.adapter_fits.update ids q p).map fun _ => fitting_map.mpr
  | delete t state =>
    apply fitting_serving
    intro k hname
    exact fitting_reading (htaken rfl List.mem_cons_self k hname) k.adapter_fits.delete
  | importResource t id =>
    apply fitting_serving
    intro k hname
    exact fitting_map.mpr (fitting_map.mpr (k.adapter_fits.importState id))
  | readDataSource t config =>
    rw [task, dataSource_standard]
    split
    · apply fitting_reading (h config List.mem_cons_self)
      intro l
      exact (GenieSpace.byAdapter_lookup l).map fun _ h => fitting_map.mpr h.fitting
    · exact fitting_error.mpr fun _ => Failure.noConfusion

end Provider

end Provisioner
