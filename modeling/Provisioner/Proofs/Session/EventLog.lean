import Provisioner.Proofs.Log.Levels
import Provisioner.Proofs.Provider.Fitting
import Provisioner.Proofs.Session.CallLog
import Provisioner.Proofs.Session.Lifecycles
/-!
# The log of a session

Every exchange with the provider is logged by two events, one when the call is made and one when it
has its result (`Exchange.logs`). The events of a run are those of its exchanges, one exchange after
the other (`Session.events_runFrom`). So a log that is set up with a level shows, of these events,
those up to its level (`Session.calls_logged`).
-/

namespace Provisioner

open Log

/-! ### The events of an exchange -/

namespace Call

variable {α : Type}

/-- Under what name the type of a call is logged. -/
def typeTag (c : Call α) : String := if c.looksUp then "data_source_type" else "resource_type"

/-- The identifier that is imported. -/
def importedId? : Call α → Option String
  | importResource _ id => some id
  | _ => none

/-- The tags name the type of the call and, for an import, the identifier. -/
structure NamedBy (c : Call α) (tags : List Tag) : Prop where
  type : valueOf? c.typeTag tags = some c.typeName
  id : valueOf? "id" tags = c.importedId?

theorem namedBy_tags (c : Call α) : c.NamedBy c.tags := by
  cases c <;> exact ⟨rfl, rfl⟩

theorem namedBy_append_error (c : Call α) (text : String) :
    c.NamedBy (c.tags ++ [⟨"error", text⟩]) := by
  cases c <;> exact ⟨rfl, rfl⟩

end Call

namespace Exchange

/-- How an exchange is logged: an event when it is called, and one when it has finished. -/
structure Logs (e : Exchange) (called finished : Log.Event) : Prop where
  called_debug : called.level = .debug ↔ e.call.isRead = true ∨ e.call.looksUp = true
  called_info : called.level = .info ↔ e.call.isRead = false ∧ e.call.looksUp = false
  called_message : called.message = e.call.title ++ " called"
  failed : finished.level = .error ↔ e.Failed
  gone : finished.level = .warn ↔ e.found? = some none
  found : finished.level = .debug ↔ ∃ state, e.found? = some (some state)
  succeeded : finished.level = .info ↔ ¬ e.Failed ∧ e.call.isRead = false
  error (text : String) :
    valueOf? "error" finished.tags = some text ↔ ∃ f, e.result = .error f ∧ text = f.text
  named : ∀ event ∈ [called, finished],
    e.call.NamedBy event.tags ∧ e.call.NamedBy event.span.tags ∧ event.span.name = e.call.spanName

/-- The events of an exchange. -/
def events (e : Exchange) : List Log.Event := [e.call.called, e.call.finished e.result]

theorem level_called (call : Call Json) :
    (call.called.level = .debug ↔ call.isRead = true ∨ call.looksUp = true) ∧
      (call.called.level = .info ↔ call.isRead = false ∧ call.looksUp = false) := by
  cases call <;> simp [Call.called, Call.calledLevel, Call.isRead, Call.looksUp]

theorem named_of_tags {call : Call Json} {level : Level} {message : String} {tags : List Tag}
    (h : call.NamedBy tags) : ∀ event ∈ [call.called, ⟨level, call.span, message, tags⟩],
      call.NamedBy event.tags ∧ call.NamedBy event.span.tags ∧
        event.span.name = call.spanName := by
  intro event hevent
  rcases List.mem_cons.mp hevent with rfl | hevent
  · exact ⟨call.namedBy_tags, call.namedBy_tags, rfl⟩
  · obtain rfl := List.mem_singleton.mp hevent
    exact ⟨h, call.namedBy_tags, rfl⟩

theorem logs_error (call : Call Json) (f : Failure) :
    Logs ⟨call, .error f⟩ call.called (call.finished (.error f)) where
  called_debug := (level_called call).1
  called_info := (level_called call).2
  called_message := rfl
  failed := by simp [Call.finished, Failed]
  gone := by simp [Call.finished, found?_error]
  found := by simp [Call.finished, found?_error]
  succeeded := by simp [Call.finished, Failed]
  error text := by
    have htag : valueOf? "error" (call.finished (.error f)).tags = some f.text := by
      cases call <;> rfl
    rw [htag]
    constructor
    · rintro h
      exact ⟨f, rfl, (Option.some.inj h).symm⟩
    · rintro ⟨f', hf', rfl⟩
      rw [Except.error.inj hf']
  named := named_of_tags (call.namedBy_append_error f.text)

theorem level_finished (call : Call Json) (reply : call.Reply) :
    (call.finished (.ok reply)).level = match found? ⟨call, .ok reply⟩ with
      | some none => .warn
      | some (some _) => .debug
      | none => .info := by
  cases call with
  | read t state => cases reply <;> rfl
  | _ => rfl

theorem found?_ok_eq_none {call : Call Json} {reply : call.Reply} :
    found? ⟨call, .ok reply⟩ = none ↔ call.isRead = false := by
  cases call <;> simp [found?, Call.isRead]

theorem logs_ok (call : Call Json) (reply : call.Reply) :
    Logs ⟨call, .ok reply⟩ call.called (call.finished (.ok reply)) where
  called_debug := (level_called call).1
  called_info := (level_called call).2
  called_message := rfl
  failed := by
    rw [level_finished]
    rcases found? ⟨call, .ok reply⟩ with _ | _ | state <;> simp [Failed]
  gone := by
    rw [level_finished]
    rcases found? ⟨call, .ok reply⟩ with _ | _ | state <;> simp
  found := by
    rw [level_finished]
    rcases found? ⟨call, .ok reply⟩ with _ | _ | state <;> simp
  succeeded := by
    rw [level_finished, ← found?_ok_eq_none]
    rcases found? ⟨call, .ok reply⟩ with _ | _ | state <;> simp [Failed]
  error text := by
    have htag : valueOf? "error" (call.finished (.ok reply)).tags = none := by
      cases call <;> rfl
    rw [htag]
    constructor
    · rintro h
      cases h
    · rintro ⟨f, hf, -⟩
      cases hf
  named := named_of_tags call.namedBy_tags

theorem logs (e : Exchange) : e.Logs e.call.called (e.call.finished e.result) := by
  rcases e with ⟨call, f | reply⟩
  · exact logs_error call f
  · exact logs_ok call reply

end Exchange

/-! ### The events of a run -/

namespace Session

theorem events_performAll (s : Session) (cs : List (Call Json)) :
    (s.performAll cs).events = s.events ++ (s.exchangesOf cs).flatMap Exchange.events := by
  induction cs generalizing s with
  | nil => exact (List.append_nil s.events).symm
  | cons c cs ih =>
    have hperform : (s.perform c).2.events =
        s.events ++ Exchange.events ⟨c, (s.perform c).1⟩ := rfl
    show ((s.perform c).2.performAll cs).events = _
    rw [ih, hperform, exchangesOf, List.flatMap_cons, List.append_assoc]

theorem events_step (answers : List StepAnswer) (s : Session) (step : Step) :
    (s.step answers step).2.events =
      s.events ++ (s.exchangesOf (s.made answers step)).flatMap Exchange.events := by
  obtain ⟨w, hw⟩ := snd_step answers s step
  rw [hw]
  exact events_performAll s _

/-- A run logs its exchanges, and nothing else. -/
theorem events_runFrom (answers : List StepAnswer) (s : Session) (steps : List Step) :
    (s.runFrom answers steps).2.events =
      s.events ++ (s.exchanges answers steps).flatMap Exchange.events := by
  induction steps generalizing answers s with
  | nil => exact (List.append_nil s.events).symm
  | cons first rest ih =>
    show (runFrom (answers ++ [(s.step answers first).1]) (s.step answers first).2 rest).2.events = _
    rw [ih, events_step, exchanges, List.flatMap_append, List.append_assoc]

/-- The provider is called once for every exchange. -/
theorem performed_runFrom (answers : List StepAnswer) (s : Session) (steps : List Step) :
    (s.runFrom answers steps).2.performed =
      s.performed + (s.exchanges answers steps).length := by
  rw [(asks_runFrom answers s steps).performed, ← map_call_exchanges, List.length_map]

/-- Every call of the provider is logged once when it is made and once when it has finished, in
    order. A log that is first set up with a level shows of these events those up to the level, and
    their spans if the level lets spans pass. The calls are those of the plans of the steps, up to
    the first one in each plan that does not go on; a step without a plan logs nothing. -/
theorem calls_logged (environment : Option String) (log : Output) (first : Setup)
    (later : List Setup) (n : Nat) (hlog : log.active = none)
    (hfirst : first.HasLevel environment n) (answers : List StepAnswer) (s : Session)
    (steps : List Step) :
    (∃ parts : List (List Exchange), parts.flatten = s.exchanges answers steps ∧
      List.Forall₂ (fun step es => UpToFailure step.plan es) steps parts) ∧
    (s.runFrom answers steps).2.performed = s.performed + (s.exchanges answers steps).length ∧
    (∀ e ∈ s.exchanges answers steps, e.Logs e.call.called (e.call.finished e.result)) ∧
    let shown := (Setup.applyAll environment log (first :: later)).2
    shown.render (s.runFrom answers steps).2.events = shown.render s.events ++
      (((s.exchanges answers steps).flatMap fun e =>
        [e.call.called, e.call.finished e.result]).filter (·.level.rank ≤ n)).map
          (·.text (Span.level.rank ≤ n)) := by
  refine ⟨upToFailure_exchanges answers s steps, performed_runFrom answers s steps,
    fun e _ => e.logs, ?_⟩
  intro shown
  have hrender := Setup.render_applyAll hlog hfirst later
  rw [hrender, hrender, events_runFrom, List.filter_append, List.map_append]
  rfl

/-- A deployment that is made and read back is reported as made, and a read of an unknown type as
    failed. -/
theorem calls_logged_info :
    let steps : List Step :=
      [.live (.create "databricks_app_deployment"
        (.value (.object [("app_name", .string "sales")]))),
       .metadata, .call (.read "sales" (.answer 0 []))]
    let shown := (Setup.applyAll none {} [.attempt, .demand "trace"]).2
    shown.render (GenieSpace.newSession.runFrom [] steps).2.events =
      ["INFO provider.create\x7bresource_type=\"databricks_app_deployment\"\x7d: " ++
        "workspace_provider::provider: Create called resource_type=databricks_app_deployment",
       "INFO provider.create\x7bresource_type=\"databricks_app_deployment\"\x7d: " ++
        "workspace_provider::provider: Create completed successfully " ++
        "resource_type=databricks_app_deployment",
       "ERROR provider.read\x7bresource_type=\"sales\"\x7d: workspace_provider::provider: " ++
        "Read failed resource_type=sales error=Unknown resource type: sales"] := by
  intro steps shown
  have hlevel : IsLevel "info" 3 := ⟨by decide +kernel, by decide⟩
  obtain ⟨-, -, -, hrender⟩ := calls_logged none {} .attempt [.demand "trace"] 3 rfl
    (.inr ⟨hlevel, fun _ h => by cases h⟩) [] GenieSpace.newSession steps
  refine hrender.trans ?_
  decide +kernel

end Session

end Provisioner
