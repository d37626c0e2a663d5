import Provisioner.Proofs.MetricView.Markers
import Provisioner.Proofs.Provider.Answers
import Provisioner.Proofs.Provider.Kinds
/-!
# How calls of the provider end

Whether an error of the workspace is a failure depends on what was asked. A read takes the errors
that say so for the absence of the object, a delete likewise for its success, and all other errors
are passed on as they are. Which errors, and which states of a statement, tell a read that the object
is gone differs between the kinds (`Kind.Gone`, `Kind.OnProbe`); the rest is the same for all of them
(`Adapter.Classifies`).

The read of a metric view knows more signs of absence than its delete. What makes the read report
the view as gone lets the delete succeed only if it is an error by which the call says so itself.
-/

namespace Provisioner

open Api (StatementStatus)
open Space (IdSupply)

variable {σ State : Type} {o : Options} {ids : IdSupply} {client : Client σ} {s s' : σ}
  {t : String} {state : Json} {answer : Except ApiError StatementStatus} {wait : Nat}

/-- The errors by which a read learns that the object is gone. -/
def Kind.Gone : Kind → ApiError → Prop
  | metricView, e => e.Missing ∨ MetricView.Marked e.message
  | _, e => e.Missing

/-- What a read makes of the status of its statement. Kinds that run no statements make nothing of
    it. -/
def Kind.OnProbe : (k : Kind) → k.State → StatementStatus → Except Failure (Refreshed k.State) → Prop
  | metricView, q, status => Probes (MetricView.ErrorMarked status) (.found q) .removed status
  | sqlExecution, q, status => Probes True (.found q) .removed status
  | _, _, _ => fun _ => False

theorem Kind.gone_iff {k : Kind} {e : ApiError} :
    k.Gone e ↔ e.Missing ∨ o.typeName k = o.typeName .metricView ∧ MetricView.Marked e.message := by
  rw [Options.typeName_inj]
  cases k <;> simp [Kind.Gone]

/-! ### Adapters -/

/-- The answers of the workspace are sorted by what they mean for the object. -/
structure Adapter.Classifies (a : Adapter State) (gone : ApiError → Prop)
    (onProbe : State → StatementStatus → Except Failure (Refreshed State) → Prop) : Prop where
  create ids plan : (a.create ids plan).Replies Refused Settles
  read q : (a.read q).Replies (fun e => Forgives (gone e) .removed e) (onProbe q)
  update ids prior plan : (a.update ids prior plan).Replies Refused Settles
  delete q : (a.delete q).Replies (fun e => Forgives e.Missing () e) Settles

theorem GenieSpace.adapter_classifies : adapter.Classifies ApiError.Missing fun _ _ _ => False where
  create ids plan := fun e => ⟨_, rfl⟩
  read q := by
    show (GenieSpace.read q).Replies _ _
    unfold GenieSpace.read
    cases q.requireId with
    | error f => trivial
    | ok id => exact fun e => forgives_ite ApiError.isMissing_iff _ e _
  update ids prior plan := by
    show (GenieSpace.update ids prior plan).Replies _ _
    unfold GenieSpace.update
    cases prior.requireId with
    | error f => trivial
    | ok id => exact fun _ => ⟨_, rfl⟩
  delete q := by
    show (GenieSpace.delete q).Replies _ _
    unfold GenieSpace.delete
    cases q.requireId with
    | error f => trivial
    | ok id => exact fun e => forgives_ite ApiError.isMissing_iff _ e _

theorem GenieSpace.replies_lookup (config : Lookup) :
    (lookup config).Replies Refused fun _ _ => False :=
  fun _ => ⟨_, rfl⟩

theorem AppDeployment.adapter_classifies : adapter.Classifies ApiError.Missing fun _ _ _ => False where
  create ids plan := fun e => ⟨_, rfl⟩
  read q := by
    show (AppDeployment.read q).Replies _ _
    unfold AppDeployment.read
    dsimp only
    split
    · trivial
    · exact fun e => forgives_ite ApiError.isMissing_iff _ e _
  update ids prior plan := trivial
  delete q := trivial

namespace MetricView

theorem settles_outcome (action : String) (status : StatementStatus) :
    Settles status (outcome action (.ok status)) :=
  settles_require status action

theorem adapter_classifies :
    (adapter wait).Classifies (Kind.Gone .metricView) (Kind.OnProbe .metricView) where
  create ids plan := by
    show (create wait ids plan).Replies _ _
    apply Task.replies_statement
    · exact fun e => ⟨_, rfl⟩
    · exact fun status => (settles_outcome _ status).map _
  read q := by
    show (read wait q).Replies _ _
    apply Task.replies_statement
    · intro e
      apply forgives_ite
      rw [Bool.or_eq_true, ApiError.isMissing_iff, hasMissingMarker_iff]
      rfl
    · intro status
      apply probes_of_cases (by simp)
      · intro hsucceeded
        simp [StatementStatus.require, hsucceeded]
      · intro hfailed hmarked
        have hmarker := hasMissingMarker_describe.mpr hmarked
        simp [StatementStatus.require, hfailed, Failure.message, hmarker]
      · intro hfailed hmarked
        have hmarker := mt hasMissingMarker_describe.mp hmarked
        simp [StatementStatus.require, hfailed, Failure.message, hmarker, Unsuccessful]
  update ids prior plan := by
    show (update wait ids prior plan).Replies _ _
    apply Task.replies_statement
    · exact fun e => ⟨_, rfl⟩
    · exact fun status => (settles_outcome _ status).map _
  delete q := by
    show (delete wait q).Replies _ _
    apply Task.replies_statement
    · exact fun e => forgives_ite ApiError.isMissing_iff _ e _
    · intro status
      -- The failure of a statement carries no error of a call, so it is never overlooked.
      convert settles_require status "failed to delete metric view" using 1
      by_cases hsucceeded : status.state = .succeeded
      · simp [outcome, StatementStatus.require, hsucceeded]
      · simp [outcome, StatementStatus.require, hsucceeded, Failure.isMissing]

end MetricView

theorem SqlExecution.adapter_classifies :
    (adapter wait).Classifies (Kind.Gone .sqlExecution) (Kind.OnProbe .sqlExecution) where
  create ids plan := by
    show (create wait ids plan).Replies _ _
    apply Task.replies_statement
    · exact fun e => ⟨_, rfl⟩
    · exact fun status => (settles_require status _).map _
  read q := by
    show (read wait q).Replies _ _
    apply Task.replies_statement
    · exact fun e => forgives_ite ApiError.isMissing_iff _ e _
    · intro status
      apply probes_of_cases (by simp)
      · intro hsucceeded
        simp [StatementStatus.require, hsucceeded]
      · intro hfailed _
        simp [StatementStatus.require, hfailed]
      · exact fun _ hnever => absurd trivial hnever
  update ids prior plan := trivial
  delete q := by
    show (delete wait q).Replies _ _
    apply Task.replies_statement
    · exact fun e => forgives_ite ApiError.isMissing_iff _ e _
    · exact fun status => settles_require status _

theorem Kind.adapter_classifies (k : Kind) : (k.adapter wait).Classifies k.Gone k.OnProbe := by
  cases k with
  | genieSpace => exact GenieSpace.adapter_classifies
  | appDeployment => exact AppDeployment.adapter_classifies
  | metricView => exact MetricView.adapter_classifies
  | sqlExecution => exact SqlExecution.adapter_classifies

/-! ### The provider -/

/-- How a call of the provider ends whose call of the workspace is answered with an error. Of the
    resources, only metric views are known to be gone by the message of an error. -/
def Call.EndsOnError (o : Options) (e : ApiError) :
    (call : Call Json) → Except Failure call.Reply → Prop
  | .read t _, reply =>
      Forgives (e.Missing ∨ t = o.typeName .metricView ∧ MetricView.Marked e.message) none e reply
  | .delete _ _, reply => Forgives e.Missing () e reply
  | .create _ _, reply => Refused e reply
  | .update _ _ _, reply => Refused e reply
  | .importResource _ _, _ => False
  | .readDataSource _ _, reply => Refused e reply

/-- How a call of the provider ends whose statement has reached a status. A read that finds the object
    returns the state it was given, as the kind reads it. -/
def Call.EndsOnStatus (o : Options) (status : StatementStatus) :
    (call : Call Json) → Except Failure call.Reply → Prop
  | .read t state, reply =>
      (t = o.typeName .metricView ∧ ∃ q, MetricView.State.codec.ofValue state = .ok q ∧
        Probes (MetricView.ErrorMarked status) (some (MetricView.State.codec.toValue q)) none status
          reply) ∨
      (t = o.typeName .sqlExecution ∧ ∃ q, SqlExecution.State.codec.ofValue state = .ok q ∧
        Probes True (some (SqlExecution.State.codec.toValue q)) none status reply)
  | .delete _ _, reply => Settles status reply
  | .create _ _, reply => Settles status reply
  | .update _ _ _, reply => Settles status reply
  | .importResource _ _, _ => False
  | .readDataSource _ _, _ => False

theorem Provider.task_replies (call : Call Json) :
    ((standard o).task ids call).Replies (call.EndsOnError o) (call.EndsOnStatus o) := by
  apply Provider.task_cases
    (P := fun call task => task.Replies (fun e => call.EndsOnError o e) fun status =>
      call.EndsOnStatus o status)
  · intro call t
    trivial
  · intro call e
    trivial
  · intro k plan p _
    apply (k.adapter_classifies.create ids p).map
    · exact fun e reply h => refused_map.mpr h
    · exact fun status reply h => h.map _
  · intro k state q hstate
    apply (k.adapter_classifies.read q).map
    · intro e reply h
      have hmapped := h.map fun refreshed : Refreshed k.State =>
        refreshed.toOption.map (k.adapter o.waitTimeout).codec.toValue
      rwa [Kind.gone_iff (o := o)] at hmapped
    · intro status reply h
      cases k with
      | genieSpace => exact h.elim
      | appDeployment => exact h.elim
      | metricView => exact Or.inl ⟨rfl, q, hstate, h.map (by simp [Refreshed.toOption])⟩
      | sqlExecution => exact Or.inr ⟨rfl, q, hstate, h.map (by simp [Refreshed.toOption])⟩
  · intro k prior plan q p _ _
    apply (k.adapter_classifies.update ids q p).map
    · exact fun e reply h => refused_map.mpr h
    · exact fun status reply h => h.map _
  · intro k state q _
    exact k.adapter_classifies.delete q
  · intro k id
    trivial
  · intro config c _
    refine Task.Replies.map (GenieSpace.replies_lookup c) ?_ ?_
    · exact fun e reply h => refused_map.mpr h
    · exact fun status reply h => h

/-! ### Examples of answers -/

namespace MetricView

/-- The state of a view about which nothing is known but its name. -/
def bareView : Json :=
  .object [("catalog_name", .string "main"), ("name", .string "revenue"),
    ("schema_name", .string "sales")]

/-- A client that answers all statements alike, and refuses all other calls. -/
def answering (answer : Except ApiError StatementStatus) : Client Unit
  | .executeStatement _, s => (answer.map fun status => ⟨"statement-1", status⟩, s)
  | _, s => (.error (.notFound "no such object"), s)

/-- An error that has a marker in its message alone. -/
def markedError : ApiError := ⟨400, "BAD_REQUEST", "[TABLE_OR_VIEW_NOT_FOUND] no such view"⟩

/-- A status whose error has a marker for its code, and none in its message. -/
def markedCode : StatementStatus := ⟨.failed, some ⟨"TABLE_OR_VIEW_NOT_FOUND", "no such view"⟩⟩

end MetricView

/-! ### The replies -/

/-- Every error of a call and every status of a statement, from whatever client, leads to the reply
    that is due to it. -/
theorem Provider.reply_of_answer (o : Options) (ids : IdSupply) (client : Client σ) (s : σ)
    (call : Call Json) :
    (∀ e, ((standard o).task ids call).FailsWith client s e →
      call.EndsOnError o e (((standard o).task ids call).run client s).1) ∧
    (∀ status, ((standard o).task ids call).Reaches client s status →
      call.EndsOnStatus o status (((standard o).task ids call).run client s).1) := by
  have hreplies : ((standard o).task ids call).Replies (call.EndsOnError o)
      (call.EndsOnStatus o) := Provider.task_replies call
  constructor
  · intro e hfails
    exact hreplies.of_failsWith hfails
  · intro status hreaches
    exact hreplies.of_reaches hreaches

/-- A marker counts in the message of an error, and not in its code. -/
theorem Provider.reply_of_marked_answer :
    (((standard .standard).task (fun _ => ⟨0, 0, 0, 0⟩)
        (.read "databricks_metric_view" MetricView.bareView)).run
      (MetricView.answering (.error MetricView.markedError)) ()).1 = .ok none ∧
    (((standard .standard).task (fun _ => ⟨0, 0, 0, 0⟩)
        (.read "databricks_metric_view" MetricView.bareView)).run
      (MetricView.answering (.ok MetricView.markedCode)) ()).1 ≠ .ok none := by
  constructor
  · have hforgives := (reply_of_answer .standard (fun _ => ⟨0, 0, 0, 0⟩)
      (MetricView.answering (.error MetricView.markedError)) ()
      (.read "databricks_metric_view" MetricView.bareView)).1 MetricView.markedError ⟨_, rfl, rfl⟩
    exact hforgives.1.mpr (Or.inr ⟨rfl, MetricView.hasMissingMarker_iff.mp (by decide)⟩)
  · intro hgone
    rcases (reply_of_answer .standard (fun _ => ⟨0, 0, 0, 0⟩)
      (MetricView.answering (.ok MetricView.markedCode)) ()
      (.read "databricks_metric_view" MetricView.bareView)).2 MetricView.markedCode
      ⟨_, _, rfl, rfl⟩ with hview | hsql
    · obtain ⟨-, q, -, hprobes⟩ := hview
      obtain ⟨-, error, herror, hmarked⟩ := hprobes.2.1.mp hgone
      obtain rfl := Option.some.inj herror
      exact absurd (MetricView.hasMissingMarker_iff.mpr hmarked) (by decide)
    · exact absurd hsql.1 (by decide)

/-! ### Views that are gone -/

namespace MetricView

/-- When a read has reported the view as gone, a delete that gets the same answer succeeds exactly if
    it is an error that says so by its status or its code. -/
theorem delete_of_gone
    (hread : ((Provider.standard o).task ids (.read (o.typeName .metricView) state)).Answered
      client s answer)
    (hdelete : ((Provider.standard o).task ids (.delete (o.typeName .metricView) state)).Answered
      client s' answer)
    (hgone : (((Provider.standard o).task ids (.read (o.typeName .metricView) state)).run
      client s).1 = .ok none) :
    (((Provider.standard o).task ids (.delete (o.typeName .metricView) state)).run
      client s').1 = .ok () ↔ ∃ e, answer = .error e ∧ e.Missing := by
  cases answer with
  | error e =>
    have hforgives := (Provider.task_replies _).of_failsWith hdelete
    rw [hforgives.1]
    constructor
    · intro hmissing
      exact ⟨e, rfl, hmissing⟩
    · rintro ⟨e', heq, hmissing⟩
      obtain rfl := Except.error.inj heq
      exact hmissing
  | ok status =>
    have hfailed : status.state ≠ .succeeded := by
      rcases (Provider.task_replies _).of_reaches hread with hview | hsql
      · obtain ⟨-, q, -, hprobes⟩ := hview
        exact (hprobes.2.1.mp hgone).1
      · obtain ⟨-, q, -, hprobes⟩ := hsql
        exact (hprobes.2.1.mp hgone).1
    have hsettles := (Provider.task_replies _).of_reaches hdelete
    constructor
    · intro hok
      exact absurd (hsettles.1.mp ⟨(), hok⟩) hfailed
    · rintro ⟨e, heq, -⟩
      cases heq

/-- An error that shows only by its message that the view is gone keeps it from being deleted. -/
theorem delete_of_marked_error :
    ((Provider.standard .standard).task (fun _ => ⟨0, 0, 0, 0⟩)
        (.read "databricks_metric_view" bareView)).run (answering (.error markedError)) () =
      (.ok none, ()) ∧
    (((Provider.standard .standard).task (fun _ => ⟨0, 0, 0, 0⟩)
        (.delete "databricks_metric_view" bareView)).run (answering (.error markedError)) ()).1 ≠
      .ok () := by
  have hread : ((Provider.standard .standard).task (fun _ => ⟨0, 0, 0, 0⟩)
      (.read "databricks_metric_view" bareView)).Answered (answering (.error markedError)) ()
      (.error markedError) := ⟨_, rfl, rfl⟩
  have hdelete : ((Provider.standard .standard).task (fun _ => ⟨0, 0, 0, 0⟩)
      (.delete "databricks_metric_view" bareView)).Answered (answering (.error markedError)) ()
      (.error markedError) := ⟨_, rfl, rfl⟩
  refine ⟨rfl, fun hok => ?_⟩
  obtain ⟨e, heq, hmissing⟩ := (delete_of_gone hread hdelete rfl).mp hok
  obtain rfl := Except.error.inj heq
  exact absurd (ApiError.isMissing_iff.mpr hmissing) (by decide)

end MetricView

end Provisioner
