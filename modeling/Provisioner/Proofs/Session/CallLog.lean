import Provisioner.Proofs.GenieSpace.Drift
import Provisioner.Proofs.Provider.Requests
import Provisioner.Proofs.Session.Trace
/-!
# The record of calls

A session records the calls of the workspace that its provider makes. The record grows by the trace
of a run: each call of the provider adds the call that it makes, if any, and nothing else adds to it
(`Session.asks_runFrom`). For the standard provider the table of what it sends (`Call.sends`) says
which calls these are.
-/

namespace Provisioner

open Space (Contents)

variable {s s' s'' : Session} {cs cs' : List (Call Json)}

namespace Session

/-- The calls of the workspace that calls of the provider make from now on. -/
def requests (s : Session) (cs : List (Call Json)) : List Request :=
  (cs.zipIdx s.performed).flatMap fun (c, n) =>
    (s.provider.task (s.supply n) c).request?.toList

/-- `s'` is `s` after these calls of the provider, and with whatever workspace. -/
structure Asks (s : Session) (cs : List (Call Json)) (s' : Session) : Prop where
  provider : s'.provider = s.provider
  supply : s'.supply = s.supply
  performed : s'.performed = s.performed + cs.length
  calls : s'.calls = s.calls ++ s.requests cs

theorem asks_edit (s : Session) (w : Workspace) : s.Asks [] { s with workspace := w } :=
  ⟨rfl, rfl, rfl, (List.append_nil s.calls).symm⟩

theorem asks_perform (c : Call Json) (s : Session) : s.Asks [c] (s.perform c).2 := by
  refine ⟨rfl, rfl, rfl, ?_⟩
  simp [requests, perform]

theorem Asks.trans (h : s.Asks cs s') (h' : s'.Asks cs' s'') : s.Asks (cs ++ cs') s'' where
  provider := h'.provider.trans h.provider
  supply := h'.supply.trans h.supply
  performed := by rw [h'.performed, h.performed, List.length_append, Nat.add_assoc]
  calls := by
    -- The later calls draw on the supply where the earlier ones have left off.
    have hrequests : s'.requests cs' =
        (cs'.zipIdx (s.performed + cs.length)).flatMap fun (c, n) =>
          (s.provider.task (s.supply n) c).request?.toList := by
      rw [requests, h.provider, h.supply, h.performed]
    rw [h'.calls, h.calls, hrequests, List.append_assoc, requests, requests, List.zipIdx_append,
      List.flatMap_append]

theorem asks_performAll (s : Session) (cs : List (Call Json)) : s.Asks cs (s.performAll cs) := by
  induction cs generalizing s with
  | nil => exact asks_edit s s.workspace
  | cons c cs ih => exact (asks_perform c s).trans (ih (s.perform c).2)

theorem asks_step (answers : List StepAnswer) (s : Session) (step : Step) :
    s.Asks (s.made answers step) (s.step answers step).2 := by
  obtain ⟨w, hw⟩ := snd_step answers s step
  have h := (asks_performAll s (s.made answers step)).trans (asks_edit _ w)
  rwa [List.append_nil, ← hw] at h

/-- A run asks the provider for its trace. -/
theorem asks_runFrom (answers : List StepAnswer) (s : Session) (steps : List Step) :
    s.Asks (s.trace answers steps) (s.runFrom answers steps).2 := by
  induction steps generalizing answers s with
  | nil => exact asks_edit s s.workspace
  | cons first rest ih => exact (asks_step answers s first).trans (ih _ _)

/-- Every call of the standard provider makes, of any client, the one call that the table says or
    none, and a run records the calls of its trace one after the other. The documents that are sent
    say what they were made to say. -/
theorem calls_runFrom {o : Options} (hs : s.provider = .standard o) (answers : List StepAnswer)
    (steps : List Step) :
    ∃ document : Nat → Contents → String, (∀ n c, Contents.decode (document n c) = .ok c) ∧
      (∀ n (call : Call Json) (σ : Type) (client : Client σ) (state : σ),
        ((s.provider.task (s.supply n) call).run client.recording (state, [])).2 =
          (((s.provider.task (s.supply n) call).run client state).2,
            (call.sends o (document n)).toList)) ∧
      (s.runFrom answers steps).2.calls = s.calls ++
        ((s.trace answers steps).zipIdx s.performed).flatMap fun (call, n) =>
          (call.sends o (document n)).toList := by
  refine ⟨fun n contents => contents.encode (s.supply n), ?decode, ?client, ?record⟩
  case decode =>
    intro n c
    exact (Space.Document.decode_toText _).trans
      (congrArg Except.ok (c.contents_document (s.supply n)))
  case client =>
    intro n call σ client state
    rw [Task.run_recording, hs, Provider.request?_task]
    rfl
  case record =>
    rw [(asks_runFrom answers s steps).calls, requests, hs]
    simp only [Provider.request?_task]

/-- A metric view in whose name there is a back-quote. -/
def viewPlan : Json :=
  .object [("warehouse_id", .string "main"), ("name", .string "net\x60sales"),
    ("catalog_name", .string "main"), ("schema_name", .string "eu"),
    ("yaml_specification", .string "version: 1.1")]

/-- The name of the view as statements have it. -/
def viewSqlName : String := "\x60main\x60.\x60eu\x60.\x60net\x60\x60sales\x60"

/-- A table that is managed by statements of the user. -/
def tablePlan : Json :=
  .object [("warehouse_id", .string "etl"), ("create_sql", .string "CREATE TABLE t (n INT)"),
    ("read_sql", .string "DESCRIBE t"), ("destroy_sql", .string "DROP TABLE t"),
    ("object_name", .string "t")]

/-- Steps with all four kinds of resources. -/
def mixedSteps : List Step :=
  [.call (.create "databricks_genie_space" (.value GenieSpace.barePlan)),
   .call (.read "databricks_app_deployment" (.value (.object []))),
   .live (.create "databricks_app_deployment" (.value (.object [("app_name", .string "sales")]))),
   .live (.create "databricks_metric_view" (.value viewPlan)),
   .call (.update "databricks_metric_view" (.value viewPlan) (.value viewPlan)),
   .call (.delete "databricks_metric_view" (.value viewPlan)),
   .live (.crud "databricks_sql_execution" (.value tablePlan) (.value tablePlan))]

/-- A deployment that lacks its names is not asked for, a lifecycle goes on to read what it made, and
    an update of a table sends no statement. -/
theorem calls_runFrom_newSession :
    ∃ document, Contents.decode document = .ok ⟨[], []⟩ ∧
      (GenieSpace.newSession.runFrom [] mixedSteps).2.calls =
        [.createSpace ⟨"Sales", "main", "", "", document⟩, .deploy ⟨"sales", ""⟩,
         .getDeployment "sales" "deploy-2",
         .executeStatement ⟨"CREATE METRIC VIEW " ++ viewSqlName ++ " AS\nversion: 1.1;", "main",
           "50s", .cancel⟩,
         .executeStatement ⟨"DESCRIBE EXTENDED " ++ viewSqlName ++ ";", "main", "50s", .cancel⟩,
         .executeStatement ⟨"CREATE OR REPLACE METRIC VIEW " ++ viewSqlName ++
           " AS\nversion: 1.1;", "main", "50s", .cancel⟩,
         .executeStatement ⟨"DROP METRIC VIEW IF EXISTS " ++ viewSqlName ++ ";", "main", "50s",
           .cancel⟩,
         .executeStatement ⟨"CREATE TABLE t (n INT)", "etl", "50s", .cancel⟩,
         .executeStatement ⟨"DESCRIBE t", "etl", "50s", .cancel⟩,
         .executeStatement ⟨"DESCRIBE t", "etl", "50s", .cancel⟩,
         .executeStatement ⟨"DROP TABLE t", "etl", "50s", .cancel⟩] := by
  obtain ⟨document, hdecode, -, hcalls⟩ :=
    calls_runFrom (s := GenieSpace.newSession) (o := .standard) rfl [] mixedSteps
  exact ⟨document 0 ⟨[], []⟩, hdecode 0 _, hcalls⟩

end Session

end Provisioner
