import Provisioner.Proofs.GenieSpace.Drift
import Provisioner.Proofs.Session.Standard
import Provisioner.Proofs.Workspace.Statements
/-!
# Failures that stick and numbers without gaps

A failure stops all calls of its kind, whoever makes them, directly or through a provider, from when
it is set until another one takes its place (`Workspace.Refuses`). Nobody else notices it
(`Workspace.Spares`). The numbers are those of the calls that make something and are not stopped
(`failures_stick_numbers_follow`).
-/

namespace Provisioner

open Api

variable {w : Workspace} {s : Session} {call : Call Json} {r : Request} {e : ApiError}
  {resume : Except ApiError r.Answer → Except Failure call.Reply}

/-- A relay passes the error of a failure on as it is. -/
theorem relay_of_failure (h : w.failures r.operation = some e) (amendments : Amendments) :
    relay amendments r w = (.error e, w) := by
  unfold relay
  rw [Workspace.answer_of_failure h]
  dsimp only
  split <;> rfl

theorem Session.perform_of_stopped
    (htask : s.provider.task (s.supply s.performed) call = .call r resume)
    (h : s.workspace.failures r.operation = some e) :
    (s.perform call).1 = resume (.error e) ∧ (s.perform call).2.workspace = s.workspace := by
  have hrun : (s.provider.task (s.supply s.performed) call).run (relay s.amendments) s.workspace =
      (resume (.error e), s.workspace) := by
    rw [htask, Task.run, relay_of_failure h]
  exact ⟨congrArg Prod.fst hrun, congrArg Prod.snd hrun⟩

namespace Workspace

/-- Calls of a kind fail with an error and do nothing to the workspace, be they made directly or by
    some provider, with or without a relay. -/
structure Refuses (w : Workspace) (operation : Operation) (e : ApiError) : Prop where
  direct : ∀ r, r.operation = operation → w.answer r = (.error e, w)
  performed : ∀ (s : Session) (call : Call Json) r resume, s.workspace = w →
    s.provider.task (s.supply s.performed) call = .call r resume → r.operation = operation →
    (s.perform call).1 = resume (.error e) ∧ (s.perform call).2.workspace = w

/-- The workspace is one without the failure of a kind of calls, but for this failure, and calls of
    all other kinds are answered there, and do, just the same. -/
structure Spares (w free : Workspace) (operation : Operation) (e : ApiError) : Prop where
  eq_fail : w = free.fail operation e
  answer : ∀ r, r.operation ≠ operation →
    w.answer r = ((free.answer r).1, (free.answer r).2.fail operation e)

theorem refuses_of_failure {operation : Operation} (h : w.failures operation = some e) :
    w.Refuses operation e where
  direct := by
    rintro r rfl
    exact answer_of_failure h
  performed := by
    rintro s call r resume rfl htask rfl
    exact Session.perform_of_stopped htask h

theorem spares_fail (free : Workspace) (operation : Operation) (e : ApiError) :
    (free.fail operation e).Spares free operation e where
  eq_fail := rfl
  answer _ := answer_fail

end Workspace

open Workspace

/-- After any moves, the failure set last for a kind of calls meets all calls of this kind, and the
    workspace is else what it is without the failure and without the calls that it has stopped. A
    call that makes something and meets no failure is given the number that follows the number of
    such calls before it, which is within 64 bits for as long as the calls are. It makes what it is to
    make, unless it is a statement that a rule answers with an error. -/
theorem failures_stick_numbers_follow (ms : List Move) :
    (∀ before operation e after, ms = before ++ .fail operation e :: after →
      (∀ e', Move.fail operation e' ∉ after) →
      (empty.playAll ms).Refuses operation e ∧
      (empty.playAll ms).Spares
        (empty.playAll (before ++ after.filter fun m => !m.isCallOf operation)) operation e) ∧
    (∀ r kind, r.numberedAs? = some kind → (∀ e, Move.fail r.operation e ∉ ms) →
      ((ms ++ [Move.request r]).filterMap Move.request?).length < UInt64.size →
      ∃ n, n = (numberedCalls ms).length + 1 ∧ n < UInt64.size ∧
        (∀ a, ((empty.playAll ms).answer r).1 = .ok a → r.given? a = some (numbered kind n)) ∧
        (r.operation ≠ .executeStatement → ∃ a, ((empty.playAll ms).answer r).1 = .ok a)) := by
  refine ⟨?failures, ?numbers⟩
  case failures =>
    rintro before operation e after rfl hlast
    have hbreaks := not_breaks_of_not_mem hlast
    have hrun : empty.playAll (before ++ .fail operation e :: after) =
        ((empty.playAll before).fail operation e).playAll after := playAll_append ..
    constructor
    · rw [hrun]
      exact refuses_of_failure (failures_of_set _ e hlast)
    · rw [hrun, playAll_fail hbreaks, playAll_append]
      exact spares_fail _ operation e
  case numbers =>
    intro r kind hkind hunset hcalls
    have hfree := failures_eq_none_iff.mpr hunset
    have hcount := length_numberedCalls_le ms
    rw [List.filterMap_append, List.length_append] at hcalls
    refine ⟨_, rfl, ?bound, ?given, ?made⟩
    case bound => exact Nat.lt_of_le_of_lt (Nat.add_le_add_right hcount 1) hcalls
    case given =>
      intro a ha
      rw [answer_of_no_failure hfree] at ha
      rw [given?_of_serve hkind ha, nextId, lastNumber_playAll]
    case made =>
      intro hr
      rw [answer_of_no_failure hfree]
      exact exists_of_serve hkind hr _

/-- The failure that stops the second of two creates. -/
def noFolder : ApiError := ⟨403, "PERMISSION_DENIED", "not in this folder"⟩

/-- Two creates with the failure between them, and a statement that a rule refuses. -/
def stoppedMoves : List Move :=
  [.request (.createSpace ⟨"Sales", "main", "", "", "{}"⟩),
   .fail .createSpace noFolder,
   .request (.createSpace ⟨"Stock", "main", "", "", "{}"⟩),
   .respond "DROP" (.error (.notFound "no such table")),
   .request (.executeStatement (statementOf "DROP TABLE t"))]

/-- A provider fails to create a space, too. The stopped create has taken no number, the refused
    statement has taken the second one. -/
theorem failures_stick_numbers_follow_stopped :
    let s : Session := { GenieSpace.newSession with workspace := empty.playAll stoppedMoves }
    (s.perform (.create "databricks_genie_space" GenieSpace.barePlan)).1 =
        .error (.api "failed to create genie space" noFolder) ∧
      (s.perform (.create "databricks_genie_space" GenieSpace.barePlan)).2.workspace =
        s.workspace ∧
      ∃ d, ((empty.playAll stoppedMoves).answer (.deploy ⟨"sales", "v1"⟩)).1 = .ok d ∧
        d.deploymentId = "deploy-3" := by
  obtain ⟨hfailures, hnumbers⟩ := failures_stick_numbers_follow stoppedMoves
  obtain ⟨hrefuses, -⟩ := hfailures (stoppedMoves.take 1) .createSpace noFolder
    (stoppedMoves.drop 2) rfl (by simp [stoppedMoves])
  obtain ⟨hcreate, hworkspace⟩ := hrefuses.performed
    { GenieSpace.newSession with workspace := empty.playAll stoppedMoves }
    (.create "databricks_genie_space" GenieSpace.barePlan) _ _ rfl rfl rfl
  refine ⟨hcreate, hworkspace, ?_⟩
  obtain ⟨n, hn, -, hgiven, hmade⟩ := hnumbers (.deploy ⟨"sales", "v1"⟩) "deploy" rfl
    (by simp [stoppedMoves, Request.operation]) (by decide)
  have hcount : (numberedCalls stoppedMoves).length = 2 := rfl
  obtain ⟨d, hd⟩ := hmade (by decide)
  have hid := Option.some.inj (hgiven d hd)
  rw [hn, hcount] at hid
  exact ⟨d, hd, hid⟩

end Provisioner
