import Provisioner.Proofs.GenieSpace.Drift
import Provisioner.Proofs.Provider.Fitting
import Provisioner.Proofs.Session.Trace
/-!
# States that were returned are taken again

All that travels as JSON is read again as it was written. So whoever feeds the calls of a provider
with states that it returned never meets a state that does not fit, whatever happened in between
(`values_read_back`).
-/

namespace Provisioner

open Json

/-- The state that an exchange brought. -/
def Exchange.state? (e : Exchange) : Option Json := e.result.toOption.bind Call.Reply.state?

/-- A call of the standard provider returns states that its type takes, and takes such states. -/
structure Exchange.Honest (o : Options) (e : Exchange) : Prop where
  returns : ∀ v, e.state? = some v → e.call.Takes o v
  takes : (∀ v ∈ e.call.arguments, e.call.Takes o v) → Fitting e.result

theorem Session.honest_perform {o : Options} {s : Session} (hs : s.provider = .standard o)
    (c : Call Json) : Exchange.Honest o ⟨c, (s.perform c).1⟩ where
  returns v hv := by
    have hends := Provider.returns_task o (s.supply s.performed) c
    rw [← hs] at hends
    obtain ⟨a, ha, hv⟩ := Option.bind_eq_some_iff.mp hv
    exact hends.run (relay s.amendments) s.workspace a (toOption_eq_some_iff.mp ha) v hv
  takes h := by
    have hends := Provider.fitting_task (s.supply s.performed) h
    rw [← hs] at hends
    exact hends.run (relay s.amendments) s.workspace

/-- Every value that travels as JSON is read from its JSON value and from its text as it was written.
    And in every run, a call of the provider does not fail for a state or a configuration that does
    not fit if all that it brings was returned by earlier calls of its type. -/
theorem values_read_back :
    (∀ (t : WireType) (x : t.Value),
      t.codec.ofValue (t.codec.toValue x) = .ok x ∧ t.codec.ofText (t.codec.toText x) = .ok x) ∧
    ∀ (o : Options) (s : Session), s.provider = .standard o →
      ∀ (answers : List StepAnswer) (steps : List Step) (before after : List Exchange)
        (e : Exchange), s.exchanges answers steps = before ++ e :: after →
        (∀ v ∈ e.call.arguments,
          ∃ earlier ∈ before, earlier.call.SameType e.call ∧ earlier.state? = some v) →
        ∀ error, e.result ≠ .error (.serialization error) := by
  constructor
  · intro t x
    have hround := t.faithful.roundTrips
    exact ⟨hround.ofValue_toValue x, hround.ofText_toText x⟩
  · intro o s hs answers steps before after e hexchanges hreturned
    have hhonest : ∀ e' ∈ before ++ e :: after, e'.Honest o := by
      rw [← hexchanges]
      exact Session.forall_mem_exchanges (fun _ c h => Session.honest_perform h c) hs answers steps
    apply (hhonest e (List.mem_append_right _ List.mem_cons_self)).takes
    intro v hv
    obtain ⟨earlier, hmem, htype, hstate⟩ := hreturned v hv
    have htakes := (hhonest earlier (List.mem_append_left _ hmem)).returns v hstate
    exact (Call.takes_congr htype).mp htakes

/-- A deployment is read by the state that its create returned. -/
theorem values_read_back_deployment :
    let steps : List Step :=
      [.call (.create "databricks_app_deployment"
        (.value (.object [("app_name", .string "sales"), ("triggers", .null)]))),
       .call (.read "databricks_app_deployment" (.answer 0 []))]
    ∃ created read, GenieSpace.newSession.exchanges [] steps = [created, read] ∧
      created.state? = some (.object [("app_name", .string "sales"),
        ("deployment_id", .string "deploy-1"), ("source_code_path", .string "")]) ∧
      ∀ error, read.result ≠ .error (.serialization error) := by
  intro steps
  refine ⟨_, _, rfl, rfl, ?_⟩
  apply values_read_back.2 .standard GenieSpace.newSession rfl [] steps [_] [] _ rfl
  intro v hv
  obtain rfl := List.mem_singleton.mp hv
  exact ⟨_, List.mem_singleton_self _, ⟨rfl, rfl⟩, rfl⟩

end Provisioner
