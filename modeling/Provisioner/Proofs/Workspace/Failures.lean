import Mathlib.Data.List.Induction
import Provisioner.Proofs.Workspace.Moves
/-!
# Failures that were set

Once a failure is set for a kind of calls, all calls of this kind meet it, until another one is set
in its place (`Workspace.failures_of_set`). They do nothing, so that a run with the failure is the
run without it and without the calls that it stops (`Workspace.playAll_fail`): no other call can
notice it (`Workspace.answer_fail`).

Which calls of a run are stopped is known from the moves alone (`unstopped`). What a workspace has
to show for the calls that are not is found by induction on these calls
(`Workspace.holds_of_served`).
-/

namespace Provisioner

open Api

variable {w : Workspace} {r : Request} {m : Move} {ms : List Move} {operation : Operation}
  {e : ApiError}

namespace Move

def request? : Move → Option Request
  | request r => some r
  | _ => none

/-- The move changes objects without a call. -/
def Edits : Move → Prop
  | insertSpace _ | modifySpace _ _ | removeSpace _ | insertDeployment _ _ => True
  | _ => False

/-- The move is a call of a kind. -/
def isCallOf (operation : Operation) : Move → Bool
  | request r => r.operation = operation
  | _ => false

end Move

/-- The calls among some moves that no failure stops, in order, if calls of some kinds are stopped
    from the start. -/
def unstopped (stopped : List Operation) : List Move → List Request
  | [] => []
  | .request r :: ms =>
      if r.operation ∈ stopped then unstopped stopped ms else r :: unstopped stopped ms
  | .fail operation _ :: ms => unstopped (operation :: stopped) ms
  | _ :: ms => unstopped stopped ms

theorem unstopped_sublist (stopped : List Operation) (ms : List Move) :
    (unstopped stopped ms).Sublist (ms.filterMap Move.request?) := by
  induction ms generalizing stopped with
  | nil => exact .slnil
  | cons m ms ih =>
    cases m with
    | request r =>
      have hcalls : (Move.request r :: ms).filterMap Move.request? =
          r :: ms.filterMap Move.request? := List.filterMap_cons_some rfl
      rw [unstopped, hcalls]
      split
      · exact (ih stopped).cons r
      · exact (ih stopped).cons_cons r
    | fail operation e => exact ih (operation :: stopped)
    | _ => exact ih stopped

namespace Workspace

theorem playAll_snoc (w : Workspace) (ms : List Move) (m : Move) :
    w.playAll (ms ++ [m]) = (w.playAll ms).play m := playAll_append w ms [m]

/-! ### Calls that meet a failure -/

theorem breaks_iff : m.Breaks operation ↔ ∃ e, m = .fail operation e := by
  cases m with
  | fail o e =>
    constructor
    · rintro rfl
      exact ⟨e, rfl⟩
    · rintro ⟨e', h⟩
      cases h
      rfl
  | _ =>
    refine ⟨False.elim, ?_⟩
    rintro ⟨e, h⟩
    cases h

theorem not_breaks_of_not_mem (hms : ∀ e, Move.fail operation e ∉ ms) :
    ∀ m ∈ ms, ¬ m.Breaks operation := by
  intro m hm hbreaks
  obtain ⟨e, rfl⟩ := breaks_iff.mp hbreaks
  exact hms e hm

/-- A failure stays as it was set. -/
theorem failures_of_set (w : Workspace) (e : ApiError)
    (hms : ∀ e', Move.fail operation e' ∉ ms) :
    ((w.fail operation e).playAll ms).failures operation = some e :=
  (failures_playAll (not_breaks_of_not_mem hms)).trans (if_pos rfl)

/-- There is a failure just where somebody has set one. -/
theorem failures_eq_none_iff :
    (empty.playAll ms).failures operation = none ↔ ∀ e, Move.fail operation e ∉ ms := by
  induction ms using List.reverseRecOn with
  | nil => exact ⟨fun _ _ => List.not_mem_nil, fun _ => rfl⟩
  | append_singleton ms m ih =>
    rw [playAll_snoc]
    by_cases hm : m.Breaks operation
    · obtain ⟨e, rfl⟩ := breaks_iff.mp hm
      have hset : ((empty.playAll ms).play (.fail operation e)).failures operation = some e :=
        if_pos rfl
      constructor
      · intro hnone
        cases hset.symm.trans hnone
      · intro hunset
        exact absurd (List.mem_append_right ms List.mem_cons_self) (hunset e)
    · have hlast : ∀ e, .fail operation e ≠ m := fun e he => hm (breaks_iff.mpr ⟨e, he.symm⟩)
      rw [failures_play hm, ih]
      simp [hlast]

/-! ### Calls that meet none -/

/-- A workspace with the same objects, but with its rules and failures changed. -/
def adjust (w : Workspace) (f : List Rule → List Rule)
    (g : (Operation → Option ApiError) → Operation → Option ApiError) : Workspace :=
  { w with rules := f w.rules, failures := g w.failures }

section Adjust

variable {f : List Rule → List Rule}
  {g : (Operation → Option ApiError) → Operation → Option ApiError}

/-- What a call that is served does has nothing to do with rules and failures. -/
theorem snd_serve_adjust (r : Request) :
    (serve r (w.adjust f g)).2 = (serve r w).2.adjust f g := by
  cases r with
  | getSpace r | updateSpace r | trashSpace spaceId =>
    simp only [serve, getSpace, updateSpace, trashSpace, adjust]
    split <;> rfl
  | getDeployment appName deploymentId =>
    simp only [serve, getDeployment, deployment?, adjust]
    split <;> rfl
  | _ => rfl

/-- Of its answer only the outcome of a statement has, with the rules. -/
theorem fst_serve_adjust
    (h : ∀ q, r = .executeStatement q →
      (w.adjust f g).outcome q.statement = w.outcome q.statement) :
    (serve r (w.adjust f g)).1 = (serve r w).1 := by
  cases r with
  | getSpace r | updateSpace r | trashSpace spaceId =>
    simp only [serve, getSpace, updateSpace, trashSpace, adjust]
    split <;> rfl
  | getDeployment appName deploymentId =>
    simp only [serve, getDeployment, deployment?, adjust]
    split <;> rfl
  | executeStatement q =>
    simp only [serve, executeStatement, h q rfl]
    rfl
  | _ => rfl

theorem play_adjust (hm : m.Edits) : (w.adjust f g).play m = (w.play m).adjust f g := by
  cases m with
  | modifySpace spaceId edit =>
    simp only [play, adjust]
    split <;> rfl
  | insertSpace _ | removeSpace _ | insertDeployment _ _ => rfl
  | _ => exact hm.elim

end Adjust

theorem fail_eq (w : Workspace) (operation : Operation) (e : ApiError) :
    w.fail operation e =
      w.adjust id fun failures o => if o = operation then some e else failures o := rfl

theorem failures_fail_of_ne {o : Operation} (h : o ≠ operation) :
    (w.fail operation e).failures o = w.failures o := if_neg h

/-- A call of another kind is answered, and does, what it would without the failure. -/
theorem answer_fail (h : r.operation ≠ operation) :
    (w.fail operation e).answer r = ((w.answer r).1, (w.answer r).2.fail operation e) := by
  unfold answer
  rw [failures_fail_of_ne h]
  split
  · rfl
  · rw [fail_eq, fail_eq]
    exact Prod.ext (fst_serve_adjust fun _ _ => rfl) (snd_serve_adjust r)

theorem fail_comm {o : Operation} (h : o ≠ operation) (w : Workspace) (e e' : ApiError) :
    (w.fail operation e).fail o e' = (w.fail o e').fail operation e := by
  have hfailures : ((w.fail operation e).fail o e').failures =
      ((w.fail o e').fail operation e).failures := by
    funext k
    simp only [fail]
    split
    · rename_i hk
      rw [if_neg (hk ▸ h)]
    · rfl
  exact congrArg (fun failures => { w with failures }) hfailures

theorem play_fail (hcall : m.isCallOf operation = false) (hbreaks : ¬ m.Breaks operation) :
    (w.fail operation e).play m = (w.play m).fail operation e := by
  cases m with
  | request r => exact congrArg Prod.snd (answer_fail (of_decide_eq_false hcall))
  | fail o e' => exact fail_comm hbreaks w e e'
  | respond pattern outcome => rfl
  | insertSpace _ | modifySpace _ _ | removeSpace _ | insertDeployment _ _ =>
    rw [fail_eq, fail_eq]
    exact play_adjust trivial

/-- A run with a failure is the run without it and without the calls that it stops. -/
theorem playAll_fail (hms : ∀ m ∈ ms, ¬ m.Breaks operation) :
    (w.fail operation e).playAll ms =
      (w.playAll (ms.filter fun m => !m.isCallOf operation)).fail operation e := by
  induction ms generalizing w with
  | nil => rfl
  | cons m ms ih =>
    rw [List.forall_mem_cons] at hms
    cases hcall : m.isCallOf operation with
    | false =>
      rw [List.filter_cons_of_pos (by rw [hcall]; rfl), playAll_cons, playAll_cons,
        play_fail hcall hms.1]
      exact ih hms.2
    | true =>
      rw [List.filter_cons_of_neg (by rw [hcall]; decide), playAll_cons]
      have hstopped : (w.fail operation e).play m = w.fail operation e := by
        cases m with
        | request r =>
          have hset : (w.fail operation e).failures r.operation = some e :=
            if_pos (of_decide_eq_true hcall)
          exact congrArg Prod.snd (answer_of_failure hset)
        | _ => cases hcall
      rw [hstopped]
      exact ih hms.2

/-! ### What calls add to -/

/-- Calls of just these kinds are stopped. -/
def StopsJust (w : Workspace) (stopped : List Operation) : Prop :=
  ∀ operation, operation ∈ stopped ↔ ∃ e, w.failures operation = some e

theorem stopsJust_empty : empty.StopsJust [] := by
  intro operation
  constructor
  · intro h
    cases h
  · rintro ⟨e, h⟩
    cases h

theorem StopsJust.fail {stopped : List Operation} (h : w.StopsJust stopped)
    (operation : Operation) (e : ApiError) :
    (w.fail operation e).StopsJust (operation :: stopped) := by
  intro o
  by_cases ho : o = operation
  · subst ho
    exact ⟨fun _ => ⟨e, if_pos rfl⟩, fun _ => List.mem_cons_self⟩
  · rw [List.mem_cons, failures_fail_of_ne ho, ← h o]
    exact ⟨fun hmem => hmem.resolve_left ho, Or.inr⟩

theorem StopsJust.play {stopped : List Operation} (h : w.StopsJust stopped)
    (hm : ∀ o, ¬ m.Breaks o) : (w.play m).StopsJust stopped := by
  intro o
  rw [failures_play (hm o)]
  exact h o

theorem play_of_stopped (h : w.failures r.operation = some e) : w.play (.request r) = w :=
  congrArg Prod.snd (answer_of_failure h)

theorem play_of_free (h : w.failures r.operation = none) : w.play (.request r) = (serve r w).2 :=
  congrArg Prod.snd (answer_of_no_failure h)

section Runs

variable {P : List Request → Workspace → Prop}
  (hserve : ∀ rs w r, P rs w → P (rs ++ [r]) (serve r w).2)
  (hother : ∀ rs w m, m.request? = none → P rs w → P rs (w.play m))

include hserve hother

theorem kept_playAll {stopped : List Operation} {rs : List Request} (hstops : w.StopsJust stopped)
    (h : P rs w) (ms : List Move) : P (rs ++ unstopped stopped ms) (w.playAll ms) := by
  induction ms generalizing w stopped rs with
  | nil =>
    rw [unstopped, List.append_nil]
    exact h
  | cons m ms ih =>
    rw [playAll_cons]
    cases m with
    | request r =>
      rw [unstopped]
      by_cases hr : r.operation ∈ stopped
      · obtain ⟨e, hfailure⟩ := (hstops r.operation).mp hr
        rw [if_pos hr, play_of_stopped hfailure]
        exact ih hstops h
      · have hfree : w.failures r.operation = none :=
          Option.eq_none_iff_forall_ne_some.mpr fun e he => hr ((hstops r.operation).mpr ⟨e, he⟩)
        rw [if_neg hr, List.append_cons]
        refine ih (hstops.play fun _ => id) ?_
        rw [play_of_free hfree]
        exact hserve rs w r h
    | fail operation e => exact ih (hstops.fail operation e) (hother rs w _ rfl h)
    | insertSpace _ | modifySpace _ _ | removeSpace _ | insertDeployment _ _ | respond _ _ =>
      exact ih (hstops.play fun _ => id) (hother rs w _ rfl h)

/-- What holds at first, and is kept by each call that is served and by whatever is no call, holds
    after a run, of the calls that no failure has stopped. -/
theorem holds_of_served (hempty : P [] empty) (ms : List Move) :
    P (unstopped [] ms) (empty.playAll ms) :=
  kept_playAll hserve hother stopsJust_empty hempty ms

end Runs

end Workspace

end Provisioner
