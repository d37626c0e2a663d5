import Mathlib.Data.List.Forall2
import Provisioner.Proofs.Session.Trace
/-!
# What a lifecycle is made of

A lifecycle has a plan: the calls that it makes if all goes well (`Lifecycle.plan`). It follows its
plan up to the first call that fails, or that finds the object gone (`UpToFailure`), and it succeeds
if there is none (`Session.carriesOut_live`). With the plans of all steps the exchanges of a run are
accounted for (`Session.upToFailure_exchanges`).
-/

namespace Provisioner

variable {α β : Type}

/-- The call without the states that it brings. -/
def Call.outline (c : Call α) : Call Unit := c.map fun _ => ()

def Call.isRead : Call α → Bool
  | read _ _ => true
  | _ => false

/-- The calls that a lifecycle is meant to make. -/
def Lifecycle.plan : Lifecycle α → List (Call Unit)
  | create t _ => [.create t (), .read t ()]
  | update t _ _ => [.update t () (), .read t ()]
  | importResource t id => [.importResource t id, .read t ()]
  | crud t _ _ => [.create t (), .read t (), .update t () (), .read t (), .delete t ()]

/-- The calls of the provider that a step is meant to make. -/
def Step.plan : Step → List (Call Unit)
  | call c => [c.outline]
  | live l => l.plan
  | _ => []

/-! ### Following a plan -/

namespace Exchange

def Failed (e : Exchange) : Prop := ∃ f, e.result = .error f

/-- What a read has found: a state, or nothing if the object is gone. -/
def found? : Exchange → Option (Option Json)
  | ⟨.read _ _, .ok found⟩ => some found
  | _ => none

/-- A lifecycle goes on after this exchange. -/
def GoesOn (e : Exchange) : Prop := ¬ e.Failed ∧ e.found? ≠ some none

theorem found?_error (c : Call Json) (f : Failure) : found? ⟨c, .error f⟩ = none := by
  cases c <;> rfl

theorem found?_of_not_isRead {c : Call Json} (h : c.isRead = false)
    (result : Except Failure c.Reply) : found? ⟨c, result⟩ = none := by
  cases c with
  | read t state => exact absurd h Bool.noConfusion
  | _ => rfl

theorem goesOn_of_not_isRead {c : Call Json} (h : c.isRead = false)
    (result : Except Failure c.Reply) :
    Exchange.GoesOn ⟨c, result⟩ ↔ ∃ reply, result = .ok reply := by
  have hfound : Exchange.found? ⟨c, result⟩ ≠ some none := by
    rw [found?_of_not_isRead h]
    exact (Option.some_ne_none none).symm
  rw [GoesOn, and_iff_left hfound]
  cases result <;> simp [Failed]

end Exchange

/-- The exchanges are about the calls of a plan, one after the other, up to the first that does not
    go on. -/
inductive UpToFailure : List (Call Unit) → List Exchange → Prop
  | done : UpToFailure [] []
  | goesOn {e : Exchange} {es : List Exchange} {planned : List (Call Unit)} (h : e.GoesOn)
      (hrest : UpToFailure planned es) : UpToFailure (e.call.outline :: planned) (e :: es)
  | stops {e : Exchange} {planned : List (Call Unit)} (h : ¬ e.GoesOn) :
      UpToFailure (e.call.outline :: planned) [e]

variable {es es' : List Exchange} {planned planned' : List (Call Unit)}

namespace UpToFailure

theorem single (e : Exchange) : UpToFailure [e.call.outline] [e] := by
  by_cases h : e.GoesOn
  · exact .goesOn h .done
  · exact .stops h

/-- What has stopped does not take up another plan. -/
theorem stopped (h : UpToFailure planned es) (hstop : ¬ ∀ e ∈ es, e.GoesOn) :
    UpToFailure (planned ++ planned') es := by
  induction h with
  | done => exact absurd (fun e he => absurd he List.not_mem_nil) hstop
  | goesOn h hrest ih =>
    refine .goesOn h (ih fun hall => hstop ?_)
    exact List.forall_mem_cons.mpr ⟨h, hall⟩
  | stops h => exact .stops h

theorem append (h : UpToFailure planned es) (hall : ∀ e ∈ es, e.GoesOn)
    (h' : UpToFailure planned' es') : UpToFailure (planned ++ planned') (es ++ es') := by
  induction h with
  | done => exact h'
  | goesOn h hrest ih => exact .goesOn h (ih (List.forall_mem_cons.mp hall).2)
  | stops h => exact absurd (hall _ (List.mem_singleton_self _)) h

end UpToFailure

namespace Session

variable {s : Session} {cs : List (Call Json)}

/-! ### Lifecycles -/

theorem exchangesOf_append (s : Session) (cs cs' : List (Call Json)) :
    s.exchangesOf (cs ++ cs') = s.exchangesOf cs ++ (s.performAll cs).exchangesOf cs' := by
  induction cs generalizing s with
  | nil => rfl
  | cons c cs ih =>
    rw [List.cons_append, exchangesOf, exchangesOf, ih, List.cons_append]
    rfl

/-- The calls follow a plan, and the result is a success if none of them stops it. -/
structure CarriesOut (s : Session) (planned : List (Call Unit)) (cs : List (Call Json))
    (result : Except Failure α) : Prop where
  upToFailure : UpToFailure planned (s.exchangesOf cs)
  succeeds : (∃ a, result = .ok a) ↔ ∀ e ∈ s.exchangesOf cs, e.GoesOn

theorem carriesOut_perform {c : Call Json} (h : c.isRead = false) (s : Session) :
    s.CarriesOut [c.outline] [c] (s.perform c).1 where
  upToFailure := .single ⟨c, (s.perform c).1⟩
  succeeds := by
    rw [← Exchange.goesOn_of_not_isRead h]
    exact List.forall_mem_singleton.symm

theorem carriesOut_readExisting (typeName : String) (state : Json) (s : Session) :
    s.CarriesOut [.read typeName ()] [.read typeName state]
      (s.readExisting typeName state).1 where
  upToFailure := .single ⟨.read typeName state, (s.perform (.read typeName state)).1⟩
  succeeds := by
    rw [readExisting, exchangesOf]
    rcases s.perform (.read typeName state) with ⟨f | found, s'⟩
    · simp [andThen, exchangesOf, Exchange.GoesOn, Exchange.Failed]
    · cases found <;>
        simp [andThen, exchangesOf, Exchange.GoesOn, Exchange.Failed, Exchange.found?]

theorem carriesOut_andThen {step : Except Failure α × Session}
    {next : α → Session → Except Failure β × Session} {calls : α → Session → List (Call Json)}
    (h : s.CarriesOut planned cs step.1) (hstep : step.2 = s.performAll cs)
    (hnext : ∀ a (s' : Session), s'.CarriesOut planned' (calls a s') (next a s').1) :
    s.CarriesOut (planned ++ planned') (cs ++ following step calls) (andThen step next).1 := by
  rcases step with ⟨f | a, s'⟩
  -- After a failure nothing follows, and the plan of what would follow is cut off with it.
  · have hstop : ¬ ∀ e ∈ s.exchangesOf cs, e.GoesOn := by
      rw [← h.succeeds]
      rintro ⟨a, ha⟩
      cases ha
    rw [following, andThen, List.append_nil]
    refine ⟨h.upToFailure.stopped hstop, iff_of_false ?_ hstop⟩
    rintro ⟨b, hb⟩
    cases hb
  · have hall : ∀ e ∈ s.exchangesOf cs, e.GoesOn := h.succeeds.mp ⟨a, rfl⟩
    have hrest := hnext a s'
    obtain rfl : s' = s.performAll cs := hstep
    rw [following, andThen]
    refine ⟨?follows, ?succeeds⟩
    case follows =>
      rw [exchangesOf_append]
      exact h.upToFailure.append hall hrest.upToFailure
    case succeeds =>
      rw [hrest.succeeds, exchangesOf_append, List.forall_mem_append, and_iff_right hall]

/-- The last call of a lifecycle, whose result stays what it was. -/
theorem carriesOut_last {step : Except Failure α × Session} (b : β)
    (h : s.CarriesOut planned cs step.1) :
    s.CarriesOut planned cs (andThen step fun _ s' => (.ok b, s')).1 := by
  refine ⟨h.upToFailure, ?_⟩
  rw [← h.succeeds]
  rcases step with ⟨f | a, s'⟩ <;> simp [andThen]

theorem carriesOut_lifecycleCreate (t : String) (config : Json) (s : Session) :
    s.CarriesOut [.create t (), .read t ()] (s.createCalls t config)
      (s.lifecycleCreate t config).1 :=
  carriesOut_andThen (carriesOut_perform rfl s)
    (snd_perform (.create t config) s) fun state s' => carriesOut_readExisting t state s'

theorem carriesOut_lifecycleUpdate (t : String) (prior plan : Json) (s : Session) :
    s.CarriesOut [.update t () (), .read t ()] (s.updateCalls t prior plan)
      (s.lifecycleUpdate t prior plan).1 :=
  carriesOut_andThen (carriesOut_perform rfl s)
    (snd_perform (.update t prior plan) s) fun state s' => carriesOut_readExisting t state s'

/-- A lifecycle carries out its plan. -/
theorem carriesOut_live (l : Lifecycle Json) (s : Session) :
    s.CarriesOut l.plan (s.liveCalls l) (s.live l).1 := by
  cases l with
  | create t config => exact carriesOut_lifecycleCreate t config s
  | update t prior plan => exact carriesOut_lifecycleUpdate t prior plan s
  | importResource t id =>
    exact carriesOut_andThen (carriesOut_perform rfl s)
      (snd_perform (.importResource t id) s) fun i s' => carriesOut_readExisting t i.state s'
  | crud t initial updated =>
    refine carriesOut_andThen (carriesOut_lifecycleCreate t initial s)
      (s.snd_lifecycleCreate t initial) fun created s' => ?_
    refine carriesOut_andThen (carriesOut_lifecycleUpdate t created updated s')
      (s'.snd_lifecycleUpdate t created updated) fun state s'' => ?_
    have hdelete : Call.isRead (.delete t state) = false := rfl
    exact carriesOut_last state (carriesOut_perform hdelete s'')

/-! ### Runs -/

theorem upToFailure_made (answers : List StepAnswer) (s : Session) (step : Step) :
    UpToFailure step.plan (s.exchangesOf (s.made answers step)) := by
  cases step with
  | call c =>
    have hplan : c.outline = (c.map (·.resolve answers)).outline := by cases c <;> rfl
    rw [Step.plan, hplan]
    exact .single ⟨_, _⟩
  | live l =>
    have hplan : l.plan = (l.map (·.resolve answers)).plan := by cases l <;> rfl
    rw [Step.plan, hplan]
    exact (carriesOut_live _ s).upToFailure
  | _ => exact .done

/-- The exchanges of a run fall into parts, one for each step, which follows the plan of the step. -/
theorem upToFailure_exchanges (answers : List StepAnswer) (s : Session) (steps : List Step) :
    ∃ parts : List (List Exchange), parts.flatten = s.exchanges answers steps ∧
      List.Forall₂ (fun step es => UpToFailure step.plan es) steps parts := by
  induction steps generalizing answers s with
  | nil => exact ⟨[], rfl, .nil⟩
  | cons first rest ih =>
    obtain ⟨parts, hflatten, hparts⟩ :=
      ih (answers ++ [(s.step answers first).1]) (s.step answers first).2
    refine ⟨s.exchangesOf (s.made answers first) :: parts, ?_, ?_⟩
    · rw [List.flatten_cons, hflatten, exchanges]
    · exact .cons (upToFailure_made answers s first) hparts

end Session

end Provisioner
