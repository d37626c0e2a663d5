import Provisioner.Session.Step
/-!
# The calls that a session makes of its provider

Whatever steps a session takes, its provider sees a sequence of calls, the trace of the session
(`Session.trace`). A lifecycle contributes the calls that it consists of, up to the first failure
(`Session.liveCalls`), and every other step one call or none. To take the steps is, apart from the
edits of the workspace in between, to perform the trace.
-/

namespace Provisioner

variable {α β : Type} {s : Session} {cs : List (Call Json)}

namespace Session

/-- The session after some calls of the provider, whatever becomes of each of them. -/
def performAll (s : Session) (cs : List (Call Json)) : Session :=
  cs.foldl (fun s c => (s.perform c).2) s

theorem performAll_append (s : Session) (cs cs' : List (Call Json)) :
    s.performAll (cs ++ cs') = (s.performAll cs).performAll cs' :=
  List.foldl_append

theorem snd_perform (c : Call Json) (s : Session) : (s.perform c).2 = s.performAll [c] := rfl

/-! ### Lifecycles -/

/-- The calls that follow a step, if it succeeds. -/
def following (step : Except Failure α × Session) (calls : α → Session → List (Call Json)) :
    List (Call Json) :=
  match step with
  | (.error _, _) => []
  | (.ok a, s) => calls a s

def createCalls (typeName : String) (config : Json) (s : Session) : List (Call Json) :=
  .create typeName config ::
    following (s.perform (.create typeName config)) fun state _ => [.read typeName state]

def updateCalls (typeName : String) (prior plan : Json) (s : Session) : List (Call Json) :=
  .update typeName prior plan ::
    following (s.perform (.update typeName prior plan)) fun state _ => [.read typeName state]

def importCalls (typeName id : String) (s : Session) : List (Call Json) :=
  .importResource typeName id ::
    following (s.perform (.importResource typeName id)) fun i _ => [.read typeName i.state]

/-- The calls that a lifecycle makes of the provider. -/
def liveCalls : Lifecycle Json → Session → List (Call Json)
  | .create t config, s => s.createCalls t config
  | .update t prior plan, s => s.updateCalls t prior plan
  | .importResource t id, s => s.importCalls t id
  | .crud t initial updated, s =>
      s.createCalls t initial ++ following (s.lifecycleCreate t initial) fun created s =>
        s.updateCalls t created updated ++
          following (s.lifecycleUpdate t created updated) fun state _ => [.delete t state]

theorem snd_andThen {step : Except Failure α × Session}
    {next : α → Session → Except Failure β × Session} {calls : α → Session → List (Call Json)}
    (hstep : step.2 = s.performAll cs)
    (hnext : ∀ a (s' : Session), (next a s').2 = s'.performAll (calls a s')) :
    (andThen step next).2 = s.performAll (cs ++ following step calls) := by
  rcases step with ⟨result, s'⟩
  rw [performAll_append, ← hstep]
  cases result with
  | error f => rfl
  | ok a => exact hnext a s'

/-- The last call of a sequence. -/
theorem snd_andThen_last {step : Except Failure α × Session}
    {next : α → Session → Except Failure β × Session} (hstep : step.2 = s.performAll cs)
    (hnext : ∀ a (s' : Session), (next a s').2 = s') :
    (andThen step next).2 = s.performAll cs := by
  rcases step with ⟨result, s'⟩
  cases result with
  | error f => exact hstep
  | ok a => exact (hnext a s').trans hstep

theorem snd_readExisting (typeName : String) (state : Json) (s : Session) :
    (s.readExisting typeName state).2 = s.performAll [.read typeName state] := by
  apply snd_andThen_last (snd_perform (.read typeName state) s)
  intro found s'
  cases found <;> rfl

theorem snd_lifecycleCreate (typeName : String) (config : Json) (s : Session) :
    (s.lifecycleCreate typeName config).2 = s.performAll (s.createCalls typeName config) :=
  snd_andThen (snd_perform (.create typeName config) s) fun state s' =>
    snd_readExisting typeName state s'

theorem snd_lifecycleUpdate (typeName : String) (prior plan : Json) (s : Session) :
    (s.lifecycleUpdate typeName prior plan).2 =
      s.performAll (s.updateCalls typeName prior plan) :=
  snd_andThen (snd_perform (.update typeName prior plan) s) fun state s' =>
    snd_readExisting typeName state s'

theorem snd_lifecycleImport (typeName id : String) (s : Session) :
    (s.lifecycleImport typeName id).2 = s.performAll (s.importCalls typeName id) :=
  snd_andThen (snd_perform (.importResource typeName id) s) fun i s' =>
    snd_readExisting typeName i.state s'

/-- A lifecycle performs its calls, and does nothing else. -/
theorem snd_live (l : Lifecycle Json) (s : Session) :
    (s.live l).2 = s.performAll (s.liveCalls l) := by
  cases l with
  | create t config => exact s.snd_lifecycleCreate t config
  | update t prior plan => exact s.snd_lifecycleUpdate t prior plan
  | importResource t id => exact s.snd_lifecycleImport t id
  | crud t initial updated =>
    refine snd_andThen (s.snd_lifecycleCreate t initial) fun created s' => ?_
    refine snd_andThen (s'.snd_lifecycleUpdate t created updated) fun state s'' => ?_
    exact snd_andThen_last (snd_perform (.delete t state) s'') fun _ _ => rfl

/-! ### Steps -/

/-- The calls that a step makes of the provider. -/
def made (answers : List StepAnswer) (s : Session) : Step → List (Call Json)
  | .call c => [c.map (·.resolve answers)]
  | .live l => s.liveCalls (l.map (·.resolve answers))
  | _ => []

/-- A step without calls of the provider changes the workspace alone. -/
theorem step_of_no_call (answers : List StepAnswer) (s : Session) {step : Step}
    (hcall : ∀ c, step ≠ .call c) (hlive : ∀ l, step ≠ .live l) :
    s.made answers step = [] ∧ ∃ w, (s.step answers step).2 = { s with workspace := w } := by
  cases step with
  | call c => exact absurd rfl (hcall c)
  | live l => exact absurd rfl (hlive l)
  | modifySpace spaceId edits =>
    refine ⟨rfl, ?_⟩
    simp only [Session.step, modifySpace]
    split
    · exact ⟨s.workspace, rfl⟩
    · split
      · exact ⟨s.workspace, rfl⟩
      · exact ⟨_, rfl⟩
  | _ => exact ⟨rfl, _, rfl⟩

/-- A step performs its calls of the provider, and is else an edit of the workspace. -/
theorem snd_step (answers : List StepAnswer) (s : Session) (step : Step) :
    ∃ w, (s.step answers step).2 = { s.performAll (s.made answers step) with workspace := w } := by
  by_cases hcall : ∃ c, step = .call c
  · rcases hcall with ⟨c, rfl⟩
    exact ⟨_, rfl⟩
  by_cases hlive : ∃ l, step = .live l
  · rcases hlive with ⟨l, rfl⟩
    exact ⟨(s.performAll (s.made answers (.live l))).workspace, snd_live (l.map _) s⟩
  obtain ⟨hmade, w, hw⟩ := step_of_no_call answers s
    (fun c h => hcall ⟨c, h⟩) (fun l h => hlive ⟨l, h⟩)
  refine ⟨w, ?_⟩
  rw [hw, hmade]
  rfl

/-- The calls of the provider in some steps, in order. -/
def trace (answers : List StepAnswer) (s : Session) : List Step → List (Call Json)
  | [] => []
  | first :: rest =>
      s.made answers first ++
        trace (answers ++ [(s.step answers first).1]) (s.step answers first).2 rest

end Session

/-!
## The calls of a session and their results

A run is seen from its provider as a list of exchanges: the calls of the trace, each with the result
that it had when its turn came (`Session.exchanges`). What holds of any call of a provider then holds
of every exchange of its sessions, since a session keeps its provider
(`Session.forall_mem_exchanges`).
-/

/-- A call of a provider and its result. -/
structure Exchange where
  call : Call Json
  result : Except Failure call.Reply

namespace Session

variable {p : Provider} {P : Exchange → Prop}

/-- Some calls, one after the other, with their results. -/
def exchangesOf (s : Session) : List (Call Json) → List Exchange
  | [] => []
  | c :: cs => ⟨c, (s.perform c).1⟩ :: exchangesOf (s.perform c).2 cs

/-- The calls of the provider in some steps, in order, with their results. -/
def exchanges (answers : List StepAnswer) (s : Session) : List Step → List Exchange
  | [] => []
  | first :: rest =>
      s.exchangesOf (s.made answers first) ++
        exchanges (answers ++ [(s.step answers first).1]) (s.step answers first).2 rest

theorem map_call_exchangesOf (s : Session) (cs : List (Call Json)) :
    (s.exchangesOf cs).map Exchange.call = cs := by
  induction cs generalizing s with
  | nil => rfl
  | cons c cs ih => rw [exchangesOf, List.map_cons, ih]

/-- The exchanges are about the calls of the trace. -/
theorem map_call_exchanges (answers : List StepAnswer) (s : Session) (steps : List Step) :
    (s.exchanges answers steps).map Exchange.call = s.trace answers steps := by
  induction steps generalizing answers s with
  | nil => rfl
  | cons first rest ih => rw [exchanges, trace, List.map_append, map_call_exchangesOf, ih]

theorem provider_performAll (s : Session) (cs : List (Call Json)) :
    (s.performAll cs).provider = s.provider := by
  induction cs generalizing s with
  | nil => rfl
  | cons c cs ih => exact ih (s.perform c).2

theorem provider_step (answers : List StepAnswer) (s : Session) (step : Step) :
    (s.step answers step).2.provider = s.provider := by
  obtain ⟨w, hw⟩ := snd_step answers s step
  rw [hw]
  exact provider_performAll s _

theorem forall_mem_exchangesOf (h : ∀ (s : Session) c, s.provider = p → P ⟨c, (s.perform c).1⟩)
    (hs : s.provider = p) (cs : List (Call Json)) : ∀ e ∈ s.exchangesOf cs, P e := by
  induction cs generalizing s with
  | nil => exact fun e he => absurd he List.not_mem_nil
  | cons c cs ih =>
    intro e he
    rcases List.mem_cons.mp he with rfl | he
    · exact h s c hs
    · exact ih (s := (s.perform c).2) hs e he

/-- What holds of every call of a provider and its result holds of the exchanges of a run. -/
theorem forall_mem_exchanges (h : ∀ (s : Session) c, s.provider = p → P ⟨c, (s.perform c).1⟩)
    (hs : s.provider = p) (answers : List StepAnswer) (steps : List Step) :
    ∀ e ∈ s.exchanges answers steps, P e := by
  induction steps generalizing answers s with
  | nil => exact fun e he => absurd he List.not_mem_nil
  | cons first rest ih =>
    intro e he
    rcases List.mem_append.mp he with he | he
    · exact forall_mem_exchangesOf h hs _ e he
    · exact ih ((provider_step answers s first).trans hs) _ e he

end Session

end Provisioner
