import Provisioner.Task
/-!
# What becomes of the answer to a call

A task leaves its result to the answer that its one call gets. The answers of interest are an error
of the call and, for a statement, the status that it has reached. `Task.Replies` says of a task by
itself what it makes of either, so that the same holds of its runs on every client.
-/

namespace Provisioner

open Api (StatementStatus)

variable {α β σ : Type}

/-- The error tells that the object of the call does not exist any more. -/
def ApiError.Missing (e : ApiError) : Prop :=
  e.status = 404 ∨ e.code = "RESOURCE_DOES_NOT_EXIST" ∨ e.code = "NOT_FOUND"

theorem ApiError.isMissing_iff {e : ApiError} : e.isMissing = true ↔ e.Missing := by
  simp [isMissing, missingCodes, Missing]

/-! ### Kinds of replies -/

section Replies

variable {e : ApiError} {status : StatementStatus} {P : Prop} {a found gone : α}
  {reply : Except Failure α}

/-- The call has failed, and the failure carries the error that it was answered with. -/
def Refused (e : ApiError) (reply : Except Failure α) : Prop :=
  ∃ action, reply = .error (.api action e)

/-- The statement has failed, and the failure says what became of it. -/
def Unsuccessful (status : StatementStatus) (reply : Except Failure α) : Prop :=
  ∃ action, reply = .error (.statement action status.describe)

/-- The error is overlooked under a condition, and else passed on. -/
def Forgives (P : Prop) (a : α) (e : ApiError) (reply : Except Failure α) : Prop :=
  (reply = .ok a ↔ P) ∧ (Refused e reply ↔ ¬ P)

/-- The reply is a success exactly if the statement succeeded, and else the failure of it. -/
def Settles (status : StatementStatus) (reply : Except Failure α) : Prop :=
  ((∃ a, reply = .ok a) ↔ status.state = .succeeded) ∧
    (Unsuccessful status reply ↔ status.state ≠ .succeeded)

/-- Success finds the object. Any other status means that it is gone, under a condition, and is else
    the failure of the statement. -/
def Probes (P : Prop) (found gone : α) (status : StatementStatus) (reply : Except Failure α) :
    Prop :=
  (reply = .ok found ↔ status.state = .succeeded) ∧
    (reply = .ok gone ↔ status.state ≠ .succeeded ∧ P) ∧
    (Unsuccessful status reply ↔ status.state ≠ .succeeded ∧ ¬ P)

theorem Refused.ne_ok (h : Refused e reply) : reply ≠ .ok a := by
  rcases h with ⟨action, rfl⟩
  intro heq
  cases heq

theorem Unsuccessful.ne_ok (h : Unsuccessful status reply) : reply ≠ .ok a := by
  rcases h with ⟨action, rfl⟩
  intro heq
  cases heq

theorem not_refused_ok : ¬ Refused e (.ok a) := fun h => h.ne_ok rfl

theorem not_unsuccessful_ok : ¬ Unsuccessful status (.ok a) := fun h => h.ne_ok rfl

theorem refused_map {f : α → β} : Refused e (reply.map f) ↔ Refused e reply := by
  cases reply <;> simp [Refused, Except.map]

theorem unsuccessful_map {f : α → β} :
    Unsuccessful status (reply.map f) ↔ Unsuccessful status reply := by
  cases reply <;> simp [Unsuccessful, Except.map]

theorem forgives_of_cases (hok : P → reply = .ok a) (hrefused : ¬ P → Refused e reply) :
    Forgives P a e reply := by
  by_cases hP : P
  · simp [Forgives, hok hP, hP, not_refused_ok]
  · simp [Forgives, hrefused hP, (hrefused hP).ne_ok, hP]

theorem Forgives.map (h : Forgives P a e reply) (f : α → β) :
    Forgives P (f a) e (reply.map f) := by
  apply forgives_of_cases
  · intro hP
    rw [h.1.mpr hP]
    rfl
  · intro hP
    exact refused_map.mpr (h.2.mpr hP)

/-- The test of an error that adapters make before they overlook it. -/
theorem forgives_ite {test : Bool} (htest : test = true ↔ P) (a : α) (e : ApiError)
    (action : String) :
    Forgives P a e (if test then .ok a else .error (.api action e)) := by
  apply forgives_of_cases
  · intro hP
    rw [if_pos (htest.mpr hP)]
  · intro hP
    rw [if_neg fun h => hP (htest.mp h)]
    exact ⟨action, rfl⟩

theorem Settles.map (h : Settles status reply) (f : α → β) : Settles status (reply.map f) := by
  refine ⟨?_, unsuccessful_map.trans h.2⟩
  rw [← h.1]
  cases reply <;> simp [Except.map]

theorem settles_require (status : StatementStatus) (action : String) :
    Settles status (status.require action) := by
  unfold StatementStatus.require
  by_cases hsucceeded : status.state = .succeeded
  · simp [Settles, Unsuccessful, hsucceeded]
  · simp [Settles, Unsuccessful, hsucceeded]

theorem probes_of_cases (hne : found ≠ gone) (hfound : status.state = .succeeded → reply = .ok found)
    (hgone : status.state ≠ .succeeded → P → reply = .ok gone)
    (hfailed : status.state ≠ .succeeded → ¬ P → Unsuccessful status reply) :
    Probes P found gone status reply := by
  by_cases hsucceeded : status.state = .succeeded
  · simp [Probes, hfound hsucceeded, hsucceeded, hne, not_unsuccessful_ok]
  · by_cases hP : P
    · simp [Probes, hgone hsucceeded hP, hsucceeded, hP, hne.symm, not_unsuccessful_ok]
    · have h := hfailed hsucceeded hP
      simp [Probes, h, h.ne_ok, hsucceeded, hP]

theorem Probes.map {f : α → β} (h : Probes P found gone status reply) (hne : f found ≠ f gone) :
    Probes P (f found) (f gone) status (reply.map f) := by
  apply probes_of_cases hne
  · intro hsucceeded
    rw [h.1.mpr hsucceeded]
    rfl
  · intro hfailed hP
    rw [h.2.1.mpr ⟨hfailed, hP⟩]
    rfl
  · intro hfailed hP
    exact unsuccessful_map.mpr (h.2.2.mpr ⟨hfailed, hP⟩)

end Replies

/-! ### Tasks -/

namespace Task

variable {client : Client σ} {s : σ} {t : Task α} {e : ApiError} {status : StatementStatus}
  {onError : ApiError → Except Failure α → Prop}
  {onStatus : StatementStatus → Except Failure α → Prop}

/-- The task makes a call, and the client answers it with an error. -/
def FailsWith (t : Task α) (client : Client σ) (s : σ) (e : ApiError) : Prop :=
  ∃ r, t.request? = some r ∧ (client r s).1 = .error e

/-- The task runs a statement, and the client answers that it has reached a status. -/
def Reaches (t : Task α) (client : Client σ) (s : σ) (status : StatementStatus) : Prop :=
  ∃ r id, t.request? = some (.executeStatement r) ∧
    (client (.executeStatement r) s).1 = .ok ⟨id, status⟩

/-- The task runs a statement, or fails to have it run, with this answer. -/
def Answered (t : Task α) (client : Client σ) (s : σ) : Except ApiError StatementStatus → Prop
  | .error e => t.FailsWith client s e
  | .ok status => t.Reaches client s status

/-- If the task makes a call, this is what it makes of an error and of the status of a statement. -/
def Replies (onError : ApiError → Except Failure α → Prop)
    (onStatus : StatementStatus → Except Failure α → Prop) : Task α → Prop
  | .done _ => True
  | .call (.executeStatement _) resume =>
      (∀ e, onError e (resume (.error e))) ∧
        ∀ id status, onStatus status (resume (.ok ⟨id, status⟩))
  | .call _ resume => ∀ e, onError e (resume (.error e))

theorem Replies.of_failsWith (h : t.Replies onError onStatus) (hfails : t.FailsWith client s e) :
    onError e (t.run client s).1 := by
  rcases hfails with ⟨r, hrequest, herror⟩
  cases t with
  | done result => cases hrequest
  | call r' resume =>
    obtain rfl : r' = r := Option.some.inj hrequest
    show onError e (resume (client r' s).1)
    rw [herror]
    cases r' with
    | executeStatement r => exact h.1 e
    | _ => exact h e

theorem Replies.of_reaches (h : t.Replies onError onStatus) (hreaches : t.Reaches client s status) :
    onStatus status (t.run client s).1 := by
  rcases hreaches with ⟨r, id, hrequest, hanswer⟩
  cases t with
  | done result => cases hrequest
  | call r' resume =>
    obtain rfl : r' = .executeStatement r := Option.some.inj hrequest
    show onStatus status (resume (client (.executeStatement r) s).1)
    rw [hanswer]
    exact h.2 id status

theorem Replies.map {onError' : ApiError → Except Failure β → Prop}
    {onStatus' : StatementStatus → Except Failure β → Prop} {f : α → β}
    (h : t.Replies onError onStatus)
    (herror : ∀ e reply, onError e reply → onError' e (reply.map f))
    (hstatus : ∀ status reply, onStatus status reply → onStatus' status (reply.map f)) :
    (t.map f).Replies onError' onStatus' := by
  cases t with
  | done result => trivial
  | call r resume =>
    cases r with
    | executeStatement r =>
      exact ⟨fun e => herror e _ (h.1 e), fun id status => hstatus status _ (h.2 id status)⟩
    | _ => exact fun e => herror e _ (h e)

theorem Replies.mono {onError' : ApiError → Except Failure α → Prop}
    {onStatus' : StatementStatus → Except Failure α → Prop} (h : t.Replies onError onStatus)
    (herror : ∀ e reply, onError e reply → onError' e reply)
    (hstatus : ∀ status reply, onStatus status reply → onStatus' status reply) :
    t.Replies onError' onStatus' := by
  cases t with
  | done result => trivial
  | call r resume =>
    cases r with
    | executeStatement r =>
      exact ⟨fun e => herror e _ (h.1 e), fun id status => hstatus status _ (h.2 id status)⟩
    | _ => exact fun e => herror e _ (h e)

/-- A statement is run for the sake of its status, whatever number it gets. -/
theorem replies_statement {wait : Nat} {warehouseId sql : String}
    {resume : Except ApiError StatementStatus → Except Failure α}
    (herror : ∀ e, onError e (resume (.error e)))
    (hstatus : ∀ status, onStatus status (resume (.ok status))) :
    (Task.statement wait warehouseId sql resume).Replies onError onStatus :=
  ⟨herror, fun _ status => hstatus status⟩

end Task

end Provisioner
