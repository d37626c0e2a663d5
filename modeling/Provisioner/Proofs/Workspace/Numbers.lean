import Provisioner.Proofs.Workspace.Failures
/-!
# Numbers and the record of statements

A call that makes something takes the next number, and a statement is recorded, whatever comes of it
(`Workspace.serve_adds`). A call that a failure stops does neither. So the numbers are those of the
calls that make something and are not stopped (`Workspace.lastNumber_playAll`), and the record has
the statements among them (`Workspace.statements_playAll`), both in the order of the calls.
-/

namespace Provisioner

open Api

variable {w : Workspace} {r : Request} {m : Move} {kind : String}

namespace Request

/-- What stands before the number in the identifier of what a call makes, if it makes something. -/
def numberedAs? : Request → Option String
  | createSpace _ => some "space"
  | deploy _ => some "deploy"
  | executeStatement _ => some "statement"
  | _ => none

/-- The identifier that an answer gives to what the call has made. -/
def given? : (r : Request) → r.Answer → Option String
  | createSpace _, space => some space.spaceId
  | deploy _, deployment => some deployment.deploymentId
  | executeStatement _, response => some response.statementId
  | _, _ => none

/-- The statement that a call runs. -/
def statement? : Request → Option ExecuteStatement
  | executeStatement r => some r
  | _ => none

end Request

/-- The calls among some moves that make something and that no failure stops, in order. -/
def numberedCalls (ms : List Move) : List Request :=
  (unstopped [] ms).filter fun r => r.numberedAs?.isSome

theorem length_numberedCalls_le (ms : List Move) :
    (numberedCalls ms).length ≤ (ms.filterMap Move.request?).length :=
  Nat.le_trans (List.length_filter_le _ _) (unstopped_sublist [] ms).length_le

namespace Workspace

/-! ### What calls leave behind -/

/-- A call that is served takes a number if it makes something, and a statement is recorded. -/
theorem serve_adds (r : Request) (w : Workspace) :
    (serve r w).2.lastNumber = w.lastNumber + (if r.numberedAs?.isSome then 1 else 0) ∧
      (serve r w).2.statements = w.statements ++ r.statement?.toList := by
  cases r with
  | getSpace r | updateSpace r | trashSpace spaceId =>
    simp only [serve, getSpace, updateSpace, trashSpace]
    split <;> exact ⟨rfl, (List.append_nil _).symm⟩
  | getDeployment appName deploymentId =>
    simp only [serve, getDeployment]
    split <;> exact ⟨rfl, (List.append_nil _).symm⟩
  | createSpace r | deploy r => exact ⟨rfl, (List.append_nil _).symm⟩
  | executeStatement r => exact ⟨rfl, rfl⟩

/-- A move that is no call leaves numbers and the record as they are. -/
theorem play_of_no_call (hm : m.request? = none) (w : Workspace) :
    (w.play m).lastNumber = w.lastNumber ∧ (w.play m).statements = w.statements := by
  cases m with
  | request r => cases hm
  | modifySpace spaceId edit =>
    simp only [play]
    split <;> exact ⟨rfl, rfl⟩
  | _ => exact ⟨rfl, rfl⟩

/-! ### Runs -/

/-- As many numbers have been given as there were calls to give them to. -/
theorem lastNumber_playAll (ms : List Move) :
    (empty.playAll ms).lastNumber = (numberedCalls ms).length := by
  apply holds_of_served
    (P := fun rs w => w.lastNumber = (rs.filter fun r => r.numberedAs?.isSome).length)
  · intro rs w r h
    rw [(serve_adds r w).1, h, List.filter_append, List.length_append]
    cases hr : r.numberedAs?.isSome <;> simp [hr]
  · intro rs w m hm h
    rw [(play_of_no_call hm w).1, h]
  · rfl

/-- The record holds the statements that no failure has stopped, in the order of their calls. -/
theorem statements_playAll (ms : List Move) :
    (empty.playAll ms).statements = (unstopped [] ms).filterMap Request.statement? := by
  apply holds_of_served (P := fun rs w => w.statements = rs.filterMap Request.statement?)
  · intro rs w r h
    rw [(serve_adds r w).2, h, List.filterMap_append]
    cases hr : r.statement? with
    | none => rw [List.filterMap_cons_none hr]; rfl
    | some q => rw [List.filterMap_cons_some hr]; rfl
  · intro rs w m hm h
    rw [(play_of_no_call hm w).2, h]
  · rfl

/-! ### Answers -/

/-- What a call has made has the next number. -/
theorem given?_of_serve (hkind : r.numberedAs? = some kind) {a : r.Answer}
    (h : (serve r w).1 = .ok a) : r.given? a = some (w.nextId kind) := by
  cases r with
  | createSpace r | deploy r =>
    obtain rfl := Option.some.inj hkind
    obtain rfl := Except.ok.inj h
    rfl
  | executeStatement r =>
    obtain rfl := Option.some.inj hkind
    simp only [serve, executeStatement] at h
    cases houtcome : w.outcome r.statement with
    | error e =>
      rw [houtcome] at h
      cases h
    | ok status =>
      rw [houtcome] at h
      obtain rfl := Except.ok.inj h
      rfl
  | _ => cases hkind

/-- Only a statement can be served and have no result. -/
theorem exists_of_serve (hkind : r.numberedAs? = some kind)
    (hr : r.operation ≠ .executeStatement) (w : Workspace) : ∃ a, (serve r w).1 = .ok a := by
  cases r with
  | createSpace r | deploy r => exact ⟨_, rfl⟩
  | executeStatement r => exact absurd rfl hr
  | _ => cases hkind

end Workspace

end Provisioner
