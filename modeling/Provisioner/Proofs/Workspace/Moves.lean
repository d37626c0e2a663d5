import Provisioner.Workspace
/-!
# What changes a workspace

Whatever happens to a workspace is a sequence of moves: calls of it, and edits that someone else
makes. What a call can make of a workspace is said once (`Workspace.Effect`). A move changes what is
stored under an identifier only if it is aimed at it (`Move.Writes`), or gives it to a new space; and
identifiers once given are not given again (`numbered_ne_nextId`). A space that was created is
therefore kept as it is until a move is aimed at it (`Workspace.Keeps.playAll`).
-/

namespace Provisioner

open Api

/-- The call asks for an object. -/
def Request.Looks : Request → Prop
  | getSpace _ => True
  | getDeployment _ _ => True
  | _ => False

/-- One change of a workspace. -/
inductive Move where
  | request (r : Request)
  | insertSpace (space : Space)
  /-- Nothing happens if there is no such space. -/
  | modifySpace (spaceId : String) (edit : Space → Space)
  | removeSpace (spaceId : String)
  | insertDeployment (appName : String) (deployment : Deployment)
  | respond (pattern : String) (outcome : Except ApiError StatementStatus)
  | fail (operation : Operation) (error : ApiError)

namespace Move

/-- The move is aimed at the space with an identifier, in order to change it. -/
def Writes (spaceId : String) : Move → Prop
  | request (.updateSpace r) => r.spaceId = spaceId
  | request (.trashSpace id) => id = spaceId
  | insertSpace space => space.spaceId = spaceId
  | modifySpace id _ => id = spaceId
  | removeSpace id => id = spaceId
  | _ => False

/-- The move makes calls of a kind fail. -/
def Breaks (operation : Operation) : Move → Prop
  | fail o _ => o = operation
  | _ => False

end Move

namespace Workspace

variable {w w' : Workspace} {r : Request} {m : Move} {ms : List Move} {x : String} {space : Space}

/-- What is left of a workspace after a move. -/
def play (w : Workspace) : Move → Workspace
  | .request r => (w.answer r).2
  | .insertSpace space => w.insertSpace space
  | .modifySpace spaceId edit =>
      match w.spaces.get? spaceId with
      | some space => w.replaceSpace spaceId (edit space)
      | none => w
  | .removeSpace spaceId => w.removeSpace spaceId
  | .insertDeployment appName deployment => w.insertDeployment appName deployment
  | .respond pattern outcome => w.respond pattern outcome
  | .fail operation error => w.fail operation error

def playAll (w : Workspace) (ms : List Move) : Workspace := ms.foldl play w

@[simp] theorem playAll_nil (w : Workspace) : w.playAll [] = w := rfl

@[simp] theorem playAll_cons (w : Workspace) (m : Move) (ms : List Move) :
    w.playAll (m :: ms) = (w.play m).playAll ms := rfl

theorem playAll_append (w : Workspace) (ms ms' : List Move) :
    w.playAll (ms ++ ms') = (w.playAll ms).playAll ms' :=
  List.foldl_append

/-! ### Answers -/

theorem fst_answer_congr (hfailure : w'.failures r.operation = w.failures r.operation)
    (hserve : (serve r w').1 = (serve r w).1) : (w'.answer r).1 = (w.answer r).1 := by
  rw [answer, answer, hfailure]
  split
  · rfl
  · exact hserve

/-- A call that succeeds is one for which no failure is set. -/
theorem fst_serve_of_answer {a : r.Answer} (h : (w.answer r).1 = .ok a) :
    (serve r w).1 = .ok a := by
  unfold answer at h
  split at h
  · cases h
  · exact h

/-! ### Effects -/

/-- What a call can make of a workspace. A call that fails or that only looks leaves it as it is. -/
inductive Effect (w : Workspace) : Request → Workspace → Prop
  | unchanged (r : Request) : w.Effect r w
  | createSpace (r : CreateSpace) : w.Effect (.createSpace r) (w.createSpace r).2
  | updateSpace (r : UpdateSpace) (stored : Space) (h : w.spaces.get? r.spaceId = some stored) :
      w.Effect (.updateSpace r) (w.replaceSpace r.spaceId
        ⟨stored.spaceId, r.title, r.warehouseId, r.description, r.document⟩)
  | trashSpace (spaceId : String) : w.Effect (.trashSpace spaceId) (w.removeSpace spaceId)
  | deploy (r : Deploy) : w.Effect (.deploy r) (w.deploy r).2
  | executeStatement (r : ExecuteStatement) :
      w.Effect (.executeStatement r) (w.executeStatement r).2

/-- What is said of all effects is said of what every call leaves behind. -/
theorem effect_answer (r : Request) (w : Workspace) : w.Effect r (w.answer r).2 := by
  unfold answer
  split
  · exact .unchanged r
  · cases r with
    | createSpace r => exact .createSpace r
    | getSpace r =>
      simp only [serve, getSpace]
      split <;> exact .unchanged _
    | updateSpace r =>
      simp only [serve, updateSpace]
      split
      · rename_i stored hstored
        exact .updateSpace r stored hstored
      · exact .unchanged _
    | trashSpace spaceId =>
      simp only [serve, trashSpace]
      split
      · exact .trashSpace spaceId
      · exact .unchanged _
    | deploy r => exact .deploy r
    | getDeployment appName deploymentId =>
      simp only [serve, getDeployment]
      split <;> exact .unchanged _
    | executeStatement r => exact .executeStatement r

/-- A call that only looks has no effect. -/
theorem Effect.eq_of_looks (heffect : w.Effect r w') (h : r.Looks) : w' = w := by
  cases heffect with
  | unchanged r => rfl
  | _ => exact h.elim

/-! ### Numbers -/

theorem numbered_inj {kind : String} {n k : Nat} (h : numbered kind n = numbered kind k) :
    n = k := by
  have hlists := congrArg String.toList h
  simp only [numbered, String.toList_append, Nat.toString_eq_ofList_toDigits,
    String.toList_ofList, List.append_cancel_left_eq] at hlists
  rw [← Nat.ofDigitChars_ten_toDigits (n := n), hlists, Nat.ofDigitChars_ten_toDigits]

theorem numbered_ne_empty (kind : String) (n : Nat) : numbered kind n ≠ "" := by
  intro h
  have hlists := congrArg String.toList h
  simp [numbered] at hlists

/-- A number that was reached already makes no identifier that is still to be given. -/
theorem numbered_ne_next {kind : String} {n : Nat} (h : n ≤ w.lastNumber) :
    numbered kind n ≠ w.nextId kind := by
  intro heq
  have := numbered_inj heq
  omega

/-- An identifier of a space that was given already. -/
def Numbered (w : Workspace) (x : String) : Prop := ∃ n ≤ w.lastNumber, x = numbered "space" n

theorem numbered_ne_nextId (h : w.Numbered x) : x ≠ w.nextId "space" := by
  rcases h with ⟨n, hn, rfl⟩
  exact numbered_ne_next hn

theorem Effect.lastNumber_le (h : w.Effect r w') : w.lastNumber ≤ w'.lastNumber := by
  cases h with
  | createSpace r | deploy r | executeStatement r => exact Nat.le_succ _
  | _ => exact Nat.le_refl _

theorem lastNumber_play (m : Move) : w.lastNumber ≤ (w.play m).lastNumber := by
  cases m with
  | request r => exact (effect_answer r w).lastNumber_le
  | modifySpace spaceId edit =>
    simp only [play]
    split <;> exact Nat.le_refl _
  | _ => exact Nat.le_refl _

theorem Numbered.play (h : w.Numbered x) (m : Move) : (w.play m).Numbered x := by
  rcases h with ⟨n, hn, hx⟩
  exact ⟨n, Nat.le_trans hn (lastNumber_play m), hx⟩

/-! ### Frames -/

theorem Effect.get?_eq (h : w.Effect r w') (hwrites : ¬ (Move.request r).Writes x)
    (hnext : x ≠ w.nextId "space") : w'.spaces.get? x = w.spaces.get? x := by
  cases h with
  | createSpace r => exact (Dict.get?_insert ..).trans (if_neg hnext)
  | updateSpace r stored h => exact (Dict.get?_insert ..).trans (if_neg (Ne.symm hwrites))
  | trashSpace spaceId => exact (Dict.get?_erase ..).trans (if_neg (Ne.symm hwrites))
  | _ => rfl

/-- Nothing changes under an identifier that is neither aimed at nor given to a new space. -/
theorem get?_play (hwrites : ¬ m.Writes x) (hnext : x ≠ w.nextId "space") :
    (w.play m).spaces.get? x = w.spaces.get? x := by
  cases m with
  | request r => exact (effect_answer r w).get?_eq hwrites hnext
  | insertSpace space => exact (Dict.get?_insert ..).trans (if_neg (Ne.symm hwrites))
  | modifySpace spaceId edit =>
    simp only [play]
    split
    · exact (Dict.get?_insert ..).trans (if_neg (Ne.symm hwrites))
    · rfl
  | removeSpace spaceId => exact (Dict.get?_erase ..).trans (if_neg (Ne.symm hwrites))
  | insertDeployment appName deployment => rfl
  | respond pattern outcome => rfl
  | fail operation error => rfl

theorem Effect.failures_eq (h : w.Effect r w') : w'.failures = w.failures := by
  cases h <;> rfl

theorem failures_play {operation : Operation} (h : ¬ m.Breaks operation) :
    (w.play m).failures operation = w.failures operation := by
  cases m with
  | request r => exact congrFun (effect_answer r w).failures_eq operation
  | modifySpace spaceId edit =>
    simp only [play]
    split <;> rfl
  | fail o error => exact if_neg (Ne.symm h)
  | _ => rfl

theorem failures_playAll {operation : Operation} (hms : ∀ m ∈ ms, ¬ m.Breaks operation) :
    (w.playAll ms).failures operation = w.failures operation := by
  induction ms generalizing w with
  | nil => rfl
  | cons m ms ih =>
    rw [List.forall_mem_cons] at hms
    exact (ih hms.2).trans (failures_play hms.1)

/-! ### What stays stored -/

/-- A space is stored under an identifier that was given already, and can be fetched. -/
structure Keeps (w : Workspace) (x : String) (space : Space) : Prop where
  stored : w.spaces.get? x = some space
  numbered : w.Numbered x
  fetchable : w.failures .getSpace = none

theorem Keeps.play (h : w.Keeps x space) (hwrites : ¬ m.Writes x) (hbreaks : ¬ m.Breaks .getSpace) :
    (w.play m).Keeps x space where
  stored := (get?_play hwrites (numbered_ne_nextId h.numbered)).trans h.stored
  numbered := h.numbered.play m
  fetchable := (failures_play hbreaks).trans h.fetchable

/-- A space stays stored as it is through all moves that are not aimed at it. -/
theorem Keeps.playAll (h : w.Keeps x space)
    (hms : ∀ m ∈ ms, ¬ m.Writes x ∧ ¬ m.Breaks .getSpace) : (w.playAll ms).Keeps x space := by
  induction ms generalizing w with
  | nil => exact h
  | cons m ms ih =>
    obtain ⟨hwrites, hbreaks⟩ := hms m List.mem_cons_self
    exact ih (h.play hwrites hbreaks) fun m hm => hms m (List.mem_cons_of_mem _ hm)

end Workspace

end Provisioner
