import Provisioner.Proofs.Workspace.Moves
/-!
# Under which identifiers spaces are stored

A workspace stores every space under the identifier that stands in the space, as long as nobody
edits that identifier (`Workspace.KeyedAt`). And where nothing is stored, only an insert or the next
identifier can put something: an identifier that was given once and is gone stays without a space
until someone inserts one (`Workspace.Lacks`).
-/

namespace Provisioner

open Api

variable {w w' : Workspace} {r : Request} {m : Move} {ms : List Move} {x y : String}
  {space : Space}

/-- A move that edits a stored space leaves the identifier inside it alone. -/
def Move.KeepsId (w : Workspace) : Move → Prop
  | modifySpace spaceId edit =>
      ∀ space, w.spaces.get? spaceId = some space → (edit space).spaceId = space.spaceId
  | _ => True

namespace Workspace

/-- None of some moves, each where its turn comes, edits the identifier of a space. -/
def KeepsIds (w : Workspace) : List Move → Prop
  | [] => True
  | m :: ms => m.KeepsId w ∧ (w.play m).KeepsIds ms

theorem get?_replaceSpace :
    (w.replaceSpace x space).spaces.get? y = if y = x then some space else w.spaces.get? y :=
  Dict.get?_insert ..

theorem get?_removeSpace :
    (w.removeSpace x).spaces.get? y = if y = x then none else w.spaces.get? y :=
  Dict.get?_erase ..

/-! ### Spaces stand under their own identifiers -/

/-- What is stored under an identifier has this identifier. -/
def KeyedAt (w : Workspace) (x : String) : Prop :=
  ∀ space, w.spaces.get? x = some space → space.spaceId = x

theorem keyedAt_empty (x : String) : empty.KeyedAt x := by
  intro space h
  cases h

theorem KeyedAt.replaceSpace (h : w.KeyedAt x) (hid : x = y → space.spaceId = y) :
    (w.replaceSpace y space).KeyedAt x := by
  intro other hget
  rw [get?_replaceSpace] at hget
  by_cases hx : x = y
  · rw [if_pos hx] at hget
    obtain rfl := Option.some.inj hget
    rw [hid hx, hx]
  · rw [if_neg hx] at hget
    exact h other hget

theorem KeyedAt.removeSpace (h : w.KeyedAt x) (y : String) : (w.removeSpace y).KeyedAt x := by
  intro other hget
  rw [get?_removeSpace] at hget
  by_cases hx : x = y
  · rw [if_pos hx] at hget
    cases hget
  · rw [if_neg hx] at hget
    exact h other hget

theorem Effect.keyedAt (heffect : w.Effect r w') (h : w.KeyedAt x) : w'.KeyedAt x := by
  cases heffect with
  | createSpace r => exact h.replaceSpace fun _ => rfl
  | updateSpace r stored hstored =>
    apply h.replaceSpace
    -- The new space keeps the identifier of the old one, which is the right one.
    rintro rfl
    exact h stored hstored
  | trashSpace spaceId => exact h.removeSpace spaceId
  | _ => exact h

theorem KeyedAt.answer (h : w.KeyedAt x) (r : Request) : (w.answer r).2.KeyedAt x :=
  (effect_answer r w).keyedAt h

theorem KeyedAt.play (h : w.KeyedAt x) (hm : m.KeepsId w) : (w.play m).KeyedAt x := by
  cases m with
  | request r => exact h.answer r
  | insertSpace space => exact h.replaceSpace fun _ => rfl
  | modifySpace spaceId edit =>
    simp only [Workspace.play]
    split
    · rename_i stored hstored
      apply h.replaceSpace
      rintro rfl
      exact (hm stored hstored).trans (h stored hstored)
    · exact h
  | removeSpace spaceId => exact h.removeSpace spaceId
  | insertDeployment appName deployment => exact h
  | respond pattern outcome => exact h
  | fail operation error => exact h

/-- A space keeps standing under its own identifier through all moves that edit no identifier. -/
theorem KeyedAt.playAll (h : w.KeyedAt x) (hms : w.KeepsIds ms) : (w.playAll ms).KeyedAt x := by
  induction ms generalizing w with
  | nil => exact h
  | cons m ms ih => exact ih (h.play hms.1) hms.2

theorem keepsIds_requests (w : Workspace) (rs : List Request) : w.KeepsIds (rs.map .request) := by
  induction rs generalizing w with
  | nil => trivial
  | cons r rs ih => exact ⟨trivial, ih (w.play (.request r))⟩

/-! ### What is gone -/

/-- Nothing is stored under an identifier that was given already. -/
structure Lacks (w : Workspace) (x : String) : Prop where
  missing : w.spaces.get? x = none
  numbered : w.Numbered x

theorem Effect.missing (heffect : w.Effect r w') (hmissing : w.spaces.get? x = none)
    (hwrites : (Move.request r).Writes x) : w'.spaces.get? x = none := by
  cases heffect with
  | unchanged r => exact hmissing
  | updateSpace r stored hstored =>
    obtain rfl : r.spaceId = x := hwrites
    exact absurd (hstored.symm.trans hmissing) (Option.some_ne_none stored)
  | trashSpace spaceId =>
    obtain rfl : spaceId = x := hwrites
    exact Dict.get?_erase_self ..
  | _ => exact hwrites.elim

/-- A move aimed at a space that does not exist makes none, unless it inserts one. -/
theorem missing_play (hmissing : w.spaces.get? x = none) (hwrites : m.Writes x)
    (hinsert : ∀ space, m = .insertSpace space → space.spaceId ≠ x) :
    (w.play m).spaces.get? x = none := by
  cases m with
  | request r => exact (effect_answer r w).missing hmissing hwrites
  | insertSpace space => exact absurd hwrites (hinsert space rfl)
  | modifySpace spaceId edit =>
    obtain rfl : spaceId = x := hwrites
    simp only [play, hmissing]
  | removeSpace spaceId =>
    obtain rfl : spaceId = x := hwrites
    exact Dict.get?_erase_self ..
  | _ => exact hwrites.elim

theorem Lacks.play (h : w.Lacks x) (hinsert : ∀ space, m = .insertSpace space → space.spaceId ≠ x) :
    (w.play m).Lacks x := by
  refine ⟨?_, h.numbered.play m⟩
  by_cases hwrites : m.Writes x
  · exact missing_play h.missing hwrites hinsert
  · exact (get?_play hwrites (numbered_ne_nextId h.numbered)).trans h.missing

/-- What is gone stays gone through all moves but an insert. -/
theorem Lacks.playAll (h : w.Lacks x)
    (hinsert : ∀ space, Move.insertSpace space ∈ ms → space.spaceId ≠ x) :
    (w.playAll ms).Lacks x := by
  induction ms generalizing w with
  | nil => exact h
  | cons m ms ih =>
    apply ih
    · apply h.play
      rintro space rfl
      exact hinsert space List.mem_cons_self
    · intro space hmem
      exact hinsert space (List.mem_cons_of_mem m hmem)

theorem Numbered.playAll (h : w.Numbered x) (ms : List Move) : (w.playAll ms).Numbered x := by
  induction ms generalizing w with
  | nil => exact h
  | cons m ms ih => exact ih (h.play m)

end Workspace

end Provisioner
