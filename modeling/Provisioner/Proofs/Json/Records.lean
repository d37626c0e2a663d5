import Provisioner.Json.Record
import Provisioner.Proofs.Json.Views
/-!
# What readers of records make of a text

The view of a record takes every field by itself: its content is what its view makes of the only
member with its name, or what stands for an absent one, and a name that occurs twice is refused.
Neither the order of the members nor those with other names have a part in it
(`Record.reads_record`).

The reader meets the members in the order of the text instead and keeps a draft. The two agree since
each member fills one slot of the draft and leaves the others as they are (`bind_take_finish`).
-/

namespace Provisioner.Json

open Provisioner.Json.Tree (Part)

variable {α : Type} {cs ds es rest : List Char} {c : Char} {t : Tree} {ts : List Tree}
  {ms : Tree.Members} {first : Bool} {key : String}

/-! ### Views of records -/

namespace Tree

/-- The values of all members with a name, in order. -/
def named (name : String) : Members → List Tree
  | [] => []
  | (key, t) :: ms => if key = some name then t :: named name ms else named name ms

/-- Every key is a text. -/
def Keyed (ms : Members) : Prop := ∀ m ∈ ms, m.1 ≠ none

instance (ms : Members) : Decidable (Keyed ms) := inferInstanceAs (Decidable (∀ m ∈ ms, m.1 ≠ none))

end Tree

/-- A view of the content of every field. -/
abbrev Views : List Field → Type
  | [] => Unit
  | field :: fields => (Tree → Option field.Content) × Views fields

namespace Record

/-- Every content is read as its view. -/
def Reads : (fields : List Field) → Views fields → Prop
  | [], _ => True
  | field :: fields, (view, views) => field.codec.reader.Reads view ∧ Reads fields views

/-- The content that the values of all members with one name give. -/
def content? (absent : Option α) (view : Tree → Option α) : List Tree → Option α
  | [] => absent
  | [t] => view t
  | _ :: _ :: _ => none

/-- The row that members give. -/
def ofNamed? : (fields : List Field) → Views fields → Tree.Members → Option (Row fields)
  | [], _, _ => some ()
  | field :: fields, (view, views), ms =>
      (content? field.absent view (Tree.named field.name ms)).bind fun content =>
        (ofNamed? fields views ms).map (content, ·)

/-- The row that items in declared order give. -/
def ofItems? : (fields : List Field) → Views fields → List Tree → Option (Row fields)
  | [], _, [] => some ()
  | [], _, _ :: _ => none
  | field :: fields, (_, views), [] =>
      field.absent.bind fun content => (ofItems? fields views []).map (content, ·)
  | _ :: fields, (view, views), t :: ts =>
      (view t).bind fun content => (ofItems? fields views ts).map (content, ·)

/-- The view of a record. -/
def view (fields : List Field) (views : Views fields) : Tree → Option (Row fields)
  | .object ms => if Tree.Keyed ms then ofNamed? fields views ms else none
  | .array ts => ofItems? fields views ts
  | _ => none

/-! ### Members -/

/-- One more member in a draft. -/
def take : (fields : List Field) → Views fields → String → Tree → Draft fields →
    Option (Draft fields)
  | [], _, _, _, draft => some draft
  | field :: fields, (view, views), key, t, (slot, draft) =>
      if key = field.name then
        match slot with
        | some _ => none
        | none => (view t).map fun content => (some content, draft)
      else (take fields views key t draft).map (slot, ·)

theorem memberReads_take : (fields : List Field) → (views : Views fields) → Reads fields views →
    Reader.MemberReads (member fields) (take fields views)
  | [], _, _ => by
    intro key draft
    constructor
    · intro r hr
      obtain rfl := Except.ok.inj hr
      exact Reader.reads_skip
    · intro m hm
      simp [member] at hm
  | field :: fields, (view, views), hreads => by
    rintro key ⟨slot, draft⟩
    have ih := memberReads_take fields views hreads.2 key draft
    by_cases hkey : key = field.name
    · cases slot with
      | some content => simp [member, take, hkey]
      | none =>
        constructor
        · intro r hr
          simp only [member, hkey, if_true, Except.ok.injEq] at hr
          subst hr
          simp only [take, hkey, if_true]
          exact hreads.1.map fun content => (some content, draft)
        · intro m hm
          simp [member, hkey] at hm
    · cases hmember : member fields key draft with
      | error m =>
        constructor
        · simp [member, hkey, hmember, Except.map]
        · intro m' hm' t
          simp [take, hkey, ih.2 m hmember t]
      | ok r' =>
        constructor
        · intro r hr
          simp only [member, hkey, if_false, hmember, Except.map, Except.ok.injEq] at hr
          subst hr
          simp only [take, hkey, if_false]
          exact (ih.1 r' hmember).map fun draft => (slot, draft)
        · intro m hm
          simp [member, hkey, hmember, Except.map] at hm

/-- The content of a slot behind some members and in front of others with its name. -/
def slotContent? (absent : Option α) (view : Tree → Option α) : Option α → List Tree → Option α
  | none, ts => content? absent view ts
  | some content, [] => some content
  | some _, _ :: _ => none

/-- The row that a draft and the members behind it give. -/
def finish? : (fields : List Field) → Views fields → Draft fields → Tree.Members →
    Option (Row fields)
  | [], _, _, _ => some ()
  | field :: fields, (view, views), (slot, draft), ms =>
      (slotContent? field.absent view slot (Tree.named field.name ms)).bind fun content =>
        (finish? fields views draft ms).map (content, ·)

theorem toOption_complete : (fields : List Field) → (views : Views fields) →
    (draft : Draft fields) →
    (complete fields draft).toOption = finish? fields views draft []
  | [], _, _ => rfl
  | field :: fields, (view, views), (slot, draft) => by
    have ih := toOption_complete fields views draft
    cases slot with
    | some content => simp [complete, ih, finish?, slotContent?, Tree.named]
    | none =>
      cases habsent : field.absent <;>
        simp [complete, whenAbsent, habsent, ih, finish?, slotContent?, Tree.named, content?]

/-- A member whose name no field has changes nothing. -/
theorem finish?_cons_unknown : (fields : List Field) → (views : Views fields) →
    (draft : Draft fields) → key ∉ fields.map Field.name →
    finish? fields views draft ((some key, t) :: ms) = finish? fields views draft ms
  | [], _, _, _ => rfl
  | field :: fields, (view, views), (slot, draft), hkey => by
    simp only [List.map_cons, List.mem_cons, not_or] at hkey
    have hnamed : Tree.named field.name ((some key, t) :: ms) = Tree.named field.name ms := by
      rw [Tree.named, if_neg (by simpa using hkey.1)]
    rw [finish?, finish?, hnamed, finish?_cons_unknown fields views draft hkey.2]

/-- To take a member into the draft and to leave it to the members behind come to the same. -/
theorem bind_take_finish : (fields : List Field) → (views : Views fields) →
    (draft : Draft fields) → (fields.map Field.name).Nodup →
    ((take fields views key t draft).bind fun draft => finish? fields views draft ms) =
      finish? fields views draft ((some key, t) :: ms)
  | [], _, _, _ => rfl
  | field :: fields, (view, views), (slot, draft), hnodup => by
    simp only [List.map_cons, List.nodup_cons] at hnodup
    by_cases hkey : key = field.name
    · subst hkey
      have hrest : finish? fields views draft ((some field.name, t) :: ms) =
          finish? fields views draft ms := finish?_cons_unknown fields views draft hnodup.1
      have hnamed : Tree.named field.name ((some field.name, t) :: ms) =
          t :: Tree.named field.name ms := by
        rw [Tree.named, if_pos rfl]
      simp only [take, if_true, finish?, hrest, hnamed]
      cases slot with
      | some content => rfl
      | none =>
        -- The slot holds the content now, and must not be filled again.
        cases hview : view t with
        | none => cases Tree.named field.name ms <;> simp [slotContent?, content?, hview]
        | some content =>
          simp only [Option.map_some, Option.bind_some]
          cases Tree.named field.name ms <;> simp [slotContent?, content?, hview]
    · have ih := bind_take_finish fields views draft hnodup.2
      have hnamed : Tree.named field.name ((some key, t) :: ms) = Tree.named field.name ms := by
        rw [Tree.named, if_neg (by simpa using hkey)]
      simp only [take, hkey, if_false, finish?, hnamed, ← ih]
      cases htake : take fields views key t draft with
      | none => cases slotContent? field.absent view slot (Tree.named field.name ms) <;> rfl
      | some draft => rfl

theorem bind_foldMembers {fields : List Field} {views : Views fields}
    (hnodup : (fields.map Field.name).Nodup) (draft : Draft fields) (hkeyed : Tree.Keyed ms) :
    ((Tree.foldMembers (take fields views) ms draft).bind fun draft =>
      (complete fields draft).toOption) = finish? fields views draft ms := by
  induction ms generalizing draft with
  | nil => exact toOption_complete fields views draft
  | cons m ms ih =>
    rcases m with ⟨key, t⟩
    cases key with
    | none => exact absurd rfl (hkeyed (none, t) List.mem_cons_self)
    | some key =>
      have hmore : Tree.Keyed ms := fun m hm => hkeyed m (List.mem_cons_of_mem _ hm)
      rw [Tree.foldMembers, Option.bind_assoc, ← bind_take_finish fields views draft hnodup]
      exact congrArg _ (funext fun draft => ih draft hmore)

theorem foldMembers_eq_none {σ : Type} {step : String → Tree → σ → Option σ}
    (h : ¬ Tree.Keyed ms) (s : σ) : Tree.foldMembers step ms s = none := by
  induction ms generalizing s with
  | nil => exact absurd (fun m hm => by simp at hm) h
  | cons m ms ih =>
    rcases m with ⟨key, t⟩
    cases key with
    | none => rfl
    | some key =>
      have hmore : ¬ Tree.Keyed ms := fun hms => h (by simpa [Tree.Keyed] using hms)
      rw [Tree.foldMembers]
      cases step key t s with
      | none => rfl
      | some s' => exact ih hmore s'

theorem finish?_blank : (fields : List Field) → (views : Views fields) →
    finish? fields views (blank fields) ms = ofNamed? fields views ms
  | [], _ => rfl
  | field :: fields, (view, views) => by
    rw [blank, finish?, finish?_blank fields views]
    rfl

theorem toOption_readMembers {fields : List Field} {views : Views fields}
    (hreads : Reads fields views) (hnodup : (fields.map Field.name).Nodup)
    (h : Tree.Spells (.members true ms) cs rest) :
    (readMembers fields cs).toOption = (view fields views (.object ms)).map (·, rest) := by
  have hbody := Reader.toOption_objectBody (memberReads_take fields views hreads)
    (s := blank fields) h
  have hview : view fields views (.object ms) =
      (Tree.foldMembers (take fields views) ms (blank fields)).bind fun draft =>
        (complete fields draft).toOption := by
    by_cases hkeyed : Tree.Keyed ms
    · rw [bind_foldMembers hnodup _ hkeyed, finish?_blank, view, if_pos hkeyed]
    · rw [foldMembers_eq_none hkeyed, view, if_neg hkeyed]
      rfl
  rw [hview]
  unfold readMembers
  cases hfold : Tree.foldMembers (take fields views) ms (blank fields) with
  | none =>
    rw [hfold] at hbody
    split <;> simp_all
  | some draft =>
    rw [hfold] at hbody
    have hrun := toOption_eq_some_iff.mp hbody
    simp only [hrun, Option.bind_some]
    cases complete fields draft <;> rfl

/-! ### Items -/

theorem toOption_defaults (record : String) (total : Nat) : (fields : List Field) →
    (views : Views fields) → (index : Nat) →
    (defaults record total fields index).toOption = ofItems? fields views []
  | [], _, _ => rfl
  | field :: fields, (view, views), index => by
    have ih := toOption_defaults record total fields views (index + 1)
    cases habsent : field.absent <;> simp [defaults, habsent, ofItems?, ih]

theorem toOption_readEnd (h : Tree.Spells (.items first ts) cs rest) :
    (readEnd cs).toOption = if ts = [] then some rest else none := by
  cases h with
  | noItem hend => simp [readEnd, hend.skip (by decide)]
  | item hlead hvalue _ =>
    rcases hvalue.head with ⟨c, ds, rfl, hbegins, _⟩
    cases hlead with
    | first hblanks =>
      simp [readEnd, hblanks.skip hbegins.visible, hbegins.not_list, hbegins.not_comma]
    | later hcomma hblanks =>
      simp [readEnd, hcomma.skip (by decide), hblanks.skip hbegins.visible, hbegins.not_list]

theorem toOption_readItems (record : String) (total : Nat) : (fields : List Field) →
    (views : Views fields) → Reads fields views → (index : Nat) → (ts : List Tree) →
    (cs : List Char) → Tree.Spells (.items (index == 0) ts) cs rest →
    (readItems record total fields index cs).toOption = (ofItems? fields views ts).map (·, rest)
  | [], _, _, index, ts, cs, h => by
    rw [readItems, toOption_map, toOption_readEnd h]
    cases ts <;> rfl
  | field :: fields, (view, views), hreads, index, [], cs, h => by
    cases h with
    | noItem hend =>
      have hdefaults := toOption_defaults record total (field :: fields) (view, views) index
      rw [readItems, nextItem_of_end hend]
      cases hd : defaults record total (field :: fields) index <;>
        simp [hd, ← hdefaults]
  | field :: fields, (view, views), hreads, index, t :: ts, cs, h => by
    cases h with
    | item hlead hvalue hmore =>
      have hread := hreads.1.toOption_run .nil hvalue (delimited_of_items hmore)
      have ih := toOption_readItems record total fields views hreads.2 (index + 1) ts _ hmore
      rw [readItems, nextItem_of_lead hlead hvalue, ofItems?]
      dsimp only
      cases hview : view t with
      | none =>
        rw [hview] at hread
        split <;> simp_all
      | some content =>
        rw [hview] at hread
        rw [toOption_eq_some_iff.mp hread]
        dsimp only
        cases hitems : ofItems? fields views ts <;> split <;> simp_all

/-- A record is read as its view: from an object by the names of its members, from an array by the
    places of its items. -/
theorem reads_record {name : String} {fields : List Field} {views : Views fields}
    (hreads : Reads fields views) (hnodup : (fields.map Field.name).Nodup) :
    (Codec.record name fields).reader.Reads (view fields views) := by
  constructor
  intro t cs ds rest hblanks hspells hrest
  have hfound := Token.found_read hblanks hspells hrest
  show (read name fields cs).toOption = _
  unfold read
  generalize Token.read cs = found at hfound
  cases hfound with
  | list hitems => exact toOption_readItems name _ fields views hreads 0 _ _ hitems
  | object hmembers => exact toOption_readMembers hreads hnodup hmembers
  | @scalar t s hs => cases t <;> simp_all [view, Tree.scalar?]
  | @refused t f _ hsimple => cases t <;> simp_all [view, Tree.isSimple]

end Record

end Provisioner.Json
