import Provisioner.Proofs.Json.Shapes
import Provisioner.Proofs.Json.Writing
/-!
# Records written as arrays

A reader of a record takes an array for the contents of its fields in declared order. What it reads
is what it would read from an object in which the items stand under the names of the fields
(`Tree.byName`). To rewrite a content in this way, on all levels, keeps its view (`Tree.Keeps`); an
array that stands for a record behind this has too many items, and is not read.
-/

namespace Provisioner.Json

open Provisioner.Json.Tree (named)

variable {α β : Type} {name : String} {names : List String} {t : Tree} {ts : List Tree}
  {ms : Tree.Members} {part : String → Tree → Tree} {view : Tree → Option α} {g : Tree → Tree}

namespace Tree

/-! ### Rewriting -/

/-- A member whose value is rewritten as the part of its name. -/
def rewrite (part : String → Tree → Tree) : Option String × Tree → Option String × Tree
  | (some name, t) => (some name, part name t)
  | (none, t) => (none, t)

/-- The items of an array as members, in the order of the names. -/
def placed (part : String → Tree → Tree) (names : List String) (ts : List Tree) : Members :=
  List.zipWith (fun name t => (some name, part name t)) names ts

/-- The object with the contents of a record that has fields with these names. An array with more
    items is none, and left as it is. -/
def byName (part : String → Tree → Tree) (names : List String) : Tree → Tree
  | object ms => object (ms.map (rewrite part))
  | array ts => if ts.length ≤ names.length then object (placed part names ts) else array ts
  | t => t

theorem byName_of_le (h : ts.length ≤ names.length) :
    byName part names (array ts) = object (placed part names ts) := if_pos h

theorem byName_of_lt (h : names.length < ts.length) :
    byName part names (array ts) = array ts := if_neg (Nat.not_le.mpr h)

/-- An array with all items rewritten. -/
def eachItem (g : Tree → Tree) : Tree → Tree
  | array ts => array (ts.map g)
  | t => t

/-- Rewriting is not seen by a view. It makes no null, and leaves null as it is. -/
structure Keeps (g : Tree → Tree) (view : Tree → Option α) : Prop where
  null_iff : ∀ t, g t = null ↔ t = null
  view_eq : ∀ t, view (g t) = view t

namespace Keeps

theorem refl (view : Tree → Option α) : Keeps (fun t => t) view :=
  ⟨fun _ => Iff.rfl, fun _ => rfl⟩

theorem map (h : Keeps g view) (f : α → β) : Keeps g fun t => (view t).map f where
  null_iff := h.null_iff
  view_eq t := by rw [h.view_eq]

theorem nullOr (h : Keeps g view) (absent : α) : Keeps g (nullOr? absent view) where
  null_iff := h.null_iff
  view_eq t := by
    by_cases ht : t = null
    · rw [(h.null_iff t).mpr ht, ht]
    · rw [nullOr?_of_ne_null ht, nullOr?_of_ne_null fun hg => ht ((h.null_iff t).mp hg),
        h.view_eq]

theorem list (h : Keeps g view) : Keeps (eachItem g) (list? view) where
  null_iff t := by cases t <;> simp [eachItem]
  view_eq t := by
    cases t with
    | array ts =>
      have hview : (fun t => view (g t)) = view := funext h.view_eq
      show (ts.map g).mapM view = ts.mapM view
      rw [List.mapM_map]
      exact congrArg (ts.mapM ·) hview
    | _ => rfl

end Keeps

/-- All items of a list that is seen are seen. -/
theorem exists_of_list? {as : List α} (h : list? view t = some as) :
    ∀ u ∈ t.items, ∃ a, view u = some a := by
  cases t with
  | array ts =>
    have hitems : ts.mapM view = some as := h
    induction ts generalizing as with
    | nil => exact fun u hu => absurd hu List.not_mem_nil
    | cons t ts ih =>
      simp only [List.mapM_cons, bind, pure, Option.bind_eq_some_iff] at hitems
      obtain ⟨a, ha, as', has, -⟩ := hitems
      exact List.forall_mem_cons.mpr ⟨⟨a, ha⟩, ih has has⟩
  | _ => cases h

theorem items_eachItem (t : Tree) : (eachItem g t).items = t.items.map g := by
  cases t <;> rfl

/-! ### Members -/

theorem named_rewrite (name : String) (ms : Members) :
    named name (ms.map (rewrite part)) = (named name ms).map (part name) := by
  induction ms with
  | nil => rfl
  | cons m ms ih =>
    rcases m with ⟨key, t⟩
    cases key with
    | none => simpa [rewrite, named] using ih
    | some key =>
      by_cases hkey : key = name
      · subst hkey
        simp [rewrite, named, ih]
      · simpa [rewrite, named, hkey] using ih

theorem keyed_rewrite : Keyed (ms.map (rewrite part)) ↔ Keyed ms := by
  have hkey (m : Option String × Tree) : (rewrite part m).1 = m.1 := by
    rcases m with ⟨_ | _, _⟩ <;> rfl
  simp only [Keyed, List.forall_mem_map, hkey]

theorem keyed_placed (names : List String) (ts : List Tree) : Keyed (placed part names ts) := by
  induction names generalizing ts with
  | nil => exact fun m hm => absurd hm List.not_mem_nil
  | cons name names ih =>
    cases ts with
    | nil => exact fun m hm => absurd hm List.not_mem_nil
    | cons t ts => simpa [placed, Keyed] using ih ts

theorem named_placed_of_not_mem (h : name ∉ names) (ts : List Tree) :
    named name (placed part names ts) = [] := by
  induction names generalizing ts with
  | nil => rfl
  | cons other names ih =>
    rw [List.mem_cons, not_or] at h
    cases ts with
    | nil => rfl
    | cons t ts =>
      show named name ((some other, part other t) :: placed part names ts) = []
      rw [named, if_neg (by simpa using Ne.symm h.1), ih h.2]

theorem exists_of_mem_named_placed (names : List String) (ts : List Tree) :
    ∀ u ∈ named name (placed part names ts), ∃ v, u = part name v := by
  induction names generalizing ts with
  | nil => exact fun u hu => absurd hu List.not_mem_nil
  | cons other names ih =>
    cases ts with
    | nil => exact fun u hu => absurd hu List.not_mem_nil
    | cons t ts =>
      intro u hu
      have hu' : u ∈ named name ((some other, part other t) :: placed part names ts) := hu
      rw [named] at hu'
      split at hu'
      · rename_i hname
        obtain rfl : other = name := Option.some.inj hname
        rcases List.mem_cons.mp hu' with rfl | hu'
        · exact ⟨t, rfl⟩
        · exact ih ts u hu'
      · exact ih ts u hu'

/-- The values of a rewritten record are rewritten. -/
theorem exists_of_mem_values_byName (t : Tree) :
    ∀ u ∈ (byName part names t).values name, ∃ v, u = part name v := by
  intro u hu
  cases t with
  | object ms =>
    have hu' : u ∈ (named name ms).map (part name) := named_rewrite name ms ▸ hu
    obtain ⟨v, -, rfl⟩ := List.mem_map.mp hu'
    exact ⟨v, rfl⟩
  | array ts =>
    by_cases hlength : ts.length ≤ names.length
    · rw [byName_of_le hlength] at hu
      exact exists_of_mem_named_placed names ts u hu
    · rw [byName_of_lt (Nat.not_le.mp hlength)] at hu
      exact absurd hu List.not_mem_nil
  | _ => exact absurd hu List.not_mem_nil

/-- Members of a rewritten record are rewritten. -/
theorem exists_member_byName (hnull : part name null = null) (t : Tree) :
    ∃ u, (byName part names t).member name = part name u := by
  have hvalues : ∀ u ∈ (byName part names t).values name, ∃ v, u = part name v :=
    exists_of_mem_values_byName t
  unfold member
  generalize (byName part names t).values name = us at hvalues
  cases us with
  | nil => exact ⟨null, hnull.symm⟩
  | cons u us => exact hvalues u List.mem_cons_self

end Tree

namespace Record

/-- The contents of all fields keep their views. -/
def Keeping (part : String → Tree → Tree) : (fields : List Field) → Views fields → Prop
  | [], _ => True
  | field :: fields, (view, views) => Tree.Keeps (part field.name) view ∧ Keeping part fields views

theorem content?_map (h : Tree.Keeps g view) (absent : Option α) (us : List Tree) :
    content? absent view (us.map g) = content? absent view us := by
  match us with
  | [] => rfl
  | [u] => exact h.view_eq u
  | _ :: _ :: _ => rfl

theorem ofNamed?_rewrite : (fields : List Field) → (views : Views fields) →
    Keeping part fields views →
    ofNamed? fields views (ms.map (Tree.rewrite part)) = ofNamed? fields views ms
  | [], _, _ => rfl
  | field :: fields, (view, views), h => by
    rw [ofNamed?, ofNamed?, Tree.named_rewrite, content?_map h.1,
      ofNamed?_rewrite fields views h.2]

theorem ofNamed?_nil : (fields : List Field) → (views : Views fields) →
    ofNamed? fields views [] = ofItems? fields views []
  | [], _ => rfl
  | field :: fields, (view, views) => by
    rw [ofNamed?, ofItems?, ofNamed?_nil fields views]
    rfl

theorem ofNamed?_placed : (fields : List Field) → (views : Views fields) →
    Keeping part fields views → (fields.map Field.name).Nodup → (ts : List Tree) →
    ts.length ≤ fields.length →
    ofNamed? fields views (Tree.placed part (fields.map Field.name) ts) = ofItems? fields views ts
  | fields, views, _, _, [], _ => by
    rw [Tree.placed, List.zipWith_nil_right, ofNamed?_nil]
  | field :: fields, (view, views), h, hnodup, t :: ts, hlength => by
    simp only [List.map_cons, List.nodup_cons] at hnodup
    have hrest := ofNamed?_placed fields views h.2 hnodup.2 ts (Nat.le_of_succ_le_succ hlength)
    have hplaced : Tree.placed part ((field :: fields).map Field.name) (t :: ts) =
        (some field.name, part field.name t) :: Tree.placed part (fields.map Field.name) ts := rfl
    rw [hplaced, ofNamed?, ofItems?, named, if_pos rfl, Tree.named_placed_of_not_mem hnodup.1,
      ofNamed?_cons_unknown hnodup.1, hrest, content?, h.1.view_eq]

theorem ofItems?_eq_none : (fields : List Field) → (views : Views fields) → (ts : List Tree) →
    fields.length < ts.length → ofItems? fields views ts = none
  | [], _, _ :: _, _ => rfl
  | field :: fields, (view, views), t :: ts, h => by
    rw [ofItems?, ofItems?_eq_none fields views ts (Nat.lt_of_succ_lt_succ h)]
    cases view t <;> rfl

/-- The view of a record sees no difference between an array and the object by names. -/
theorem keeps_byName {fields : List Field} {views : Views fields} (h : Keeping part fields views)
    (hnodup : (fields.map Field.name).Nodup) :
    Tree.Keeps (Tree.byName part (fields.map Field.name)) (Record.view fields views) where
  null_iff t := by
    cases t with
    | array ts =>
      rw [Tree.byName]
      split <;> simp
    | _ => simp [Tree.byName]
  view_eq t := by
    cases t with
    | object ms =>
      have hkeyed : Tree.Keyed (ms.map (Tree.rewrite part)) ↔ Tree.Keyed ms := Tree.keyed_rewrite
      rw [Tree.byName, Record.view, Record.view, ofNamed?_rewrite fields views h]
      simp only [hkeyed]
    | array ts =>
      by_cases hlength : ts.length ≤ fields.length
      · rw [Tree.byName_of_le (by rwa [List.length_map]), Record.view,
          if_pos (Tree.keyed_placed _ ts), ofNamed?_placed fields views h hnodup ts hlength]
        rfl
      · rw [Tree.byName_of_lt (by rw [List.length_map]; exact Nat.not_le.mp hlength)]
    | _ => rfl

/-- What is read is an object by names. -/
theorem exists_of_view_byName {fields : List Field} {views : Views fields} {row : Row fields}
    (h : Record.view fields views (Tree.byName part (fields.map Field.name) t) = some row) :
    ∃ ms, Tree.byName part (fields.map Field.name) t = .object ms ∧ Tree.Keyed ms ∧
      ofNamed? fields views ms = some row := by
  have hobject {ms : Tree.Members} (hms : Record.view fields views (.object ms) = some row) :
      Tree.Keyed ms ∧ ofNamed? fields views ms = some row := by
    rw [Record.view] at hms
    split at hms
    · rename_i hkeyed
      exact ⟨hkeyed, hms⟩
    · cases hms
  cases t with
  | object ms => exact ⟨_, rfl, hobject h⟩
  | array ts =>
    by_cases hlength : ts.length ≤ fields.length
    · rw [Tree.byName_of_le (by rwa [List.length_map])] at h ⊢
      exact ⟨_, rfl, hobject h⟩
    · rw [Tree.byName_of_lt (by rw [List.length_map]; exact Nat.not_le.mp hlength), Record.view,
        ofItems?_eq_none fields views ts (Nat.not_le.mp hlength)] at h
      cases h
  | _ => cases h

/-- The value of a field that null may stand for is null or seen. -/
theorem member_of_content? {absent : Option α} {default content : α}
    (h : content? absent (Tree.nullOr? default view) (named name ms) = some content) :
    (Tree.object ms).member name = .null ∨ ∃ a, view ((Tree.object ms).member name) = some a := by
  rw [Tree.member, Tree.values]
  generalize named name ms = us at h ⊢
  cases us with
  | nil => exact .inl rfl
  | cons u us =>
    cases us with
    | nil =>
      by_cases hu : u = .null
      · exact .inl hu
      · exact .inr ⟨content, (Tree.nullOr?_of_ne_null hu).symm.trans h⟩
    | cons u' us => cases h

end Record

end Provisioner.Json
