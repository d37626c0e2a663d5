import Provisioner.Proofs.Json.Records
/-!
# Members that are null

Null is added under a known name to a record that has no member of this name (`AddsNull`), be it the
record itself or one that stands somewhere inside it. If every field takes null for its absence, no
reader notices (`Responds.record`); a field that does not spoils the whole record.

Both are one statement here: a view *responds* to a change if it has the same value behind it, or
never has a value behind it, as `keep` says. The combinators of views preserve this.
-/

namespace Provisioner.Json

open Provisioner.Json.Tree (named)

variable {α β : Type} {keep : Bool} {key name : String} {t t' : Tree}
  {front back ms ms' : Tree.Members} {us us' : List Tree} {step : Tree → Tree → Prop}
  {view : Tree → Option α}

/-! ### Changes -/

/-- A way to change a content: what it is before and behind the change. -/
abbrev Change := Tree → Tree → Prop

/-- No change at all. -/
def Change.none : Change := fun _ _ => False

/-- One item of an array changes. -/
inductive Change.Item (step : Change) : Change
  | mk {t t' : Tree} {front back : List Tree} : step t t' →
      Item step (.array (front ++ t :: back)) (.array (front ++ t' :: back))

/-- Null is added under `key` to a record, or to one inside it. The record's parts are given by their
    names and the ways in which they change. -/
inductive AddsNull (key : String) (parts : List (String × Change)) : Change
  | here {front back : Tree.Members} : key ∈ parts.map Prod.fst → named key (front ++ back) = [] →
      AddsNull key parts (.object (front ++ back)) (.object (front ++ (some key, .null) :: back))
  | member {name : String} {step : Change} {t t' : Tree} {front back : Tree.Members} :
      (name, step) ∈ parts → step t t' →
      AddsNull key parts (.object (front ++ (some name, t) :: back))
        (.object (front ++ (some name, t') :: back))
  | item {name : String} {step : Change} {t t' : Tree} {front back : List Tree} :
      parts[front.length]? = some (name, step) → step t t' →
      AddsNull key parts (.array (front ++ t :: back)) (.array (front ++ t' :: back))

/-! ### Views that respond -/

/-- The value of a view behind a change. -/
def kept (keep : Bool) (x : Option α) : Option α := if keep then x else none

theorem kept_none : kept keep (none : Option α) = none := by
  cases keep <;> rfl

theorem kept_bind (x : Option α) (f : α → Option β) :
    (kept keep x).bind f = kept keep (x.bind f) := by
  cases keep <;> rfl

theorem bind_kept (x : Option α) (f : α → Option β) :
    (x.bind fun a => kept keep (f a)) = kept keep (x.bind f) := by
  cases x with
  | none => exact kept_none.symm
  | some a => rfl

theorem map_kept (x : Option α) (f : α → β) : (kept keep x).map f = kept keep (x.map f) := by
  cases keep <;> rfl

/-- Behind a change a view has the value from before, or no value. Nulls do not change. -/
structure Responds (keep : Bool) (step : Change) (view : Tree → Option α) : Prop where
  ne_null : ∀ {t t' : Tree}, step t t' → t ≠ .null ∧ t' ≠ .null
  view_eq : ∀ {t t' : Tree}, step t t' → view t' = kept keep (view t)

namespace Responds

theorem none (view : Tree → Option α) : Responds keep .none view :=
  ⟨fun h => h.elim, fun h => h.elim⟩

theorem map (h : Responds keep step view) (f : α → β) :
    Responds keep step fun t => (view t).map f where
  ne_null := h.ne_null
  view_eq hstep := by rw [h.view_eq hstep, map_kept]

theorem nullOr (h : Responds keep step view) (absent : α) :
    Responds keep step (Tree.nullOr? absent view) where
  ne_null := h.ne_null
  view_eq hstep := by
    obtain ⟨hne, hne'⟩ := h.ne_null hstep
    rw [Tree.nullOr?_of_ne_null hne, Tree.nullOr?_of_ne_null hne', h.view_eq hstep]

theorem mapM_eq (h : Responds keep step view) (hstep : step t t') (front back : List Tree) :
    (front ++ t' :: back).mapM view = kept keep ((front ++ t :: back).mapM view) := by
  induction front with
  | nil =>
    simp only [List.nil_append, List.mapM_cons, h.view_eq hstep, bind]
    exact kept_bind _ _
  | cons u front ih =>
    simp only [List.cons_append, List.mapM_cons, ih, bind]
    rw [← bind_kept]
    exact congrArg _ (funext fun a => kept_bind _ _)

theorem list (h : Responds keep step view) : Responds keep (.Item step) (Tree.list? view) where
  ne_null := by
    rintro _ _ ⟨_⟩
    exact ⟨Tree.noConfusion, Tree.noConfusion⟩
  view_eq := by
    rintro _ _ ⟨hstep⟩
    exact h.mapM_eq hstep _ _

end Responds

/-! ### Records -/

namespace Tree

theorem named_append (name : String) (front back : Members) :
    named name (front ++ back) = named name front ++ named name back := by
  induction front with
  | nil => rfl
  | cons m front ih =>
    rcases m with ⟨key, t⟩
    rw [List.cons_append, named, named, ih]
    split <;> rfl

theorem named_insert_of_ne (h : name ≠ key) :
    named name (front ++ (some key, t) :: back) = named name (front ++ back) := by
  rw [named_append, named_append, named, if_neg (by simpa using Ne.symm h)]

theorem named_insert : named name (front ++ (some name, t) :: back) =
    named name front ++ t :: named name back := by
  rw [named_append, named, if_pos rfl]

theorem keyed_insert : Keyed (front ++ (some key, t) :: back) ↔ Keyed (front ++ back) := by
  simp only [Keyed, List.forall_mem_append, List.forall_mem_cons]
  simp

end Tree

namespace Record

/-- Every field responds to the changes of its part, and the one named `key` to null in place of its
    absence. -/
def Responding (keep : Bool) (key : String) : (fields : List Field) → Views fields →
    List (String × Change) → Prop
  | [], _, [] => True
  | field :: fields, (view, views), (name, step) :: parts =>
      name = field.name ∧ (name = key → view .null = kept keep field.absent) ∧
        Responds keep step view ∧ Responding keep key fields views parts
  | _, _, _ => False

theorem names_of_responding : {fields : List Field} → {views : Views fields} →
    {parts : List (String × Change)} → Responding keep key fields views parts →
    parts.map Prod.fst = fields.map Field.name
  | [], _, [], _ => rfl
  | _ :: _, (_, _), (_, _) :: _, h => by
    rw [List.map_cons, List.map_cons, names_of_responding h.2.2.2, h.1]

/-- The field with a name responds to other values of its members. -/
def Changed (keep : Bool) (name : String) (us us' : List Tree) : (fields : List Field) →
    Views fields → Prop
  | [], _ => False
  | field :: fields, (view, views) =>
      if field.name = name then
        content? field.absent view us' = kept keep (content? field.absent view us)
      else Changed keep name us us' fields views

theorem ofNamed?_congr : (fields : List Field) → (views : Views fields) →
    (∀ name ∈ fields.map Field.name, named name ms' = named name ms) →
    ofNamed? fields views ms' = ofNamed? fields views ms
  | [], _, _ => rfl
  | field :: fields, (view, views), h => by
    rw [List.map_cons, List.forall_mem_cons] at h
    rw [ofNamed?, ofNamed?, h.1, ofNamed?_congr fields views h.2]

/-- If one field responds, and all others are left alone, the row responds. -/
theorem ofNamed?_changed : (fields : List Field) → (views : Views fields) →
    (fields.map Field.name).Nodup → Changed keep name (named name ms) (named name ms') fields views →
    (∀ other, other ≠ name → named other ms' = named other ms) →
    ofNamed? fields views ms' = kept keep (ofNamed? fields views ms)
  | field :: fields, (view, views), hnodup, hchanged, hothers => by
    simp only [List.map_cons, List.nodup_cons] at hnodup
    rw [ofNamed?, ofNamed?]
    by_cases hname : field.name = name
    · subst hname
      rw [Changed, if_pos rfl] at hchanged
      have hrest : ofNamed? fields views ms' = ofNamed? fields views ms :=
        ofNamed?_congr fields views fun other hother =>
          hothers other fun heq => hnodup.1 (heq ▸ hother)
      rw [hchanged, hrest, kept_bind]
    · rw [Changed, if_neg hname] at hchanged
      rw [hothers field.name hname, ofNamed?_changed fields views hnodup.2 hchanged hothers,
        ← bind_kept]
      simp only [map_kept]

theorem changed_null : (fields : List Field) → (views : Views fields) →
    (parts : List (String × Change)) → Responding keep key fields views parts →
    key ∈ parts.map Prod.fst → Changed keep key [] [.null] fields views
  | [], _, [], _, hkey => absurd hkey List.not_mem_nil
  | field :: fields, (view, views), (name, step) :: parts, h, hkey => by
    obtain ⟨rfl, hnull, -, hparts⟩ := h
    rw [Changed]
    split
    · rename_i hname
      exact hnull hname
    · rename_i hname
      rw [List.map_cons, List.mem_cons] at hkey
      exact changed_null fields views parts hparts (hkey.resolve_left (Ne.symm hname))

theorem content?_changed (h : view t' = kept keep (view t)) (absent : Option α) (us vs : List Tree) :
    content? absent view (us ++ t' :: vs) = kept keep (content? absent view (us ++ t :: vs)) := by
  match us, vs with
  | [], [] => exact h
  | [], _ :: _ => exact kept_none.symm
  | [_], _ => exact kept_none.symm
  | _ :: _ :: _, _ => exact kept_none.symm

theorem changed_member (us vs : List Tree) (hstep : step t t') : (fields : List Field) →
    (views : Views fields) → (parts : List (String × Change)) →
    Responding keep key fields views parts → (fields.map Field.name).Nodup →
    (name, step) ∈ parts → Changed keep name (us ++ t :: vs) (us ++ t' :: vs) fields views
  | [], _, [], _, _, hpart => absurd hpart List.not_mem_nil
  | field :: fields, (view, views), (_, _) :: parts, h, hnodup, hpart => by
    obtain ⟨rfl, -, hresponds, hparts⟩ := h
    simp only [List.map_cons, List.nodup_cons] at hnodup
    rw [Changed]
    rcases List.mem_cons.mp hpart with hhead | hpart
    · obtain ⟨rfl, rfl⟩ := Prod.mk.inj hhead
      rw [if_pos rfl]
      exact content?_changed (hresponds.view_eq hstep) _ us vs
    · have hname : name ∈ fields.map Field.name :=
        names_of_responding hparts ▸ List.mem_map.mpr ⟨_, hpart, rfl⟩
      have hne : field.name ≠ name := fun heq => hnodup.1 (heq ▸ hname)
      rw [if_neg hne]
      exact changed_member us vs hstep fields views parts hparts hnodup.2 hpart

theorem ofItems?_changed (hstep : step t t') (back : List Tree) : (fields : List Field) →
    (views : Views fields) → (parts : List (String × Change)) →
    Responding keep key fields views parts → (front : List Tree) →
    parts[front.length]? = some (name, step) →
    ofItems? fields views (front ++ t' :: back) =
      kept keep (ofItems? fields views (front ++ t :: back))
  | [], _, [], _, _, hpart => nomatch hpart
  | field :: fields, (view, views), (_, _) :: parts, h, [], hpart => by
    obtain ⟨-, -, hresponds, -⟩ := h
    obtain ⟨rfl, rfl⟩ := Prod.mk.inj (Option.some.inj hpart)
    rw [List.nil_append, List.nil_append, ofItems?, ofItems?, hresponds.view_eq hstep, kept_bind]
  | field :: fields, (view, views), (_, _) :: parts, h, u :: front, hpart => by
    have hrest := ofItems?_changed hstep back fields views parts h.2.2.2 front hpart
    rw [List.cons_append, List.cons_append, ofItems?, ofItems?, hrest, ← bind_kept]
    simp only [map_kept]

theorem view_object_changed {fields : List Field} {views : Views fields}
    (hkeyed : Tree.Keyed ms' ↔ Tree.Keyed ms)
    (hrow : ofNamed? fields views ms' = kept keep (ofNamed? fields views ms)) :
    Record.view fields views (.object ms') = kept keep (Record.view fields views (.object ms)) := by
  rw [Record.view, Record.view]
  by_cases h : Tree.Keyed ms
  · rw [if_pos h, if_pos (hkeyed.mpr h), hrow]
  · rw [if_neg h, if_neg fun h' => h (hkeyed.mp h'), kept_none]

/-- If the views of the fields respond, the view of the record does. -/
theorem responds_view {fields : List Field} {views : Views fields}
    {parts : List (String × Change)} (h : Responding keep key fields views parts)
    (hnodup : (fields.map Field.name).Nodup) :
    Responds keep (AddsNull key parts) (Record.view fields views) where
  ne_null := by
    rintro _ _ (_ | _ | _) <;> exact ⟨Tree.noConfusion, Tree.noConfusion⟩
  view_eq := by
    intro t t' hadds
    cases hadds with
    | @here front back hkey habsent =>
      have hchanged : Changed keep key (named key (front ++ back))
          (named key (front ++ (some key, .null) :: back)) fields views := by
        rw [Tree.named_insert, habsent]
        rw [Tree.named_append, List.append_eq_nil_iff] at habsent
        rw [habsent.1, habsent.2]
        exact changed_null fields views parts h hkey
      exact view_object_changed Tree.keyed_insert
        (ofNamed?_changed fields views hnodup hchanged fun _ hne => Tree.named_insert_of_ne hne)
    | @member name step t t' front back hpart hstep =>
      have hchanged : Changed keep name (named name (front ++ (some name, t) :: back))
          (named name (front ++ (some name, t') :: back)) fields views := by
        rw [Tree.named_insert, Tree.named_insert]
        exact changed_member _ _ hstep fields views parts h hnodup hpart
      have hothers (other : String) (hne : other ≠ name) :
          named other (front ++ (some name, t') :: back) =
            named other (front ++ (some name, t) :: back) :=
        (Tree.named_insert_of_ne hne).trans (Tree.named_insert_of_ne hne).symm
      exact view_object_changed (Tree.keyed_insert.trans Tree.keyed_insert.symm)
        (ofNamed?_changed fields views hnodup hchanged hothers)
    | @item name step t t' front back hpart hstep =>
      exact ofItems?_changed hstep back fields views parts h front hpart

end Record

end Provisioner.Json
