import Provisioner.Proofs.Json.Records
/-!
# Shapes of contents

What a lenient reader asks of a content can be said without any reader: this is null or a text, that
an array of such objects. And what it reads is a projection of the content, a function that never
fails. `Tree.Projects` says that a view is of this kind: it has a value exactly on the contents of a
shape, and this value is the projection. Fields, lists and the values of one's own records preserve
it.
-/

namespace Provisioner.Json

variable {α β : Type} {t : Tree} {ts : List Tree} {ms : Tree.Members} {name : String}

namespace Tree

/-! ### Projections -/

/-- The values of all members with a name. -/
def values (name : String) : Tree → List Tree
  | object ms => named name ms
  | _ => []

/-- The value of the first member with a name; null stands for an absent one. -/
def member (name : String) (t : Tree) : Tree := (t.values name).headD null

/-- The items of an array; anything else has none. -/
def items : Tree → List Tree
  | array ts => ts
  | _ => []

/-- The characters of a text; anything else has none. -/
def text : Tree → String
  | string (some s) => s
  | _ => ""

/-- The value of an unsigned integer literal; anything else counts as zero. -/
def natural : Tree → Nat
  | number n => n.natural?.getD 0
  | _ => 0

/-! ### Shapes -/

/-- A string that has a text. -/
inductive IsText : Tree → Prop where
  | mk {s : String} : IsText (string (some s))

/-- An unsigned integer literal below a bound. -/
inductive IsNatural (bound : Nat) : Tree → Prop where
  | mk {n : Numeral} {k : Nat} : n.natural? = some k → k < bound → IsNatural bound (number n)

/-- An array of items of one shape. -/
inductive IsArrayOf (shape : Tree → Prop) : Tree → Prop where
  | mk {ts : List Tree} : (∀ t ∈ ts, shape t) → IsArrayOf shape (array ts)

/-- An object in which none of the given names occurs twice, and the values of their members have
    the given shapes. -/
inductive IsRecord (parts : List (String × (Tree → Prop))) : Tree → Prop where
  | mk {ms : Members} :
      (∀ part ∈ parts, (named part.1 ms).length ≤ 1 ∧ part.2 (member part.1 (object ms))) →
      IsRecord parts (object ms)

/-- Null, or of a shape. -/
inductive IsNullOr (shape : Tree → Prop) : Tree → Prop where
  | null : IsNullOr shape .null
  | some {t : Tree} : shape t → IsNullOr shape t

/-- Not an array, and if an object, then one whose keys are all texts. -/
inductive IsPlain : Tree → Prop where
  | null : IsPlain null
  | boolean {b : Bool} : IsPlain (boolean b)
  | number {n : Numeral} : IsPlain (number n)
  | string {s : Option String} : IsPlain (string s)
  | object {ms : Members} : Keyed ms → IsPlain (object ms)

/-! ### Views that project -/

/-- The view sees the projection of `t` if that has the shape, and nothing otherwise. -/
def Projects (view : Tree → Option α) (shape : Tree → Prop) (project : Tree → α) (t : Tree) :
    Prop :=
  ∀ a, view t = some a ↔ shape t ∧ a = project t

theorem projects_string : Projects string? IsText text t := by
  intro s
  cases t with
  | string s' =>
    cases s' with
    | none =>
      constructor
      · intro h
        simp [string?] at h
      · rintro ⟨⟨⟩, _⟩
    | some s' =>
      constructor
      · intro h
        exact ⟨.mk, by simpa [string?, text, eq_comm] using h⟩
      · rintro ⟨_, rfl⟩
        simp [string?]
  | _ =>
    constructor
    · intro h
      simp [string?] at h
    · rintro ⟨⟨⟩, _⟩

theorem projects_word :
    Projects word? (IsNatural 0x100000000) (fun t => UInt32.ofNat t.natural) t := by
  intro w
  cases t with
  | number n =>
    simp only [word?, natural, Option.bind_eq_some_iff]
    constructor
    · rintro ⟨k, hk, hw⟩
      split at hw
      · rename_i hlt
        exact ⟨.mk hk hlt, by simpa [hk, eq_comm] using hw⟩
      · simp at hw
    · rintro ⟨⟨hk, hlt⟩, rfl⟩
      exact ⟨_, hk, by simp [hlt, hk]⟩
  | _ =>
    constructor
    · intro h
      simp [word?] at h
    · rintro ⟨⟨⟩, _⟩

variable {view : Tree → Option α} {shape : Tree → Prop} {project : Tree → α}

theorem Projects.map (h : Projects view shape project t) (f : α → β) :
    Projects (fun t => (view t).map f) shape (fun t => f (project t)) t := by
  intro b
  rw [Option.map_eq_some_iff]
  constructor
  · rintro ⟨a, ha, rfl⟩
    obtain ⟨hshape, rfl⟩ := (h a).mp ha
    exact ⟨hshape, rfl⟩
  · rintro ⟨hshape, rfl⟩
    exact ⟨project t, (h _).mpr ⟨hshape, rfl⟩, rfl⟩

/-- Null is seen as the projection that it has anyway. -/
theorem Projects.nullOr (h : t ≠ null → Projects view shape project t) :
    Projects (nullOr? (project null) view) (IsNullOr shape) project t := by
  intro a
  by_cases ht : t = null
  · subst ht
    simp only [nullOr?, Option.some.injEq]
    constructor
    · intro ha
      exact ⟨.null, ha.symm⟩
    · rintro ⟨_, ha⟩
      exact ha.symm
  · have hview : nullOr? (project null) view t = view t := by
      cases t <;> first | rfl | exact absurd rfl ht
    rw [hview, h ht a]
    constructor
    · rintro ⟨hshape, ha⟩
      exact ⟨.some hshape, ha⟩
    · rintro ⟨hnull | hshape, ha⟩
      · exact absurd rfl ht
      · exact ⟨hshape, ha⟩

theorem mapM_eq_some_iff (h : ∀ t ∈ ts, Projects view shape project t) (as : List α) :
    ts.mapM view = some as ↔ (∀ t ∈ ts, shape t) ∧ as = ts.map project := by
  induction ts generalizing as with
  | nil => simp [eq_comm]
  | cons t ts ih =>
    have ht := h t List.mem_cons_self
    have hts := ih fun u hu => h u (List.mem_cons_of_mem _ hu)
    simp only [List.mapM_cons, bind, pure, Option.bind_eq_some_iff, Option.some.injEq,
      List.forall_mem_cons, List.map_cons]
    constructor
    · rintro ⟨a, ha, as', has, rfl⟩
      obtain ⟨hshape, rfl⟩ := (ht a).mp ha
      obtain ⟨hshapes, rfl⟩ := (hts as').mp has
      exact ⟨⟨hshape, hshapes⟩, rfl⟩
    · rintro ⟨⟨hshape, hshapes⟩, rfl⟩
      exact ⟨project t, (ht _).mpr ⟨hshape, rfl⟩, ts.map project, (hts _).mpr ⟨hshapes, rfl⟩, rfl⟩

theorem Projects.list (h : ∀ u ∈ t.items, Projects view shape project u) :
    Projects (list? view) (IsArrayOf shape) (fun t => t.items.map project) t := by
  intro as
  cases t with
  | array ts =>
    have hitems : ∀ u ∈ ts, Projects view shape project u := h
    rw [list?, mapM_eq_some_iff hitems]
    constructor
    · rintro ⟨hshape, ha⟩
      exact ⟨.mk hshape, ha⟩
    · rintro ⟨⟨hshape⟩, ha⟩
      exact ⟨hshape, ha⟩
  | _ =>
    constructor
    · intro h
      simp [list?] at h
    · rintro ⟨⟨⟩, _⟩

end Tree

/-! ### Records that project -/

namespace Record

open Provisioner.Json.Tree (Projects IsNullOr IsRecord IsPlain named nullOr? values)

variable {view : Tree → Option α} {shape : Tree → Prop} {project : Tree → α}

/-- The same for one field of a record: what its members give is the projection of the first one. -/
def FieldProjects (name : String) (absent : Option α) (view : Tree → Option α)
    (shape : Tree → Prop) (ms : Tree.Members) (content : α) : Prop :=
  ∀ a, content? absent view (named name ms) = some a ↔
    ((named name ms).length ≤ 1 ∧ shape ((Tree.object ms).member name)) ∧ a = content

/-- The same for some fields of a record. -/
def Projecting (fields : List Field) (views : Views fields) (parts : List (String × (Tree → Prop)))
    (ms : Tree.Members) (content : Row fields) : Prop :=
  ∀ row, ofNamed? fields views ms = some row ↔
    (∀ part ∈ parts, (named part.1 ms).length ≤ 1 ∧ part.2 ((Tree.object ms).member part.1)) ∧
      row = content

/-- A field that null stands for as well as its absence. -/
theorem fieldProjects_nullable
    (h : (Tree.object ms).member name ≠ .null →
      Projects view shape project ((Tree.object ms).member name)) :
    FieldProjects name (some (project .null)) (nullOr? (project .null) view) (IsNullOr shape) ms
      (project ((Tree.object ms).member name)) := by
  intro a
  have hnull := Projects.nullOr h a
  simp only [Tree.member, values] at hnull ⊢
  generalize named name ms = us at hnull ⊢
  match us with
  | [] =>
    simp only [content?, Option.some.injEq, List.headD_nil]
    constructor
    · intro ha
      exact ⟨⟨Nat.zero_le 1, .null⟩, ha.symm⟩
    · rintro ⟨_, ha⟩
      exact ha.symm
  | [u] => simpa [content?] using hnull
  | u :: v :: us => simp [content?]

/-- A field all of whose values are of the shape. -/
theorem fieldProjects_defaulting
    (h : ∀ u ∈ named name ms, Projects view shape project u ∧ shape u) :
    FieldProjects name (some (project .null)) view (fun _ => True) ms
      (project ((Tree.object ms).member name)) := by
  intro a
  simp only [Tree.member, values]
  match named name ms, h with
  | [], _ => simp [content?, eq_comm]
  | [u], h =>
    have hu := h u List.mem_cons_self
    simp [content?, hu.1 a, hu.2]
  | u :: v :: us, _ => simp [content?]

theorem projecting_nil : Projecting [] () [] ms () := by
  intro row
  simp [ofNamed?]

theorem projecting_cons {field : Field} {fields : List Field} {views : Views fields}
    {parts : List (String × (Tree → Prop))} {view : Tree → Option field.Content}
    {content : field.Content} {row : Row fields}
    (hfield : FieldProjects field.name field.absent view shape ms content)
    (hfields : Projecting fields views parts ms row) :
    Projecting (field :: fields) (view, views) ((field.name, shape) :: parts) ms
      (content, row) := by
  rintro ⟨a, as⟩
  simp only [ofNamed?, Option.bind_eq_some_iff, Option.map_eq_some_iff, List.forall_mem_cons,
    Prod.mk.injEq]
  constructor
  · rintro ⟨a', ha, as', has, rfl, rfl⟩
    obtain ⟨hshape, rfl⟩ := (hfield a').mp ha
    obtain ⟨hshapes, rfl⟩ := (hfields as').mp has
    exact ⟨⟨hshape, hshapes⟩, rfl, rfl⟩
  · rintro ⟨⟨hshape, hshapes⟩, rfl, rfl⟩
    exact ⟨_, (hfield _).mpr ⟨hshape, rfl⟩, _, (hfields _).mpr ⟨hshapes, rfl⟩, rfl, rfl⟩

/-- A record projects if its fields do, wherever no array stands for it. -/
theorem projects_record {fields : List Field} {views : Views fields}
    {parts : List (String × (Tree → Prop))} {project : Tree → Row fields} (hplain : t.IsPlain)
    (h : ∀ ms, t = .object ms → Projecting fields views parts ms (project t)) :
    Projects (Record.view fields views) (IsRecord parts) project t := by
  intro row
  cases hplain with
  | @object ms hkeyed =>
    rw [Record.view, if_pos hkeyed, h ms rfl row]
    constructor
    · rintro ⟨hparts, hrow⟩
      exact ⟨.mk hparts, hrow⟩
    · rintro ⟨⟨hparts⟩, hrow⟩
      exact ⟨hparts, hrow⟩
  | _ =>
    constructor
    · intro h
      simp [Record.view] at h
    · rintro ⟨⟨⟩, _⟩

end Record

end Provisioner.Json
