import Provisioner.Proofs.Json.Printing
import Provisioner.Proofs.Json.Records
import Provisioner.Proofs.Json.Values
/-!
# What codecs write

A codec shows its values to a view if the view sees in every written value what was written
(`Codec.Shows`). Together with a reader of this view a text is then read back as it was written
(`Codec.Shows.ofText_toText`). Most codecs also never write null (`Codec.Writes`), so that null can
stand for something beside them. The combinators of codecs preserve this as those of readers preserve
`Reader.Reads`; for a record it takes that a content which is left out is the one that its absence
stands for.
-/

namespace Provisioner.Json

variable {α β : Type}

/-- Values are written without floats, and seen as what they were. -/
structure Codec.Shows (c : Codec α) (view : Tree → Option α) : Prop where
  exact_encode : ∀ a, (c.encode a).Exact
  view_tree : ∀ a, view (c.encode a).tree = some a

/-- Values are shown to a view, and never written as null. -/
structure Codec.Writes (c : Codec α) (view : Tree → Option α) : Prop extends c.Shows view where
  ne_null : ∀ a, (c.encode a).tree ≠ .null

namespace Codec

variable {c : Codec α} {view : Tree → Option α}

theorem Shows.ofText_toText (hshows : c.Shows view) (hreads : c.reader.Reads view) (a : α) :
    c.ofText (c.toText a) = .ok a := by
  have hparse := hreads.toOption_parse (spelledBy_text (hshows.exact_encode a))
  rw [hshows.view_tree a] at hparse
  exact toOption_eq_some_iff.mp hparse

theorem writes_string : string.Writes Tree.string? where
  exact_encode _ := trivial
  view_tree _ := rfl
  ne_null s := by simp [string, scalar, Scalar.value, tree]

theorem writes_boolean : boolean.Writes Tree.boolean? where
  exact_encode _ := trivial
  view_tree _ := rfl
  ne_null b := by simp [boolean, scalar, Scalar.value, tree]

theorem writes_word : word.Writes Tree.word? where
  exact_encode _ := trivial
  view_tree w := by
    have hlt : w.toNat < 0x100000000 := w.toNat_lt
    have hview : (Numeral.ofInteger w.toNat).natural? = some w.toNat := Numeral.natural?_ofInteger _
    show ((Numeral.ofInteger w.toNat).natural?.bind fun k => _) = some w
    rw [hview]
    exact (if_pos hlt).trans (congrArg some UInt32.ofNat_toNat)
  ne_null w := by simp [word, scalar, Scalar.value, tree]

theorem Shows.map (h : c.Shows view) {f : α → β} {g : β → α} (hinverse : ∀ b, f (g b) = b) :
    (c.map f g).Shows fun t => (view t).map f where
  exact_encode b := h.exact_encode (g b)
  view_tree b := by
    show (view (c.encode (g b)).tree).map f = some b
    rw [h.view_tree, Option.map_some, hinverse]

theorem Writes.map (h : c.Writes view) {f : α → β} {g : β → α} (hinverse : ∀ b, f (g b) = b) :
    (c.map f g).Writes fun t => (view t).map f where
  toShows := h.toShows.map hinverse
  ne_null b := h.ne_null (g b)

theorem Writes.nullAs (h : c.Writes view) (absent : α) :
    (c.nullAs absent).Writes (Tree.nullOr? absent view) where
  exact_encode := h.exact_encode
  view_tree a := (Tree.nullOr?_of_ne_null (h.ne_null a)).trans (h.view_tree a)
  ne_null := h.ne_null

/-- What may be missing is shown as null when it is. -/
theorem Writes.option (h : c.Writes view) :
    c.option.Shows (Tree.nullOr? none fun t => (view t).map some) where
  exact_encode a := by
    cases a with
    | none => trivial
    | some a => exact h.exact_encode a
  view_tree a := by
    cases a with
    | none => rfl
    | some a =>
      refine (Tree.nullOr?_of_ne_null (h.ne_null a)).trans ?_
      rw [h.view_tree, Option.map_some]

theorem exactItems_map (h : ∀ a, (c.encode a).Exact) (as : List α) :
    ExactItems (as.map c.encode) := by
  induction as with
  | nil => trivial
  | cons a as ih => exact ⟨h a, ih⟩

theorem mapM_treeItems (h : ∀ a, view (c.encode a).tree = some a) (as : List α) :
    (treeItems (as.map c.encode)).mapM view = some as := by
  induction as with
  | nil => rfl
  | cons a as ih =>
    rw [List.map_cons, treeItems, List.mapM_cons, h, ih]
    rfl

theorem Writes.list (h : c.Writes view) : c.list.Writes (Tree.list? view) where
  exact_encode as := exactItems_map h.exact_encode as
  view_tree as := mapM_treeItems h.view_tree as
  ne_null as := by simp [Codec.list, tree]

theorem exactMembers_map (h : ∀ a, (c.encode a).Exact) (entries : List (String × α)) :
    ExactMembers (entries.map fun entry => (entry.1, c.encode entry.2)) := by
  induction entries with
  | nil => trivial
  | cons entry rest ih => exact ⟨h entry.2, ih⟩

/-- The members of a dictionary are taken in one after the other, over those that are there. -/
theorem foldMembers_treeMembers (h : ∀ a, view (c.encode a).tree = some a)
    (entries : List (String × α)) (d : Dict α) :
    Tree.foldMembers (fun key t (d : Dict α) => (view t).map (d.insert key))
      (treeMembers (entries.map fun entry => (entry.1, c.encode entry.2))) d =
      some ⟨Entries.overlay d.entries entries, Entries.increasing_overlay d.increasing entries⟩ := by
  induction entries generalizing d with
  | nil => rfl
  | cons entry rest ih =>
    rw [List.map_cons, treeMembers, Tree.foldMembers, h, Option.map_some, Option.bind_some, ih]
    rfl

theorem Writes.dict (h : c.Writes view) : c.dict.Writes (Tree.dict? view) where
  exact_encode d := exactMembers_map h.exact_encode d.entries
  view_tree d := by
    show Tree.foldMembers _ (treeMembers _) _ = some d
    rw [foldMembers_treeMembers h.view_tree]
    apply congrArg some
    apply Dict.ext_get?
    intro key
    exact congrArg (Entries.find? key) (Entries.arrange_of_increasing d.increasing)
  ne_null d := by simp [Codec.dict, tree]

end Codec

/-! ### Records -/

namespace Record

/-- Every content is written for its view, unless its absence stands for it. -/
def Writes : (fields : List Field) → Views fields → Prop
  | [], _ => True
  | field :: fields, (view, views) =>
      field.codec.Shows view ∧
        (∀ content, field.omitted content = true → field.absent = some content) ∧
        Writes fields views

theorem keyed_treeMembers (ms : Members) : Tree.Keyed (treeMembers ms) := by
  induction ms with
  | nil => exact fun m hm => absurd hm List.not_mem_nil
  | cons m ms ih => simpa [treeMembers, Tree.Keyed] using ih

theorem exactMembers_members : (fields : List Field) → (views : Views fields) →
    Writes fields views → (row : Row fields) → ExactMembers (members fields row)
  | [], _, _, _ => trivial
  | field :: fields, (_, views), h, (content, row) => by
    have ih := exactMembers_members fields views h.2.2 row
    rw [members]
    split
    · exact ih
    · exact ⟨h.1.exact_encode content, ih⟩

theorem named_treeMembers {name : String} : (fields : List Field) → (row : Row fields) →
    name ∉ fields.map Field.name → Tree.named name (treeMembers (members fields row)) = []
  | [], _, _ => rfl
  | field :: fields, (content, row), hname => by
    simp only [List.map_cons, List.mem_cons, not_or] at hname
    have ih := named_treeMembers fields row hname.2
    rw [members]
    split
    · exact ih
    · rw [treeMembers, Tree.named, if_neg (by simpa using Ne.symm hname.1), ih]

theorem ofNamed?_cons_unknown {key : String} {t : Tree} {ms : Tree.Members} {fields : List Field}
    {views : Views fields} (hkey : key ∉ fields.map Field.name) :
    ofNamed? fields views ((some key, t) :: ms) = ofNamed? fields views ms := by
  rw [← finish?_blank, finish?_cons_unknown fields views _ hkey, finish?_blank]

/-- The members that stand for a row give the row. -/
theorem ofNamed?_members : (fields : List Field) → (views : Views fields) → Writes fields views →
    (fields.map Field.name).Nodup → (row : Row fields) →
    ofNamed? fields views (treeMembers (members fields row)) = some row
  | [], _, _, _, () => rfl
  | field :: fields, (view, views), h, hnodup, (content, row) => by
    simp only [List.map_cons, List.nodup_cons] at hnodup
    have ih := ofNamed?_members fields views h.2.2 hnodup.2 row
    have hnamed := named_treeMembers fields row hnodup.1
    rw [members]
    split
    · rename_i homitted
      rw [ofNamed?, hnamed, ih, content?, h.2.1 content homitted]
      rfl
    · rw [treeMembers, ofNamed?, ofNamed?_cons_unknown hnodup.1, Tree.named, if_pos rfl, hnamed, ih,
        content?, h.1.view_tree]
      rfl

/-- A record is written for its view. -/
theorem writes_record {name : String} {fields : List Field} {views : Views fields}
    (h : Writes fields views) (hnodup : (fields.map Field.name).Nodup) :
    (Codec.record name fields).Writes (view fields views) := by
  refine ⟨⟨exactMembers_members fields views h, fun row => ?_⟩, fun row => ?_⟩
  · show view fields views (.object (treeMembers (members fields row))) = some row
    rw [view, if_pos (keyed_treeMembers _)]
    exact ofNamed?_members fields views h hnodup row
  · simp [Codec.record, tree]

end Record

end Provisioner.Json
