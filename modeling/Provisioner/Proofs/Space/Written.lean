import Provisioner.Proofs.Json.AnyValue
import Provisioner.Proofs.Space.Places
/-!
# What is written for contents

The document of contents can be described without fields and codecs (`Contents.specified`). This is
what a reader of any JSON finds in the text, and the identifiers of its questions are all that a
search finds there, whatever the tables and questions are called.
-/

namespace Provisioner.Space

open Json

variable {α β γ : Type} {name : String}

/-! ### The document -/

def specifiedQuestion (id text : String) : Json :=
  .object [("id", .string id), ("question", .array [.string text])]

def specifiedTable (identifier : String) : Json := .object [("identifier", .string identifier)]

/-- The part that holds the questions. Without questions it is empty. -/
def specifiedConfig (texts : List String) (ids : Nat → String) : Json :=
  .object (if texts = [] then [] else
    [("sample_questions", .array (texts.mapIdx fun n text => specifiedQuestion (ids n) text))])

/-- The part that holds the tables. -/
def specifiedSources (tables : List String) : Json :=
  .object [("tables", .array (tables.map specifiedTable))]

/-- The document that is to be written for contents, with `ids n` for the identifier of the `n`-th
    question. -/
def Contents.specified (c : Contents) (ids : Nat → String) : Json :=
  .object
    [("version", .number (.integer 1)),
     ("config", specifiedConfig c.sampleQuestions ids),
     ("data_sources", specifiedSources c.tables)]

theorem map_mapIdx (f : Nat → α → β) (g : β → γ) (as : List α) :
    (as.mapIdx f).map g = as.mapIdx fun n a => g (f n a) := by
  simp [List.mapIdx_eq_zipIdx_map]

theorem encode_config (texts : List String) (ids : IdSupply) :
    Config.codec.encode ⟨questions texts ids⟩ = specifiedConfig texts fun n => (ids n).text := by
  have hquestions : (questions texts ids).map Question.codec.encode =
      texts.mapIdx fun n text => specifiedQuestion (ids n).text text := map_mapIdx _ _ _
  cases texts with
  | nil => rfl
  | cons text texts =>
    rw [specifiedConfig, if_neg (List.cons_ne_nil text texts), ← hquestions, questions_cons]
    rfl

theorem encode_sources (tables : List String) :
    DataSources.codec.encode ⟨tables.map Table.mk⟩ = specifiedSources tables := by
  have htables : (tables.map Table.mk).map Table.codec.encode = tables.map specifiedTable :=
    List.map_map
  rw [specifiedSources, ← htables]
  rfl

/-- The fields of a document write what is specified. -/
theorem Contents.encode_document (c : Contents) (ids : IdSupply) :
    Document.codec.encode (c.document ids) = c.specified fun n => (ids n).text := by
  rw [specified, ← encode_config, ← encode_sources]
  rfl

/-! ### Its shape -/

theorem exact_specified (c : Contents) (ids : IdSupply) :
    (c.specified fun n => (ids n).text).Exact := by
  obtain ⟨view, hwrites, -⟩ := Document.faithful.readable
  rw [← c.encode_document]
  exact hwrites.exact_encode (c.document ids)

theorem forall_mem_mapIdx {f : Nat → α → β} {p : β → Prop} {as : List α} (h : ∀ n a, p (f n a)) :
    ∀ b ∈ as.mapIdx f, p b := by
  intro b hb
  obtain ⟨n, _, rfl⟩ := List.mem_mapIdx.mp hb
  exact h n _

theorem fits_specified (c : Contents) (ids : Nat → String) :
    (c.specified ids).Fits greatestDepth := by
  have hquestion (id text : String) : Fits 124 (specifiedQuestion id text) :=
    ⟨trivial, ⟨trivial, trivial⟩, trivial⟩
  have htable (identifier : String) : Fits 124 (specifiedTable identifier) := ⟨trivial, trivial⟩
  have hquestions : FitsItems 124
      (c.sampleQuestions.mapIdx fun n text => specifiedQuestion (ids n) text) :=
    fitsItems_iff.mpr (forall_mem_mapIdx fun n text => hquestion (ids n) text)
  have htables : FitsItems 124 (c.tables.map specifiedTable) :=
    fitsItems_iff.mpr (List.forall_mem_map.mpr fun identifier _ => htable identifier)
  have hconfig : Fits 126 (specifiedConfig c.sampleQuestions ids) := by
    unfold specifiedConfig
    split
    · trivial
    · exact ⟨hquestions, trivial⟩
  have hversion : Fits 126 (.number (.integer 1)) := ⟨by decide, by decide⟩
  exact ⟨hversion, hconfig, ⟨htables, trivial⟩, trivial⟩

theorem searchable_specified (c : Contents) (ids : Nat → String) :
    Searchable (c.specified ids) := by
  have hquestion (id text : String) : Searchable (specifiedQuestion id text) :=
    ⟨by decide, trivial, by decide, ⟨trivial, trivial⟩, trivial⟩
  have htable (identifier : String) : Searchable (specifiedTable identifier) :=
    ⟨by decide, trivial, trivial⟩
  have hquestions : SearchableItems
      (c.sampleQuestions.mapIdx fun n text => specifiedQuestion (ids n) text) :=
    searchableItems_iff.mpr (forall_mem_mapIdx fun n text => hquestion (ids n) text)
  have htables : SearchableItems (c.tables.map specifiedTable) :=
    searchableItems_iff.mpr (List.forall_mem_map.mpr fun identifier _ => htable identifier)
  have hconfig : Searchable (specifiedConfig c.sampleQuestions ids) := by
    unfold specifiedConfig
    split
    · trivial
    · exact ⟨by decide, hquestions, trivial⟩
  exact ⟨by decide, trivial, by decide, hconfig, by decide, ⟨by decide, htables, trivial⟩, trivial⟩

/-! ### Its identifiers -/

theorem memberId?_id (id : QuestionId) : memberId? "id" (.string id.text) = some id.digits := by
  have hdigits : id.text.toList = id.digits := String.toList_ofList
  rw [memberId?, hdigits, if_pos ⟨rfl, id.isId_digits⟩]

theorem shownIds_question (id : QuestionId) (text : String) :
    shownIds (specifiedQuestion id.text text) = [id.digits] := by
  simp [specifiedQuestion, shownIds, shownIdsMembers, shownIdsItems, memberId?_id,
    memberId?_eq_none]

theorem coverIds_question (id : QuestionId) (text : String) :
    coverIds (specifiedQuestion id.text text) = specifiedQuestion "*" text := by
  have hcover : String.ofList idCover = "*" := rfl
  simp [specifiedQuestion, coverIds, coverIdsMembers, coverIdsItems, coverMember, memberId?_id,
    memberId?_eq_none, hcover]

theorem shownIds_table (identifier : String) : shownIds (specifiedTable identifier) = [] := by
  simp [specifiedTable, shownIds, shownIdsMembers, memberId?_eq_none]

theorem coverIds_table (identifier : String) :
    coverIds (specifiedTable identifier) = specifiedTable identifier := by
  simp [specifiedTable, coverIds, coverIdsMembers, coverMember, memberId?_eq_none]

theorem flatMap_shownIds (texts : List String) (ids : IdSupply) :
    (texts.mapIdx fun n text => specifiedQuestion (ids n).text text).flatMap shownIds =
      (List.range texts.length).map fun n => (ids n).digits := by
  induction texts generalizing ids with
  | nil => rfl
  | cons text texts ih =>
    rw [List.mapIdx_cons, List.flatMap_cons, shownIds_question, ih fun n => ids (n + 1),
      List.length_cons, List.range_succ_eq_map, List.map_cons, List.map_map]
    rfl

theorem shownIds_config (texts : List String) (ids : IdSupply) :
    shownIds (specifiedConfig texts fun n => (ids n).text) =
      (List.range texts.length).map fun n => (ids n).digits := by
  unfold specifiedConfig
  split
  · rename_i hnone
    rw [hnone]
    rfl
  · simp [shownIds, shownIdsMembers, shownIdsItems_eq, flatMap_shownIds, memberId?_eq_none]

theorem coverIds_config (texts : List String) (ids : IdSupply) :
    coverIds (specifiedConfig texts fun n => (ids n).text) =
      specifiedConfig texts fun _ => "*" := by
  unfold specifiedConfig
  split
  · rfl
  · simp [coverIds, coverIdsMembers, coverMember, coverIdsItems_eq, map_mapIdx, coverIds_question,
      memberId?_eq_none]

/-- A document shows the identifiers of its questions. -/
theorem shownIds_specified (c : Contents) (ids : IdSupply) :
    shownIds (c.specified fun n => (ids n).text) =
      (List.range c.sampleQuestions.length).map fun n => (ids n).digits := by
  have hsources : shownIds (specifiedSources c.tables) = [] := by
    simp [specifiedSources, shownIds, shownIdsMembers, shownIdsItems_eq, shownIds_table,
      memberId?_eq_none, List.flatMap_map]
  simp [Contents.specified, shownIds, shownIdsMembers, memberId?_eq_none, shownIds_config, hsources]

/-- With its identifiers covered a document is one that has the cover for its identifiers. -/
theorem coverIds_specified (c : Contents) (ids : IdSupply) :
    coverIds (c.specified fun n => (ids n).text) = c.specified fun _ => "*" := by
  have hsources : coverIds (specifiedSources c.tables) = specifiedSources c.tables := by
    simp [specifiedSources, coverIds, coverIdsMembers, coverMember, coverIdsItems_eq,
      coverIds_table, memberId?_eq_none]
  simp [Contents.specified, coverIds, coverIdsMembers, coverMember, memberId?_eq_none,
    coverIds_config, hsources]

/-- The text of a document is read as the document, and as nothing else, and a search finds the
    identifiers of the questions, and nothing else. With them covered, it is the text of the contents
    alone. -/
theorem Contents.encode_specified (c : Contents) (ids : IdSupply) :
    Json.ofText (c.encode ids) = .ok (c.specified fun n => (ids n).text).settle ∧
      (∀ root : Tree, root.SpelledBy (c.encode ids).toList ↔
        root = (c.specified fun n => (ids n).text).tree) ∧
      (c.encode ids).toList.tails.filterMap idHere? =
        ((List.range c.sampleQuestions.length).map fun n => (ids n).digits) ∧
      maskIds (c.encode ids).toList =
        ((c.specified fun _ => "*").write,
          (List.range c.sampleQuestions.length).map fun n => (ids n).digits) := by
  have hexact := exact_specified c ids
  have hspelled := spelledBy_text hexact
  have htext : c.encode ids = (c.specified fun n => (ids n).text).text := by
    rw [encode, Codec.toText, c.encode_document]
  have hmasks : maskIds (c.encode ids).toList =
      ((c.specified fun _ => "*").write,
        (List.range c.sampleQuestions.length).map fun n => (ids n).digits) := by
    have hsearch := masks_write _ (searchable_specified c fun n => (ids n).text) []
      fun c hc => absurd hc (by simp)
    rw [Masks, coverIds_specified, shownIds_specified, maskIds] at hsearch
    rw [htext, Json.text, String.toList_ofList]
    simpa using hsearch
  refine ⟨?read, fun root => ⟨?one, ?some⟩, ?places, hmasks⟩
  case read =>
    rw [htext]
    exact ofText_text hexact (fits_specified c _)
  case one =>
    intro hroot
    rw [htext] at hroot
    exact hspelled.unique hroot
  case some =>
    rintro rfl
    rw [htext]
    exact hspelled
  case places =>
    rw [← maskIds_snd, hmasks]

/-- Without questions their part is empty, but the tables are always there. -/
example : (Contents.specified ⟨[], []⟩ fun _ => "*").text =
    "\x7b\"version\":1,\"config\":\x7b\x7d,\"data_sources\":\x7b\"tables\":[]\x7d\x7d" := by
  decide +kernel

end Provisioner.Space
