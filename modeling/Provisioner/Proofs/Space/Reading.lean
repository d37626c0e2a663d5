import Provisioner.Proofs.Json.Shapes
import Provisioner.Space.Document
import Provisioner.Proofs.Json.Faithful
/-!
# What a document is read as

The document of a space is read straight from its text by readers of records, lists and scalars.
Here the same is said of the content of the text, once and for all texts with this content. A
document is readable if it has the shape `Document.Readable`; then its tables and questions are
those of `Document.projection`, which looks at the members it knows and at nothing else.

The views of the parts of a document come first, then their shapes and projections, each from those
of its own parts, and last the whole text.
-/

namespace Provisioner.Space

open Json
open Json.Reader (reads_string reads_word reads_list reads_nullOr)
open Json.Record (reads_record projects_record projecting_nil projecting_cons
  fieldProjects_nullable fieldProjects_defaulting)
open Json.Tree (Projects IsText IsNatural IsArrayOf IsNullOr IsRecord IsPlain projects_string
  projects_word)

variable {t root : Tree} {text : String}

/-! ### Views -/

def Question.views : Views Question.fields :=
  (Tree.string?, Tree.nullOr? [] (Tree.list? Tree.string?), ())

def Question.view (t : Tree) : Option Question :=
  (Record.view fields views t).map fun (id, texts, ()) => ⟨id, texts⟩

def Table.views : Views Table.fields := (Tree.nullOr? "" Tree.string?, ())

def Table.view (t : Tree) : Option Table :=
  (Record.view fields views t).map fun (identifier, ()) => ⟨identifier⟩

def Config.views : Views Config.fields := (Tree.nullOr? [] (Tree.list? Question.view), ())

def Config.view (t : Tree) : Option Config :=
  (Record.view fields views t).map fun (sampleQuestions, ()) => ⟨sampleQuestions⟩

def DataSources.views : Views DataSources.fields := (Tree.nullOr? [] (Tree.list? Table.view), ())

def DataSources.view (t : Tree) : Option DataSources :=
  (Record.view fields views t).map fun (tables, ()) => ⟨tables⟩

def Document.views : Views Document.fields :=
  (Tree.nullOr? (0 : UInt32) Tree.word?, Tree.nullOr? ⟨[]⟩ Config.view,
    Tree.nullOr? ⟨[]⟩ DataSources.view, ())

def Document.view (t : Tree) : Option Document :=
  (Record.view fields views t).map fun (version, config, dataSources, ()) =>
    ⟨version, config, dataSources⟩

theorem Question.reads : codec.reader.Reads view := by
  have hrow : (Codec.record "SampleQuestion" fields).reader.Reads (Record.view fields views) :=
    reads_record ⟨reads_string, reads_nullOr (reads_list reads_string) [], trivial⟩ (by decide)
  exact hrow.map _

theorem Table.reads : codec.reader.Reads view := by
  have hrow : (Codec.record "TableSource" fields).reader.Reads (Record.view fields views) :=
    reads_record ⟨reads_nullOr reads_string "", trivial⟩ (by decide)
  exact hrow.map _

theorem Config.reads : codec.reader.Reads view := by
  have hrow : (Codec.record "SpaceConfig" fields).reader.Reads (Record.view fields views) :=
    reads_record ⟨reads_nullOr (reads_list Question.reads) [], trivial⟩ (by decide)
  exact hrow.map _

theorem DataSources.reads : codec.reader.Reads view := by
  have hrow : (Codec.record "SpaceDataSources" fields).reader.Reads (Record.view fields views) :=
    reads_record ⟨reads_nullOr (reads_list Table.reads) [], trivial⟩ (by decide)
  exact hrow.map _

theorem Document.reads : codec.reader.Reads view := by
  have hrow : (Codec.record "SpaceDocument" fields).reader.Reads (Record.view fields views) :=
    reads_record ⟨reads_nullOr reads_word 0, reads_nullOr Config.reads ⟨[]⟩,
      reads_nullOr DataSources.reads ⟨[]⟩, trivial⟩ (by decide)
  exact hrow.map _

/-! ### Shapes -/

def Question.Readable : Tree → Prop :=
  IsRecord [("id", fun _ => True), ("question", IsNullOr (IsArrayOf IsText))]

def Table.Readable : Tree → Prop := IsRecord [("identifier", IsNullOr IsText)]

def Config.Readable : Tree → Prop :=
  IsRecord [("sample_questions", IsNullOr (IsArrayOf Question.Readable))]

def DataSources.Readable : Tree → Prop :=
  IsRecord [("tables", IsNullOr (IsArrayOf Table.Readable))]

/-- What a document has to look like to be read. -/
def Document.Readable : Tree → Prop :=
  IsRecord
    [("version", IsNullOr (IsNatural 0x100000000)),
     ("config", IsNullOr Config.Readable),
     ("data_sources", IsNullOr DataSources.Readable)]

/-! ### Projections -/

def Question.row (t : Tree) : Row Question.fields :=
  ((t.member "id").text, (t.member "question").items.map Tree.text, ())

def Question.project (t : Tree) : Question :=
  ⟨(t.member "id").text, (t.member "question").items.map Tree.text⟩

def Table.row (t : Tree) : Row Table.fields := ((t.member "identifier").text, ())

def Table.project (t : Tree) : Table := ⟨(t.member "identifier").text⟩

def Config.row (t : Tree) : Row Config.fields :=
  ((t.member "sample_questions").items.map Question.project, ())

def Config.project (t : Tree) : Config :=
  ⟨(t.member "sample_questions").items.map Question.project⟩

def DataSources.row (t : Tree) : Row DataSources.fields :=
  ((t.member "tables").items.map Table.project, ())

def DataSources.project (t : Tree) : DataSources := ⟨(t.member "tables").items.map Table.project⟩

def Document.row (t : Tree) : Row Document.fields :=
  (UInt32.ofNat (t.member "version").natural, Config.project (t.member "config"),
    DataSources.project (t.member "data_sources"), ())

def Document.project (t : Tree) : Document :=
  { version := UInt32.ofNat (t.member "version").natural
    config := Config.project (t.member "config")
    dataSources := DataSources.project (t.member "data_sources") }

theorem Question.projects (hplain : t.IsPlain) (hids : ∀ id ∈ t.values "id", id.IsText) :
    Projects view Readable project t := by
  have hrow : Projects (Record.view fields views) Readable row t := by
    refine projects_record hplain ?_
    rintro ms rfl
    have hid : ∀ id ∈ Tree.named "id" ms, Projects Tree.string? IsText Tree.text id ∧ id.IsText :=
      fun id hid => ⟨projects_string, hids id hid⟩
    exact projecting_cons (fieldProjects_defaulting hid)
      (projecting_cons (fieldProjects_nullable fun _ => Projects.list fun _ _ => projects_string)
        projecting_nil)
  exact hrow.map _

theorem Table.projects (hplain : t.IsPlain) : Projects view Readable project t := by
  have hrow : Projects (Record.view fields views) Readable row t := by
    refine projects_record hplain ?_
    rintro ms rfl
    exact projecting_cons (fieldProjects_nullable fun _ => projects_string) projecting_nil
  exact hrow.map _

theorem Config.projects (hplain : t.IsPlain)
    (hquestions : ∀ q ∈ (t.member "sample_questions").items,
      Projects Question.view Question.Readable Question.project q) :
    Projects view Readable project t := by
  have hrow : Projects (Record.view fields views) Readable row t := by
    refine projects_record hplain ?_
    rintro ms rfl
    exact projecting_cons (fieldProjects_nullable fun _ => Projects.list hquestions) projecting_nil
  exact hrow.map _

theorem DataSources.projects (hplain : t.IsPlain)
    (htables : ∀ u ∈ (t.member "tables").items,
      Projects Table.view Table.Readable Table.project u) :
    Projects view Readable project t := by
  have hrow : Projects (Record.view fields views) Readable row t := by
    refine projects_record hplain ?_
    rintro ms rfl
    exact projecting_cons (fieldProjects_nullable fun _ => Projects.list htables) projecting_nil
  exact hrow.map _

/-! ### Whole documents -/

namespace Document

/-- What stands for the tables of a document. -/
def tables (root : Tree) : List Tree := ((root.member "data_sources").member "tables").items

/-- What stands for the questions of a document. -/
def questions (root : Tree) : List Tree := ((root.member "config").member "sample_questions").items

/-- What stands for the records in a document. -/
def records (root : Tree) : List Tree :=
  root :: root.member "config" :: root.member "data_sources" :: (tables root ++ questions root)

/-- A document as servers write it, readable or not: an object, with no array in the place of a
    record, with texts for keys of records, and with texts for ids of questions if it has any. -/
structure Ordinary (root : Tree) : Prop where
  object : ∃ ms, root = .object ms
  plain : ∀ t ∈ records root, t.IsPlain
  ids : ∀ q ∈ questions root, ∀ id ∈ q.values "id", id.IsText

/-- What a document says: the identifiers of its tables, and the first texts of those of its
    questions that have a text. -/
def projection (root : Tree) : Contents :=
  { tables := (tables root).map fun t => (t.member "identifier").text
    sampleQuestions := (questions root).filterMap fun q =>
      (q.member "question").items.head?.map Tree.text }

theorem contents_project (root : Tree) : (project root).contents = projection root := by
  have hfirst : (fun q => (Question.project q).texts.head?) =
      fun q => (q.member "question").items.head?.map Tree.text :=
    funext fun q => List.head?_map
  simp only [contents, project, DataSources.project, Config.project, projection, tables, questions,
    List.map_map, List.filterMap_map]
  exact congrArg _ (congrArg (List.filterMap · _) hfirst)

theorem projects (h : Ordinary root) : Projects view Readable project root := by
  have hplain (t : Tree) (ht : t ∈ records root) := h.plain t ht
  simp only [records, List.mem_cons, List.mem_append] at hplain
  have hquestions (q : Tree) (hq : q ∈ questions root) :=
    Question.projects (hplain q (by simp [hq])) (h.ids q hq)
  have htables (u : Tree) (hu : u ∈ tables root) := Table.projects (hplain u (by simp [hu]))
  have hconfig := Config.projects (hplain (root.member "config") (by simp)) hquestions
  have hdata := DataSources.projects (hplain (root.member "data_sources") (by simp)) htables
  have hrow : Projects (Record.view fields views) Readable row root := by
    refine projects_record (hplain root (by simp)) ?_
    rintro ms rfl
    exact projecting_cons (fieldProjects_nullable fun _ => projects_word)
      (projecting_cons (fieldProjects_nullable fun _ => hconfig)
        (projecting_cons (fieldProjects_nullable fun _ => hdata) projecting_nil))
  exact hrow.map _

end Document

theorem Contents.toOption_decode (htext : root.SpelledBy text.toList) :
    (decode text).toOption = (Document.view root).map Document.contents := by
  rw [decode, if_neg htext.not_isEmpty, toOption_map]
  exact congrArg _ (Document.reads.toOption_parse htext)

/-- An ordinary document is read exactly if it is readable, in whatever way its text is written, and
    then what is read is its projection. -/
theorem Contents.decode_projects (htext : root.SpelledBy text.toList)
    (hordinary : Document.Ordinary root) :
    ((∃ c, decode text = .ok c) ↔ Document.Readable root) ∧
      ∀ c, decode text = .ok c → c = Document.projection root := by
  have hdecode (c : Contents) :
      decode text = .ok c ↔ Document.Readable root ∧ c = Document.projection root := by
    rw [← toOption_eq_some_iff, toOption_decode htext, Option.map_eq_some_iff]
    constructor
    · rintro ⟨d, hd, rfl⟩
      obtain ⟨hreadable, rfl⟩ := (Document.projects hordinary d).mp hd
      exact ⟨hreadable, Document.contents_project root⟩
    · rintro ⟨hreadable, rfl⟩
      exact ⟨Document.project root, (Document.projects hordinary _).mpr ⟨hreadable, rfl⟩,
        Document.contents_project root⟩
  constructor
  · constructor
    · rintro ⟨c, hc⟩
      exact ((hdecode c).mp hc).1
    · intro hreadable
      exact ⟨_, (hdecode _).mpr ⟨hreadable, rfl⟩⟩
  · intro c hc
    exact ((hdecode c).mp hc).2

/-- A document with an unknown member, without questions, and with a table without identifier. -/
def Document.sparse : Tree :=
  .object
    [(some "x", .array []),
     (some "data_sources", .object
       [(some "tables", .array
         [.object [(some "identifier", .string (some "a"))], .object []])])]

/-- A text of this document. -/
def Document.sparseText : String :=
  "\x7b \"x\":[], \"data_sources\" :" ++
    "\x7b\"tables\":[\x7b\"identifier\":\"\\u0061\"\x7d,\x7b\x7d]\x7d\x7d"

theorem Contents.decode_sparse : decode Document.sparseText = .ok ⟨["a", ""], []⟩ := by
  have hkey {s : String} {rest : List Char} :
      Quotation.Says (some s) (s.toList.flatMap Quotation.writeChar ++ '"' :: rest) rest :=
    .characters (Quotation.spells_write s rest)
  have htable {rest : List Char} :
      Tree.Spells (.value (.object [(some "identifier", .string (some "a"))]))
        ("\x7b\"identifier\":\"\\u0061\"\x7d".toList ++ rest) rest :=
    .object (.member (.first .nil) hkey .nil .nil
      (.string (.characters (.escape (.codePoint (by decide)) .close))) (.noMember .nil))
  have htables {rest : List Char} :
      Tree.Spells (.value (.object [(some "tables", .array
          [.object [(some "identifier", .string (some "a"))], .object []])]))
        ("\x7b\"tables\":[\x7b\"identifier\":\"\\u0061\"\x7d,\x7b\x7d]\x7d".toList ++ rest) rest :=
    .object (.member (.first .nil) hkey .nil .nil
      (.array (.item (.first .nil) htable
        (.item (.later .nil .nil) (.object (.noMember .nil)) (.noItem .nil)))) (.noMember .nil))
  have hspelled : Document.sparse.SpelledBy Document.sparseText.toList :=
    .mk .nil (.object
      (.member (.first (.cons (by decide) .nil)) hkey .nil .nil (.array (.noItem .nil))
        (.member (.later .nil (.cons (by decide) .nil)) hkey (.cons (by decide) .nil) .nil htables
          (.noMember .nil)))) .nil
  have hordinary : Document.Ordinary Document.sparse := by
    refine ⟨⟨_, rfl⟩, ?_, fun q hq => absurd hq List.not_mem_nil⟩
    have hrecords : Document.records Document.sparse = [Document.sparse, .null,
        .object [(some "tables", .array
          [.object [(some "identifier", .string (some "a"))], .object []])],
        .object [(some "identifier", .string (some "a"))], .object []] := rfl
    rw [hrecords]
    simp only [List.forall_mem_cons]
    exact ⟨.object (by decide), .null, .object (by decide), .object (by decide),
      .object (by decide), fun t h => absurd h List.not_mem_nil⟩
  have hreadable : Document.Readable Document.sparse := by
    have htables : IsNullOr (IsArrayOf Table.Readable)
        (.array [.object [(some "identifier", .string (some "a"))], .object []]) := by
      refine .some (.mk ?_)
      simp only [List.forall_mem_cons]
      exact ⟨.mk (by simpa using ⟨by decide, .some .mk⟩), .mk (by simpa using ⟨by decide, .null⟩),
        fun t h => absurd h List.not_mem_nil⟩
    have hdata : IsNullOr DataSources.Readable (Document.sparse.member "data_sources") :=
      .some (.mk (by simpa using ⟨by decide, htables⟩))
    refine .mk ?_
    simp only [List.forall_mem_cons]
    exact ⟨⟨by decide, .null⟩, ⟨by decide, .null⟩, ⟨by decide, hdata⟩,
      fun t h => absurd h List.not_mem_nil⟩
  obtain ⟨hiff, hprojection⟩ := decode_projects hspelled hordinary
  obtain ⟨c, hc⟩ := hiff.mpr hreadable
  rw [hc, hprojection c hc]
  rfl

/-!
## Documents are read as they were written

Whatever tables and questions a space is given, and whatever ids its questions get, reading the
document that is written for them gives them back: each text as it was, in the same order, and as
often.
-/

theorem Question.faithful : codec.Faithful :=
  (Record.faithful (by simp [fields]) (by decide)).map fun _ => rfl

theorem Table.faithful : codec.Faithful :=
  (Record.faithful (by simp [fields]) (by decide)).map fun _ => rfl

theorem Config.faithful : codec.Faithful := by
  have hfield : Field.Faithful
      { Field.nullable "sample_questions" (.list Question.codec) [] with omitted := List.isEmpty } := by
    apply (Field.faithful_nullable Question.faithful.list []).omitting
    -- Only an empty list of questions is left out, and no other list is read where there is none.
    intro questions hempty
    exact congrArg some (List.isEmpty_iff.mp hempty).symm
  exact (Record.faithful (List.forall_mem_singleton.mpr hfield) (by decide)).map fun _ => rfl

theorem DataSources.faithful : codec.Faithful :=
  (Record.faithful (by simp [fields, Table.faithful]) (by decide)).map fun _ => rfl

theorem Document.faithful : codec.Faithful :=
  (Record.faithful (by simp [fields, Config.faithful, DataSources.faithful]) (by decide)).map
    fun _ => rfl

/-- A document says what it was made to say, whatever ids its questions have. -/
theorem Contents.contents_document (c : Contents) (ids : IdSupply) :
    (c.document ids).contents = c := by
  have hquestions (ids : IdSupply) (texts : List String) :
      (texts.mapIdx fun n text => Question.mk (ids n).text [text]).filterMap
        (fun q => q.texts.head?) = texts := by
    induction texts generalizing ids with
    | nil => rfl
    | cons text texts ih =>
      rw [List.mapIdx_cons]
      simpa using ih fun n => ids (n + 1)
  have htables : c.tables.map (Table.identifier ∘ Table.mk) = c.tables := List.map_id _
  rw [document, Document.contents, hquestions, List.map_map, htables]

/-- A document that was written is read as what it says. -/
theorem Document.decode_toText (d : Document) :
    Contents.decode (codec.toText d) = .ok d.contents := by
  obtain ⟨view, hwrites, -⟩ := Document.faithful.readable
  have hspelled := spelledBy_text (hwrites.exact_encode d)
  have hempty : ¬ (codec.toText d).isEmpty := hspelled.not_isEmpty
  have hread := Document.faithful.roundTrips.ofText_toText d
  rw [Contents.decode, if_neg hempty, hread]
  rfl

/-- Contents are read from their document as they were, whatever ids their questions got. -/
theorem Contents.decode_encode (c : Contents) (ids : IdSupply) : decode (c.encode ids) = .ok c :=
  (Document.decode_toText (c.document ids)).trans (congrArg Except.ok (contents_document c ids))

end Provisioner.Space
