import Provisioner.Proofs.Json.Positions
import Provisioner.Proofs.Json.Printing
import Provisioner.Proofs.Space.Damage
/-!
# Documents without names

A document is read from an object, but also from an array, and so are its parts: the items of an array
are then taken for the contents of the fields in their declared order. Such a document means the same
as the object with the names filled in (`Document.byName`), and with this the documents that are read
are described exactly. Everything else that is no object is refused.
-/

namespace Provisioner.Space

open Json
open Json.Record (keeps_byName exists_of_view_byName member_of_content?)
open Json.Tree (Keeps eachItem)

variable {t root : Tree} {text : String}

/-! ### Filling in names -/

def Question.byName : Tree → Tree := Tree.byName (fun _ t => t) (fields.map Field.name)

def Table.byName : Tree → Tree := Tree.byName (fun _ t => t) (fields.map Field.name)

def Config.part : String → Tree → Tree
  | "sample_questions" => eachItem Question.byName
  | _ => fun t => t

def Config.byName : Tree → Tree := Tree.byName part (fields.map Field.name)

def DataSources.part : String → Tree → Tree
  | "tables" => eachItem Table.byName
  | _ => fun t => t

def DataSources.byName : Tree → Tree := Tree.byName part (fields.map Field.name)

def Document.part : String → Tree → Tree
  | "config" => Config.byName
  | "data_sources" => DataSources.byName
  | _ => fun t => t

/-- A document in which objects stand for all its records that are short enough. -/
def Document.byName : Tree → Tree := Tree.byName part (fields.map Field.name)

theorem Question.keeps : Keeps byName view := by
  have hrow : Keeps byName (Record.view fields views) :=
    keeps_byName ⟨.refl _, .refl _, trivial⟩ (by decide)
  exact hrow.map _

theorem Table.keeps : Keeps byName view := by
  have hrow : Keeps byName (Record.view fields views) := keeps_byName ⟨.refl _, trivial⟩ (by decide)
  exact hrow.map _

theorem Config.keeps : Keeps byName view := by
  have hrow : Keeps byName (Record.view fields views) :=
    keeps_byName ⟨Question.keeps.list.nullOr [], trivial⟩ (by decide)
  exact hrow.map _

theorem DataSources.keeps : Keeps byName view := by
  have hrow : Keeps byName (Record.view fields views) :=
    keeps_byName ⟨Table.keeps.list.nullOr [], trivial⟩ (by decide)
  exact hrow.map _

theorem Document.keeps : Keeps byName view := by
  have hrow : Keeps byName (Record.view fields views) :=
    keeps_byName ⟨.refl _, Config.keeps.nullOr ⟨[]⟩, DataSources.keeps.nullOr ⟨[]⟩, trivial⟩
      (by decide)
  exact hrow.map _

/-! ### What is read is ordinary -/

theorem isText_of_string? {s : String} (h : Tree.string? t = some s) : t.IsText := by
  cases t with
  | string s' =>
    obtain rfl : s' = some s := h
    exact .mk
  | _ => cases h

theorem Question.ordinary {q : Question} (h : view (byName t) = some q) :
    (byName t).IsPlain ∧ ∀ id ∈ (byName t).values "id", id.IsText := by
  obtain ⟨row, hrow, -⟩ := Option.map_eq_some_iff.mp h
  obtain ⟨ms, hms, hkeyed, hnamed⟩ := exists_of_view_byName hrow
  obtain ⟨id, hid, -⟩ := Option.bind_eq_some_iff.mp hnamed
  have hform : byName t = .object ms := hms
  rw [hform]
  refine ⟨.object hkeyed, ?_⟩
  show ∀ id ∈ Tree.named "id" ms, id.IsText
  have hcontent : Record.content? (some "") Tree.string? (Tree.named "id" ms) = some id := hid
  match Tree.named "id" ms, hcontent with
  | [], _ => exact fun u hu => absurd hu List.not_mem_nil
  | [u], hu => exact List.forall_mem_singleton.mpr (isText_of_string? hu)

theorem Table.plain {u : Table} (h : view (byName t) = some u) : (byName t).IsPlain := by
  obtain ⟨row, hrow, -⟩ := Option.map_eq_some_iff.mp h
  obtain ⟨ms, hms, hkeyed, -⟩ := exists_of_view_byName hrow
  have hform : byName t = .object ms := hms
  exact hform ▸ .object hkeyed

/-- The items of a part that is read are rewritten, and read. -/
theorem exists_of_items {α : Type} {g : Tree → Tree} {view : Tree → Option α} {u : Tree}
    {ms : Tree.Members} {name : String} {content : List α}
    (hmember : (Tree.object ms).member name = eachItem g u)
    (hcontent : Record.content? (some []) (Tree.nullOr? [] (Tree.list? view))
      (Tree.named name ms) = some content) :
    ∀ v ∈ ((Tree.object ms).member name).items, ∃ w a, v = g w ∧ view (g w) = some a := by
  intro v hv
  rcases member_of_content? hcontent with hnull | ⟨as, has⟩
  · rw [hnull] at hv
    exact absurd hv List.not_mem_nil
  · obtain ⟨a, ha⟩ := Tree.exists_of_list? has v hv
    rw [hmember, Tree.items_eachItem] at hv
    obtain ⟨w, -, rfl⟩ := List.mem_map.mp hv
    exact ⟨w, a, rfl, ha⟩

theorem Config.ordinary {c : Config} (h : view (byName t) = some c) :
    (byName t).IsPlain ∧ ∀ q ∈ ((byName t).member "sample_questions").items,
      q.IsPlain ∧ ∀ id ∈ q.values "id", id.IsText := by
  obtain ⟨row, hrow, -⟩ := Option.map_eq_some_iff.mp h
  obtain ⟨ms, hms, hkeyed, hnamed⟩ := exists_of_view_byName hrow
  obtain ⟨questions, hquestions, -⟩ := Option.bind_eq_some_iff.mp hnamed
  have hform : byName t = .object ms := hms
  obtain ⟨u, hu⟩ : ∃ u, (byName t).member "sample_questions" = eachItem Question.byName u :=
    Tree.exists_member_byName rfl t
  rw [hform] at hu ⊢
  refine ⟨.object hkeyed, fun q hq => ?_⟩
  obtain ⟨w, question, rfl, hquestion⟩ := exists_of_items hu hquestions q hq
  exact Question.ordinary hquestion

theorem DataSources.ordinary {d : DataSources} (h : view (byName t) = some d) :
    (byName t).IsPlain ∧ ∀ u ∈ ((byName t).member "tables").items, u.IsPlain := by
  obtain ⟨row, hrow, -⟩ := Option.map_eq_some_iff.mp h
  obtain ⟨ms, hms, hkeyed, hnamed⟩ := exists_of_view_byName hrow
  obtain ⟨tables, htables, -⟩ := Option.bind_eq_some_iff.mp hnamed
  have hform : byName t = .object ms := hms
  obtain ⟨u, hu⟩ : ∃ u, (byName t).member "tables" = eachItem Table.byName u :=
    Tree.exists_member_byName rfl t
  rw [hform] at hu ⊢
  refine ⟨.object hkeyed, fun v hv => ?_⟩
  obtain ⟨w, table, rfl, htable⟩ := exists_of_items hu htables v hv
  exact Table.plain htable

theorem Document.exists_parts {ms : Tree.Members} {row : Row fields}
    (h : Record.ofNamed? fields views ms = some row) :
    (∃ c, Record.content? (some ⟨[]⟩) (Tree.nullOr? ⟨[]⟩ Config.view)
        (Tree.named "config" ms) = some c) ∧
      ∃ d, Record.content? (some ⟨[]⟩) (Tree.nullOr? ⟨[]⟩ DataSources.view)
        (Tree.named "data_sources" ms) = some d := by
  obtain ⟨version, -, hbehind⟩ := Option.bind_eq_some_iff.mp h
  obtain ⟨rest, hrest, -⟩ := Option.map_eq_some_iff.mp hbehind
  obtain ⟨config, hconfig, hbehind⟩ := Option.bind_eq_some_iff.mp hrest
  obtain ⟨rest, hrest, -⟩ := Option.map_eq_some_iff.mp hbehind
  obtain ⟨sources, hsources, -⟩ := Option.bind_eq_some_iff.mp hrest
  exact ⟨⟨config, hconfig⟩, sources, hsources⟩

theorem Document.ordinary {d : Document} (h : view (byName root) = some d) :
    Ordinary (byName root) := by
  obtain ⟨row, hrow, -⟩ := Option.map_eq_some_iff.mp h
  obtain ⟨ms, hms, hkeyed, hnamed⟩ := exists_of_view_byName hrow
  obtain ⟨⟨config, hconfig⟩, sources, hsources⟩ := exists_parts hnamed
  have hform : byName root = .object ms := hms
  obtain ⟨u, hu⟩ : ∃ u, (byName root).member "config" = Config.byName u :=
    Tree.exists_member_byName rfl root
  obtain ⟨v, hv⟩ : ∃ v, (byName root).member "data_sources" = DataSources.byName v :=
    Tree.exists_member_byName rfl root
  rw [hform] at hu hv ⊢
  -- Null stands for a part, or the part was read.
  have hquestions : ((Tree.object ms).member "config").IsPlain ∧
      ∀ q ∈ questions (.object ms), q.IsPlain ∧ ∀ id ∈ q.values "id", id.IsText := by
    rw [questions]
    rcases member_of_content? hconfig with hnull | ⟨c, hc⟩
    · rw [hnull]
      exact ⟨.null, fun q hq => absurd hq List.not_mem_nil⟩
    · rw [hu] at hc ⊢
      exact Config.ordinary hc
  have htables : ((Tree.object ms).member "data_sources").IsPlain ∧
      ∀ t ∈ tables (.object ms), t.IsPlain := by
    rw [tables]
    rcases member_of_content? hsources with hnull | ⟨d, hd⟩
    · rw [hnull]
      exact ⟨.null, fun t ht => absurd ht List.not_mem_nil⟩
    · rw [hv] at hd ⊢
      exact DataSources.ordinary hd
  refine ⟨⟨ms, rfl⟩, ?_, fun q hq => (hquestions.2 q hq).2⟩
  simp only [records, List.forall_mem_cons, List.forall_mem_append]
  exact ⟨.object hkeyed, hquestions.1, htables.1, htables.2, fun q hq => (hquestions.2 q hq).1⟩

/-! ### What is read -/

/-- A document is read exactly if it is, with its names filled in, an ordinary readable one; then what
    is read is its projection. So nothing is read from a text of something else than an object or an
    array, nor from an array that has more items than a document has fields. -/
theorem Contents.decode_by_name (htext : root.SpelledBy text.toList) :
    (∀ c, decode text = .ok c ↔
      (Document.Ordinary (Document.byName root) ∧ Document.Readable (Document.byName root)) ∧
        c = Document.projection (Document.byName root)) ∧
      ((∀ ms, root ≠ .object ms) → (∀ ts, root ≠ .array ts) → Malformed text) ∧
      ∀ ts, root = .array ts → Document.fields.length < ts.length → Malformed text := by
  have hview (c : Contents) : decode text = .ok c ↔
      ∃ d, Document.view (Document.byName root) = some d ∧ d.contents = c := by
    rw [← toOption_eq_some_iff, toOption_decode htext, Option.map_eq_some_iff,
      Document.keeps.view_eq]
  have hdecode (c : Contents) : decode text = .ok c ↔
      (Document.Ordinary (Document.byName root) ∧ Document.Readable (Document.byName root)) ∧
        c = Document.projection (Document.byName root) := by
    rw [hview]
    constructor
    · rintro ⟨d, hd, rfl⟩
      have hordinary := Document.ordinary hd
      obtain ⟨hreadable, rfl⟩ := (Document.projects hordinary d).mp hd
      exact ⟨⟨hordinary, hreadable⟩, Document.contents_project _⟩
    · rintro ⟨⟨hordinary, hreadable⟩, rfl⟩
      exact ⟨Document.project _, (Document.projects hordinary _).mpr ⟨hreadable, rfl⟩,
        Document.contents_project _⟩
  refine ⟨hdecode, fun hobject harray => malformed_iff.mpr ?other,
    fun ts hroot hlong => malformed_iff.mpr ?long⟩
  case other =>
    intro c hc
    obtain ⟨ms, hms⟩ := ((hdecode c).mp hc).1.1.object
    cases root with
    | object ms => exact hobject ms rfl
    | array ts => exact harray ts rfl
    | _ => cases hms
  case long =>
    intro c hc
    obtain ⟨ms, hms⟩ := ((hdecode c).mp hc).1.1.object
    have hkept : Document.byName (.array ts) = .array ts :=
      Tree.byName_of_lt (by rwa [List.length_map])
    rw [hroot, hkept] at hms
    cases hms

/-- A document with one question and one table, and without any name. -/
def Document.nameless : Json :=
  .array
    [.number (.integer 1),
     .array [.array [.array [.string "q", .array [.string "Q"]]]],
     .array [.array [.array [.string "t"]]]]

/-- It is read; a text of neither an object nor an array is not, and neither is an array of four
    items. -/
theorem Contents.decode_by_name_nameless :
    (decode Document.nameless.text = .ok ⟨["t"], ["Q"]⟩ ∧
        Document.Ordinary (Document.byName Document.nameless.tree) ∧
        Document.Readable (Document.byName Document.nameless.tree)) ∧
      Malformed (Json.boolean true).text ∧
      Malformed (Json.array [.null, .null, .null, .null]).text := by
  have hnameless : Document.nameless.tree.SpelledBy Document.nameless.text.toList :=
    spelledBy_text (by simp [Document.nameless, Exact, ExactItems])
  have hboolean : (Json.boolean true).tree.SpelledBy (Json.boolean true).text.toList :=
    spelledBy_text trivial
  have hlong : (Json.array [.null, .null, .null, .null]).tree.SpelledBy
      (Json.array [.null, .null, .null, .null]).text.toList :=
    spelledBy_text (by simp [Exact, ExactItems])
  have hread : decode Document.nameless.text = .ok ⟨["t"], ["Q"]⟩ := by
    rw [← toOption_eq_some_iff, toOption_decode hnameless]
    rfl
  obtain ⟨hdecode, -, -⟩ := decode_by_name hnameless
  obtain ⟨-, hother, -⟩ := decode_by_name hboolean
  obtain ⟨-, -, hlength⟩ := decode_by_name hlong
  exact ⟨⟨hread, ((hdecode _).mp hread).1⟩, hother nofun nofun, hlength _ rfl (by decide)⟩

end Provisioner.Space
