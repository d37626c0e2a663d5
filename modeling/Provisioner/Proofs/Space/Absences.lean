import Provisioner.Proofs.Json.Nulls
import Provisioner.Proofs.Json.Printing
import Provisioner.Proofs.Space.Reading
/-!
# Null in place of absent members

A document reads the same with null added for known members that it lacks, in any number of places,
with one exception: a null for the identifier of a question is not taken for its absence, and makes
the whole document unreadable. This holds of every document, also of one in which arrays stand for
records.
-/

namespace Provisioner.Space

open Json
open Json.Record (responds_view)

variable {key : String} {keys : List String} {t t' root root' : Tree} {text text' : String}

/-! ### Additions -/

/-- Null is added under `key` to a question. -/
def Question.addsNull (key : String) : Change := AddsNull key [("id", .none), ("question", .none)]

def Table.addsNull (key : String) : Change := AddsNull key [("identifier", .none)]

def Config.addsNull (key : String) : Change :=
  AddsNull key [("sample_questions", .Item (Question.addsNull key))]

def DataSources.addsNull (key : String) : Change :=
  AddsNull key [("tables", .Item (Table.addsNull key))]

/-- Null is added under `key` to one of the records of a document that `key` belongs to. -/
def Document.addsNull (key : String) : Change :=
  AddsNull key
    [("version", .none), ("config", Config.addsNull key), ("data_sources", DataSources.addsNull key)]

/-- Nulls are added to a document one after the other, under `keys`. -/
inductive Document.AddsNulls : List String → Tree → Tree → Prop
  | nil {t : Tree} : AddsNulls [] t t
  | cons {key : String} {keys : List String} {t t' t'' : Tree} :
      addsNull key t t' → AddsNulls keys t' t'' → AddsNulls (key :: keys) t t''

/-! ### Readers -/

theorem Question.responds (key : String) : Responds (key != "id") (addsNull key) view := by
  have hrow : Responds (key != "id") (addsNull key) (Record.view fields views) :=
    responds_view ⟨rfl, by rintro rfl; rfl, .none _, rfl, by rintro rfl; rfl, .none _, trivial⟩
      (by decide)
  exact hrow.map _

theorem Table.responds (key : String) : Responds (key != "id") (addsNull key) view := by
  have hrow : Responds (key != "id") (addsNull key) (Record.view fields views) :=
    responds_view ⟨rfl, by rintro rfl; rfl, .none _, trivial⟩ (by decide)
  exact hrow.map _

theorem Config.responds (key : String) : Responds (key != "id") (addsNull key) view := by
  have hrow : Responds (key != "id") (addsNull key) (Record.view fields views) :=
    responds_view ⟨rfl, by rintro rfl; rfl, (Question.responds key).list.nullOr [], trivial⟩
      (by decide)
  exact hrow.map _

theorem DataSources.responds (key : String) : Responds (key != "id") (addsNull key) view := by
  have hrow : Responds (key != "id") (addsNull key) (Record.view fields views) :=
    responds_view ⟨rfl, by rintro rfl; rfl, (Table.responds key).list.nullOr [], trivial⟩
      (by decide)
  exact hrow.map _

theorem Document.responds (key : String) : Responds (key != "id") (addsNull key) view := by
  have hrow : Responds (key != "id") (addsNull key) (Record.view fields views) :=
    responds_view
      ⟨rfl, by rintro rfl; rfl, .none _, rfl, by rintro rfl; rfl, (Config.responds key).nullOr ⟨[]⟩,
        rfl, by rintro rfl; rfl, (DataSources.responds key).nullOr ⟨[]⟩, trivial⟩ (by decide)
  exact hrow.map _

theorem Document.view_of_addsNulls (h : AddsNulls keys t t') :
    view t' = if "id" ∈ keys then none else view t := by
  induction h with
  | nil => rfl
  | @cons key keys t t' t'' hfirst _ ih =>
    rw [ih, (responds key).view_eq hfirst]
    by_cases hid : key = "id"
    · subst hid
      simp [kept]
    · simp [kept, hid, Ne.symm hid]

/-- A document with nulls added for absent members is read as it was before, unless one of them
    stands for the identifier of a question; then it is not read at all. -/
theorem Contents.decode_nulls (htext : root.SpelledBy text.toList)
    (htext' : root'.SpelledBy text'.toList) (hadds : Document.AddsNulls keys root root') :
    ∀ c, decode text' = .ok c ↔ "id" ∉ keys ∧ decode text = .ok c := by
  intro c
  rw [← toOption_eq_some_iff, ← toOption_eq_some_iff, toOption_decode htext,
    toOption_decode htext', Document.view_of_addsNulls hadds]
  by_cases hid : "id" ∈ keys
  · simp [hid]
  · simp [hid]

/-- A document with one question, and with further members of its own and of the question. -/
def Document.lone (further ofQuestion : Members) : Json :=
  .object (further ++
    [("config", .object
      [("sample_questions", .array
        [.object (ofQuestion ++ [("question", .array [.string "Q"])])])])])

/-- Null for the version and for the tables' part, and null for the identifier of the question. -/
theorem Contents.decode_nulls_lone :
    decode (Document.lone [] []).text = .ok ⟨[], ["Q"]⟩ ∧
      decode (Document.lone [("version", .null), ("data_sources", .null)] []).text =
        .ok ⟨[], ["Q"]⟩ ∧
      ∀ c, decode (Document.lone [] [("id", .null)]).text ≠ .ok c := by
  have hspelled (further ofQuestion : Members) (h : (Document.lone further ofQuestion).Exact) :=
    spelledBy_text h
  have hplain := hspelled [] [] (by simp [Document.lone, Exact, ExactMembers, ExactItems])
  have hnulls := hspelled [("version", .null), ("data_sources", .null)] []
    (by simp [Document.lone, Exact, ExactMembers, ExactItems])
  have hid := hspelled [] [("id", .null)]
    (by simp [Document.lone, Exact, ExactMembers, ExactItems])
  have hread : decode (Document.lone [] []).text = .ok ⟨[], ["Q"]⟩ := by
    rw [← toOption_eq_some_iff, toOption_decode hplain]
    rfl
  have haddsNulls : Document.AddsNulls ["data_sources", "version"] (Document.lone [] []).tree
      (Document.lone [("version", .null), ("data_sources", .null)] []).tree :=
    .cons (@AddsNull.here _ _ [] _ (by decide) rfl)
      (.cons (@AddsNull.here _ _ [] _ (by decide) rfl) .nil)
  have hquestion : Question.addsNull "id" (.object [(some "question", .array [.string (some "Q")])])
      (.object [(some "id", .null), (some "question", .array [.string (some "Q")])]) :=
    @AddsNull.here _ _ [] _ (by decide) rfl
  have hconfig : Config.addsNull "id"
      (.object [(some "sample_questions", .array
        [.object [(some "question", .array [.string (some "Q")])]])])
      (.object [(some "sample_questions", .array
        [.object [(some "id", .null), (some "question", .array [.string (some "Q")])]])]) :=
    @AddsNull.member _ _ _ _ _ _ [] [] List.mem_cons_self (@Change.Item.mk _ _ _ [] [] hquestion)
  have haddsId : Document.AddsNulls ["id"] (Document.lone [] []).tree
      (Document.lone [] [("id", .null)]).tree :=
    .cons (@AddsNull.member _ _ _ _ _ _ [] [] (List.mem_cons_of_mem _ List.mem_cons_self) hconfig)
      .nil
  refine ⟨hread, ?_, ?_⟩
  · exact (decode_nulls hplain hnulls haddsNulls _).mpr ⟨by decide, hread⟩
  · intro c hc
    exact ((decode_nulls hplain hid haddsId c).mp hc).1 (by decide)

end Provisioner.Space
