import Provisioner.Proofs.Space.Covering
import Provisioner.Proofs.Space.Reading
/-!
# The wording of a document

The contents of a space determine its document up to the identifiers of the questions. Documents
that differ in nothing else (`SameDocument`) are the same text with all identifiers covered, and a
reader finds the same in them.
-/

namespace Provisioner.Space

open Json
open Json.Quotation (writeChar)

variable {c : Char} {d₁ d₂ : String}

/-! ### Questions -/

/-- Digits need no escape. -/
theorem writeChar_of_isIdDigit (h : isIdDigit c = true) : writeChar c = [c] := by
  have hspace : ¬ c < ' ' := by
    simp only [isIdDigit, Bool.or_eq_true, Bool.and_eq_true, decide_eq_true_eq] at h
    rcases h with ⟨hle, -⟩ | ⟨hle, -⟩
    · exact fun hlt => absurd (Std.lt_of_le_of_lt hle hlt) (by decide)
    · exact fun hlt => absurd (Std.lt_of_le_of_lt hle hlt) (by decide)
  have hne : ∀ e, isIdDigit e = false → c ≠ e := by
    rintro e he rfl
    rw [h] at he
    cases he
  simp only [writeChar, hne '"' (by decide), hne '\\' (by decide), hne '\x08' (by decide),
    hne '\x0c' (by decide), hne '\n' (by decide), hne '\r' (by decide), hne '\t' (by decide),
    hspace, if_false]

theorem flatMap_writeChar {cs : List Char} (h : ∀ c ∈ cs, writeChar c = [c]) :
    cs.flatMap writeChar = cs := by
  induction cs with
  | nil => rfl
  | cons c cs ih =>
    rw [List.flatMap_cons, h c List.mem_cons_self, ih fun d hd => h d (List.mem_cons_of_mem c hd)]
    rfl

theorem write_id (id : QuestionId) : (Json.string id.text).write = '"' :: (id.digits ++ ['"']) := by
  have hdigits : id.text.toList.flatMap writeChar = id.digits := by
    rw [QuestionId.text, String.toList_ofList]
    exact flatMap_writeChar fun c hc => writeChar_of_isIdDigit (id.isIdDigit_of_mem hc)
  rw [Json.write, Quotation.write, hdigits]

/-- The identifier of a question stands in its place. -/
theorem write_question (id : QuestionId) (texts : List String) :
    (Question.codec.encode ⟨id.text, texts⟩).write =
      '\x7b' :: (idLead ++ (id.digits ++ '"' ::
        writeMembers [("question", (Codec.list .string).encode texts)])) := by
  have hencode : Question.codec.encode ⟨id.text, texts⟩ =
      .object [("id", .string id.text), ("question", (Codec.list .string).encode texts)] := rfl
  have hname : Quotation.write "id" ++ [':', '"'] = idLead := rfl
  rw [hencode, Json.write, write_id, ← hname]
  simp only [List.append_assoc, List.cons_append, List.nil_append]

theorem sameButIds_question (i j : QuestionId) (texts : List String) :
    SameButIds (Question.codec.encode ⟨i.text, texts⟩).write
      (Question.codec.encode ⟨j.text, texts⟩).write := by
  rw [write_question, write_question]
  exact .cons _ (.id i j (.refl _))

/-! ### Documents -/

/-- The questions with some texts. -/
def questions (texts : List String) (ids : IdSupply) : List Question :=
  texts.mapIdx fun n text => ⟨(ids n).text, [text]⟩

theorem questions_cons (text : String) (texts : List String) (ids : IdSupply) :
    questions (text :: texts) ids =
      ⟨(ids 0).text, [text]⟩ :: questions texts fun n => ids (n + 1) := by
  rw [questions, List.mapIdx_cons]
  rfl

theorem sameButIds_writeItems (texts : List String) (ids₁ ids₂ : IdSupply) :
    SameButIds (writeItems ((questions texts ids₁).map Question.codec.encode))
      (writeItems ((questions texts ids₂).map Question.codec.encode)) := by
  induction texts generalizing ids₁ ids₂ with
  | nil => exact SameButIds.refl (writeItems [])
  | cons text texts ih =>
    simp only [questions_cons, List.map_cons, writeItems]
    exact .cons ',' ((sameButIds_question _ _ [text]).append
      (ih (fun n => ids₁ (n + 1)) fun n => ids₂ (n + 1)))

theorem sameButIds_config (texts : List String) (ids₁ ids₂ : IdSupply) :
    SameButIds (Config.codec.encode ⟨questions texts ids₁⟩).write
      (Config.codec.encode ⟨questions texts ids₂⟩).write := by
  cases texts with
  | nil => exact SameButIds.refl (Config.codec.encode ⟨[]⟩).write
  | cons text texts =>
    have hencode (q : Question) (qs : List Question) : Config.codec.encode ⟨q :: qs⟩ =
        .object [("sample_questions", .array ((q :: qs).map Question.codec.encode))] := rfl
    simp only [questions_cons, hencode, Json.write, writeMembers, List.map_cons]
    apply SameButIds.cons
    apply (SameButIds.refl _).append
    apply SameButIds.cons
    apply SameButIds.append _ (.refl _)
    apply SameButIds.cons
    exact (sameButIds_question _ _ [text]).append (sameButIds_writeItems texts _ _)

/-- The documents of the same contents. -/
theorem sameButIds_encode (c : Contents) (ids₁ ids₂ : IdSupply) :
    SameButIds (c.encode ids₁).toList (c.encode ids₂).toList := by
  have hencode (ids : IdSupply) : (c.encode ids).toList =
      '\x7b' :: (Quotation.write "version" ++ ':' ::
        ((Codec.word.encode documentVersion).write ++ ',' :: (Quotation.write "config" ++ ':' ::
          ((Config.codec.encode ⟨questions c.sampleQuestions ids⟩).write ++
            writeMembers [("data_sources",
              DataSources.codec.encode ⟨c.tables.map Table.mk⟩)])))) := by
    have hdocument : Document.codec.encode (c.document ids) =
        .object [("version", Codec.word.encode documentVersion),
          ("config", Config.codec.encode ⟨questions c.sampleQuestions ids⟩),
          ("data_sources", DataSources.codec.encode ⟨c.tables.map Table.mk⟩)] := rfl
    rw [Contents.encode, Codec.toText, text, String.toList_ofList, hdocument, Json.write,
      writeMembers]
  rw [hencode, hencode]
  apply SameButIds.cons
  apply (SameButIds.refl _).append
  apply SameButIds.cons
  apply (SameButIds.refl _).append
  apply SameButIds.cons
  apply (SameButIds.refl _).append
  apply SameButIds.cons
  exact (sameButIds_config c.sampleQuestions ids₁ ids₂).append (.refl _)

/-- Two texts are the same document, or documents that were written for the same contents. -/
def SameDocument (d₁ d₂ : String) : Prop :=
  d₁ = d₂ ∨ ∃ (c : Contents) (ids₁ ids₂ : IdSupply), d₁ = c.encode ids₁ ∧ d₂ = c.encode ids₂

namespace SameDocument

theorem refl (d : String) : SameDocument d d := .inl rfl

theorem encode (c : Contents) (ids₁ ids₂ : IdSupply) :
    SameDocument (c.encode ids₁) (c.encode ids₂) := .inr ⟨c, ids₁, ids₂, rfl, rfl⟩

theorem sameButIds (h : SameDocument d₁ d₂) : SameButIds d₁.toList d₂.toList := by
  rcases h with rfl | ⟨c, ids₁, ids₂, rfl, rfl⟩
  · exact .refl _
  · exact sameButIds_encode c ids₁ ids₂

theorem masked_eq (h : SameDocument d₁ d₂) : masked d₁ = masked d₂ := by
  rw [masked, masked, maskIds_congr h.sameButIds]

theorem decode_eq (h : SameDocument d₁ d₂) : Contents.decode d₁ = Contents.decode d₂ := by
  rcases h with rfl | ⟨c, ids₁, ids₂, rfl, rfl⟩
  · rfl
  · rw [Contents.encode, Contents.encode, Document.decode_toText, Document.decode_toText,
      c.contents_document, c.contents_document]

end SameDocument

end Provisioner.Space
