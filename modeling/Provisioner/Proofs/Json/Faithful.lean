import Provisioner.Proofs.Json.Enumeration
/-!
# What is written is read again

A codec is faithful if every value of its type is read as it was written, both from its JSON value
and from its text, and is never written as null (`Codec.Faithful`). All codecs of scalars are, and
the combinators preserve it. The optional contents of a record may be written as null, so that of
its fields less is asked (`Field.Faithful`): a content is read again, or it is left out and its
absence stands for it.

The lemmas are simplification rules, so that a record is seen to be faithful from the list of its
fields alone.
-/

namespace Provisioner.Json

variable {α β : Type}

namespace Codec

variable {c : Codec α}

/-- What is written is read again, from a value and from a text. -/
structure RoundTrips (c : Codec α) : Prop where
  readsBack : c.ReadsBack
  readable : ∃ view, c.Shows view ∧ c.reader.Reads view

/-- What is written is read again, and is not null. -/
structure Faithful (c : Codec α) : Prop where
  lawful : c.Lawful
  readable : ∃ view, c.Writes view ∧ c.reader.Reads view

theorem RoundTrips.ofValue_toValue (h : c.RoundTrips) (a : α) : c.ofValue (c.toValue a) = .ok a :=
  h.readsBack.ofValue_toValue a

theorem RoundTrips.ofText_toText (h : c.RoundTrips) (a : α) : c.ofText (c.toText a) = .ok a := by
  obtain ⟨view, hshows, hreads⟩ := h.readable
  exact hshows.ofText_toText hreads a

theorem Faithful.roundTrips (h : c.Faithful) : c.RoundTrips := by
  obtain ⟨view, hwrites, hreads⟩ := h.readable
  exact ⟨h.lawful.readsBack, view, hwrites.toShows, hreads⟩

@[simp] theorem faithful_string : string.Faithful :=
  ⟨lawful_string, _, writes_string, Reader.reads_string⟩

@[simp] theorem faithful_boolean : boolean.Faithful :=
  ⟨lawful_boolean, _, writes_boolean, Reader.reads_boolean⟩

@[simp] theorem faithful_word : word.Faithful :=
  ⟨lawful_word, _, writes_word, Reader.reads_word⟩

theorem faithful_enumeration {a : Alternatives α} (h : a.Named) : (enumeration a).Faithful :=
  ⟨Alternatives.lawful h, _, Alternatives.writes h, a.reads⟩

theorem Faithful.map (h : c.Faithful) {f : α → β} {g : β → α} (hinverse : ∀ b, f (g b) = b) :
    (c.map f g).Faithful := by
  obtain ⟨view, hwrites, hreads⟩ := h.readable
  exact ⟨h.lawful.map hinverse, _, hwrites.map hinverse, hreads.map f⟩

@[simp] theorem Faithful.list (h : c.Faithful) : c.list.Faithful := by
  obtain ⟨view, hwrites, hreads⟩ := h.readable
  exact ⟨h.lawful.list, _, hwrites.list, Reader.reads_list hreads⟩

@[simp] theorem Faithful.dict (h : c.Faithful) : c.dict.Faithful := by
  obtain ⟨view, hwrites, hreads⟩ := h.readable
  exact ⟨h.lawful.dict, _, hwrites.dict, Reader.reads_dict hreads⟩

@[simp] theorem Faithful.nullAs (h : c.Faithful) (absent : α) : (c.nullAs absent).Faithful := by
  obtain ⟨view, hwrites, hreads⟩ := h.readable
  exact ⟨h.lawful.nullAs absent, _, hwrites.nullAs absent, Reader.reads_nullOr hreads absent⟩

theorem Faithful.option (h : c.Faithful) : c.option.RoundTrips := by
  obtain ⟨view, hwrites, hreads⟩ := h.readable
  exact ⟨h.lawful.option, _, hwrites.option, Reader.reads_nullOr (hreads.map some) none⟩

end Codec

/-! ### Records -/

namespace Field

variable {name : String} {c : Codec α}

/-- A content is read as it was written, or is what its absence stands for. -/
structure Faithful (field : Field) : Prop where
  roundTrips : field.codec.RoundTrips
  omitted : ∀ content, field.omitted content = true → field.absent = some content

theorem faithful_of_kept {field : Field} (h : field.codec.RoundTrips)
    (hkept : ∀ content, field.omitted content = false) : field.Faithful := by
  refine ⟨h, ?_⟩
  intro content homitted
  rw [hkept content] at homitted
  cases homitted

@[simp] theorem faithful_required (h : c.Faithful) : (required name c).Faithful :=
  faithful_of_kept h.roundTrips fun _ => rfl

@[simp] theorem faithful_defaulting (h : c.Faithful) (absent : α) :
    (defaulting name c absent).Faithful :=
  faithful_of_kept h.roundTrips fun _ => rfl

@[simp] theorem faithful_optional (h : c.Faithful) : (optional name c).Faithful :=
  faithful_of_kept h.option fun _ => rfl

@[simp] theorem faithful_nullable (h : c.Faithful) (absent : α) :
    (nullable name c absent).Faithful :=
  faithful_of_kept (h.nullAs absent).roundTrips fun _ => rfl

/-- Contents may be left out that the absence of the field stands for. -/
theorem Faithful.omitting {field : Field} (h : field.Faithful) {omitted : field.Content → Bool}
    (homitted : ∀ content, omitted content = true → field.absent = some content) :
    Faithful { field with omitted } :=
  ⟨h.roundTrips, homitted⟩

/-- An optional field may be left out when it has no content. -/
theorem faithful_unlessNone (h : c.Faithful) :
    Field.Faithful { optional name c with omitted := Option.isNone } := by
  apply (faithful_optional h).omitting
  intro content hnone
  exact congrArg some (Option.isNone_iff_eq_none.mp hnone).symm

end Field

namespace Record

theorem readsBack_of_faithful : (fields : List Field) → (∀ field ∈ fields, field.Faithful) →
    ReadsBack fields
  | [], _ => trivial
  | field :: fields, h => by
    obtain ⟨hfield, hfields⟩ := List.forall_mem_cons.mp h
    exact ⟨⟨hfield.roundTrips.readsBack, hfield.omitted⟩, readsBack_of_faithful fields hfields⟩

/-- The views of the fields make up one of the record. -/
theorem exists_views : (fields : List Field) → (∀ field ∈ fields, field.Faithful) →
    ∃ views, Writes fields views ∧ Reads fields views
  | [], _ => ⟨(), trivial, trivial⟩
  | field :: fields, h => by
    obtain ⟨hfield, hfields⟩ := List.forall_mem_cons.mp h
    obtain ⟨view, hshows, hreads⟩ := hfield.roundTrips.readable
    obtain ⟨views, hwrites, hreads'⟩ := exists_views fields hfields
    exact ⟨(view, views), ⟨hshows, hfield.omitted, hwrites⟩, hreads, hreads'⟩

/-- A record is faithful if its fields are and have different names. -/
theorem faithful {record : String} {fields : List Field} (h : ∀ field ∈ fields, field.Faithful)
    (hnodup : (fields.map Field.name).Nodup) : (Codec.record record fields).Faithful := by
  obtain ⟨views, hwrites, hreads⟩ := exists_views fields h
  exact ⟨lawful_record (readsBack_of_faithful fields h) hnodup, _, writes_record hwrites hnodup,
    reads_record hreads hnodup⟩

end Record

end Provisioner.Json
