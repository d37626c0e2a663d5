import Provisioner.Proofs.Space.Wording
import Provisioner.Session.Step
/-!
# Edits and wordings

A stored space can be edited field by field. Whether that makes a space again, and which one, does
not depend on the wording of its document (`Api.Space.Alike.edit`): a document is a string like any
other, and the edits either replace it or leave it.
-/

namespace Provisioner

open Json
open Space (SameDocument)

/-! ### Paired results -/

/-- Results that are related if both are successes, and else the same errors. -/
inductive Paired {ε α β : Type} (R : α → β → Prop) : Except ε α → Except ε β → Prop
  | ok {a : α} {b : β} (h : R a b) : Paired R (.ok a) (.ok b)
  | error (e : ε) : Paired R (.error e) (.error e)

namespace Paired

variable {ε α β γ : Type}

theorem refl {R : α → α → Prop} (hR : ∀ a, R a a) (r : Except ε α) : Paired R r r := by
  cases r with
  | ok a => exact .ok (hR a)
  | error e => exact .error e

theorem map_eq {R : α → β → Prop} {r₁ : Except ε α} {r₂ : Except ε β} {f : α → γ} {g : β → γ}
    (h : Paired R r₁ r₂) (hR : ∀ a b, R a b → f a = g b) : r₁.map f = r₂.map g := by
  cases h with
  | ok h => exact congrArg Except.ok (hR _ _ h)
  | error e => rfl

theorem eq {R : α → α → Prop} {r₁ r₂ : Except ε α} (h : Paired R r₁ r₂)
    (hR : ∀ a b, R a b → a = b) : r₁ = r₂ := by
  cases h with
  | ok h => exact congrArg Except.ok (hR _ _ h)
  | error e => rfl

end Paired

namespace Api.Space

variable {a b : Api.Space} {ms₁ ms₂ es₁ es₂ : Members} {name : String} {v₁ v₂ : Json}

/-- The spaces differ at most in the wording of their documents. -/
def Alike (a b : Api.Space) : Prop :=
  ∃ document, b = { a with document } ∧ SameDocument a.document document

theorem Alike.refl (a : Api.Space) : a.Alike a := ⟨a.document, rfl, .refl _⟩

/-- Answers show no wording. -/
theorem Alike.shown_eq (h : a.Alike b) : a.shown = b.shown := by
  obtain ⟨d, rfl, hd⟩ := h
  simp only [shown, hd.masked_eq]

/-! ### Members -/

/-- What stands under one name in the forms of two alike spaces. -/
def ValueAlike (name : String) (v₁ v₂ : Json) : Prop :=
  v₁ = v₂ ∨ name = "serialized_space" ∧
    ∃ d₁ d₂, v₁ = .string d₁ ∧ v₂ = .string d₂ ∧ SameDocument d₁ d₂

inductive MembersAlike : Members → Members → Prop
  | nil : MembersAlike [] []
  | cons {name : String} {v₁ v₂ : Json} {ms₁ ms₂ : Members} (hv : ValueAlike name v₁ v₂)
      (hms : MembersAlike ms₁ ms₂) : MembersAlike ((name, v₁) :: ms₁) ((name, v₂) :: ms₂)

namespace MembersAlike

theorem refl (ms : Members) : MembersAlike ms ms := by
  induction ms with
  | nil => exact .nil
  | cons m ms ih => exact .cons (.inl rfl) ih

/-- Where a member is put depends on its name alone. -/
theorem put (h : MembersAlike ms₁ ms₂) (hv : ValueAlike name v₁ v₂) :
    MembersAlike (Entries.put name v₁ ms₁) (Entries.put name v₂ ms₂) := by
  induction h with
  | nil => exact .cons hv .nil
  | cons hold hms ih =>
    simp only [Entries.put]
    split
    · exact .cons hv (.cons hold hms)
    · split
      · exact .cons hv hms
      · exact .cons hold ih

theorem overlay (h : MembersAlike ms₁ ms₂) (he : MembersAlike es₁ es₂) :
    MembersAlike (Entries.overlay ms₁ es₁) (Entries.overlay ms₂ es₂) := by
  induction he generalizing ms₁ ms₂ with
  | nil => exact h
  | cons hv _ ih => exact ih (h.put hv)

theorem find? (h : MembersAlike ms₁ ms₂) (name : String) :
    Option.Rel (ValueAlike name) (Entries.find? name ms₁) (Entries.find? name ms₂) := by
  induction h with
  | nil => exact .none
  | cons hv _ ih =>
    simp only [Entries.find?]
    split
    · rename_i heq
      exact .some (heq ▸ hv)
    · exact ih

theorem find?_eq (h : MembersAlike ms₁ ms₂) (hname : name ≠ "serialized_space") :
    Entries.find? name ms₁ = Entries.find? name ms₂ := by
  have hrel := h.find? name
  generalize Entries.find? name ms₁ = o₁ at hrel ⊢
  generalize Entries.find? name ms₂ = o₂ at hrel ⊢
  cases hrel with
  | none => rfl
  | some hv =>
    rcases hv with rfl | ⟨rfl, -⟩
    · rfl
    · exact absurd rfl hname

/-- The first member that is refused is no document, since any string is accepted for one. -/
theorem refusal?_eq (h : MembersAlike ms₁ ms₂) :
    ms₁.findSome? (Record.refusal? fields) = ms₂.findSome? (Record.refusal? fields) := by
  induction h with
  | nil => rfl
  | cons hv _ ih =>
    rcases hv with rfl | ⟨rfl, d₁, d₂, rfl, rfl, -⟩
    · simp only [List.findSome?_cons, ih]
    · exact ih

end MembersAlike

/-! ### Reading -/

/-- The string under a name. -/
def slot (name : String) (ms : Members) : Option String :=
  (Entries.find? name ms).bind fun v => (Codec.string.decode v).toOption

/-- The space that is made of some slots. -/
def ofSlots (spaceId title warehouseId description document : Option String) :
    Except Json.Error Api.Space :=
  ((Record.complete fields (spaceId, title, warehouseId, description, document, ())).map
    fun (spaceId, title, warehouseId, description, document, ()) =>
      ⟨spaceId, title, warehouseId, description, document⟩).mapError Mismatch.error

theorem ofValue_object (ms : Members) :
    codec.ofValue (.object ms) =
      ((ms.findSome? (Record.refusal? fields)).map fun m => .error m.error).getD
        (ofSlots (slot "space_id" ms) (slot "title" ms) (slot "warehouse_id" ms)
          (slot "description" ms) (slot "serialized_space" ms)) := by
  show ((Record.ofMembers fields ms).map _).mapError Mismatch.error = _
  unfold Record.ofMembers
  cases ms.findSome? (Record.refusal? fields) <;> rfl

/-- The other slots decide whether there is a space. -/
theorem paired_ofSlots (spaceId title warehouseId description : Option String) {d₁ d₂ : String}
    (h : SameDocument d₁ d₂) :
    Paired Alike (ofSlots spaceId title warehouseId description (some d₁))
      (ofSlots spaceId title warehouseId description (some d₂)) := by
  cases spaceId with
  | none => exact .error _
  | some spaceId =>
    cases title with
    | none => exact .error _
    | some title =>
      cases warehouseId with
      | none => exact .error _
      | some warehouseId =>
        cases description with
        | none => exact .ok ⟨d₂, rfl, h⟩
        | some description => exact .ok ⟨d₂, rfl, h⟩

theorem MembersAlike.ofValue (h : MembersAlike ms₁ ms₂) :
    Paired Alike (codec.ofValue (.object ms₁)) (codec.ofValue (.object ms₂)) := by
  have hslot {name : String} (hname : name ≠ "serialized_space") :
      slot name ms₁ = slot name ms₂ := by
    rw [slot, slot, h.find?_eq hname]
  have hspaceId : slot "space_id" ms₁ = slot "space_id" ms₂ := hslot (by decide)
  have htitle : slot "title" ms₁ = slot "title" ms₂ := hslot (by decide)
  have hwarehouse : slot "warehouse_id" ms₁ = slot "warehouse_id" ms₂ := hslot (by decide)
  have hdescription : slot "description" ms₁ = slot "description" ms₂ := hslot (by decide)
  rw [ofValue_object, ofValue_object, h.refusal?_eq, hspaceId, htitle, hwarehouse, hdescription]
  cases ms₂.findSome? (Record.refusal? fields) with
  | some m => exact .error _
  | none =>
    have hrel := h.find? "serialized_space"
    unfold slot
    generalize Entries.find? "serialized_space" ms₁ = v₁ at hrel ⊢
    generalize Entries.find? "serialized_space" ms₂ = v₂ at hrel ⊢
    cases hrel with
    | none => exact .refl Alike.refl _
    | some hv =>
      rcases hv with rfl | ⟨-, d₁, d₂, rfl, rfl, hd⟩
      · exact .refl Alike.refl _
      · exact paired_ofSlots _ _ _ _ hd

/-- An edit makes alike spaces of alike spaces, or is refused for both. -/
theorem Alike.edit (h : a.Alike b) (edits : Members) :
    Paired Alike (codec.ofValue ((codec.toValue a).amend edits))
      (codec.ofValue ((codec.toValue b).amend edits)) := by
  obtain ⟨d, rfl, hd⟩ := h
  have hvalue (a : Api.Space) : codec.toValue a = .object (Entries.arrange
      [("space_id", .string a.spaceId), ("title", .string a.title),
       ("warehouse_id", .string a.warehouseId), ("description", .string a.description),
       ("serialized_space", .string a.document)]) := rfl
  rw [hvalue, hvalue]
  apply MembersAlike.ofValue
  apply MembersAlike.overlay _ (.refl edits)
  apply MembersAlike.overlay .nil
  exact .cons (.inl rfl) <| .cons (.inl rfl) <| .cons (.inl rfl) <| .cons (.inl rfl) <|
    .cons (.inr ⟨rfl, _, _, rfl, rfl, hd⟩) .nil

end Api.Space

end Provisioner
