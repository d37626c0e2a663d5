import Provisioner.Proofs.Json.Accepted
import Provisioner.Proofs.Space.Reading
import Provisioner.Proofs.Json.Unambiguous
/-!
# What can be a document, and damaged documents

A text that is read as the document of a space is a JSON text (`Contents.spelledBy_of_decode`); only
the empty text, which stands for no document, is read without being one.

A document that was cut off is therefore not read as a smaller one: no proper beginning of its text is
the text of anything. Nor is one to which something was added; only blanks may follow, and they change
nothing. Both hold since the text of an object shows its own end.
-/

namespace Provisioner.Space

open Json
open Json.Reader (sound_scalar)
open Json.Record (sound_record)

variable {text : String} {root : Tree} {c : Contents}

theorem Question.sound : codec.reader.Sound := by
  have hrow : (Codec.record "SampleQuestion" fields).reader.Sound := by
    apply sound_record
    simp only [fields, List.forall_mem_cons]
    exact ⟨sound_scalar _ _, (sound_scalar _ _).list.nullOr _, fun _ h => absurd h List.not_mem_nil⟩
  exact hrow.map _

theorem Table.sound : codec.reader.Sound := by
  have hrow : (Codec.record "TableSource" fields).reader.Sound :=
    sound_record (List.forall_mem_singleton.mpr ((sound_scalar _ _).nullOr _))
  exact hrow.map _

theorem Config.sound : codec.reader.Sound := by
  have hrow : (Codec.record "SpaceConfig" fields).reader.Sound :=
    sound_record (List.forall_mem_singleton.mpr (Question.sound.list.nullOr _))
  exact hrow.map _

theorem DataSources.sound : codec.reader.Sound := by
  have hrow : (Codec.record "SpaceDataSources" fields).reader.Sound :=
    sound_record (List.forall_mem_singleton.mpr (Table.sound.list.nullOr _))
  exact hrow.map _

theorem Document.sound : codec.reader.Sound := by
  have hrow : (Codec.record "SpaceDocument" fields).reader.Sound := by
    apply sound_record
    simp only [fields, List.forall_mem_cons]
    exact ⟨(sound_scalar _ _).nullOr _, Config.sound.nullOr _, DataSources.sound.nullOr _,
      fun _ h => absurd h List.not_mem_nil⟩
  exact hrow.map _

namespace Contents

/-- No contents are read from the text. -/
def Malformed (text : String) : Prop := ∃ e, decode text = .error e

theorem malformed_iff : Malformed text ↔ ∀ c, decode text ≠ .ok c := by
  cases h : decode text with
  | error e => simp [Malformed, h]
  | ok c => simp [Malformed, h]

/-- What is read is the empty text or a JSON text. -/
theorem spelledBy_of_decode (hne : text ≠ "") (h : decode text = .ok c) :
    ∃ root, Tree.SpelledBy root text.toList := by
  have hempty : ¬ text.isEmpty := fun hempty => hne (String.isEmpty_iff.mp hempty)
  rw [decode, if_neg hempty] at h
  obtain ⟨d, hread, -⟩ := eq_ok_of_map h
  exact Document.sound.spelledBy hread

theorem malformed_of_not_spelledBy (hne : text ≠ "")
    (h : ∀ root, ¬ Tree.SpelledBy root text.toList) : Malformed text := by
  refine malformed_iff.mpr fun c hc => ?_
  obtain ⟨root, hroot⟩ := spelledBy_of_decode hne hc
  exact h root hroot

end Contents

/-! ### Documents that were damaged -/

/-- A document is written as an object and nothing behind it. -/
theorem Contents.spells_encode (c : Contents) (ids : IdSupply) :
    ∃ ms, Tree.Spells (.value (.object ms)) (c.encode ids).toList [] := by
  obtain ⟨view, hwrites, -⟩ := Document.faithful.readable
  have hspells := spells_write _ (hwrites.exact_encode (c.document ids)) []
  rw [List.append_nil] at hspells
  rw [encode, Codec.toText, Json.text, String.toList_ofList]
  exact ⟨_, hspells⟩

theorem blanks_nil_iff {cs : List Char} : Blanks cs [] ↔ ∀ x ∈ cs, isBlank x = true := by
  induction cs with
  | nil => exact ⟨fun _ x hx => absurd hx List.not_mem_nil, fun _ => .nil⟩
  | cons c cs ih =>
    rw [List.forall_mem_cons, ← ih]
    constructor
    · rintro ⟨⟩
      rename_i hc hcs
      exact ⟨hc, hcs⟩
    · rintro ⟨hc, hcs⟩
      exact .cons hc hcs

/-- A damaged document is malformed, and blanks behind a document are no damage. -/
theorem Contents.decode_damaged (c : Contents) (ids : IdSupply) :
    (∀ p : String, p.toList <+: (c.encode ids).toList → p ≠ "" → p ≠ c.encode ids → Malformed p) ∧
      (∀ q : String, (∃ x ∈ q.toList, isBlank x = false) → Malformed (c.encode ids ++ q)) ∧
      ∀ q : String, (∀ x ∈ q.toList, isBlank x = true) → decode (c.encode ids ++ q) = .ok c := by
  obtain ⟨ms, hspells⟩ := c.spells_encode ids
  have hbehind (q : String) (root : Tree) : root.SpelledBy (c.encode ids ++ q).toList ↔
      root = .object ms ∧ Blanks q.toList [] := by
    rw [String.toList_append]
    exact Tree.spelledBy_append_iff hspells
  refine ⟨fun p hp hne hwhole => ?cut, fun q hq => ?added, fun q hq => ?blanks⟩
  case cut =>
    obtain ⟨left, hleft⟩ := hp
    have hnil : left ≠ [] := by
      rintro rfl
      rw [List.append_nil] at hleft
      exact hwhole (String.toList_inj.mp hleft)
    rw [← hleft] at hspells
    exact malformed_of_not_spelledBy hne fun root => Tree.not_spelledBy_of_append hspells hnil
  case added =>
    obtain ⟨x, hx, hvisible⟩ := hq
    have hne : c.encode ids ++ q ≠ "" := by
      intro hempty
      rw [← String.toList_eq_nil_iff, String.toList_append] at hempty
      exact absurd ((List.append_eq_nil_iff.mp hempty).2 ▸ hx) List.not_mem_nil
    refine malformed_of_not_spelledBy hne fun root hroot => ?_
    have hblank := blanks_nil_iff.mp ((hbehind q root).mp hroot).2 x hx
    rw [hvisible] at hblank
    cases hblank
  case blanks =>
    have htext := (hbehind "" (.object ms)).mpr ⟨rfl, .nil⟩
    have htext' := (hbehind q (.object ms)).mpr ⟨rfl, blanks_nil_iff.mpr hq⟩
    have hread := toOption_decode htext
    rw [String.append_empty, decode_encode] at hread
    rw [← toOption_eq_some_iff, toOption_decode htext', ← hread]
    rfl

/-- Contents with a table in whose name the document seems to end. -/
def Contents.braces : Contents := ⟨["a\"\x7d]\x7d\x7d"], []⟩

/-- The document of these contents, cut off inside the name. -/
def Contents.bracesCut : String :=
  "\x7b\"version\":1,\"config\":\x7b\x7d,\"data_sources\":\x7b" ++
    "\"tables\":[\x7b\"identifier\":\"a\\\"\x7d]\x7d\x7d"

/-- The whole document. -/
def Contents.bracesText : String := bracesCut ++ "\"\x7d]\x7d\x7d"

/-- Cut off where it seems to end, with a second document behind it, and with a line end behind
    it. -/
theorem Contents.decode_damaged_braces :
    (bracesCut.toList <+: bracesText.toList ∧ bracesCut ≠ "" ∧ bracesCut ≠ bracesText ∧
        Malformed bracesCut) ∧
      ((∃ x ∈ "\x7b\x7d".toList, isBlank x = false) ∧ Malformed (bracesText ++ "\x7b\x7d")) ∧
      (∀ x ∈ "\r\n".toList, isBlank x = true) ∧ decode (bracesText ++ "\r\n") = .ok braces := by
  have htext : braces.encode (fun _ => ⟨0, 0, 0, 0⟩) = bracesText := by decide +kernel
  have hdamaged := decode_damaged braces fun _ => ⟨0, 0, 0, 0⟩
  rw [htext] at hdamaged
  obtain ⟨hcut, hadded, hblanks⟩ := hdamaged
  have hbegins : bracesCut.toList <+: bracesText.toList := by decide +kernel
  have hne : bracesCut ≠ "" := by decide +kernel
  have hwhole : bracesCut ≠ bracesText := by decide +kernel
  have hvisible : ∃ x ∈ "\x7b\x7d".toList, isBlank x = false := ⟨'\x7b', by decide, by decide⟩
  have hblank : ∀ x ∈ "\r\n".toList, isBlank x = true := List.all_eq_true.mp (by decide)
  exact ⟨⟨hbegins, hne, hwhole, hcut _ hbegins hne hwhole⟩, ⟨hvisible, hadded _ hvisible⟩, hblank,
    hblanks _ hblank⟩

end Provisioner.Space
