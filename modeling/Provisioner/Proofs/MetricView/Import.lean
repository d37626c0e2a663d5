import Provisioner.Proofs.MetricView.Statements
/-!
# Imports of metric views

An import is given the full name of a view and takes it apart at its first two dots. What it makes of
the name has this full name again. The other way round a view is found again only if its catalog and
its schema have no dots: a full name does not tell where the dots of its parts are, and the import
takes them for the ends of parts as early as it can (`MetricView.parts_of_importState_fullName`).
-/

namespace Provisioner.MetricView

variable {id catalogName schemaName name : String} {q m : State}

theorem parts?_eq_some_iff :
    parts? id = some (catalogName, schemaName, name) ↔
      id.toList = catalogName.toList ++ '.' :: (schemaName.toList ++ '.' :: name.toList) ∧
        '.' ∉ catalogName.toList ∧ '.' ∉ schemaName.toList := by
  constructor
  · intro h
    obtain ⟨⟨catalog, rest⟩, hfirst, h⟩ := Option.bind_eq_some_iff.mp h
    obtain ⟨⟨schema, last⟩, hsecond, h⟩ := Option.bind_eq_some_iff.mp h
    cases h
    obtain ⟨hid, hcatalog⟩ := Text.splitOnce_eq_some_iff.mp hfirst
    obtain ⟨hrest, hschema⟩ := Text.splitOnce_eq_some_iff.mp hsecond
    exact ⟨hrest ▸ hid, hcatalog, hschema⟩
  · rintro ⟨hid, hcatalog, hschema⟩
    have hfirst : Text.splitOnce '.' id =
        some (catalogName, schemaName ++ "." ++ name) := by
      apply Text.splitOnce_eq_some_iff.mpr
      simpa using ⟨hid, hcatalog⟩
    have hsecond : Text.splitOnce '.' (schemaName ++ "." ++ name) = some (schemaName, name) := by
      apply Text.splitOnce_eq_some_iff.mpr
      simpa using hschema
    simp [parts?, hfirst, hsecond]

theorem toList_fullName (q : State) :
    q.fullName.toList =
      q.catalogName.toList ++ '.' :: (q.schemaName.toList ++ '.' :: q.name.toList) := by
  simp [State.fullName]

/-- The parts of a name are told apart if the first two of them have no dots. -/
def State.Dotless (q : State) : Prop :=
  '.' ∉ q.catalogName.toList ∧ '.' ∉ q.schemaName.toList

theorem parts?_fullName (h : q.Dotless) :
    parts? q.fullName = some (q.catalogName, q.schemaName, q.name) :=
  parts?_eq_some_iff.mpr ⟨toList_fullName q, h⟩

theorem exists_parts?_iff :
    (∃ catalogName schemaName name, parts? id = some (catalogName, schemaName, name)) ↔
      2 ≤ id.toList.count '.' := by
  constructor
  · rintro ⟨catalogName, schemaName, name, h⟩
    rw [(parts?_eq_some_iff.mp h).1]
    simp only [List.count_append, List.count_cons_self]
    omega
  · intro h
    have hfirst : '.' ∈ id.toList := List.count_pos_iff.mp (by omega)
    obtain ⟨catalogName, rest, hid⟩ := Text.exists_splitOnce_iff.mpr hfirst
    obtain ⟨htext, hcatalog⟩ := Text.splitOnce_eq_some_iff.mp hid
    have hsecond : '.' ∈ rest.toList := by
      have hnone : catalogName.toList.count '.' = 0 := List.count_eq_zero.mpr hcatalog
      rw [htext, List.count_append, List.count_cons_self, hnone] at h
      exact List.count_pos_iff.mp (by omega)
    obtain ⟨schemaName, name, hrest⟩ := Text.exists_splitOnce_iff.mpr hsecond
    exact ⟨catalogName, schemaName, name, by simp [parts?, hid, hrest]⟩

/-! ### States -/

theorem importState_of_parts (h : parts? id = some (catalogName, schemaName, name)) :
    importState id = .ok ⟨"", name, catalogName, schemaName, "", some id⟩ := by
  rw [importState, h]

theorem exists_of_importState (h : importState id = .ok q) :
    ∃ catalogName schemaName name, parts? id = some (catalogName, schemaName, name) ∧
      q = ⟨"", name, catalogName, schemaName, "", some id⟩ := by
  unfold importState at h
  split at h
  · rename_i hparts
    exact ⟨_, _, _, hparts, (Except.ok.inj h).symm⟩
  · cases h

theorem fullName_of_importState (h : importState id = .ok q) :
    q.id = some id ∧ q.fullName = id ∧ q.Dotless := by
  obtain ⟨catalogName, schemaName, name, hparts, rfl⟩ := exists_of_importState h
  obtain ⟨hid, hdotless⟩ := parts?_eq_some_iff.mp hparts
  refine ⟨rfl, String.toList_inj.mp ?_, hdotless⟩
  rw [toList_fullName, hid]

theorem exists_importState_iff :
    (∃ q, importState id = .ok q) ↔ 2 ≤ id.toList.count '.' := by
  rw [← exists_parts?_iff]
  constructor
  · rintro ⟨q, h⟩
    obtain ⟨catalogName, schemaName, name, hparts, -⟩ := exists_of_importState h
    exact ⟨catalogName, schemaName, name, hparts⟩
  · rintro ⟨catalogName, schemaName, name, hparts⟩
    exact ⟨_, importState_of_parts hparts⟩

theorem exists_importState_fullName (m : State) : ∃ q, importState m.fullName = .ok q := by
  rw [exists_importState_iff, toList_fullName]
  simp only [List.count_append, List.count_cons_self]
  omega

/-- What is imported by the full name of a view has the same parts exactly if the name tells them
    apart. -/
theorem parts_of_importState_fullName (h : importState m.fullName = .ok q) :
    q.parts = m.parts ↔ m.Dotless := by
  constructor
  · intro hparts
    obtain ⟨hcatalog, hschema, -⟩ : q.catalogName = m.catalogName ∧
        q.schemaName = m.schemaName ∧ q.name = m.name := by simpa [State.parts] using hparts
    have hdotless := (fullName_of_importState h).2.2
    rwa [State.Dotless, hcatalog, hschema] at hdotless
  · intro hdotless
    cases h.symm.trans (importState_of_parts (parts?_fullName hdotless))
    rfl

/-- An import accepts just the identifiers with two dots or more, and gives a state of this
    identifier and full name. The full name of a view is always accepted; the import of it is about
    the same view, in all statements too, if catalog and schema have no dots, and else about another
    one. -/
theorem importState_inverts :
    (∀ id, ((∃ q, importState id = .ok q) ↔ 2 ≤ id.toList.count '.') ∧
      ∀ q, importState id = .ok q → q.id = some id ∧ q.fullName = id) ∧
    ∀ m : State, ∃ q, importState m.fullName = .ok q ∧
      (q.parts = m.parts ↔ m.Dotless) ∧ (q.sqlName = m.sqlName ↔ m.Dotless) := by
  refine ⟨fun id => ⟨exists_importState_iff, ?accepted⟩, ?inverted⟩
  case accepted =>
    intro q h
    obtain ⟨hid, hname, -⟩ := fullName_of_importState h
    exact ⟨hid, hname⟩
  case inverted =>
    intro m
    obtain ⟨q, h⟩ := exists_importState_fullName m
    have hparts := parts_of_importState_fullName h
    exact ⟨q, h, hparts, sqlName_inj.trans hparts⟩

/-- A view whose catalog has a dot is taken for another one, of the same full name. -/
theorem importState_inverts_dotted :
    let m : State := ⟨"", "revenue", "main.eu", "sales", "", none⟩
    ∃ q, importState "main.eu.sales.revenue" = .ok q ∧ q.id = some "main.eu.sales.revenue" ∧
      q.fullName = m.fullName ∧ q.sqlName ≠ m.sqlName := by
  intro m
  obtain ⟨q, h, -, hsame⟩ := importState_inverts.2 m
  obtain ⟨hid, hname⟩ := (importState_inverts.1 m.fullName).2 q h
  refine ⟨q, h, hid, hname, ?_⟩
  intro hsql
  have hdotless := hsame.mp hsql
  exact absurd hdotless.1 (by decide)

end Provisioner.MetricView
