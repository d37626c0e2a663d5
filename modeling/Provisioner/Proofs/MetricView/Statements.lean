import Provisioner.Resource.MetricView
/-!
# Statements about metric views

A statement about a view is a fixed verb, the name of the view and, if it defines the view, the
definition. The workspace reads the name by the rules of its language: an identifier in back-quotes
goes on up to the first back-quote that is not doubled, and a name is a row of identifiers with dots
between them (`Sql.name?`). Read in this way, every statement names the three parts of the view, and
what follows the name is the definition alone (`MetricView.statement_read`). So no part can get out
of its quotes, and a text tells what it was made for and from.
-/

namespace Provisioner

/-! ### Names -/

namespace Sql

/-- An identifier behind its opening back-quote, and what follows it. A doubled back-quote is one of
    the identifier, and a single one closes it. -/
def closing? : List Char → Option (List Char × List Char)
  | [] => none
  | '\x60' :: '\x60' :: cs => (closing? cs).map fun found => ('\x60' :: found.1, found.2)
  | '\x60' :: cs => some ([], cs)
  | c :: cs => (closing? cs).map fun found => (c :: found.1, found.2)

/-- The identifier in back-quotes with which a text begins, and what follows it. -/
def identifier? : List Char → Option (String × List Char)
  | '\x60' :: cs => (closing? cs).map fun found => (String.ofList found.1, found.2)
  | _ => none

theorem closing?_shrinks {cs part after : List Char} (h : closing? cs = some (part, after)) :
    after.length < cs.length := by
  fun_induction closing? cs generalizing part with
  | case1 => cases h
  | case2 cs ih =>
    obtain ⟨found, hfound, heq⟩ := Option.map_eq_some_iff.mp h
    obtain ⟨-, rfl⟩ := Prod.mk.inj heq
    exact Nat.lt_succ_of_lt (Nat.lt_succ_of_lt (ih hfound))
  | case3 cs =>
    obtain ⟨-, rfl⟩ := Prod.mk.inj (Option.some.inj h)
    exact Nat.lt_succ_self cs.length
  | case4 c cs _ _ ih =>
    obtain ⟨found, hfound, heq⟩ := Option.map_eq_some_iff.mp h
    obtain ⟨-, rfl⟩ := Prod.mk.inj heq
    exact Nat.lt_succ_of_lt (ih hfound)

theorem identifier?_shrinks {cs after : List Char} {part : String}
    (h : identifier? cs = some (part, after)) : after.length < cs.length := by
  unfold identifier? at h
  split at h
  · obtain ⟨found, hfound, heq⟩ := Option.map_eq_some_iff.mp h
    obtain ⟨-, rfl⟩ := Prod.mk.inj heq
    exact Nat.lt_succ_of_lt (closing?_shrinks hfound)
  · cases h

/-- The name with which a text begins, identifier by identifier, and what follows it. -/
def name? (cs : List Char) : Option (List String × List Char) :=
  match h : identifier? cs with
  | none => none
  | some (part, '.' :: rest) =>
      have : rest.length < cs.length := Nat.lt_of_succ_lt (identifier?_shrinks h)
      (name? rest).map fun found => (part :: found.1, found.2)
  | some (part, rest) => some ([part], rest)
termination_by cs.length

theorem name?_of_dot {cs rest : List Char} {part : String}
    (h : identifier? cs = some (part, '.' :: rest)) :
    name? cs = (name? rest).map fun found => (part :: found.1, found.2) := by
  rw [name?]
  split
  · rename_i hnone
    cases h.symm.trans hnone
  · rename_i hdot
    cases h.symm.trans hdot
    rfl
  · rename_i hend hsome
    cases h.symm.trans hsome
    exact absurd rfl (hend rest)

theorem name?_of_end {cs after : List Char} {part : String}
    (h : identifier? cs = some (part, after)) (hend : after.head? ≠ some '.') :
    name? cs = some ([part], after) := by
  rw [name?]
  split
  · rename_i hnone
    cases h.symm.trans hnone
  · rename_i hdot
    cases h.symm.trans hdot
    exact absurd rfl hend
  · rename_i hsome
    cases h.symm.trans hsome
    rfl

end Sql

namespace MetricView

open Sql

variable {after : List Char}

/-! ### Quoted parts -/

theorem closing?_quoted (part : List Char) (h : after.head? ≠ some '\x60') :
    closing? (part.flatMap quoteIdentifier.quoteChar ++ '\x60' :: after) = some (part, after) := by
  induction part with
  | nil =>
    -- A back-quote behind the closing one would make a doubled one of it.
    cases after with
    | nil => rfl
    | cons c after =>
      have hc : c ≠ '\x60' := by simpa using h
      simp [closing?, hc]
  | cons c part ih =>
    rw [List.flatMap_cons, List.append_assoc]
    by_cases hc : c = '\x60'
    · subst hc
      have hdoubled : quoteIdentifier.quoteChar '\x60' = ['\x60', '\x60'] := rfl
      rw [hdoubled, List.cons_append, List.cons_append, List.nil_append, closing?, ih]
      rfl
    · have hplain : quoteIdentifier.quoteChar c = [c] := if_neg hc
      rw [hplain, List.cons_append, List.nil_append, closing?, ih]
      · rfl
      · exact fun _ heq _ => hc heq
      · exact hc

theorem identifier?_quoteIdentifier (part : String) (h : after.head? ≠ some '\x60') :
    identifier? ((quoteIdentifier part).toList ++ after) = some (part, after) := by
  have htext : (quoteIdentifier part).toList ++ after =
      '\x60' :: (part.toList.flatMap quoteIdentifier.quoteChar ++ '\x60' :: after) := by
    simp [quoteIdentifier]
  rw [htext, identifier?, closing?_quoted part.toList h, Option.map_some, String.ofList_toList]

theorem name?_dotted (part : String) (rest : List Char) :
    name? ((quoteIdentifier part).toList ++ '.' :: rest) =
      (name? rest).map fun found => (part :: found.1, found.2) :=
  name?_of_dot (identifier?_quoteIdentifier part (by simp))

/-! ### Statements -/

/-- What a statement is to do with a view. -/
inductive Verb where
  | create
  | replace
  | describe
  | drop
deriving DecidableEq, Repr

namespace Verb

/-- The text with which all statements of the verb begin. -/
def words : Verb → String
  | create => "CREATE METRIC VIEW "
  | replace => "CREATE OR REPLACE METRIC VIEW "
  | describe => "DESCRIBE EXTENDED "
  | drop => "DROP METRIC VIEW IF EXISTS "

/-- The statement holds the definition of the view. -/
def defines : Verb → Bool
  | create => true
  | replace => true
  | describe => false
  | drop => false

/-- The text that follows the verb in a statement, if this begins with the verb. -/
def behind? (v : Verb) (text : String) : Option (List Char) :=
  v.words.toList.isPrefixOf? text.toList

end Verb

namespace State

variable (s : State) (v : Verb)

def statement : Verb → String
  | .create => s.createStatement false
  | .replace => s.createStatement true
  | .describe => s.describeStatement
  | .drop => s.dropStatement

/-- The three parts of the name. -/
def parts : List String := [s.catalogName, s.schemaName, s.name]

/-- What follows the name in a statement. -/
def ending : Verb → String
  | .create => " AS\n" ++ s.yamlSpecification ++ ";"
  | .replace => " AS\n" ++ s.yamlSpecification ++ ";"
  | .describe => ";"
  | .drop => ";"

theorem statement_eq : s.statement v = v.words ++ s.sqlName ++ s.ending v := by
  cases v with
  | create =>
    apply String.toList_inj.mp
    simp [statement, createStatement, ending, Verb.words]
  | replace =>
    apply String.toList_inj.mp
    simp [statement, createStatement, ending, Verb.words]
  | describe => rfl
  | drop => rfl

end State

theorem head?_ending (s : State) (v : Verb) :
    (s.ending v).toList.head? = some (if v.defines then ' ' else ';') := by
  cases v <;> simp [State.ending, Verb.defines]

/-- The name of a view is read as its three parts. -/
theorem name?_sqlName (s : State) (hquote : after.head? ≠ some '\x60')
    (hdot : after.head? ≠ some '.') :
    Sql.name? (s.sqlName.toList ++ after) = some (s.parts, after) := by
  have htext : s.sqlName.toList ++ after =
      (quoteIdentifier s.catalogName).toList ++ '.' ::
        ((quoteIdentifier s.schemaName).toList ++ '.' ::
          ((quoteIdentifier s.name).toList ++ after)) := by
    simp [State.sqlName]
  have hlast := name?_of_end (identifier?_quoteIdentifier s.name hquote) hdot
  rw [htext, name?_dotted, name?_dotted, hlast]
  rfl

/-- Views with other parts have other names in statements. -/
theorem sqlName_inj {s s' : State} : s'.sqlName = s.sqlName ↔ s'.parts = s.parts := by
  constructor
  · intro h
    have hread (s : State) : Sql.name? (s.sqlName.toList ++ []) = some (s.parts, []) :=
      name?_sqlName s (by simp) (by simp)
    have hsame := hread s
    rw [← h, hread s'] at hsame
    exact congrArg Prod.fst (Option.some.inj hsame)
  · intro h
    obtain ⟨hcatalog, hschema, hname⟩ : s'.catalogName = s.catalogName ∧
        s'.schemaName = s.schemaName ∧ s'.name = s.name := by simpa [State.parts] using h
    rw [State.sqlName, State.sqlName, hcatalog, hschema, hname]

/-- No verb begins as another one does. -/
theorem isPrefixOf?_words (v v' : Verb) (text : List Char) :
    v'.words.toList.isPrefixOf? (v.words.toList ++ text) =
      if v' = v then some text else none := by
  cases v' <;> cases v <;> rfl

theorem behind?_statement (s : State) (v v' : Verb) :
    v'.behind? (s.statement v) =
      if v' = v then some (s.sqlName.toList ++ (s.ending v).toList) else none := by
  rw [Verb.behind?, s.statement_eq, String.toList_append, String.toList_append,
    List.append_assoc, isPrefixOf?_words]

/-- The name in a statement is read back as the parts that it was made of, and only the ending of
    the statement is left. -/
theorem name?_behind (s : State) (v : Verb) :
    (v.behind? (s.statement v)).bind Sql.name? = some (s.parts, (s.ending v).toList) := by
  have hquote : (s.ending v).toList.head? ≠ some '\x60' := by
    rw [head?_ending]
    cases v <;> decide
  have hdot : (s.ending v).toList.head? ≠ some '.' := by
    rw [head?_ending]
    cases v <;> decide
  rw [behind?_statement, if_pos rfl, Option.bind_some, name?_sqlName s hquote hdot]

theorem ending_inj {s s' : State} {v : Verb} :
    s'.ending v = s.ending v ↔ (v.defines = true → s'.yamlSpecification = s.yamlSpecification) := by
  cases v <;> simp [State.ending, Verb.defines, ← String.toList_inj]

/-- Every statement is read as its verb, the three parts of the name, and the definition of the view
    if the verb takes one. So its text tells all of them. -/
theorem statement_read (s : State) (v : Verb) :
    (v.behind? (s.statement v)).bind Sql.name? =
        some ([s.catalogName, s.schemaName, s.name], (s.ending v).toList) ∧
      ∀ (s' : State) (v' : Verb), s'.statement v' = s.statement v ↔
        v' = v ∧ s'.parts = s.parts ∧
          (v.defines = true → s'.yamlSpecification = s.yamlSpecification) := by
  refine ⟨name?_behind s v, ?_⟩
  intro s' v'
  constructor
  · intro htext
    have hverb : v' = v := by
      by_cases h : v' = v
      · exact h
      · have hbehind := behind?_statement s v v'
        rw [← htext, behind?_statement s' v' v', if_pos rfl, if_neg h] at hbehind
        cases hbehind
    subst hverb
    have hread := name?_behind s v'
    rw [← htext, name?_behind s' v'] at hread
    obtain ⟨hparts, hending⟩ := Prod.mk.inj (Option.some.inj hread)
    exact ⟨rfl, hparts, ending_inj.mp (String.toList_inj.mp hending)⟩
  · rintro ⟨rfl, hparts, hdefinition⟩
    rw [s'.statement_eq, s.statement_eq, sqlName_inj.mpr hparts, ending_inj.mpr hdefinition]

end MetricView

end Provisioner
