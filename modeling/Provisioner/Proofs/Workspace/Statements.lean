import Mathlib.Data.List.Infix
import Provisioner.Proofs.Workspace.Numbers
/-!
# Rules for statements and the record of them

Which outcome a statement has is known from the moves before it: it is that of the rule registered
last of those whose pattern occurs in it (`Decides`, `Workspace.decides_iff`). One rule more changes
nothing for statements without its pattern, and since an outcome is only answered and never kept,
it changes nothing else either (`Workspace.ExtraRule`). The record of statements only grows
(`Workspace.prefix_playAll`).
-/

namespace Provisioner

open Api

variable {w w' : Workspace} {r : Request} {m : Move} {ms : List Move} {statement pattern : String}
  {outcome : Except ApiError StatementStatus}

/-- The move registers a rule for a statement. -/
def Move.Rules (statement : String) : Move → Prop
  | respond pattern _ => pattern.toList <:+: statement.toList
  | _ => False

/-- The outcome of a statement by the rules that some moves have registered: that of the last rule
    for it, and success if there is none. -/
inductive Decides (statement : String) : List Move → Except ApiError StatementStatus → Prop
  | rule (before after : List Move) (pattern : String) (outcome : Except ApiError StatementStatus)
      (hpattern : pattern.toList <:+: statement.toList)
      (hafter : ∀ m ∈ after, ¬ m.Rules statement) :
      Decides statement (before ++ .respond pattern outcome :: after) outcome
  | none (ms : List Move) (hms : ∀ m ∈ ms, ¬ m.Rules statement) :
      Decides statement ms (.ok .succeeded)

/-- A move that registers no rule for the statement decides nothing. -/
theorem Decides.later (h : Decides statement ms outcome) (hm : ¬ m.Rules statement) :
    Decides statement (ms ++ [m]) outcome := by
  have hlast {ms : List Move} (hms : ∀ m ∈ ms, ¬ m.Rules statement) :
      ∀ m' ∈ ms ++ [m], ¬ m'.Rules statement := by
    intro m' hm'
    rcases List.mem_append.mp hm' with hmem | hmem
    · exact hms m' hmem
    · obtain rfl := List.mem_singleton.mp hmem
      exact hm
  cases h with
  | rule before after pattern outcome hpattern hafter =>
    rw [List.append_assoc, List.cons_append]
    exact .rule before (after ++ [m]) pattern outcome hpattern (hlast hafter)
  | none ms hms => exact .none (ms ++ [m]) (hlast hms)

namespace Workspace

/-! ### The rule that decides -/

theorem Effect.rules_eq (h : w.Effect r w') : w'.rules = w.rules := by
  cases h <;> rfl

theorem rules_play (hm : m.Edits) : (w.play m).rules = w.rules := by
  cases m with
  | modifySpace spaceId edit =>
    simp only [play]
    split <;> rfl
  | insertSpace _ | removeSpace _ | insertDeployment _ _ => rfl
  | _ => exact hm.elim

theorem outcome_congr (h : w'.rules = w.rules) (statement : String) :
    w'.outcome statement = w.outcome statement := by
  rw [Workspace.outcome, Workspace.outcome, h]

theorem outcome_respond (w : Workspace) (pattern : String)
    (outcome : Except ApiError StatementStatus) (statement : String) :
    (w.respond pattern outcome).outcome statement =
      if pattern.toList <:+: statement.toList then outcome else w.outcome statement := by
  unfold Workspace.outcome respond
  rw [List.find?_cons]
  by_cases hpattern : pattern.toList <:+: statement.toList
  · rw [if_pos hpattern, show Text.occursIn pattern statement = true from
      Text.isPart_iff.mpr hpattern]
  · rw [if_neg hpattern, show Text.occursIn pattern statement = false from
      Bool.eq_false_iff.mpr fun h => hpattern (Text.isPart_iff.mp h)]

theorem outcome_play (w : Workspace) (hm : ¬ m.Rules statement) :
    (w.play m).outcome statement = w.outcome statement := by
  cases m with
  | request r => exact outcome_congr (effect_answer r w).rules_eq statement
  | respond pattern outcome => exact (outcome_respond w pattern outcome statement).trans (if_neg hm)
  | fail operation e => rfl
  | insertSpace _ | modifySpace _ _ | removeSpace _ | insertDeployment _ _ =>
    apply outcome_congr
    exact rules_play trivial

theorem outcome_playAll (w : Workspace) (hms : ∀ m ∈ ms, ¬ m.Rules statement) :
    (w.playAll ms).outcome statement = w.outcome statement := by
  induction ms generalizing w with
  | nil => rfl
  | cons m ms ih =>
    rw [List.forall_mem_cons] at hms
    exact (ih (w.play m) hms.2).trans (outcome_play w hms.1)

theorem decides_outcome (statement : String) (ms : List Move) :
    Decides statement ms ((empty.playAll ms).outcome statement) := by
  induction ms using List.reverseRecOn with
  | nil => exact .none [] fun m hm => absurd hm List.not_mem_nil
  | append_singleton ms m ih =>
    rw [playAll_snoc]
    by_cases hm : m.Rules statement
    · cases m with
      | respond pattern outcome =>
        have houtcome : ((empty.playAll ms).play (.respond pattern outcome)).outcome statement =
            outcome := (outcome_respond _ pattern outcome statement).trans (if_pos hm)
        rw [houtcome]
        exact .rule ms [] pattern outcome hm fun m hm => absurd hm List.not_mem_nil
      | _ => exact hm.elim
    · rw [outcome_play _ hm]
      exact ih.later hm

/-- The rules of a workspace decide as the moves tell that led to it. -/
theorem decides_iff :
    Decides statement ms outcome ↔ (empty.playAll ms).outcome statement = outcome := by
  constructor
  · intro h
    cases h with
    | rule before after pattern outcome hpattern hafter =>
      rw [playAll_append, playAll_cons, outcome_playAll _ hafter]
      exact (outcome_respond _ pattern outcome statement).trans (if_pos hpattern)
    | none ms hms => exact outcome_playAll empty hms
  · rintro rfl
    exact decides_outcome statement ms

/-! ### One rule more -/

/-- The second workspace has one rule more, and so at most another outcome of the statements in
    which a pattern occurs. All else is the same. -/
structure ExtraRule (pattern : String) (w w' : Workspace) : Prop where
  rest : w' = w.adjust (fun _ => w'.rules) id
  outcome : ∀ statement, ¬ pattern.toList <:+: statement.toList →
    w'.outcome statement = w.outcome statement

theorem extraRule_respond (w : Workspace) (pattern : String)
    (outcome : Except ApiError StatementStatus) :
    ExtraRule pattern w (w.respond pattern outcome) where
  rest := rfl
  outcome statement h := (outcome_respond w pattern outcome statement).trans (if_neg h)

theorem ExtraRule.failures (h : ExtraRule pattern w w') : w'.failures = w.failures := by
  rw [h.rest]
  rfl

theorem ExtraRule.snd_answer (h : ExtraRule pattern w w') (r : Request) :
    (w'.answer r).2 = (w.answer r).2.adjust (fun _ => w'.rules) id := by
  unfold answer
  rw [h.failures]
  split
  · exact h.rest
  · rw [← snd_serve_adjust, ← h.rest]

theorem ExtraRule.fst_answer (h : ExtraRule pattern w w')
    (hr : ∀ q, r = .executeStatement q → ¬ pattern.toList <:+: q.statement.toList) :
    (w'.answer r).1 = (w.answer r).1 := by
  apply fst_answer_congr (congrFun h.failures r.operation)
  rw [h.rest]
  apply fst_serve_adjust
  intro q hq
  rw [← h.rest]
  exact h.outcome q.statement (hr q hq)

theorem ExtraRule.rest_edit (h : ExtraRule pattern w w') (hm : m.Edits) :
    w'.play m = (w.play m).adjust (fun _ => (w'.play m).rules) id := by
  rw [rules_play hm, ← play_adjust hm, ← h.rest]

theorem ExtraRule.play (h : ExtraRule pattern w w') (m : Move) :
    ExtraRule pattern (w.play m) (w'.play m) := by
  have hsame (hm : ∀ statement, ¬ m.Rules statement) (statement : String)
      (hstatement : ¬ pattern.toList <:+: statement.toList) :
      (w'.play m).outcome statement = (w.play m).outcome statement := by
    rw [outcome_play w' (hm statement), outcome_play w (hm statement)]
    exact h.outcome statement hstatement
  cases m with
  | request r =>
    refine ⟨?_, hsame fun _ => id⟩
    show (w'.answer r).2 = (w.answer r).2.adjust (fun _ => (w'.answer r).2.rules) id
    rw [(effect_answer r w').rules_eq]
    exact h.snd_answer r
  | respond p outcome =>
    refine ⟨congrArg (Workspace.respond · p outcome) h.rest, ?_⟩
    intro statement hstatement
    show (w'.respond p outcome).outcome statement = (w.respond p outcome).outcome statement
    rw [outcome_respond, outcome_respond, h.outcome statement hstatement]
  | fail operation e =>
    exact ⟨congrArg (Workspace.fail · operation e) h.rest, hsame fun _ => id⟩
  | insertSpace _ | modifySpace _ _ | removeSpace _ | insertDeployment _ _ =>
    exact ⟨h.rest_edit trivial, hsame fun _ => id⟩

theorem ExtraRule.playAll (h : ExtraRule pattern w w') (ms : List Move) :
    ExtraRule pattern (w.playAll ms) (w'.playAll ms) := by
  induction ms generalizing w w' with
  | nil => exact h
  | cons m ms ih => exact ih (h.play m)

/-! ### The record -/

theorem prefix_play (w : Workspace) (m : Move) : w.statements <+: (w.play m).statements := by
  have hsame {w' : Workspace} (h : w'.statements = w.statements) :
      w.statements <+: w'.statements := ⟨[], (List.append_nil _).trans h.symm⟩
  cases m with
  | request r =>
    cases hfailure : w.failures r.operation with
    | some e => exact hsame (congrArg Workspace.statements (play_of_stopped hfailure))
    | none =>
      rw [play_of_free hfailure, (serve_adds r w).2]
      exact List.prefix_append _ _
  | _ => exact hsame (play_of_no_call rfl w).2

theorem prefix_playAll (w : Workspace) (ms : List Move) :
    w.statements <+: (w.playAll ms).statements := by
  induction ms generalizing w with
  | nil => exact List.prefix_refl _
  | cons m ms ih => exact (prefix_play w m).trans (ih (w.play m))

/-! ### Runs -/

/-- The answer that gives an outcome of a statement. -/
def respondWith (w : Workspace) (outcome : Except ApiError StatementStatus) :
    Except ApiError StatementResponse :=
  outcome.map fun status => ⟨w.nextId "statement", status⟩

theorem respondWith_inj {outcome' : Except ApiError StatementStatus} :
    w.respondWith outcome = w.respondWith outcome' ↔ outcome = outcome' := by
  cases outcome <;> cases outcome' <;> simp [respondWith, Except.map]

/-- After any moves a statement that no failure stops is answered with the outcome of the last rule
    registered for it, or with success if there is none. One rule more, registered at any time,
    changes nothing but answers to statements that its pattern occurs in. All statements that no
    failure has stopped are recorded, in the order of their calls and whatever their outcome was, and
    stay recorded. -/
theorem statements_of_run (ms : List Move) :
    (∀ r outcome, (∀ e, Move.fail .executeStatement e ∉ ms) →
      (((empty.playAll ms).answer (.executeStatement r)).1 =
          (empty.playAll ms).respondWith outcome ↔
        Decides r.statement ms outcome)) ∧
    (∀ before after pattern outcome r, ms = before ++ after →
      (∀ q, r = .executeStatement q → ¬ pattern.toList <:+: q.statement.toList) →
      ((empty.playAll (before ++ .respond pattern outcome :: after)).answer r).1 =
        ((empty.playAll ms).answer r).1) ∧
    (empty.playAll ms).statements = (unstopped [] ms).filterMap Request.statement? ∧
    ∀ more, (empty.playAll ms).statements <+: (empty.playAll (ms ++ more)).statements := by
  refine ⟨?answers, ?rule, statements_playAll ms, ?grows⟩
  case answers =>
    intro r outcome hunset
    have hanswer : ((empty.playAll ms).answer (.executeStatement r)).1 =
        (empty.playAll ms).respondWith ((empty.playAll ms).outcome r.statement) :=
      congrArg Prod.fst (answer_of_no_failure (failures_eq_none_iff.mpr hunset))
    rw [hanswer, respondWith_inj, decides_iff]
  case rule =>
    rintro before after pattern outcome r rfl hr
    rw [playAll_append, playAll_append, playAll_cons]
    have hextra := extraRule_respond (empty.playAll before) pattern outcome
    exact (hextra.playAll after).fst_answer hr
  case grows =>
    intro more
    rw [playAll_append]
    exact prefix_playAll (empty.playAll ms) more

/-- The call that runs a text on the main warehouse. -/
def statementOf (text : String) : ExecuteStatement := ⟨text, "main", "50s", .cancel⟩

/-- A rule for dropped tables hides the older one for all that is dropped, but not for views, and the
    statement that it refuses is recorded. One that a failure stops is not. -/
theorem statements_of_run_dropping :
    let older := Move.respond "DROP" (.ok (.failed "locked"))
    let newer := Move.respond "DROP TABLE" (.error (.notFound "no such table"))
    let dropTable := Move.request (.executeStatement (statementOf "DROP TABLE t"))
    let failing := Move.fail .executeStatement (.notFound "no warehouse")
    ((empty.playAll [older, newer]).answer (.executeStatement (statementOf "DROP TABLE t"))).1 =
        .error (.notFound "no such table") ∧
      ((empty.playAll [older, newer]).answer (.executeStatement (statementOf "DROP VIEW v"))).1 =
        ((empty.playAll [older]).answer (.executeStatement (statementOf "DROP VIEW v"))).1 ∧
      (empty.playAll [older, newer, dropTable, failing, dropTable]).statements =
        [statementOf "DROP TABLE t"] := by
  intro older newer dropTable failing
  obtain ⟨hanswers, -⟩ := statements_of_run [older, newer]
  obtain ⟨-, hrule, -⟩ := statements_of_run [older]
  obtain ⟨-, -, hrecord, -⟩ := statements_of_run [older, newer, dropTable, failing, dropTable]
  refine ⟨?_, ?_, hrecord⟩
  · apply (hanswers (statementOf "DROP TABLE t") (.error (.notFound "no such table")) ?_).mpr
    · exact .rule [older] [] "DROP TABLE" _ (Text.isPart_iff.mp (by decide)) fun m hm =>
        absurd hm List.not_mem_nil
    · simp [older, newer]
  · apply hrule [older] [] "DROP TABLE" _ (.executeStatement (statementOf "DROP VIEW v")) rfl
    intro q hq
    obtain rfl := Request.executeStatement.inj hq
    exact fun hpattern => absurd (Text.isPart_iff.mpr hpattern) (by decide)

end Workspace

end Provisioner
