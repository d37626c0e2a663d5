import Provisioner.Json.Record
import Provisioner.Proofs.Json.Lexemes
/-!
# Only JSON is read

Whatever a reader takes from a text is a value of the grammar, and what it leaves is the text behind
that value (`Reader.Sound`). The values that are passed over are no exception, though nothing is kept
of them. So a text that is read as a whole is the text of a content (`Reader.Sound.spelledBy`);
together with `Reader.Reads` this says what a reader accepts, without a word about how it goes about
it.

The combinators of readers preserve soundness. Passing over values keeps the open brackets in a list,
so that what is left of the text has to close all of them (`Closes`).
-/

namespace Provisioner.Json

variable {α β σ : Type} {cs ds es fs rest : List Char} {c : Char} {t : Tree} {first : Bool}

/-! ### Readers -/

/-- What the reader takes from a text is a value. -/
structure Reader.Sound (r : Reader α) : Prop where
  spells_of_run : ∀ {cs rest : List Char} {a : α}, r.run cs = .ok (a, rest) →
    ∃ t ds, Blanks cs ds ∧ Tree.Spells (.value t) ds rest

namespace Reader

theorem Sound.map {r : Reader α} (h : r.Sound) (f : α → β) : (r.map f).Sound := by
  constructor
  intro cs rest b hrun
  unfold Reader.map at hrun
  dsimp only at hrun
  split at hrun
  · cases hrun
  · rename_i a rest' ha
    cases hrun
    exact h.spells_of_run ha

theorem sound_scalar (wanted : Wanted) (accept : Scalar → Except Mismatch α) :
    (scalar wanted accept).Sound := by
  constructor
  intro cs rest a hrun
  unfold scalar at hrun
  dsimp only at hrun
  split at hrun
  · cases hrun
  · rename_i s rest' hread
    obtain ⟨ds, hblanks, hstands⟩ := Token.stands_of_read hread
    split at hrun
    · cases hrun
    · cases hrun
      cases hstands with
      | scalar hspells => exact ⟨_, ds, hblanks, hspells⟩
  · cases hrun

theorem Sound.items {item : Reader α} (h : item.Sound) {xs : List α}
    (hbody : item.listBody first cs = .ok (xs, rest)) :
    ∃ ts, Tree.Spells (.items first ts) cs rest := by
  fun_induction listBody item first cs generalizing xs rest with
  | case1 => cases hbody
  | case2 first cs rest' hnext =>
    cases hbody
    exact ⟨[], .noItem (blanks_of_nextItem hnext)⟩
  | case3 => cases hbody
  | case4 => cases hbody
  | case5 first cs ds hnext x es hitem hlt ys rest' hmore ih =>
    cases hbody
    obtain ⟨t, fs, hblanks, hvalue⟩ := h.spells_of_run hitem
    obtain ⟨ts, hitems⟩ := ih hmore
    exact ⟨t :: ts, .item ((lead_of_nextItem hnext).trans hblanks) hvalue hitems⟩

theorem Sound.list {item : Reader α} (h : item.Sound) : item.list.Sound := by
  constructor
  intro cs rest xs hrun
  unfold Reader.list at hrun
  dsimp only at hrun
  split at hrun
  · cases hrun
  · rename_i es hread
    obtain ⟨ds, hblanks, hstands⟩ := Token.stands_of_read hread
    obtain ⟨ts, hitems⟩ := h.items hrun
    cases hstands
    exact ⟨.array ts, _, hblanks, .array hitems⟩
  · cases hrun

theorem Sound.nullOr {r : Reader α} (h : r.Sound) (absent : α) : (r.nullOr absent).Sound := by
  constructor
  intro cs rest a hrun
  unfold Reader.nullOr at hrun
  dsimp only at hrun
  split at hrun
  · rename_i ds hskip
    split at hrun
    · cases hrun
    · rename_i rest' hspell
      cases hrun
      rw [eq_append_of_spell hspell] at hskip
      exact ⟨.null, _, blanks_of_skipBlanks hskip, .null⟩
  · exact h.spells_of_run hrun

/-- If all values of members are read by sound readers, what is read is the rest of an object. -/
theorem spells_of_objectBody {member : String → σ → Except Mismatch (Reader σ)}
    (hmember : ∀ {key s r}, member key s = .ok r → r.Sound) {s final : σ}
    (hbody : objectBody member first s cs = .ok (final, rest)) :
    ∃ ms, Tree.Spells (.members first ms) cs rest := by
  fun_induction objectBody member first s cs with
  | case1 => cases hbody
  | case2 first s cs rest' hnext =>
    cases hbody
    exact ⟨[], .noMember (blanks_of_nextKey hnext)⟩
  | case3 => cases hbody
  | case4 => cases hbody
  | case5 => cases hbody
  | case6 first s cs key ds hnext value hvalue es hcolon s' fs hrun hlt ih =>
    obtain ⟨ks, hlead, hkey⟩ := lead_of_nextKey hnext
    obtain ⟨t, gs, hblanks, hspells⟩ := (hmember hvalue).spells_of_run hrun
    obtain ⟨ms, hmembers⟩ := ih hbody
    exact ⟨(some key, t) :: ms,
      .member hlead hkey (blanks_of_passColon hcolon) hblanks hspells hmembers⟩

end Reader

/-! ### Passing over -/

namespace Bracket

/-- What stands inside a bracket up to and with its end: all of it, or what is left behind an item or
    a member. -/
def Inside : Bracket → (first : Bool) → List Char → List Char → Prop
  | list, first, cs, rest => ∃ ts, Tree.Spells (.items first ts) cs rest
  | object, first, cs, rest => ∃ ms, Tree.Spells (.members first ms) cs rest

variable {b : Bracket}

theorem inside_of_end (h : Blanks cs (b.ending :: rest)) : b.Inside first cs rest := by
  cases b with
  | list => exact ⟨[], .noItem h⟩
  | object => exact ⟨[], .noMember h⟩

theorem says_of_skipKey (h : skipKey cs = .ok rest) :
    ∃ key ds es, Blanks cs ('"' :: ds) ∧ Quotation.Says key ds es ∧ Blanks es (':' :: rest) := by
  unfold skipKey at h
  split at h
  · cases h
  · rename_i c ds hskip
    split at h
    · rename_i hc
      split at h
      · cases h
      · rename_i es hstring
        obtain ⟨key, hkey⟩ := says_of_skip hstring
        exact ⟨key, ds, es, hc ▸ blanks_of_skipBlanks hskip, hkey, blanks_of_passColon h⟩
    · cases h

theorem inside_of_lead {gs : List Char} (hlead : Lead first cs ds) (hskip : skipLead b ds = .ok es)
    (hblanks : Blanks es fs) (hvalue : Tree.Spells (.value t) fs gs)
    (hmore : b.Inside false gs rest) : b.Inside first cs rest := by
  cases b with
  | list =>
    obtain ⟨ts, hitems⟩ := hmore
    obtain rfl := Except.ok.inj hskip
    exact ⟨t :: ts, .item (hlead.trans hblanks) hvalue hitems⟩
  | object =>
    obtain ⟨ms, hmembers⟩ := hmore
    obtain ⟨key, ks, ks', hquote, hkey, hcolon⟩ := says_of_skipKey hskip
    exact ⟨(key, t) :: ms, .member (hlead.trans hquote) hkey hcolon hblanks hvalue hmembers⟩

theorem spells_of_inside (hc : opened? c = some b) (h : b.Inside true cs rest) :
    ∃ t, Tree.Spells (.value t) (c :: cs) rest := by
  unfold opened? at hc
  split at hc
  · rename_i hbracket
    cases hc
    obtain ⟨ts, hitems⟩ := h
    exact ⟨.array ts, hbracket ▸ .array hitems⟩
  split at hc
  · rename_i hbracket
    cases hc
    obtain ⟨ms, hmembers⟩ := h
    exact ⟨.object ms, hbracket ▸ .object hmembers⟩
  · cases hc

theorem blanks_of_skipOpening (h : skipOpening b cs = .ok (true, rest)) :
    Blanks cs (b.ending :: rest) := by
  unfold skipOpening at h
  split at h
  · cases h
  · rename_i c ds hskip
    split at h
    · rename_i hc
      cases h
      exact hc ▸ blanks_of_skipBlanks hskip
    · obtain ⟨es, -, hes⟩ := eq_ok_of_map h
      cases hes

theorem lead_of_skipOpening (h : skipOpening b cs = .ok (false, rest)) :
    ∃ ds, Lead true cs ds ∧ skipLead b ds = .ok rest := by
  unfold skipOpening at h
  split at h
  · cases h
  · rename_i c ds hskip
    split at h
    · cases h
    · obtain ⟨es, hlead, hes⟩ := eq_ok_of_map h
      cases hes
      exact ⟨c :: ds, .first (blanks_of_skipBlanks hskip), hlead⟩

end Bracket

/-- All open brackets are closed, the innermost one first. -/
def Closes : List Bracket → List Char → List Char → Prop
  | [], cs, rest => cs = rest
  | b :: around, cs, rest => ∃ ds, b.Inside false cs ds ∧ Closes around ds rest

theorem spells_of_skipScalar (h : skipScalar (c :: cs) = .ok rest) :
    ∃ t, Tree.Spells (.value t) (c :: cs) rest := by
  simp only [skipScalar] at h
  split at h
  · rename_i hquote
    obtain ⟨s, hs⟩ := says_of_skip h
    exact ⟨.string s, hquote ▸ .string hs⟩
  split at h
  · rename_i hn
    rw [hn, eq_append_of_spell h]
    exact ⟨.null, .null⟩
  split at h
  · rename_i ht
    rw [ht, eq_append_of_spell h]
    exact ⟨.boolean true, .yes⟩
  split at h
  · rename_i hf
    rw [hf, eq_append_of_spell h]
    exact ⟨.boolean false, .no⟩
  split at h
  · obtain ⟨found, hread, hrest⟩ := eq_ok_of_map h
    obtain ⟨n, rest'⟩ := found
    obtain ⟨ds, hspells, hds⟩ := Numeral.spells_of_read hread
    cases hrest
    rw [hds]
    exact ⟨.number n, .number hspells⟩
  · cases h

/-- What is passed over is a value and the ends of all brackets around it. -/
theorem closes_of_skip (n : Nat) : ∀ (around : List Bracket) (cs rest : List Char), cs.length = n →
    (skipValue around cs = .ok rest →
      ∃ t ds es, Blanks cs ds ∧ Tree.Spells (.value t) ds es ∧ Closes around es rest) ∧
    (skipRest around cs = .ok rest → Closes around cs rest) := by
  induction n using Nat.strongRecOn with
  | _ n ih =>
    intro around cs rest hn
    have hle := length_skipBlanks_le cs
    constructor
    · intro h
      rw [skipValue] at h
      split at h
      · cases h
      · rename_i c ds hskip
        have hblanks := blanks_of_skipBlanks hskip
        rw [hskip, List.length_cons] at hle
        split at h
        · rename_i b hb
          split at h
          · cases h
          · rename_i es hopening
            have := skipOpening_le hopening
            have hcloses := (ih es.length (by omega) around es rest rfl).2 h
            have hinside : b.Inside true ds es :=
              Bracket.inside_of_end (Bracket.blanks_of_skipOpening hopening)
            obtain ⟨t, hvalue⟩ := Bracket.spells_of_inside hb hinside
            exact ⟨t, c :: ds, es, hblanks, hvalue, hcloses⟩
          · rename_i es hopening
            have := skipOpening_le hopening
            obtain ⟨fs, hlead, hskipped⟩ := Bracket.lead_of_skipOpening hopening
            obtain ⟨u, gs, hs, hblanks', hfirst, ks, hmore, hcloses⟩ :=
              (ih es.length (by omega) (b :: around) es rest rfl).1 h
            have hinside : b.Inside true ds ks :=
              Bracket.inside_of_lead hlead hskipped hblanks' hfirst hmore
            obtain ⟨t, hvalue⟩ := Bracket.spells_of_inside hb hinside
            exact ⟨t, c :: ds, ks, hblanks, hvalue, hcloses⟩
        · split at h
          · cases h
          · rename_i es hscalar
            have := skipScalar_shrinks hscalar
            rw [List.length_cons] at this
            have hcloses := (ih es.length (by omega) around es rest rfl).2 h
            obtain ⟨t, hvalue⟩ := spells_of_skipScalar hscalar
            exact ⟨t, c :: ds, es, hblanks, hvalue, hcloses⟩
    · intro h
      cases around with
      | nil =>
        rw [skipRest] at h
        exact Except.ok.inj h
      | cons b around =>
        rw [skipRest] at h
        split at h
        · cases h
        · rename_i c ds hskip
          have hblanks := blanks_of_skipBlanks hskip
          rw [hskip, List.length_cons] at hle
          split at h
          · rename_i hc
            have hcloses := (ih ds.length (by omega) around ds rest rfl).2 h
            exact ⟨ds, Bracket.inside_of_end (hc ▸ hblanks), hcloses⟩
          split at h
          · rename_i hc
            split at h
            · cases h
            · rename_i es hlead
              have := skipLead_le hlead
              obtain ⟨t, fs, gs, hblanks', hvalue, ks, hmore, hcloses⟩ :=
                (ih es.length (by omega) (b :: around) es rest rfl).1 h
              exact ⟨ks, Bracket.inside_of_lead (.later (hc ▸ hblanks) .nil) hlead hblanks' hvalue
                hmore, hcloses⟩
          · cases h

theorem Reader.sound_skip : Reader.skip.Sound := by
  constructor
  intro cs rest a hrun
  obtain ⟨es, hskip, hes⟩ := eq_ok_of_map hrun
  cases hes
  obtain ⟨t, ds, fs, hblanks, hvalue, hcloses⟩ :=
    (closes_of_skip cs.length [] cs rest rfl).1 hskip
  obtain rfl : fs = rest := hcloses
  exact ⟨t, ds, hblanks, hvalue⟩

/-! ### Records -/

namespace Record

theorem sound_member : (fields : List Field) → (∀ field ∈ fields, field.codec.reader.Sound) →
    {key : String} → {draft : Draft fields} → {r : Reader (Draft fields)} →
    member fields key draft = .ok r → r.Sound
  | [], _, _, _, _, h => Except.ok.inj h ▸ Reader.sound_skip
  | field :: fields, hsound, key, (slot, draft), r, h => by
    obtain ⟨hfield, hfields⟩ := List.forall_mem_cons.mp hsound
    simp only [member] at h
    split at h
    · cases slot with
      | some content => cases h
      | none =>
        cases h
        exact hfield.map _
    · obtain ⟨r', hr', hr⟩ := eq_ok_of_map h
      cases hr
      exact (sound_member fields hfields hr').map _

theorem blanks_of_readEnd (h : readEnd cs = .ok rest) : Blanks cs (']' :: rest) := by
  unfold readEnd at h
  split at h
  · cases h
  · rename_i c ds hskip
    split at h
    · rename_i hc
      cases h
      exact hc ▸ blanks_of_skipBlanks hskip
    split at h
    · split at h
      · split at h <;> cases h
      · cases h
    · cases h

theorem spells_of_readItems {record : String} {total : Nat} : (fields : List Field) →
    (∀ field ∈ fields, field.codec.reader.Sound) → {index : Nat} → {cs rest : List Char} →
    {row : Row fields} → readItems record total fields index cs = .ok (row, rest) →
    ∃ ts, Tree.Spells (.items (index == 0) ts) cs rest
  | [], _, index, cs, rest, row, h => by
    obtain ⟨es, hend, hes⟩ := eq_ok_of_map h
    cases hes
    exact ⟨[], .noItem (blanks_of_readEnd hend)⟩
  | field :: fields, hsound, index, cs, rest, row, h => by
    obtain ⟨hfield, hfields⟩ := List.forall_mem_cons.mp hsound
    simp only [readItems] at h
    split at h
    · cases h
    · rename_i ds hnext
      split at h
      · cases h
      · cases h
        exact ⟨[], .noItem (blanks_of_nextItem hnext)⟩
    · rename_i ds hnext
      split at h
      · cases h
      · rename_i content es hrun
        obtain ⟨t, fs, hblanks, hvalue⟩ := hfield.spells_of_run hrun
        split at h
        · cases h
        · rename_i more gs hmore
          cases h
          obtain ⟨ts, hitems⟩ := spells_of_readItems fields hfields hmore
          exact ⟨t :: ts, .item ((lead_of_nextItem hnext).trans hblanks) hvalue hitems⟩

/-- A reader of records is sound if the readers of its fields are. -/
theorem sound_record {name : String} {fields : List Field}
    (hsound : ∀ field ∈ fields, field.codec.reader.Sound) :
    (Codec.record name fields).reader.Sound := by
  constructor
  intro cs rest row hrun
  change read name fields cs = .ok (row, rest) at hrun
  unfold read at hrun
  split at hrun
  · cases hrun
  · rename_i es hread
    obtain ⟨ds, hblanks, hstands⟩ := Token.stands_of_read hread
    unfold readMembers at hrun
    split at hrun
    · cases hrun
    · rename_i draft rest' hbody
      obtain ⟨ms, hmembers⟩ :=
        Reader.spells_of_objectBody (fun h => sound_member fields hsound h) hbody
      split at hrun
      · cases hrun
      · cases hrun
        cases hstands
        exact ⟨.object ms, _, hblanks, .object hmembers⟩
  · rename_i es hread
    obtain ⟨ds, hblanks, hstands⟩ := Token.stands_of_read hread
    obtain ⟨ts, hitems⟩ := spells_of_readItems fields hsound hrun
    cases hstands
    exact ⟨.array ts, _, hblanks, .array hitems⟩
  · cases hrun

end Record

/-! ### Whole texts -/

/-- A text that is read is a JSON text. -/
theorem Reader.Sound.spelledBy {r : Reader α} (h : r.Sound) {text : String} {a : α}
    (hparse : r.parse text = .ok a) : ∃ t, Tree.SpelledBy t text.toList := by
  unfold Reader.parse at hparse
  split at hparse
  · cases hparse
  · rename_i a' rest hrun
    obtain ⟨t, ds, hblanks, hvalue⟩ := h.spells_of_run hrun
    split at hparse
    · rename_i hend
      exact ⟨t, .mk hblanks hvalue (blanks_of_skipBlanks hend)⟩
    · cases hparse

end Provisioner.Json
