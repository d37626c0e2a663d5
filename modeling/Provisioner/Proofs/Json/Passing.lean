import Provisioner.Json.Skip
import Provisioner.Proofs.Json.Numerals
/-!
# Passing over values

A value of any shape is passed over to exactly its end, however deep it nests, whatever its numerals
amount to and whether or not its surrogates pair (`skipValue_of_spells`). The step is one lemma for
each way a text of a part can begin; the induction runs over the text of the value, with the open
brackets around it left arbitrary.
-/

namespace Provisioner.Json

open Provisioner.Json.Tree (Part)

variable {cs ds es fs rest : List Char} {c : Char} {t : Tree} {ts : List Tree} {ms : Tree.Members}
  {first : Bool} {around : List Bracket}

/-! ### First characters -/

/-- A character with which a value can begin. It closes nothing and separates nothing. -/
structure Begins (c : Char) : Prop where
  visible : isBlank c = false
  not_list : c ≠ ']'
  not_object : c ≠ '\x7d'
  not_comma : c ≠ ','

theorem begins_of_numeral (h : c = '-' ∨ c.isDigit = true) : Begins c ∧ c ≠ 'n' := by
  rcases h with rfl | h
  · exact ⟨⟨by decide, by decide, by decide, by decide⟩, by decide⟩
  · refine ⟨⟨?_, ?_, ?_, ?_⟩, ?_⟩
    · cases hblank : isBlank c with
      | false => rfl
      | true =>
        simp only [isBlank, Bool.or_eq_true, beq_iff_eq] at hblank
        rcases hblank with ((rfl | rfl) | rfl) | rfl <;> exact absurd h (by decide)
    all_goals rintro rfl; exact absurd h (by decide)

/-- How a value begins; only null begins with its letter. -/
theorem Tree.Spells.head (h : Spells (.value t) cs rest) :
    ∃ c ds, cs = c :: ds ∧ Begins c ∧ (c = 'n' ↔ t = .null) := by
  cases h with
  | null => exact ⟨'n', _, rfl, ⟨by decide, by decide, by decide, by decide⟩, by simp⟩
  | number hn =>
    rcases hn.head with ⟨c, ds, rfl, hc⟩
    obtain ⟨hbegins, hne⟩ := begins_of_numeral hc
    exact ⟨c, _, rfl, hbegins, by simp [hne]⟩
  | _ => exact ⟨_, _, rfl, ⟨by decide, by decide, by decide, by decide⟩, by simp⟩

theorem delimited_of_blanks (h : Blanks cs (c :: rest)) (hc : c = ',' ∨ c = ']' ∨ c = '\x7d') :
    Delimited cs := by
  intro d hd
  cases h with
  | nil =>
    obtain rfl : c = d := by simpa using hd
    exact .inr hc
  | cons hblank _ =>
    obtain rfl := Option.some.inj hd
    exact .inl hblank

theorem delimited_of_lead (h : Lead false cs rest) : Delimited cs := by
  cases h with
  | later hcomma _ => exact delimited_of_blanks hcomma (.inl rfl)

theorem delimited_of_items (h : Tree.Spells (.items false ts) cs rest) : Delimited cs := by
  cases h with
  | noItem hend => exact delimited_of_blanks hend (.inr (.inl rfl))
  | item hlead _ _ => exact delimited_of_lead hlead

theorem delimited_of_members (h : Tree.Spells (.members false ms) cs rest) : Delimited cs := by
  cases h with
  | noMember hend => exact delimited_of_blanks hend (.inr (.inr rfl))
  | member hlead _ _ _ _ _ => exact delimited_of_lead hlead

/-! ### One step -/

theorem spell_append (word rest : List Char) : spell word (word ++ rest) = .ok rest := by
  induction word with
  | nil => rfl
  | cons w ws ih => simp [spell, ih]

theorem passColon_of_blanks (h : Blanks cs (':' :: rest)) : passColon cs = .ok rest := by
  simp [passColon, h.skip (by decide)]

/-- Go on behind an opening bracket: to the end of all brackets, or to the first value. -/
def skipOpened (b : Bracket) (around : List Bracket) (cs : List Char) : Except Fault (List Char) :=
  match skipOpening b cs with
  | .error f => .error f
  | .ok (true, rest) => skipRest around rest
  | .ok (false, rest) => skipValue (b :: around) rest

theorem skipValue_opening {b : Bracket} (hblanks : Blanks cs (c :: rest)) (hc : isBlank c = false)
    (hb : Bracket.opened? c = some b) : skipValue around cs = skipOpened b around rest := by
  have hskip := hblanks.skip hc
  rw [skipValue, skipOpened]
  split
  · rename_i hnil
    simp [hskip] at hnil
  · rename_i c' rest' hcons
    rw [hskip] at hcons
    obtain ⟨rfl, rfl⟩ := List.cons.inj hcons
    split
    · rename_i b' hb'
      rw [hb] at hb'
      obtain rfl := Option.some.inj hb'
      dsimp only
      split <;> simp_all
    · rename_i hnone
      simp [hb] at hnone

theorem skipValue_scalar (hblanks : Blanks cs (c :: ds)) (hc : isBlank c = false)
    (hb : Bracket.opened? c = none) (hscalar : skipScalar (c :: ds) = .ok rest) :
    skipValue around cs = skipRest around rest := by
  have hskip := hblanks.skip hc
  rw [skipValue]
  split
  · rename_i hnil
    simp [hskip] at hnil
  · rename_i c' rest' hcons
    rw [hskip] at hcons
    obtain ⟨rfl, rfl⟩ := List.cons.inj hcons
    split
    · rename_i b hb'
      simp [hb] at hb'
    · split
      · rename_i f hf
        simp [hscalar] at hf
      · rename_i rest' hrest
        rw [hscalar] at hrest
        obtain rfl := Except.ok.inj hrest
        rfl

theorem skipRest_close {b : Bracket} (h : Blanks cs (b.ending :: rest)) :
    skipRest (b :: around) cs = skipRest around rest := by
  have hskip := h.skip (by cases b <;> decide)
  rw [skipRest]
  split
  · rename_i hnil
    simp [hskip] at hnil
  · rename_i c' rest' hcons
    rw [hskip] at hcons
    obtain ⟨rfl, rfl⟩ := List.cons.inj hcons
    rw [if_pos rfl]

theorem skipRest_comma {b : Bracket} (h : Blanks cs (',' :: ds))
    (hlead : skipLead b ds = .ok rest) :
    skipRest (b :: around) cs = skipValue (b :: around) rest := by
  have hskip := h.skip (by decide)
  rw [skipRest]
  split
  · rename_i hnil
    simp [hskip] at hnil
  · rename_i c' rest' hcons
    rw [hskip] at hcons
    obtain ⟨rfl, rfl⟩ := List.cons.inj hcons
    rw [if_neg (by cases b <;> decide), if_pos rfl]
    split
    · rename_i f hf
      simp [hlead] at hf
    · rename_i rest' hrest
      rw [hlead] at hrest
      obtain rfl := Except.ok.inj hrest
      rfl

theorem skipOpened_close {b : Bracket} (h : Blanks cs (b.ending :: rest)) :
    skipOpened b around cs = skipRest around rest := by
  have hskip := h.skip (by cases b <;> decide)
  simp [skipOpened, skipOpening, hskip]

theorem skipOpened_first {b : Bracket} (h : Blanks cs (c :: ds)) (hc : isBlank c = false)
    (hne : c ≠ b.ending) (hlead : skipLead b (c :: ds) = .ok rest) :
    skipOpened b around cs = skipValue (b :: around) rest := by
  have hskip := h.skip hc
  simp [skipOpened, skipOpening, hskip, hne, hlead, Except.map]

theorem skipKey_of_key {key : Option String} (hquote : Blanks cs ('"' :: ds))
    (hkey : Quotation.Says key ds es) (hcolon : Blanks es (':' :: rest)) :
    skipKey cs = .ok rest := by
  have hskip := hquote.skip (by decide)
  simp [skipKey, hskip, Quotation.skip_of_passes hkey.passes,
    passColon_of_blanks hcolon]

theorem skipScalar_numeral (h : c = '-' ∨ c.isDigit = true) (cs : List Char) :
    Bracket.opened? c = none ∧
      skipScalar (c :: cs) = (Numeral.read .numberInvalid (c :: cs)).map Prod.snd := by
  have hne (d : Char) (hd : (d == '-' || d.isDigit) = false) : c ≠ d := by
    rintro rfl
    rcases h with rfl | h
    · exact absurd hd (by decide)
    · simp [h] at hd
  simp [Bracket.opened?, skipScalar, h, hne '[' (by decide), hne '\x7b' (by decide),
    hne '"' (by decide), hne 'n' (by decide), hne 't' (by decide), hne 'f' (by decide)]

/-! ### Whole values -/

/-- What passing over a part of a text comes to. -/
def Passed : Part → List Char → List Char → Prop
  | .value _, cs, rest => Delimited rest →
      ∀ around ds, Blanks ds cs → skipValue around ds = skipRest around rest
  | .items true _, cs, rest => ∀ around, skipOpened .list around cs = skipRest around rest
  | .items false _, cs, rest => ∀ around, skipRest (.list :: around) cs = skipRest around rest
  | .members true _, cs, rest => ∀ around, skipOpened .object around cs = skipRest around rest
  | .members false _, cs, rest => ∀ around, skipRest (.object :: around) cs = skipRest around rest

theorem passed_of_spells {p : Part} (h : Tree.Spells p cs rest) : Passed p cs rest := by
  -- By the grammar, not by the content: a value is passed together with what it is inside of.
  induction h with
  | null =>
    intro _ around ds hds
    exact skipValue_scalar hds (by decide) (by decide) (spell_append ['u', 'l', 'l'] _)
  | yes =>
    intro _ around ds hds
    exact skipValue_scalar hds (by decide) (by decide) (spell_append ['r', 'u', 'e'] _)
  | no =>
    intro _ around ds hds
    exact skipValue_scalar hds (by decide) (by decide) (spell_append ['a', 'l', 's', 'e'] _)
  | @number n ns rest hn =>
    intro hrest around ds hds
    have hread : Numeral.read .numberInvalid (ns ++ rest) = .ok (n, rest) :=
      Numeral.read_of_spells hn (Numeral.ends_of_delimited hrest)
    rcases hn.head with ⟨c, cs, rfl, hc⟩
    rw [List.cons_append] at hds hread
    obtain ⟨hopened, hscalar⟩ := skipScalar_numeral hc (cs ++ rest)
    refine skipValue_scalar hds (begins_of_numeral hc).1.visible hopened ?_
    rw [hscalar, hread]
    rfl
  | string hstring =>
    intro _ around ds hds
    refine skipValue_scalar hds (by decide) (by decide) ?_
    simp [skipScalar, Quotation.skip_of_passes hstring.passes]
  | array _ ih =>
    intro _ around ds hds
    rw [skipValue_opening hds (by decide) rfl]
    exact ih around
  | object _ ih =>
    intro _ around ds hds
    rw [skipValue_opening hds (by decide) rfl]
    exact ih around
  | @noItem first cs rest hend =>
    cases first with
    | true => exact fun around => skipOpened_close (b := .list) hend
    | false => exact fun around => skipRest_close (b := .list) hend
  | item hlead hvalue hmore ihvalue ihmore =>
    have hrest := delimited_of_items hmore
    cases hlead with
    | first hblanks =>
      intro around
      rcases hvalue.head with ⟨c, ds, rfl, hbegins, _⟩
      rw [skipOpened_first (b := .list) hblanks hbegins.visible hbegins.not_list rfl]
      rw [ihvalue hrest _ _ .nil, ihmore]
    | later hcomma hblanks =>
      intro around
      rw [skipRest_comma (b := .list) hcomma rfl, ihvalue hrest _ _ hblanks, ihmore]
  | @noMember first cs rest hend =>
    cases first with
    | true => exact fun around => skipOpened_close (b := .object) hend
    | false => exact fun around => skipRest_close (b := .object) hend
  | member hlead hkey hcolon hblanks hvalue hmore ihvalue ihmore =>
    have hrest := delimited_of_members hmore
    cases hlead with
    | first hquote =>
      intro around
      rw [skipOpened_first (b := .object) hquote (by decide) (by decide)
        (skipKey_of_key .nil hkey hcolon)]
      rw [ihvalue hrest _ _ hblanks, ihmore]
    | later hcomma hquote =>
      intro around
      rw [skipRest_comma (b := .object) hcomma (skipKey_of_key hquote hkey hcolon)]
      rw [ihvalue hrest _ _ hblanks, ihmore]

/-- A value is passed over to its end, and the brackets around it are closed from there. -/
theorem skipValue_of_spells (h : Tree.Spells (.value t) ds rest) (hrest : Delimited rest)
    (hblanks : Blanks cs ds) : skipValue around cs = skipRest around rest :=
  passed_of_spells h hrest around cs hblanks

end Provisioner.Json
