import Provisioner.Proofs.Json.Views
/-!
# Only tokens are read

The converse of what is known of the readers of tokens: what they take from a text are numerals,
strings, literals and separators of the grammar, and nothing else.
-/

namespace Provisioner.Json

variable {α β : Type} {cs ds es rest : List Char} {first : Bool}

theorem eq_ok_of_map {ε : Type} {x : Except ε α} {f : α → β} {b : β} (h : x.map f = .ok b) :
    ∃ a, x = .ok a ∧ f a = b := by
  cases x with
  | error e => cases h
  | ok a => exact ⟨a, rfl, Except.ok.inj h⟩

/-! ### Blanks and numerals -/

theorem blanks_skipBlanks (cs : List Char) : Blanks cs (skipBlanks cs) := by
  induction cs with
  | nil => exact .nil
  | cons c cs ih =>
    cases hc : isBlank c with
    | true =>
      rw [skipBlanks, List.dropWhile_cons_of_pos hc]
      exact .cons hc ih
    | false =>
      rw [skipBlanks_cons hc]
      exact .nil

theorem blanks_of_skipBlanks (h : skipBlanks cs = ds) : Blanks cs ds := h ▸ blanks_skipBlanks cs

theorem Lead.trans (h : Lead first cs ds) (h' : Blanks ds es) : Lead first cs es := by
  cases h with
  | first hblanks => exact .first (hblanks.trans h')
  | later hcomma hblanks => exact .later hcomma (hblanks.trans h')

namespace Numeral

variable {cut : Malformation} {n : Numeral}

theorem digits_append_eq (cs : List Char) : (digits cs).1 ++ (digits cs).2 = cs :=
  List.takeWhile_append_dropWhile

theorem isDigit_of_mem_digits (cs : List Char) : ∀ d ∈ (digits cs).1, d.isDigit = true :=
  List.all_eq_true.mp List.all_takeWhile

theorem whole_of_readWhole (h : readWhole cut cs = .ok (ds, rest)) :
    Whole ds ∧ cs = ds ++ rest := by
  cases cs with
  | nil => simp [readWhole] at h
  | cons c cs =>
    simp only [readWhole] at h
    split at h
    · rename_i hzero
      subst hzero
      split at h
      · split at h
        · cases h
        · cases h
          exact ⟨.zero, rfl⟩
      · cases h
        exact ⟨.zero, rfl⟩
    · rename_i hzero
      split at h
      · rename_i hdigit
        cases h
        exact ⟨.positive hzero hdigit (isDigit_of_mem_digits cs),
          congrArg (c :: ·) (digits_append_eq cs).symm⟩
      · cases h

theorem fraction_of_readFraction (h : readFraction cut cs = .ok (ds, rest)) :
    ∃ point, Fraction ds point ∧ cs = point ++ rest := by
  unfold readFraction at h
  split at h
  · rename_i cs
    split at h
    · cases h
    · cases h
    · rename_i hnil hempty
      have hsplit := digits_append_eq cs
      have hdigits := isDigit_of_mem_digits cs
      rw [Except.ok.inj h] at hsplit hdigits
      cases ds with
      | nil => exact absurd (Except.ok.inj h) (hempty rest)
      | cons d ds =>
        obtain ⟨hd, hds⟩ := List.forall_mem_cons.mp hdigits
        exact ⟨'.' :: d :: ds, .present (.cons hd hds), congrArg ('.' :: ·) hsplit.symm⟩
  · cases h
    exact ⟨[], .absent, rfl⟩

theorem exponent_of_readExponent {e : Option (Bool × List Char)}
    (h : readExponent cut cs = .ok (e, rest)) : ∃ mark, Exponent e mark ∧ cs = mark ++ rest := by
  cases cs with
  | nil =>
    cases h
    exact ⟨[], .absent, rfl⟩
  | cons c cs =>
    simp only [readExponent] at h
    split at h
    · rename_i hmark
      split at h
      · cases h
      · rename_i negative d ds hsign
        split at h
        · rename_i hd
          cases h
          have hdigits : Digits (d :: (digits ds).1) := .cons hd (isDigit_of_mem_digits ds)
          have hsplit : d :: ds = (d :: (digits ds).1) ++ (digits ds).2 :=
            congrArg (d :: ·) (digits_append_eq ds).symm
          unfold readSign at hsign
          split at hsign
          · cases hsign
            exact ⟨_, .plus hmark hdigits, congrArg (c :: '+' :: ·) hsplit⟩
          · cases hsign
            exact ⟨_, .minus hmark hdigits, congrArg (c :: '-' :: ·) hsplit⟩
          · cases hsign
            exact ⟨_, .unsigned hmark hdigits, congrArg (c :: ·) hsplit⟩
        · cases h
    · cases h
      exact ⟨[], .absent, rfl⟩

theorem spells_of_readUnsigned {negative : Bool}
    (h : readUnsigned cut negative cs = .ok (n, rest)) :
    ∃ ds, n.Spells (sign negative ++ ds) ∧ cs = ds ++ rest := by
  simp only [readUnsigned, bind, Except.bind] at h
  split at h
  · cases h
  · rename_i found hread
    obtain ⟨hwhole, hcs⟩ := whole_of_readWhole hread
    split at h
    · cases h
    · rename_i found' hread'
      obtain ⟨point, hfraction, hpoint⟩ := fraction_of_readFraction hread'
      split at h
      · cases h
      · rename_i found'' hread''
        obtain ⟨mark, hexponent, hmark⟩ := exponent_of_readExponent hread''
        cases h
        refine ⟨_, .mk hwhole hfraction hexponent, ?_⟩
        rw [hcs, hpoint, hmark]
        simp only [List.append_assoc]

/-- What is read as a numeral is one of its texts. -/
theorem spells_of_read (h : read cut cs = .ok (n, rest)) :
    ∃ ds, n.Spells ds ∧ cs = ds ++ rest := by
  unfold read at h
  split at h
  · obtain ⟨ds, hspells, rfl⟩ := spells_of_readUnsigned h
    exact ⟨_, hspells, rfl⟩
  · obtain ⟨ds, hspells, rfl⟩ := spells_of_readUnsigned h
    exact ⟨_, hspells, rfl⟩

end Numeral

/-! ### Tokens -/

theorem says_of_read {s : String} (h : Quotation.read cs = .ok (s, rest)) :
    Quotation.Says (some s) cs rest := .characters (Quotation.read_eq_ok_iff.mp h)

theorem says_of_skip (h : Quotation.skip cs = .ok rest) : ∃ s, Quotation.Says s cs rest := by
  have hpasses := Quotation.skip_eq_ok_iff.mp h
  by_cases hspells : ∃ xs, Quotation.Spells xs cs rest
  · obtain ⟨xs, hxs⟩ := hspells
    refine ⟨some (String.ofList xs), .characters ?_⟩
    rwa [String.toList_ofList]
  · exact ⟨none, .nothing hpasses fun xs hxs => hspells ⟨xs, hxs⟩⟩

theorem eq_append_of_spell {word : List Char} (h : spell word cs = .ok rest) :
    cs = word ++ rest := by
  induction word generalizing cs with
  | nil => exact Except.ok.inj h
  | cons w ws ih =>
    cases cs with
    | nil => cases h
    | cons c cs =>
      simp only [spell] at h
      split at h
      · rename_i hc
        rw [hc, ih h, List.cons_append]
      · cases h

/-- How the text goes on behind the first token of a value. -/
inductive Token.Stands : Token → List Char → List Char → Prop where
  | list {rest : List Char} : Stands (.opening .list) ('[' :: rest) rest
  | object {rest : List Char} : Stands (.opening .object) ('\x7b' :: rest) rest
  | scalar {s : Scalar} {t : Tree} {cs rest : List Char} :
      Tree.Spells (.value t) cs rest → Stands (.scalar s) cs rest

theorem Token.stands_of_readHere {token : Token} (h : readHere cs = .ok (token, rest)) :
    token.Stands cs rest := by
  cases cs with
  | nil => cases h
  | cons c cs =>
    simp only [readHere] at h
    split at h
    · rename_i hc
      cases h
      exact hc ▸ .list
    split at h
    · rename_i hc
      cases h
      exact hc ▸ .object
    split at h
    · rename_i hc
      unfold readString at h
      split at h
      · cases h
      · rename_i s rest' hread
        cases h
        exact hc ▸ .scalar (.string (says_of_read hread))
    split at h
    · rename_i hc
      obtain ⟨rest', hspell, hrest⟩ := eq_ok_of_map h
      cases hrest
      rw [hc, eq_append_of_spell hspell]
      exact .scalar .null
    split at h
    · rename_i hc
      obtain ⟨rest', hspell, hrest⟩ := eq_ok_of_map h
      cases hrest
      rw [hc, eq_append_of_spell hspell]
      exact .scalar .yes
    split at h
    · rename_i hc
      obtain ⟨rest', hspell, hrest⟩ := eq_ok_of_map h
      cases hrest
      rw [hc, eq_append_of_spell hspell]
      exact .scalar .no
    split at h
    · unfold readNumber at h
      split at h
      · cases h
      · rename_i numeral rest' hread
        obtain ⟨n, -, hrest⟩ := eq_ok_of_map h
        cases hrest
        obtain ⟨ds, hspells, hds⟩ := Numeral.spells_of_read hread
        rw [hds]
        exact .scalar (.number hspells)
    · cases h

theorem Token.stands_of_read {token : Token} (h : Token.read cs = .ok (token, rest)) :
    ∃ ds, Blanks cs ds ∧ token.Stands ds rest :=
  ⟨_, blanks_skipBlanks cs, stands_of_readHere h⟩

/-! ### Separators -/

theorem blanks_of_nextItem (h : nextItem first cs = .ok (false, rest)) :
    Blanks cs (']' :: rest) := by
  unfold nextItem at h
  split at h
  · cases h
  · rename_i c ds hskip
    split at h
    · rename_i hc
      cases h
      exact hc ▸ blanks_of_skipBlanks hskip
    split at h
    · cases h
    split at h
    · split at h
      · cases h
      · split at h <;> cases h
    · cases h

theorem lead_of_nextItem (h : nextItem first cs = .ok (true, rest)) : Lead first cs rest := by
  unfold nextItem at h
  split at h
  · cases h
  · rename_i c ds hskip
    split at h
    · cases h
    split at h
    · rename_i hfirst
      cases h
      exact hfirst ▸ .first (blanks_of_skipBlanks hskip)
    split at h
    · rename_i hfirst hc
      obtain rfl : first = false := by simpa using hfirst
      split at h
      · cases h
      · rename_i d es hskip'
        split at h
        · cases h
        · cases h
          exact .later (hc ▸ blanks_of_skipBlanks hskip) (blanks_of_skipBlanks hskip')
    · cases h

theorem readKey_eq_ok {key : Option String} (h : readKey cs = .ok (key, rest)) :
    ∃ s, key = some s ∧ Quotation.Says (some s) cs rest := by
  unfold readKey at h
  split at h
  · cases h
  · rename_i s rest' hread
    cases h
    exact ⟨s, rfl, says_of_read hread⟩

theorem blanks_of_nextKey (h : nextKey first cs = .ok (none, rest)) :
    Blanks cs ('\x7d' :: rest) := by
  have hkey {ds : List Char} : readKey ds ≠ .ok (none, rest) := by
    intro hread
    obtain ⟨s, hs, -⟩ := readKey_eq_ok hread
    cases hs
  unfold nextKey at h
  split at h
  · cases h
  · rename_i c ds hskip
    split at h
    · rename_i hc
      cases h
      exact hc ▸ blanks_of_skipBlanks hskip
    split at h
    · split at h
      · exact absurd h hkey
      · cases h
    split at h
    · split at h
      · cases h
      · split at h
        · exact absurd h hkey
        · split at h <;> cases h
    · cases h

theorem lead_of_nextKey {key : String} (h : nextKey first cs = .ok (some key, rest)) :
    ∃ ds, Lead first cs ('"' :: ds) ∧ Quotation.Says (some key) ds rest := by
  have hkey {ds : List Char} (hread : readKey ds = .ok (some key, rest)) :
      Quotation.Says (some key) ds rest := by
    obtain ⟨s, hs, hsays⟩ := readKey_eq_ok hread
    exact hs ▸ hsays
  unfold nextKey at h
  split at h
  · cases h
  · rename_i c ds hskip
    split at h
    · cases h
    split at h
    · rename_i hfirst
      split at h
      · rename_i hc
        exact ⟨ds, hfirst ▸ .first (hc ▸ blanks_of_skipBlanks hskip), hkey h⟩
      · cases h
    split at h
    · rename_i hfirst hc
      obtain rfl : first = false := by simpa using hfirst
      split at h
      · cases h
      · rename_i d es hskip'
        split at h
        · rename_i hd
          exact ⟨es, .later (hc ▸ blanks_of_skipBlanks hskip) (hd ▸ blanks_of_skipBlanks hskip'),
            hkey h⟩
        · split at h <;> cases h
    · cases h

theorem blanks_of_passColon (h : passColon cs = .ok rest) : Blanks cs (':' :: rest) := by
  unfold passColon at h
  split at h
  · cases h
  · rename_i c ds hskip
    split at h
    · rename_i hc
      cases h
      exact hc ▸ blanks_of_skipBlanks hskip
    · cases h

end Provisioner.Json
