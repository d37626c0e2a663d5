import Provisioner.Proofs.Json.Strings
/-!
# Reading numerals

Every text of a numeral is read back into its parts (`read_of_spells`), as long as nothing follows
that could continue it. Of the numbers that parts are evaluated to, only those of unsigned integer
literals are natural (`value?_of_natural`, `natural_of_value?`).
-/

namespace Provisioner.Json.Numeral

variable {cut : Malformation} {cs rest ds point mark : List Char} {n : Numeral} {k : Nat}

/-! ### What ends a numeral -/

/-- No digit comes next. -/
def NoDigit (cs : List Char) : Prop := ∀ c ∈ cs.head?, c.isDigit = false

/-- Nothing comes next that could continue a numeral. -/
def Ends (cs : List Char) : Prop :=
  ∀ c ∈ cs.head?, c.isDigit = false ∧ c ≠ '.' ∧ c ≠ 'e' ∧ c ≠ 'E'

theorem ends_of_delimited (h : Delimited rest) : Ends rest := by
  intro c hc
  rcases h c hc with hblank | rfl | rfl | rfl
  · simp only [isBlank, Bool.or_eq_true, beq_iff_eq] at hblank
    rcases hblank with ((rfl | rfl) | rfl) | rfl <;> decide
  all_goals decide

theorem Ends.noDigit (h : Ends cs) : NoDigit cs := fun c hc => (h c hc).1

theorem digits_append (hds : ∀ d ∈ ds, d.isDigit = true) (hcs : NoDigit cs) :
    digits (ds ++ cs) = (ds, cs) := by
  have htake : cs.takeWhile Char.isDigit = [] := by
    cases cs with
    | nil => rfl
    | cons c cs => rw [List.takeWhile_cons_of_neg (by simp [hcs c rfl])]
  have hdrop : cs.dropWhile Char.isDigit = cs := by
    cases cs with
    | nil => rfl
    | cons c cs => rw [List.dropWhile_cons_of_neg (by simp [hcs c rfl])]
  rw [digits, List.takeWhile_append_of_pos hds, List.dropWhile_append_of_pos hds, htake, hdrop,
    List.append_nil]

/-! ### Parts -/

theorem readWhole_of_whole (h : Whole ds) (hcs : NoDigit cs) :
    readWhole cut (ds ++ cs) = .ok (ds, cs) := by
  cases h with
  | zero =>
    cases cs with
    | nil => rfl
    | cons c cs => simp [readWhole, hcs c rfl]
  | @positive d ds hzero hdigit hds =>
    simp [readWhole, hzero, hdigit, digits_append hds hcs]

theorem readFraction_of_fraction (h : Fraction ds point) (hcs : NoDigit cs)
    (hpoint : ∀ c ∈ cs.head?, c ≠ '.') :
    readFraction cut (point ++ cs) = .ok (ds, cs) := by
  cases h with
  | absent =>
    cases cs with
    | nil => rfl
    | cons c cs =>
      rw [List.nil_append, readFraction]
      intro cs' heq
      exact hpoint c rfl (List.cons.inj heq).1
  | present hdigits =>
    cases hdigits with
    | @cons d ds hd hds =>
      have hfound : digits ((d :: ds) ++ cs) = (d :: ds, cs) :=
        digits_append (by simpa using ⟨hd, hds⟩) hcs
      rw [List.cons_append, readFraction, hfound]

theorem readExponent_of_exponent {e : Option (Bool × List Char)} (h : Exponent e mark)
    (hcs : Ends cs) : readExponent cut (mark ++ cs) = .ok (e, cs) := by
  have hfound {ds : List Char} (hds : ∀ d ∈ ds, d.isDigit = true) : digits (ds ++ cs) = (ds, cs) :=
    digits_append hds hcs.noDigit
  cases h with
  | absent =>
    cases cs with
    | nil => rfl
    | cons c cs =>
      have hc := hcs c rfl
      simp [readExponent, hc.2.2]
  | unsigned he hdigits =>
    cases hdigits with
    | @cons d ds hd hds =>
      have hplus : d ≠ '+' := by rintro rfl; exact absurd hd (by decide)
      have hminus : d ≠ '-' := by rintro rfl; exact absurd hd (by decide)
      have hsign : readSign (d :: (ds ++ cs)) = (false, d :: (ds ++ cs)) := by
        simp [readSign, hplus, hminus]
      simp [readExponent, he, hsign, hd, hfound hds]
  | plus he hdigits =>
    cases hdigits with
    | cons hd hds => simp [readExponent, he, readSign, hd, hfound hds]
  | minus he hdigits =>
    cases hdigits with
    | cons hd hds => simp [readExponent, he, readSign, hd, hfound hds]

/-! ### Whole numerals -/

theorem head_exponent {e : Option (Bool × List Char)} (h : Exponent e mark) (hcs : Ends cs) :
    ∀ c ∈ (mark ++ cs).head?, c.isDigit = false ∧ c ≠ '.' := by
  intro c hc
  cases h with
  | absent => exact ⟨(hcs c hc).1, (hcs c hc).2.1⟩
  | unsigned he _ | plus he _ | minus he _ =>
    obtain rfl : _ = c := by simpa using hc
    rcases he with rfl | rfl <;> decide

theorem noDigit_fraction (h : Fraction ds point) (hcs : NoDigit cs) : NoDigit (point ++ cs) := by
  cases h with
  | absent => exact hcs
  | present _ =>
    intro c hc
    obtain rfl : '.' = c := by simpa using hc
    decide

/-- The first character of a numeral. -/
theorem Spells.head (h : n.Spells ds) :
    ∃ c cs, ds = c :: cs ∧ (c = '-' ∨ c.isDigit = true) := by
  rcases h with ⟨hwhole, _, _⟩
  rename_i negative whole fraction point mark exponent _ _
  cases negative with
  | true => exact ⟨'-', _, rfl, .inl rfl⟩
  | false =>
    cases hwhole with
    | zero => exact ⟨'0', _, rfl, .inr (by decide)⟩
    | positive _ hdigit _ => exact ⟨_, _, rfl, .inr hdigit⟩

theorem read_of_spells (h : n.Spells ds) (hrest : Ends rest) :
    read cut (ds ++ rest) = .ok (n, rest) := by
  rcases h with ⟨hwhole, hfraction, hexponent⟩
  rename_i negative whole fraction point mark exponent
  have hhead := head_exponent hexponent hrest
  have hunsigned : readUnsigned cut negative (whole ++ (point ++ (mark ++ rest))) =
      .ok (⟨negative, whole, fraction, exponent⟩, rest) := by
    simp only [readUnsigned, bind, Except.bind,
      readWhole_of_whole hwhole (noDigit_fraction hfraction fun c hc => (hhead c hc).1),
      readFraction_of_fraction hfraction (fun c hc => (hhead c hc).1) fun c hc => (hhead c hc).2,
      readExponent_of_exponent hexponent hrest]
    rfl
  simp only [List.append_assoc]
  cases negative with
  | true => exact hunsigned
  | false =>
    have hminus : ∀ cs, whole ++ (point ++ (mark ++ rest)) ≠ '-' :: cs := by
      intro cs heq
      cases hwhole with
      | zero => simp at heq
      | positive _ hdigit _ =>
        obtain rfl := (List.cons.inj heq).1
        exact absurd hdigit (by decide)
    rw [sign, if_neg (by decide), List.nil_append]
    unfold read
    split
    · rename_i cs heq
      exact absurd heq (hminus cs)
    · exact hunsigned

/-! ### Values -/

/-- The value of decimal digits behind others of value `v`. -/
def decimalFrom (v : Nat) (ds : List Char) : Nat := ds.foldl (fun v d => v * 10 + digitValue d) v

/-- The value of an unsigned integer literal, if the numeral is one. -/
def natural? (n : Numeral) : Option Nat :=
  if n.negative = false ∧ n.fraction = [] ∧ n.exponent = none then some (decimalFrom 0 n.whole)
  else none

theorem le_decimalFrom (v : Nat) (ds : List Char) : v ≤ decimalFrom v ds := by
  induction ds generalizing v with
  | nil => exact Nat.le_refl v
  | cons d ds ih =>
    have := ih (v * 10 + digitValue d)
    rw [decimalFrom, List.foldl_cons]
    exact Nat.le_trans (by omega) this

theorem absorb_of_lt {v : Nat} (h : decimalFrom v ds < wordBound) :
    absorb v ds = (decimalFrom v ds, 0) := by
  induction ds generalizing v with
  | nil => rfl
  | cons d ds ih =>
    have hnext : v * 10 + digitValue d < wordBound := Nat.lt_of_le_of_lt (le_decimalFrom _ ds) h
    simp only [absorb, hnext, if_true]
    exact ih h

theorem decimalFrom_of_absorb {v : Nat} (hv : v < wordBound) (h : (absorb v ds).2 = 0) :
    (absorb v ds).1 = decimalFrom v ds ∧ decimalFrom v ds < wordBound := by
  induction ds generalizing v with
  | nil => exact ⟨rfl, hv⟩
  | cons d ds ih =>
    simp only [absorb] at h ⊢
    split at h
    · rename_i hnext
      rw [if_pos hnext]
      exact ih hnext h
    · simp at h

/-- What a numeral is evaluated to does not depend on the text behind it. -/
def value? (n : Numeral) : Option Number := (n.evaluate []).toOption

theorem toOption_evaluate (n : Numeral) (rest : List Char) :
    (n.evaluate rest).toOption = n.value? := by
  unfold value? evaluate
  simp only
  split
  · rfl
  split
  · rfl
  split
  · unfold evaluate.finish
    split <;> rfl
  · split
    · unfold evaluate.finish
      split <;> rfl
    · split <;> rfl

theorem value?_of_natural (h : n.natural? = some k) (hk : k < wordBound) :
    n.value? = some (.integer k) := by
  unfold natural? at h
  split at h
  · rename_i hparts
    rcases hparts with ⟨hnegative, hfraction, hexponent⟩
    obtain rfl := Option.some.inj h
    simp [value?, evaluate, hnegative, hfraction, hexponent, absorb_of_lt hk, Except.toOption]
  · simp at h

theorem finish_ne_integer {significand unread : Nat} {shift i : Int} :
    (evaluate.finish n significand shift unread).toOption ≠ some (.integer i) := by
  unfold evaluate.finish
  split
  · rename_i x hx
    simp only [float?, Option.map_eq_some_iff] at hx
    rcases hx with ⟨y, _, rfl⟩
    simp [Except.toOption]
  · simp [evaluate.tooLarge, Except.toOption]

theorem natural_of_value? {i : Int} (h : n.value? = some (.integer i)) (hi : 0 ≤ i) :
    n.natural? = some i.toNat ∧ i.toNat < wordBound := by
  have hbound : 0 < wordBound := by decide
  unfold value? evaluate at h
  simp only at h
  split at h
  · rename_i hparts
    simp only [Bool.and_eq_true, List.isEmpty_iff, Option.isNone_iff_eq_none, beq_iff_eq,
      Bool.not_eq_true'] at hparts
    rcases hparts with ⟨⟨⟨hfraction, hexponent⟩, hdropped⟩, hnegative⟩
    obtain ⟨hvalue, hlt⟩ := decimalFrom_of_absorb hbound hdropped
    simp only [Except.toOption, Option.some.injEq, Number.integer.injEq] at h
    obtain rfl := h
    rw [hvalue]
    exact ⟨by simp [natural?, hnegative, hfraction, hexponent], hlt⟩
  split at h
  · rename_i hparts
    simp only [Bool.and_eq_true, decide_eq_true_eq] at hparts
    simp only [Except.toOption, Option.some.injEq, Number.integer.injEq] at h
    omega
  split at h
  · exact absurd h finish_ne_integer
  · split at h
    · exact absurd h finish_ne_integer
    · split at h <;> simp [Except.toOption, evaluate.tooLarge] at h

end Provisioner.Json.Numeral
