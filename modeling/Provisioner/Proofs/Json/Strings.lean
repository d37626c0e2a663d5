import Provisioner.Json.Reader
import Provisioner.Proofs.Json.Grammar
/-!
# Reading strings and blanks

The reader of strings accepts exactly the spellings of the grammar (`read_eq_ok_iff`), whichever
escapes they use, and a string that is passed over exactly those in which surrogates need not pair
(`skip_eq_ok_iff`). What a writer produces is one of the spellings (`spells_write`).
-/

namespace Provisioner.Json

/-! ### Blanks -/

variable {cs ds rest : List Char} {c : Char}

theorem skipBlanks_eq (h : Blanks cs rest) : skipBlanks cs = skipBlanks rest := by
  induction h with
  | nil => rfl
  | cons hc _ ih => rw [← ih, skipBlanks, List.dropWhile_cons_of_pos hc, skipBlanks]

theorem skipBlanks_cons (hc : isBlank c = false) : skipBlanks (c :: rest) = c :: rest := by
  rw [skipBlanks, List.dropWhile_cons_of_neg (by simp [hc])]

/-- Blanks are passed up to the first other character. -/
theorem Blanks.skip (h : Blanks cs (c :: rest)) (hc : isBlank c = false) :
    skipBlanks cs = c :: rest := by
  rw [skipBlanks_eq h, skipBlanks_cons hc]

theorem Blanks.skip_end (h : Blanks cs []) : skipBlanks cs = [] := skipBlanks_eq h

theorem Blanks.trans (h : Blanks cs ds) (h' : Blanks ds rest) : Blanks cs rest := by
  induction h with
  | nil => exact h'
  | cons hc _ ih => exact .cons hc (ih h')

namespace Quotation

variable {a b d x : Char} {n : Nat} {xs : List Char}

/-! ### Escapes -/

theorem readQuad_cons (h : quad? a b c d = some n) :
    readQuad (a :: b :: c :: d :: rest) = .ok (n, rest) := by
  simp only [readQuad, h]

theorem readQuad_eq_ok (h : readQuad cs = .ok (n, rest)) :
    ∃ a b c d, cs = a :: b :: c :: d :: rest ∧ quad? a b c d = some n := by
  unfold readQuad at h
  split at h
  · rename_i a b c d rest'
    split at h
    · rename_i n' hquad
      simp only [Except.ok.injEq, Prod.mk.injEq] at h
      rcases h with ⟨rfl, rfl⟩
      exact ⟨a, b, c, d, rfl, hquad⟩
    · simp at h
  · simp at h

theorem hexValue?_lt (h : Text.hexValue? c = some n) : n < 16 := by
  unfold Text.hexValue? at h
  simp only [Char.le_def, UInt32.le_iff_toNat_le] at h
  have hc : c.toNat = c.val.toNat := rfl
  split at h
  · rename_i hrange
    have h9 : ('9' : Char).val.toNat = 57 := rfl
    simp only [Option.some.injEq] at h
    omega
  split at h
  · rename_i hrange
    have hf : ('f' : Char).val.toNat = 102 := rfl
    simp only [Option.some.injEq] at h
    omega
  split at h
  · rename_i hrange
    have hF : ('F' : Char).val.toNat = 70 := rfl
    simp only [Option.some.injEq] at h
    omega
  · simp at h

theorem quad?_lt (h : quad? a b c d = some n) : n < 0x10000 := by
  simp only [quad?, bind, Option.bind_eq_some_iff, pure, Option.some.injEq] at h
  rcases h with ⟨i, hi, j, hj, k, hk, l, hl, rfl⟩
  have := hexValue?_lt hi
  have := hexValue?_lt hj
  have := hexValue?_lt hk
  have := hexValue?_lt hl
  omega

/-- No character is a surrogate. -/
theorem not_surrogate (x : Char) :
    isLeading x.toNat = false ∧ isTrailing x.toNat = false := by
  have hvalid : x.toNat < 0xD800 ∨ 0xDFFF < x.toNat := by
    rcases x.valid with h | h
    · exact .inl h
    · exact .inr h.1
  simp only [isLeading, isTrailing, Bool.and_eq_false_iff, decide_eq_false_iff_not]
  omega

theorem isTrailing_of_isLeading (h : isLeading n = true) : isTrailing n = false := by
  simp only [isLeading, isTrailing, Bool.and_eq_true, decide_eq_true_eq,
    Bool.and_eq_false_iff, decide_eq_false_iff_not] at *
  omega

theorem ofSurrogates_eq {leading trailing : Nat}
    (h : x.toNat = 0x10000 + (leading - 0xD800) * 0x400 + (trailing - 0xDC00)) :
    ofSurrogates leading trailing = x := by
  rw [ofSurrogates, ← h, Char.ofNat_toNat]

theorem toNat_ofNat_of_isValidChar (h : n.isValidChar) : (Char.ofNat n).toNat = n := by
  rw [Char.ofNat, dif_pos h]
  rfl

theorem toNat_ofSurrogates {leading trailing : Nat} (hl : isLeading leading = true)
    (ht : isTrailing trailing = true) :
    (ofSurrogates leading trailing).toNat =
      0x10000 + (leading - 0xD800) * 0x400 + (trailing - 0xDC00) := by
  simp only [isLeading, isTrailing, Bool.and_eq_true, decide_eq_true_eq] at hl ht
  have hvalid : (0x10000 + (leading - 0xD800) * 0x400 + (trailing - 0xDC00)).isValidChar := by
    refine .inr ⟨?_, ?_⟩ <;> omega
  exact toNat_ofNat_of_isValidChar hvalid

theorem readEscape_of_escape (h : Escape x cs rest) : readEscape cs = .ok (x, rest) := by
  cases h with
  | codePoint hquad =>
    obtain ⟨hlead, htrail⟩ := not_surrogate x
    have hplain : plainEscape? 'u' = none := by decide
    simp [readEscape, hplain, readCodePoint, readQuad_cons hquad, hlead, htrail,
      Char.ofNat_toNat]
  | surrogates hquad hquad' hlead htrail hx =>
    have hplain : plainEscape? 'u' = none := by decide
    simp [readEscape, hplain, readCodePoint, readQuad_cons hquad, isTrailing_of_isLeading hlead,
      hlead, readTrailing, readQuad_cons hquad', htrail, ofSurrogates_eq hx]
  | _ => simp [readEscape, plainEscape?]

theorem escape_of_plainEscape? (h : plainEscape? c = some x) (rest : List Char) :
    Escape x (c :: rest) rest := by
  unfold plainEscape? at h
  split at h
  · rename_i hc
    obtain rfl : c = x := by simpa using h
    rcases hc with rfl | rfl | rfl
    · exact .quote
    · exact .backslash
    · exact .solidus
  split at h
  · rename_i hc
    obtain rfl : '\x08' = x := by simpa using h
    exact hc ▸ .backspace
  split at h
  · rename_i hc
    obtain rfl : '\x0c' = x := by simpa using h
    exact hc ▸ .formFeed
  split at h
  · rename_i hc
    obtain rfl : '\n' = x := by simpa using h
    exact hc ▸ .lineFeed
  split at h
  · rename_i hc
    obtain rfl : '\r' = x := by simpa using h
    exact hc ▸ .carriageReturn
  split at h
  · rename_i hc
    obtain rfl : '\t' = x := by simpa using h
    exact hc ▸ .tab
  · simp at h

theorem readTrailing_eq_ok {leading : Nat} (h : readTrailing leading cs = .ok (x, rest)) :
    ∃ a b c d n, cs = '\\' :: 'u' :: a :: b :: c :: d :: rest ∧ quad? a b c d = some n ∧
      isTrailing n = true ∧ x = ofSurrogates leading n := by
  unfold readTrailing at h
  split at h
  · simp at h
  · simp at h
  · split at h
    · simp at h
    · rename_i n rest' hread
      obtain ⟨a, b, c, d, rfl, hquad⟩ := readQuad_eq_ok hread
      split at h
      · rename_i htrail
        simp only [Except.ok.injEq, Prod.mk.injEq] at h
        rcases h with ⟨rfl, rfl⟩
        exact ⟨a, b, c, d, n, rfl, hquad, htrail, rfl⟩
      · simp at h
  · simp at h
  · simp at h

theorem escape_of_readCodePoint (h : readCodePoint cs = .ok (x, rest)) :
    Escape x ('u' :: cs) rest := by
  unfold readCodePoint at h
  split at h
  · simp at h
  · rename_i n rest' hread
    obtain ⟨a, b, c, d, rfl, hquad⟩ := readQuad_eq_ok hread
    split at h
    · simp at h
    · rename_i htrail
      split at h
      · rename_i hlead
        obtain ⟨a', b', c', d', n', hcs, hquad', htrail', hx⟩ := readTrailing_eq_ok h
        rw [hcs]
        exact .surrogates hquad hquad' hlead htrail' (hx ▸ toNat_ofSurrogates hlead htrail')
      · rename_i hlead
        simp only [Except.ok.injEq, Prod.mk.injEq] at h
        rcases h with ⟨rfl, rfl⟩
        have hvalid : n.isValidChar := by
          have := quad?_lt hquad
          simp only [isLeading, isTrailing, Bool.and_eq_true, decide_eq_true_eq] at hlead htrail
          unfold Nat.isValidChar
          omega
        exact .codePoint (by rw [toNat_ofNat_of_isValidChar hvalid, hquad])

theorem readEscape_eq_ok_iff : readEscape cs = .ok (x, rest) ↔ Escape x cs rest := by
  refine ⟨fun h => ?_, readEscape_of_escape⟩
  cases cs with
  | nil => simp [readEscape] at h
  | cons c cs =>
    simp only [readEscape] at h
    split at h
    · rename_i x' hplain
      simp only [Except.ok.injEq, Prod.mk.injEq] at h
      rcases h with ⟨rfl, rfl⟩
      exact escape_of_plainEscape? hplain cs
    · split at h
      · rename_i hc
        exact hc ▸ escape_of_readCodePoint h
      · simp at h

theorem skipEscape_of_letter (h : x ∈ letters) : skipEscape (x :: cs) = .ok cs := by
  have hplain : (plainEscape? x).isSome = true := by
    simp only [letters, List.mem_cons, List.not_mem_nil, or_false] at h
    rcases h with rfl | rfl | rfl | rfl | rfl | rfl | rfl | rfl <;> decide
  rw [skipEscape, if_pos hplain]

theorem skipEscape_of_quad (h : quad? a b c d = some n) :
    skipEscape ('u' :: a :: b :: c :: d :: cs) = .ok cs := by
  have hplain : plainEscape? 'u' = none := by decide
  simp [skipEscape, hplain, readQuad_cons h, Except.map]

theorem skipEscape_eq_ok (h : skipEscape cs = .ok rest) :
    (∃ x ∈ letters, cs = x :: rest) ∨
      ∃ a b c d n, cs = 'u' :: a :: b :: c :: d :: rest ∧ quad? a b c d = some n := by
  cases cs with
  | nil => simp [skipEscape] at h
  | cons c cs =>
    simp only [skipEscape] at h
    split at h
    · rename_i hplain
      obtain ⟨x, hx⟩ := Option.isSome_iff_exists.mp hplain
      obtain rfl : cs = rest := by simpa using h
      refine .inl ⟨c, ?_, rfl⟩
      have hescape := escape_of_plainEscape? hx cs
      simp only [letters, List.mem_cons, List.not_mem_nil, or_false]
      cases hescape <;> simp
    · split at h
      · rename_i hc
        cases hread : readQuad cs with
        | error f => simp [hread, Except.map] at h
        | ok found =>
          rcases found with ⟨n, fs⟩
          obtain ⟨a, b, c', d, hcs, hquad⟩ := readQuad_eq_ok hread
          simp only [hread, Except.map, Except.ok.injEq] at h
          exact .inr ⟨a, b, c', d, n, by rw [hc, hcs, h], hquad⟩
      · simp at h

/-! ### Whole strings -/

theorem readRest_of_spells (h : Spells xs cs rest) (read : List Char) :
    readRest read cs = .ok (xs.reverse ++ read, rest) := by
  induction h generalizing read with
  | close => simp [readRest]
  | plain hquote hslash hcontrol _ ih =>
    rw [readRest, if_neg hquote, if_neg hslash, if_neg hcontrol, ih]
    simp
  | escape hescape _ ih =>
    have hread := readEscape_of_escape hescape
    rw [readRest, if_neg (by decide), if_pos rfl]
    split
    · rename_i f hf
      simp [hread] at hf
    · rename_i x' rest' hx
      rw [hread] at hx
      simp only [Except.ok.injEq, Prod.mk.injEq] at hx
      rcases hx with ⟨rfl, rfl⟩
      rw [ih]
      simp

theorem spells_of_readRest {read ys : List Char} (h : readRest read cs = .ok (ys, rest)) :
    ∃ xs, ys = xs.reverse ++ read ∧ Spells xs cs rest := by
  fun_induction readRest read cs with
  | case1 => simp at h
  | case2 read cs =>
    simp only [Except.ok.injEq, Prod.mk.injEq] at h
    rcases h with ⟨rfl, rfl⟩
    exact ⟨[], rfl, .close⟩
  | case3 => simp at h
  | case4 read cs x rest' hescape hlt hquote ih =>
    obtain ⟨xs, hys, hspells⟩ := ih h
    exact ⟨x :: xs, by simp [hys], .escape (readEscape_eq_ok_iff.mp hescape) hspells⟩
  | case5 => simp at h
  | case6 read c cs hquote hslash hcontrol ih =>
    obtain ⟨xs, hys, hspells⟩ := ih h
    exact ⟨c :: xs, by simp [hys], .plain hquote hslash hcontrol hspells⟩

/-- A string is read from exactly its spellings. -/
theorem read_eq_ok_iff {s : String} : read cs = .ok (s, rest) ↔ Spells s.toList cs rest := by
  constructor
  · intro h
    unfold read at h
    split at h
    · simp at h
    · rename_i reversed rest' hread
      simp only [Except.ok.injEq, Prod.mk.injEq] at h
      rcases h with ⟨rfl, rfl⟩
      obtain ⟨xs, rfl, hspells⟩ := spells_of_readRest hread
      simpa using hspells
  · intro h
    simp [read, readRest_of_spells h []]

theorem skip_of_passes (h : Passes cs rest) : skip cs = .ok rest := by
  induction h with
  | close => simp [skip]
  | plain hquote hslash hcontrol _ ih =>
    rw [skip, if_neg hquote, if_neg hslash, if_neg hcontrol, ih]
  | @letter x cs rest hx _ ih =>
    have hskip : skipEscape (x :: cs) = .ok cs := skipEscape_of_letter hx
    rw [skip, if_neg (by decide), if_pos rfl]
    split
    · rename_i f hf
      simp [hskip] at hf
    · rename_i rest' hrest
      rw [hskip] at hrest
      obtain rfl := Except.ok.inj hrest
      exact ih
  | @quad a b c d n cs rest hquad _ ih =>
    have hskip : skipEscape ('u' :: a :: b :: c :: d :: cs) = .ok cs := skipEscape_of_quad hquad
    rw [skip, if_neg (by decide), if_pos rfl]
    split
    · rename_i f hf
      simp [hskip] at hf
    · rename_i rest' hrest
      rw [hskip] at hrest
      obtain rfl := Except.ok.inj hrest
      exact ih

/-- A string is passed over in exactly the texts in which its escapes are well formed. -/
theorem skip_eq_ok_iff : skip cs = .ok rest ↔ Passes cs rest := by
  refine ⟨fun h => ?_, skip_of_passes⟩
  fun_induction skip cs with
  | case1 => simp at h
  | case2 cs =>
    obtain rfl := Except.ok.inj h
    exact .close
  | case3 => simp at h
  | case4 cs rest' hescape hlt hquote ih =>
    rcases skipEscape_eq_ok hescape with ⟨x, hx, rfl⟩ | ⟨a, b, c, d, n, rfl, hquad⟩
    · exact .letter hx (ih h)
    · exact .quad hquad (ih h)
  | case5 => simp at h
  | case6 c cs hquote hslash hcontrol ih => exact .plain hquote hslash hcontrol (ih h)

theorem passes_of_spells (h : Spells xs cs rest) : Passes cs rest := by
  induction h with
  | close => exact .close
  | plain hquote hslash hcontrol _ ih => exact .plain hquote hslash hcontrol ih
  | escape hescape _ ih =>
    cases hescape with
    | codePoint hquad => exact .quad hquad ih
    | surrogates hquad hquad' => exact .quad hquad (.quad hquad' ih)
    | _ => exact .letter (by decide) ih

theorem Says.passes {s : Option String} (h : Says s cs rest) : Passes cs rest := by
  cases h with
  | characters hspells => exact passes_of_spells hspells
  | nothing hpasses _ => exact hpasses

/-- A string is read as what it says, and refused when it says nothing. -/
theorem toOption_read {s : Option String} (h : Says s cs rest) :
    (read cs).toOption = s.map (·, rest) := by
  cases h with
  | characters hspells => rw [read_eq_ok_iff.mpr hspells]; rfl
  | nothing hpasses hnone =>
    cases hread : read cs with
    | error f => rfl
    | ok found =>
      -- What could be read would be a spelling that ends at the same quote.
      have hspells : Spells found.1.toList cs found.2 := read_eq_ok_iff.mp hread
      have hend := skip_of_passes (passes_of_spells hspells)
      rw [skip_of_passes hpasses] at hend
      obtain rfl := Except.ok.inj hend
      exact absurd hspells (hnone _)

/-! ### Writing -/

theorem quad?_controlEscape (h : n < 0x20) :
    quad? '0' '0' (Text.hexDigit (n / 16)) (Text.hexDigit (n % 16)) = some n := by
  have hzero : Text.hexValue? '0' = some 0 := by decide
  have hhigh := Text.hexValue?_hexDigit (n := n / 16) (by omega)
  have hlow := Text.hexValue?_hexDigit (n := n % 16) (by omega)
  simp only [quad?, hzero, hhigh, hlow, bind, Option.bind_some, pure, Option.some.injEq]
  omega

theorem spells_writeChar (x : Char) (h : Spells xs cs rest) :
    Spells (x :: xs) (writeChar x ++ cs) rest := by
  unfold writeChar
  split
  · rename_i hx
    exact hx.symm ▸ .escape .quote h
  split
  · rename_i hx
    exact hx.symm ▸ .escape .backslash h
  split
  · rename_i hx
    exact hx.symm ▸ .escape .backspace h
  split
  · rename_i hx
    exact hx.symm ▸ .escape .formFeed h
  split
  · rename_i hx
    exact hx.symm ▸ .escape .lineFeed h
  split
  · rename_i hx
    exact hx.symm ▸ .escape .carriageReturn h
  split
  · rename_i hx
    exact hx.symm ▸ .escape .tab h
  split
  · rename_i hcontrol
    have hlt : x.toNat < 0x20 := hcontrol
    exact .escape (.codePoint (quad?_controlEscape hlt)) h
  · rename_i hquote hslash _ _ _ _ _ hcontrol
    exact .plain hquote hslash hcontrol h

/-- A string is written as one of its spellings. -/
theorem spells_write (s : String) (rest : List Char) :
    Spells s.toList (s.toList.flatMap writeChar ++ '"' :: rest) rest := by
  induction s.toList with
  | nil => exact .close
  | cons x xs ih =>
    rw [List.flatMap_cons, List.append_assoc]
    exact spells_writeChar x ih

end Quotation

end Provisioner.Json
