import Provisioner.Proofs.Json.Views
/-!
# A text says one thing

A text is the text of one content at most, and where that content ends in it is determined too
(`Tree.Spells.unique`). Whether it is a text of this content does not depend on what follows
(`Tree.Spells.front`). So an object shows its own end: no text of an object is the beginning of
another one (`spelledBy_append_iff`, `not_spelledBy_of_append`).
-/

namespace Provisioner.Json

open Provisioner.Json.Tree (Part)

variable {cs ds ds' rest rest' : List Char} {c c' : Char} {t t' : Tree} {ms : Tree.Members}
  {first : Bool}

/-! ### What follows does not matter -/

theorem Blanks.front (h : Blanks cs rest) :
    ∃ front, cs = front ++ rest ∧ ∀ more, Blanks (front ++ more) more := by
  induction h with
  | nil => exact ⟨[], rfl, fun _ => .nil⟩
  | @cons c _ _ hc _ ih =>
    obtain ⟨front, rfl, hfront⟩ := ih
    exact ⟨c :: front, rfl, fun more => .cons hc (hfront more)⟩

theorem Lead.front (h : Lead first cs rest) :
    ∃ front, cs = front ++ rest ∧ ∀ more, Lead first (front ++ more) more := by
  cases h with
  | first hblanks =>
    obtain ⟨front, rfl, hfront⟩ := hblanks.front
    exact ⟨front, rfl, fun more => .first (hfront more)⟩
  | later hcomma hblanks =>
    obtain ⟨front, rfl, hfront⟩ := hcomma.front
    obtain ⟨front', rfl, hfront'⟩ := hblanks.front
    refine ⟨front ++ ',' :: front', by simp, fun more => .later ?_ (hfront' more)⟩
    simpa using hfront (',' :: (front' ++ more))

namespace Quotation

variable {x : Char} {xs : List Char}

theorem Escape.front (h : Escape x cs rest) :
    ∃ front, cs = front ++ rest ∧ ∀ more, Escape x (front ++ more) more := by
  cases h with
  | codePoint hquad => exact ⟨['u', _, _, _, _], rfl, fun _ => .codePoint hquad⟩
  | surrogates hquad hquad' hleading htrailing hx =>
    exact ⟨['u', _, _, _, _, '\\', 'u', _, _, _, _], rfl,
      fun _ => .surrogates hquad hquad' hleading htrailing hx⟩
  | quote => exact ⟨['"'], rfl, fun _ => .quote⟩
  | backslash => exact ⟨['\\'], rfl, fun _ => .backslash⟩
  | solidus => exact ⟨['/'], rfl, fun _ => .solidus⟩
  | backspace => exact ⟨['b'], rfl, fun _ => .backspace⟩
  | formFeed => exact ⟨['f'], rfl, fun _ => .formFeed⟩
  | lineFeed => exact ⟨['n'], rfl, fun _ => .lineFeed⟩
  | carriageReturn => exact ⟨['r'], rfl, fun _ => .carriageReturn⟩
  | tab => exact ⟨['t'], rfl, fun _ => .tab⟩

theorem Spells.front (h : Spells xs cs rest) :
    ∃ front, cs = front ++ rest ∧ ∀ more, Spells xs (front ++ more) more := by
  induction h with
  | close => exact ⟨['"'], rfl, fun _ => .close⟩
  | @plain x _ _ _ hquote hslash hcontrol _ ih =>
    obtain ⟨front, rfl, hfront⟩ := ih
    exact ⟨x :: front, rfl, fun more => .plain hquote hslash hcontrol (hfront more)⟩
  | escape hescape _ ih =>
    obtain ⟨front, rfl, hfront⟩ := ih
    obtain ⟨front', rfl, hfront'⟩ := hescape.front
    refine ⟨'\\' :: (front' ++ front), by simp, fun more => ?_⟩
    rw [List.cons_append, List.append_assoc]
    exact .escape (hfront' _) (hfront more)

theorem Passes.front (h : Passes cs rest) :
    ∃ front, cs = front ++ rest ∧ ∀ more, Passes (front ++ more) more := by
  induction h with
  | close => exact ⟨['"'], rfl, fun _ => .close⟩
  | @plain x _ _ hquote hslash hcontrol _ ih =>
    obtain ⟨front, rfl, hfront⟩ := ih
    exact ⟨x :: front, rfl, fun more => .plain hquote hslash hcontrol (hfront more)⟩
  | @letter x _ _ hx _ ih =>
    obtain ⟨front, rfl, hfront⟩ := ih
    exact ⟨'\\' :: x :: front, rfl, fun more => .letter hx (hfront more)⟩
  | @quad a b c d _ _ _ hquad _ ih =>
    obtain ⟨front, rfl, hfront⟩ := ih
    exact ⟨'\\' :: 'u' :: a :: b :: c :: d :: front, rfl, fun more => .quad hquad (hfront more)⟩

theorem Says.front {s : Option String} (h : Says s cs rest) :
    ∃ front, cs = front ++ rest ∧ ∀ more, Says s (front ++ more) more := by
  cases h with
  | characters hspells =>
    obtain ⟨front, rfl, hfront⟩ := hspells.front
    exact ⟨front, rfl, fun more => .characters (hfront more)⟩
  | nothing hpasses hnone =>
    obtain ⟨front, rfl, hfront⟩ := hpasses.front
    refine ⟨front, rfl, fun more => .nothing (hfront more) fun xs hxs => ?_⟩
    -- A spelling in front of another text would also be one in front of this one.
    obtain ⟨front', heq, hfront'⟩ := hxs.front
    obtain rfl := List.append_cancel_right heq
    exact hnone xs (hfront' rest)

end Quotation

theorem Tree.Spells.front {p : Part} (h : Spells p cs rest) :
    ∃ front, cs = front ++ rest ∧ ∀ more, Spells p (front ++ more) more := by
  induction h with
  | null => exact ⟨['n', 'u', 'l', 'l'], rfl, fun _ => .null⟩
  | yes => exact ⟨['t', 'r', 'u', 'e'], rfl, fun _ => .yes⟩
  | no => exact ⟨['f', 'a', 'l', 's', 'e'], rfl, fun _ => .no⟩
  | @number _ ds _ hn => exact ⟨ds, rfl, fun _ => .number hn⟩
  | string hs =>
    obtain ⟨front, rfl, hfront⟩ := hs.front
    exact ⟨'"' :: front, rfl, fun more => .string (hfront more)⟩
  | array _ ih =>
    obtain ⟨front, rfl, hfront⟩ := ih
    exact ⟨'[' :: front, rfl, fun more => .array (hfront more)⟩
  | object _ ih =>
    obtain ⟨front, rfl, hfront⟩ := ih
    exact ⟨'\x7b' :: front, rfl, fun more => .object (hfront more)⟩
  | noItem hend =>
    obtain ⟨front, rfl, hfront⟩ := hend.front
    refine ⟨front ++ [']'], by simp, fun more => .noItem ?_⟩
    simpa using hfront (']' :: more)
  | item hlead _ _ ihvalue ihmore =>
    obtain ⟨front, rfl, hfront⟩ := hlead.front
    obtain ⟨front', rfl, hfront'⟩ := ihvalue
    obtain ⟨front'', rfl, hfront''⟩ := ihmore
    refine ⟨front ++ (front' ++ front''), by simp, fun more => ?_⟩
    simp only [List.append_assoc]
    exact .item (hfront _) (hfront' _) (hfront'' more)
  | noMember hend =>
    obtain ⟨front, rfl, hfront⟩ := hend.front
    refine ⟨front ++ ['\x7d'], by simp, fun more => .noMember ?_⟩
    simpa using hfront ('\x7d' :: more)
  | member hlead hkey hcolon hblanks _ _ ihvalue ihmore =>
    obtain ⟨front, rfl, hfront⟩ := hlead.front
    obtain ⟨key, rfl, hkey'⟩ := hkey.front
    obtain ⟨colon, rfl, hcolon'⟩ := hcolon.front
    obtain ⟨blanks, rfl, hblanks'⟩ := hblanks.front
    obtain ⟨front', rfl, hfront'⟩ := ihvalue
    obtain ⟨front'', rfl, hfront''⟩ := ihmore
    refine ⟨front ++ '"' :: (key ++ (colon ++ ':' :: (blanks ++ (front' ++ front'')))),
      by simp, fun more => ?_⟩
    simp only [List.append_assoc, List.cons_append]
    exact .member (hfront _) (hkey' _) (hcolon' _) (hblanks' _) (hfront' _) (hfront'' more)

/-! ### One content -/

theorem Blanks.unique (h : Blanks cs (c :: rest)) (h' : Blanks cs (c' :: rest'))
    (hc : isBlank c = false) (hc' : isBlank c' = false) : c' = c ∧ rest' = rest :=
  List.cons.inj ((h'.skip hc').symm.trans (h.skip hc))

theorem Lead.unique (h : Lead first cs ('"' :: rest)) (h' : Lead first cs ('"' :: rest')) :
    rest' = rest := by
  cases h with
  | first hblanks =>
    cases h' with
    | first hblanks' => exact (hblanks.unique hblanks' (by decide) (by decide)).2
  | later hcomma hblanks =>
    cases h' with
    | later hcomma' hblanks' =>
      obtain ⟨-, rfl⟩ := hcomma.unique hcomma' (by decide) (by decide)
      exact (hblanks.unique hblanks' (by decide) (by decide)).2

/-- Where a key comes next, the end does not. -/
theorem Lead.not_end (h : Lead first cs ('"' :: rest)) : ¬ Blanks cs ('\x7d' :: rest') := by
  intro h'
  cases h with
  | first hblanks => exact absurd (hblanks.unique h' (by decide) (by decide)).1 (by decide)
  | later hcomma _ => exact absurd (hcomma.unique h' (by decide) (by decide)).1 (by decide)

theorem Quotation.Says.unique {s s' : Option String} (h : Says s cs rest) (h' : Says s' cs rest') :
    s' = s ∧ rest' = rest := by
  have hend := (skip_of_passes h'.passes).symm.trans (skip_of_passes h.passes)
  obtain rfl := Except.ok.inj hend
  have hread := (toOption_read h').symm.trans (toOption_read h)
  cases s <;> cases s' <;> simp_all

namespace Tree

/-- The first characters of a value. No two kinds of values share one. -/
def Opens (c : Char) : Tree → Prop
  | null => c = 'n'
  | boolean b => b = true ∧ c = 't' ∨ b = false ∧ c = 'f'
  | number _ => c = '-' ∨ c.isDigit = true
  | string _ => c = '"'
  | array _ => c = '['
  | object _ => c = '\x7b'

theorem Spells.opens (h : Spells (.value t) (c :: cs) rest) : t.Opens c := by
  generalize hds : c :: cs = ds at h
  cases h with
  | number hn =>
    obtain ⟨d, es, rfl, hd⟩ := hn.head
    obtain ⟨rfl, -⟩ := List.cons.inj hds
    exact hd
  | yes =>
    obtain ⟨rfl, -⟩ := List.cons.inj hds
    exact .inl ⟨rfl, rfl⟩
  | no =>
    obtain ⟨rfl, -⟩ := List.cons.inj hds
    exact .inr ⟨rfl, rfl⟩
  | _ =>
    obtain ⟨rfl, -⟩ := List.cons.inj hds
    rfl

/-- Between blanks and a value there is one place only. -/
theorem Spells.start_unique (h : Spells (.value t) ds rest) (h' : Spells (.value t') ds' rest')
    (hblanks : Blanks cs ds) (hblanks' : Blanks cs ds') : ds' = ds :=
  (h'.skipBlanks_eq hblanks').symm.trans (h.skipBlanks_eq hblanks)

/-- The text of a part determines it, and where it ends. -/
def Determined : Part → List Char → List Char → Prop
  | .value t, cs, rest => Delimited rest → ∀ {t' rest'}, Spells (.value t') cs rest' →
      Delimited rest' → t' = t ∧ rest' = rest
  | .items first ts, cs, rest => ∀ {ts' rest'}, Spells (.items first ts') cs rest' →
      ts' = ts ∧ rest' = rest
  | .members first ms, cs, rest => ∀ {ms' rest'}, Spells (.members first ms') cs rest' →
      ms' = ms ∧ rest' = rest

theorem Spells.determined {p : Part} (h : Spells p cs rest) : Determined p cs rest := by
  induction h with
  | null =>
    intro _ t' rest' h' _
    have hopens := h'.opens
    cases t' with
    | null =>
      cases h'
      exact ⟨rfl, rfl⟩
    | _ => simp [Opens] at hopens
  | yes =>
    intro _ t' rest' h' _
    have hopens := h'.opens
    cases t' with
    | boolean b =>
      obtain rfl : b = true := by simpa [Opens] using hopens
      cases h'
      exact ⟨rfl, rfl⟩
    | _ => simp [Opens] at hopens
  | no =>
    intro _ t' rest' h' _
    have hopens := h'.opens
    cases t' with
    | boolean b =>
      obtain rfl : b = false := by simpa [Opens] using hopens
      cases h'
      exact ⟨rfl, rfl⟩
    | _ => simp [Opens] at hopens
  | @number n ds rest hn =>
    intro hrest t' rest' h' hrest'
    obtain ⟨c, es, rfl, hc⟩ := hn.head
    have hopens := Spells.opens (c := c) h'
    have hread : Numeral.read .endInValue ((c :: es) ++ rest) = .ok (n, rest) :=
      Numeral.read_of_spells hn (Numeral.ends_of_delimited hrest)
    cases t' with
    | number n' =>
      generalize hcs : (c :: es) ++ rest = cs at h' hread
      cases h' with
      | number hn' =>
        rw [Numeral.read_of_spells hn' (Numeral.ends_of_delimited hrest')] at hread
        obtain ⟨rfl, rfl⟩ := Prod.mk.inj (Except.ok.inj hread)
        exact ⟨rfl, rfl⟩
    | boolean b =>
      rcases hopens with ⟨-, rfl⟩ | ⟨-, rfl⟩ <;> exact absurd hc (by decide)
    | _ =>
      obtain rfl : c = _ := hopens
      exact absurd hc (by decide)
  | string hs =>
    intro _ t' rest' h' _
    have hopens := h'.opens
    cases t' with
    | string s' =>
      cases h' with
      | string hs' =>
        obtain ⟨rfl, rfl⟩ := hs.unique hs'
        exact ⟨rfl, rfl⟩
    | _ => simp [Opens] at hopens
  | array _ ih =>
    intro _ t' rest' h' _
    have hopens := h'.opens
    cases t' with
    | array ts' =>
      cases h' with
      | array hitems' =>
        obtain ⟨rfl, rfl⟩ := ih hitems'
        exact ⟨rfl, rfl⟩
    | _ => simp [Opens] at hopens
  | object _ ih =>
    intro _ t' rest' h' _
    have hopens := h'.opens
    cases t' with
    | object ms' =>
      cases h' with
      | object hmembers' =>
        obtain ⟨rfl, rfl⟩ := ih hmembers'
        exact ⟨rfl, rfl⟩
    | _ => simp [Opens] at hopens
  | noItem hend =>
    intro ts' rest' h'
    cases h' with
    | noItem hend' => exact ⟨rfl, (hend.unique hend' (by decide) (by decide)).2⟩
    | item hlead' hvalue' _ =>
      have hnext := (nextItem_of_end hend).symm.trans (nextItem_of_lead hlead' hvalue')
      cases hnext
  | item hlead hvalue hmore ihvalue ihmore =>
    intro ts' rest' h'
    have hnext := nextItem_of_lead hlead hvalue
    cases h' with
    | noItem hend' => cases (nextItem_of_end hend').symm.trans hnext
    | item hlead' hvalue' hmore' =>
      cases (nextItem_of_lead hlead' hvalue').symm.trans hnext
      obtain ⟨rfl, rfl⟩ :=
        ihvalue (delimited_of_items hmore) hvalue' (delimited_of_items hmore')
      obtain ⟨rfl, rfl⟩ := ihmore hmore'
      exact ⟨rfl, rfl⟩
  | noMember hend =>
    intro ms' rest' h'
    cases h' with
    | noMember hend' => exact ⟨rfl, (hend.unique hend' (by decide) (by decide)).2⟩
    | member hlead' _ _ _ _ _ => exact absurd hend hlead'.not_end
  | member hlead hkey hcolon hblanks hvalue hmore ihvalue ihmore =>
    intro ms' rest' h'
    cases h' with
    | noMember hend' => exact absurd hend' hlead.not_end
    | member hlead' hkey' hcolon' hblanks' hvalue' hmore' =>
      obtain rfl := hlead.unique hlead'
      obtain ⟨rfl, rfl⟩ := hkey.unique hkey'
      obtain ⟨-, rfl⟩ := hcolon.unique hcolon' (by decide) (by decide)
      obtain rfl := hvalue.start_unique hvalue' hblanks hblanks'
      obtain ⟨rfl, rfl⟩ :=
        ihvalue (delimited_of_members hmore) hvalue' (delimited_of_members hmore')
      obtain ⟨rfl, rfl⟩ := ihmore hmore'
      exact ⟨rfl, rfl⟩

/-- A text is the text of one content only. -/
theorem SpelledBy.unique (h : t.SpelledBy cs) (h' : t'.SpelledBy cs) : t' = t := by
  obtain ⟨hblanks, hvalue, hend⟩ := h
  obtain ⟨hblanks', hvalue', hend'⟩ := h'
  obtain rfl := hvalue.start_unique hvalue' hblanks hblanks'
  exact (hvalue.determined (Reader.delimited_of_end hend) hvalue'
    (Reader.delimited_of_end hend')).1

/-! ### Objects show their end -/

/-- Where an object begins, no other value begins, and it ends at one place only. -/
theorem Spells.object_unique (h : Spells (.value (.object ms)) cs rest)
    (h' : Spells (.value t') cs rest') : t' = .object ms ∧ rest' = rest := by
  cases h with
  | object hmembers =>
    have hopens := h'.opens
    cases t' with
    | object ms' =>
      cases h' with
      | object hmembers' =>
        obtain ⟨rfl, rfl⟩ := hmembers.determined hmembers'
        exact ⟨rfl, rfl⟩
    | _ => simp [Opens] at hopens

/-- Nothing but blanks may follow the text of an object. -/
theorem spelledBy_append_iff (h : Spells (.value (.object ms)) cs []) :
    t'.SpelledBy (cs ++ rest) ↔ t' = .object ms ∧ Blanks rest [] := by
  obtain ⟨front, rfl, hfront⟩ := h.front
  rw [List.append_nil]
  constructor
  · rintro ⟨hblanks, hvalue, hend⟩
    obtain rfl := (hfront rest).start_unique hvalue .nil hblanks
    obtain ⟨rfl, rfl⟩ := (hfront rest).object_unique hvalue
    exact ⟨rfl, hend⟩
  · rintro ⟨rfl, hend⟩
    exact .mk .nil (hfront rest) hend

/-- No proper beginning of the text of an object is the text of a content. -/
theorem not_spelledBy_of_append (h : Spells (.value (.object ms)) (cs ++ rest) [])
    (hrest : rest ≠ []) : ¬ t'.SpelledBy cs := by
  rintro ⟨hblanks, hvalue, -⟩
  obtain ⟨front, rfl, hfront⟩ := hblanks.front
  obtain ⟨front', rfl, hfront'⟩ := hvalue.front
  rename_i left
  -- The shorter text would say its content in the longer one as well, and end before it.
  have hblanks' := hfront (front' ++ (left ++ rest))
  have hvalue' := hfront' (left ++ rest)
  simp only [List.append_assoc] at h
  rw [h.start_unique hvalue' .nil hblanks'] at hvalue'
  exact hrest (List.append_eq_nil_iff.mp (h.object_unique hvalue').2).2

end Tree

end Provisioner.Json
