import Mathlib.Data.List.Infix
import Provisioner.Proofs.Json.Unambiguous
import Provisioner.Proofs.Space.Wording
/-!
# The places of identifiers

The search for identifiers knows nothing of JSON: it takes a text for a sequence of characters. Still
it finds in the text of a value just those texts that are identifiers and stand in a member named
`id` (`masks_write`), provided that no name has a quote in it. No string forges a place or hides one,
since a quote within a string has a backslash in front of it: what follows a quote up to the next one
without such a backslash is then the string from there to its end, and behind its end there is no
colon.

Besides, the search leaves out no place (`maskIds_snd`): two places have at most a quote in common.
-/

namespace Provisioner.Space

open Json
open Json.Quotation (writeChar)

variable {c : Char} {s w front back rest cover cover' : List Char}
  {ids ids' : List (List Char)} {xs : List Char} {name : String} {v : Json}

/-! ### Parts of a text -/

/-- No identifier has its place at a character of `front`, with `rest` behind it. -/
def Clear : List Char → List Char → Prop
  | [], _ => True
  | c :: front, rest => idHere? (c :: (front ++ rest)) = none ∧ Clear front rest

theorem idHere?_eq_none (h : ¬ idLead <+: s) : idHere? s = none := by
  rw [idHere?, if_neg fun hlead => h (List.isPrefixOf_iff_prefix.mp hlead)]

theorem idHere?_of_ne_quote (h : c ≠ '"') : idHere? (c :: s) = none :=
  idHere?_eq_none fun hlead => h (List.cons_prefix_cons.mp hlead).1.symm

theorem idHere?_of_ne_i (h : ∀ c ∈ s.head?, c ≠ 'i') : idHere? ('"' :: s) = none := by
  apply idHere?_eq_none
  intro hlead
  obtain ⟨rest, rfl⟩ := (List.cons_prefix_cons.mp hlead).2
  exact h 'i' rfl rfl

theorem clear_of_not_mem (h : '"' ∉ front) : Clear front rest := by
  induction front with
  | nil => trivial
  | cons c front ih =>
    rw [List.mem_cons, not_or] at h
    exact ⟨idHere?_of_ne_quote (Ne.symm h.1), ih h.2⟩

theorem Clear.append (hfront : Clear front (back ++ rest)) (hback : Clear back rest) :
    Clear (front ++ back) rest := by
  induction front with
  | nil => exact hback
  | cons c front ih =>
    rw [List.cons_append, Clear, List.append_assoc]
    exact ⟨hfront.1, ih hfront.2⟩

/-- With its identifiers covered `front` is `cover`, and these are `ids`, whatever the search finds
    in `rest` behind it. -/
def Masks (front cover : List Char) (ids : List (List Char)) (rest : List Char) : Prop :=
  maskIds (front ++ rest) = (cover ++ (maskIds rest).1, ids ++ (maskIds rest).2)

theorem Clear.masks (h : Clear front rest) : Masks front front [] rest := by
  induction front with
  | nil => rfl
  | cons c front ih =>
    rw [Masks, List.cons_append, maskIds_of_none h.1, ih h.2]
    rfl

theorem Masks.append (hfront : Masks front cover ids (back ++ rest))
    (hback : Masks back cover' ids' rest) :
    Masks (front ++ back) (cover ++ cover') (ids ++ ids') rest := by
  rw [Masks, List.append_assoc, hfront, hback, List.append_assoc, List.append_assoc]

/-! ### Strings -/

theorem says_written (xs rest : List Char) :
    Quotation.Says (some (String.ofList xs)) (xs.flatMap writeChar ++ '"' :: rest) rest := by
  have hsays := says_write (String.ofList xs) rest
  rwa [String.toList_ofList] at hsays

/-- A written string ends at the first quote without a backslash in front of it. -/
theorem eq_of_written {more : List Char} (hw : w.flatMap writeChar = w)
    (h : xs.flatMap writeChar ++ '"' :: rest = w ++ '"' :: more) : xs = w ∧ rest = more := by
  have hplain := says_written w more
  rw [hw, ← h] at hplain
  obtain ⟨hstring, rfl⟩ := hplain.unique (says_written xs rest)
  exact ⟨String.ofList_inj.mp (Option.some.inj hstring), rfl⟩

/-- What may stand behind a string that is no name: what cannot go on behind the quote of a place. -/
def EndsString (rest : List Char) : Prop := ∀ c ∈ rest.head?, c ≠ ':' ∧ c ≠ 'i'

theorem idHere?_string (hrest : EndsString rest) :
    idHere? ('"' :: (xs.flatMap writeChar ++ '"' :: rest)) = none := by
  apply idHere?_eq_none
  rintro ⟨more, hmore⟩
  have hplace : xs.flatMap writeChar ++ '"' :: rest = ['i', 'd'] ++ '"' :: (':' :: '"' :: more) :=
    (List.cons.inj hmore).2.symm
  obtain ⟨-, rfl⟩ := eq_of_written (by decide) hplace
  exact (hrest ':' rfl).1 rfl

theorem quote_not_mem_controlEscape {n : Nat} (hn : n < 0x20) :
    '"' ∉ Quotation.controlEscape n := by
  have hdigit {m : Nat} (hm : m < 16) : '"' ≠ Text.hexDigit m := by
    intro hquote
    have := isIdDigit_hexDigit hm
    rw [← hquote] at this
    exact absurd this (by decide)
  simp only [Quotation.controlEscape, List.mem_cons, List.not_mem_nil, or_false, not_or]
  exact ⟨by decide, by decide, by decide, by decide, hdigit (by omega), hdigit (by omega)⟩

theorem quote_not_mem_writeChar {x : Char} (hx : x ≠ '"') : '"' ∉ writeChar x := by
  unfold writeChar
  split
  · rename_i hquote
    exact absurd hquote hx
  split
  · decide
  split
  · decide
  split
  · decide
  split
  · decide
  split
  · decide
  split
  · decide
  split
  · rename_i hcontrol
    exact quote_not_mem_controlEscape hcontrol
  · exact fun hmem => hx (List.mem_singleton.mp hmem).symm

/-- Behind its opening quote no place begins in a string. -/
theorem clear_characters (hrest : EndsString rest) :
    Clear (xs.flatMap writeChar ++ ['"']) rest := by
  induction xs with
  | nil => exact ⟨idHere?_of_ne_i fun c hc => (hrest c hc).2, trivial⟩
  | cons x xs ih =>
    rw [List.flatMap_cons, List.append_assoc]
    refine Clear.append ?_ ih
    by_cases hx : x = '"'
    · subst hx
      refine ⟨idHere?_of_ne_quote (by decide), ?_, trivial⟩
      rw [List.append_assoc]
      exact idHere?_string hrest
    · exact clear_of_not_mem (quote_not_mem_writeChar hx)

theorem clear_string {s : String} (hrest : EndsString rest) : Clear (Quotation.write s) rest := by
  refine ⟨?_, clear_characters hrest⟩
  rw [List.append_assoc]
  exact idHere?_string hrest

/-! ### Values -/

/-- The identifier that a member of an object shows. -/
def memberId? (name : String) : Json → Option (List Char)
  | .string s => if name = "id" ∧ isId s.toList = true then some s.toList else none
  | _ => none

mutual

/-- The identifiers that a value shows, in order. -/
def shownIds : Json → List (List Char)
  | .array items => shownIdsItems items
  | .object members => shownIdsMembers members
  | _ => []

def shownIdsItems : List Json → List (List Char)
  | [] => []
  | item :: items => shownIds item ++ shownIdsItems items

def shownIdsMembers : Members → List (List Char)
  | [] => []
  | (name, value) :: members =>
      (memberId? name value).toList ++ shownIds value ++ shownIdsMembers members

end

/-- What covers a member: the cover itself if the member shows an identifier, and else `covered`, the
    value with the identifiers inside it covered. -/
def coverMember (name : String) (value covered : Json) : Json :=
  if (memberId? name value).isSome then .string (String.ofList idCover) else covered

mutual

/-- The value with its identifiers covered. -/
def coverIds : Json → Json
  | .array items => .array (coverIdsItems items)
  | .object members => .object (coverIdsMembers members)
  | v => v

def coverIdsItems : List Json → List Json
  | [] => []
  | item :: items => coverIds item :: coverIdsItems items

def coverIdsMembers : Members → Members
  | [] => []
  | (name, value) :: members =>
      (name, coverMember name value (coverIds value)) :: coverIdsMembers members

end

mutual

/-- No name in a value has a quote in it. Neither is a float part of it, since how those are written
    is not the matter here. -/
def Searchable : Json → Prop
  | .number (.float _) => False
  | .array items => SearchableItems items
  | .object members => SearchableMembers members
  | _ => True

def SearchableItems : List Json → Prop
  | [] => True
  | item :: items => Searchable item ∧ SearchableItems items

def SearchableMembers : Members → Prop
  | [] => True
  | (name, value) :: members =>
      '"' ∉ name.toList ∧ Searchable value ∧ SearchableMembers members

end

theorem searchableItems_iff {items : List Json} :
    SearchableItems items ↔ ∀ item ∈ items, Searchable item := by
  induction items with
  | nil => simp [SearchableItems]
  | cons item items ih => simp [SearchableItems, ih]

theorem shownIdsItems_eq (items : List Json) : shownIdsItems items = items.flatMap shownIds := by
  induction items with
  | nil => rfl
  | cons item items ih => rw [shownIdsItems, ih, List.flatMap_cons]

theorem coverIdsItems_eq (items : List Json) : coverIdsItems items = items.map coverIds := by
  induction items with
  | nil => rfl
  | cons item items ih => rw [coverIdsItems, ih, List.map_cons]

theorem quote_not_mem_writeInteger (n : Int) : '"' ∉ writeInteger n := by
  have hdigits : '"' ∉ Nat.toDigits 10 n.natAbs := fun hquote =>
    absurd (Numeral.isDigit_of_mem_toDigits hquote) (by decide)
  unfold writeInteger
  split
  · rw [List.mem_cons, not_or]
    exact ⟨by decide, hdigits⟩
  · exact hdigits

/-- Only a string begins with a quote. -/
theorem eq_string_of_write {more : List Char} (hv : Searchable v)
    (h : v.write ++ rest = '"' :: more) : ∃ s, v = .string s := by
  match v with
  | .string s => exact ⟨s, rfl⟩
  | .number (.integer n) =>
    obtain ⟨c, cs, hn, -⟩ := (Numeral.spells_writeInteger n).head
    have hquote := quote_not_mem_writeInteger n
    rw [Json.write, Number.write, hn] at h
    rw [hn, ← (List.cons.inj h).1] at hquote
    exact absurd List.mem_cons_self hquote
  | .null | .boolean true | .boolean false | .array [] | .array (_ :: _) | .object []
  | .object (_ :: _) => cases h

theorem memberId?_eq_some (h : memberId? name v = some w) :
    name = "id" ∧ ∃ s, v = .string s ∧ isId w = true ∧ s.toList = w := by
  unfold memberId? at h
  split at h
  · rename_i s
    split at h
    · rename_i hmember
      obtain rfl := Option.some.inj h
      exact ⟨hmember.1, s, rfl, hmember.2, rfl⟩
    · cases h
  · cases h

theorem memberId?_eq_none (v : Json) (h : name ≠ "id") : memberId? name v = none := by
  cases v with
  | string s => rw [memberId?, if_neg fun hid => h hid.1]
  | _ => rfl

theorem flatMap_writeChar_of_isId (hw : isId w = true) : w.flatMap writeChar = w :=
  flatMap_writeChar fun c hc => writeChar_of_isIdDigit (isIdDigit_of_isId hw c hc)

/-- The identifier in front of a member is the one that the member shows. -/
theorem idHere?_member (hv : Searchable v) :
    idHere? (Quotation.write name ++ ':' :: (v.write ++ rest)) = memberId? name v := by
  rw [quotation_write_append]
  apply Option.ext
  intro w
  rw [idHere?_eq_some_iff]
  constructor
  · rintro ⟨hw, more, hmore⟩
    have hname : name.toList.flatMap writeChar ++ '"' :: ':' :: (v.write ++ rest) =
        ['i', 'd'] ++ '"' :: ':' :: '"' :: (w ++ '"' :: more) := (List.cons.inj hmore).2
    obtain ⟨hid, hbehind⟩ := eq_of_written (by decide) hname
    obtain ⟨s, rfl⟩ := eq_string_of_write hv (List.cons.inj hbehind).2
    have hvalue : s.toList.flatMap writeChar ++ '"' :: rest = w ++ '"' :: more := by
      rw [Json.write, quotation_write_append] at hbehind
      exact (List.cons.inj (List.cons.inj hbehind).2).2
    obtain ⟨rfl, -⟩ := eq_of_written (flatMap_writeChar_of_isId hw) hvalue
    obtain rfl : name = "id" := String.toList_inj.mp hid
    simp [memberId?, hw]
  · intro hmember
    obtain ⟨rfl, s, rfl, hw, rfl⟩ := memberId?_eq_some hmember
    refine ⟨hw, rest, ?_⟩
    rw [Json.write, quotation_write_append, flatMap_writeChar_of_isId hw]
    rfl

/-! The search over the parts of a value. -/

theorem masks_key (hname : '"' ∉ name.toList)
    (hplace : idHere? (Quotation.write name ++ ':' :: rest) = none) :
    Masks (Quotation.write name ++ [':']) (Quotation.write name ++ [':']) [] rest := by
  have htext : Quotation.write name ++ [':'] =
      '"' :: (name.toList.flatMap writeChar ++ ['"', ':']) := by
    simp [Quotation.write]
  have hbehind : Clear (name.toList.flatMap writeChar ++ ['"', ':']) rest := by
    apply Clear.append
    · apply clear_of_not_mem
      intro hquote
      obtain ⟨x, hx, hquote⟩ := List.mem_flatMap.mp hquote
      have hne : x ≠ '"' := fun heq => hname (heq ▸ hx)
      exact quote_not_mem_writeChar hne hquote
    · refine ⟨idHere?_of_ne_i ?_, idHere?_of_ne_quote (by decide), trivial⟩
      intro c hc
      obtain rfl := Option.some.inj hc
      decide
  apply Clear.masks
  rw [List.append_cons, htext] at hplace
  rw [htext]
  exact ⟨hplace, hbehind⟩

theorem masks_id (hw : isId w = true) (hrest : EndsString rest) :
    Masks (idLead ++ (w ++ ['"'])) (idLead ++ (idCover ++ ['"'])) [w] rest := by
  have hquote : maskIds ('"' :: rest) = ('"' :: (maskIds rest).1, (maskIds rest).2) :=
    maskIds_of_none (idHere?_of_ne_i fun c hc => (hrest c hc).2)
  rw [Masks, List.append_assoc, List.append_assoc, List.singleton_append, maskIds_of_id hw, hquote]
  rfl

theorem masks_member (hname : '"' ∉ name.toList) (hv : Searchable v)
    (hrest : EndsString rest) (hvalue : Masks v.write (coverIds v).write (shownIds v) rest) :
    Masks (Quotation.write name ++ ':' :: v.write)
      (Quotation.write name ++ ':' :: (coverMember name v (coverIds v)).write)
      ((memberId? name v).toList ++ shownIds v) rest := by
  cases hmember : memberId? name v with
  | none =>
    have hplace : idHere? (Quotation.write name ++ ':' :: (v.write ++ rest)) = none :=
      (idHere?_member hv).trans hmember
    have hcover : coverMember name v (coverIds v) = coverIds v := by
      rw [coverMember, hmember]
      rfl
    have htext (cs : List Char) :
        Quotation.write name ++ ':' :: cs = (Quotation.write name ++ [':']) ++ cs :=
      List.append_cons _ _ _
    rw [hcover, htext v.write, htext (coverIds v).write]
    exact (masks_key hname hplace).append hvalue
  | some w =>
    obtain ⟨rfl, s, rfl, hw, rfl⟩ := memberId?_eq_some hmember
    have hcover : coverMember "id" (.string s) (coverIds (.string s)) =
        .string (String.ofList idCover) := by
      rw [coverMember, hmember]
      rfl
    have htext (t : String) (ht : t.toList.flatMap writeChar = t.toList) :
        Quotation.write "id" ++ ':' :: (Json.string t).write = idLead ++ (t.toList ++ ['"']) := by
      rw [Json.write, Quotation.write, Quotation.write, ht]
      rfl
    rw [hcover, htext s (flatMap_writeChar_of_isId hw), htext _ (by decide), String.toList_ofList]
    exact masks_id hw hrest

theorem Masks.cons (hc : c ≠ '"') (h : Masks front cover ids rest) :
    Masks (c :: front) (c :: cover) ids rest := by
  have hclear : Clear [c] (front ++ rest) := ⟨idHere?_of_ne_quote hc, trivial⟩
  exact hclear.masks.append h

theorem endsString_writeItems (items : List Json) (rest : List Char) :
    EndsString (writeItems items ++ rest) := by
  cases items <;> exact fun c hc => Option.some.inj hc ▸ by decide

theorem endsString_writeMembers (members : Members) (rest : List Char) :
    EndsString (writeMembers members ++ rest) := by
  cases members <;> exact fun c hc => Option.some.inj hc ▸ by decide

mutual

/-- In the text of a value the search finds the identifiers that the value shows, and no others. -/
theorem masks_write : (v : Json) → Searchable v → (rest : List Char) → EndsString rest →
    Masks v.write (coverIds v).write (shownIds v) rest
  | .null, _, _, _ => (clear_of_not_mem (by decide)).masks
  | .boolean true, _, _, _ => (clear_of_not_mem (by decide)).masks
  | .boolean false, _, _, _ => (clear_of_not_mem (by decide)).masks
  | .number (.integer n), _, _, _ => (clear_of_not_mem (quote_not_mem_writeInteger n)).masks
  | .string _, _, _, hrest => (clear_string hrest).masks
  | .array [], _, _, _ => (clear_of_not_mem (by decide)).masks
  | .array (item :: items), h, rest, hrest => by
    have hitem := masks_write item h.1 _ (endsString_writeItems items rest)
    exact (hitem.append (masks_writeItems items h.2 rest hrest)).cons (by decide)
  | .object [], _, _, _ => (clear_of_not_mem (by decide)).masks
  | .object ((name, value) :: members), h, rest, hrest => by
    have hends := endsString_writeMembers members rest
    have hmember := masks_member h.1 h.2.1 hends (masks_write value h.2.1 _ hends)
    have hmembers := hmember.append (masks_writeMembers members h.2.2 rest hrest)
    rw [List.append_assoc, List.append_assoc] at hmembers
    exact hmembers.cons (by decide)

theorem masks_writeItems : (items : List Json) → SearchableItems items → (rest : List Char) →
    EndsString rest →
    Masks (writeItems items) (writeItems (coverIdsItems items)) (shownIdsItems items) rest
  | [], _, _, _ => (clear_of_not_mem (by decide)).masks
  | item :: items, h, rest, hrest => by
    have hitem := masks_write item h.1 _ (endsString_writeItems items rest)
    exact (hitem.append (masks_writeItems items h.2 rest hrest)).cons (by decide)

theorem masks_writeMembers : (members : Members) → SearchableMembers members →
    (rest : List Char) → EndsString rest →
    Masks (writeMembers members) (writeMembers (coverIdsMembers members))
      (shownIdsMembers members) rest
  | [], _, _, _ => (clear_of_not_mem (by decide)).masks
  | (name, value) :: members, h, rest, hrest => by
    have hends := endsString_writeMembers members rest
    have hmember := masks_member h.1 h.2.1 hends (masks_write value h.2.1 _ hends)
    have hmembers := hmember.append (masks_writeMembers members h.2.2 rest hrest)
    rw [List.append_assoc, List.append_assoc] at hmembers
    exact hmembers.cons (by decide)

end

/-! ### All places -/

theorem filterMap_tails_of_clear (h : Clear front rest) :
    (front ++ rest).tails.filterMap idHere? = rest.tails.filterMap idHere? := by
  induction front with
  | nil => rfl
  | cons c front ih =>
    rw [List.cons_append, List.tails_cons, List.filterMap_cons_none h.1, ih h.2]

/-- No place begins within another one, up to the quote behind the identifier. -/
theorem clear_place (hw : isId w = true) : Clear (idLead.tail ++ w) ('"' :: rest) := by
  have hdigit := isIdDigit_of_isId hw
  have hquote : '"' ∉ w := fun hmem => absurd (hdigit _ hmem) (by decide)
  have hhead : ∀ c ∈ (w ++ '"' :: rest).head?, c ≠ 'i' := by
    cases w with
    | nil => simp
    | cons d w =>
      intro c hc
      obtain rfl := Option.some.inj hc
      rintro rfl
      exact absurd (hdigit 'i' List.mem_cons_self) (by decide)
  refine Clear.append ?_ (clear_of_not_mem hquote)
  refine ⟨idHere?_of_ne_quote (by decide), idHere?_of_ne_quote (by decide), idHere?_of_ne_i ?_,
    idHere?_of_ne_quote (by decide), idHere?_of_ne_i hhead, trivial⟩
  intro c hc
  obtain rfl := Option.some.inj hc
  decide

/-- The search comes to every place in the text. -/
theorem maskIds_snd (cs : List Char) : (maskIds cs).2 = cs.tails.filterMap idHere? := by
  -- By length, since the search leaves a whole identifier behind in one step.
  induction hlength : cs.length using Nat.strongRecOn generalizing cs with
  | ind n ih =>
    cases cs with
    | nil =>
      rw [maskIds]
      rfl
    | cons c cs =>
      cases hhere : idHere? (c :: cs) with
      | none =>
        have hrest := ih _ (by rw [← hlength]; simp) cs rfl
        rw [maskIds_of_none hhere, List.tails_cons, List.filterMap_cons_none hhere, hrest]
      | some w =>
        obtain ⟨hw, rest, hplace⟩ := idHere?_eq_some_iff.mp hhere
        obtain ⟨rfl, rfl⟩ := List.cons.inj hplace
        have hrest := ih _ (by rw [← hlength]; simp; omega) ('"' :: rest) rfl
        have hfound := congrArg Prod.snd (maskIds_of_id hw rest)
        have hclear : (idLead.tail ++ (w ++ '"' :: rest)).tails.filterMap idHere? =
            ('"' :: rest).tails.filterMap idHere? := by
          rw [← List.append_assoc]
          exact filterMap_tails_of_clear (clear_place hw)
        rw [List.tails_cons, List.filterMap_cons_some hhere]
        exact hfound.trans (congrArg (w :: ·) (hrest.trans hclear.symm))

end Provisioner.Space
