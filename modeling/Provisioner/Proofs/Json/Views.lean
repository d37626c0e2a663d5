import Provisioner.Json.Codec
import Provisioner.Proofs.Json.Passing
/-!
# What readers make of a text

A reader computes a *view*: a function of the content of a text alone. It succeeds on a text exactly
when its view of the content has a value, with that value, and stops right behind the content
(`Reader.Reads`). Blanks and escapes have then no part in the result. Each combinator of readers has
its combinator of views; those of records are in `Proofs.Json.Records`.
-/

namespace Provisioner.Json

open Provisioner.Json.Tree (Part)

variable {α β σ : Type} {cs ds es rest : List Char} {c : Char} {t : Tree} {ts : List Tree}
  {ms : Tree.Members} {first : Bool}

@[simp] theorem toOption_ok {ε : Type} (a : α) : (.ok a : Except ε α).toOption = some a := rfl

@[simp] theorem toOption_error {ε : Type} (e : ε) : (.error e : Except ε α).toOption = none := rfl

@[simp] theorem toOption_map {ε : Type} (f : α → β) (x : Except ε α) :
    (x.map f).toOption = x.toOption.map f := by
  cases x <;> rfl

@[simp] theorem toOption_mapError {ε ε' : Type} (f : ε → ε') (x : Except ε α) :
    (x.mapError f).toOption = x.toOption := by
  cases x <;> rfl

theorem toOption_bind {ε : Type} (x : Except ε α) (f : α → Except ε β) :
    (x >>= f).toOption = x.toOption.bind fun a => (f a).toOption := by
  cases x <;> rfl

theorem toOption_eq_some_iff {ε : Type} {x : Except ε α} {a : α} :
    x.toOption = some a ↔ x = .ok a := by
  cases x <;> simp

/-- The reader computes `view` of the content of a text. -/
structure Reader.Reads (r : Reader α) (view : Tree → Option α) : Prop where
  toOption_run : ∀ {t : Tree} {cs ds rest : List Char}, Blanks cs ds →
    Tree.Spells (.value t) ds rest → Delimited rest →
    (r.run cs).toOption = (view t).map (·, rest)

/-! ### First tokens -/

namespace Tree

/-- The scalar that a content is. -/
def scalar? : Tree → Option Scalar
  | null => some .null
  | boolean b => some (.boolean b)
  | number n => n.value?.map .number
  | string s => s.map .string
  | array _ => none
  | object _ => none

/-- Whether a content has no parts. -/
def isSimple : Tree → Bool
  | array _ => false
  | object _ => false
  | _ => true

end Tree

/-- What the first token of a text of `t` can be. -/
inductive Token.Found (rest : List Char) : Tree → Reading Token → Prop where
  | list {ts : List Tree} {es : List Char} : Tree.Spells (.items true ts) es rest →
      Found rest (.array ts) (.ok (.opening .list, es))
  | object {ms : Tree.Members} {es : List Char} : Tree.Spells (.members true ms) es rest →
      Found rest (.object ms) (.ok (.opening .object, es))
  | scalar {t : Tree} {s : Scalar} : t.scalar? = some s → Found rest t (.ok (.scalar s, rest))
  | refused {t : Tree} {f : Fault} : t.scalar? = none → t.isSimple = true → Found rest t (.error f)

theorem Token.found_readNumber {n : Numeral} (hn : n.Spells ds) (hrest : Delimited rest) :
    Found rest (.number n) (readNumber (ds ++ rest)) := by
  unfold readNumber
  rw [Numeral.read_of_spells hn (Numeral.ends_of_delimited hrest)]
  have hvalue := n.toOption_evaluate rest
  dsimp only
  cases heval : n.evaluate rest with
  | error f =>
    rw [heval] at hvalue
    exact .refused (by simp [Tree.scalar?, ← hvalue, Except.toOption]) rfl
  | ok x =>
    rw [heval] at hvalue
    exact .scalar (by simp [Tree.scalar?, ← hvalue, Except.toOption])

theorem Token.found_readString {s : Option String} (h : Quotation.Says s cs rest) :
    Found rest (.string s) (readString cs) := by
  unfold readString
  have hread := Quotation.toOption_read h
  cases hresult : Quotation.read cs with
  | error f =>
    rw [hresult] at hread
    cases s with
    | none => exact .refused rfl rfl
    | some s => simp [Except.toOption] at hread
  | ok found =>
    rw [hresult] at hread
    cases s with
    | none => simp [Except.toOption] at hread
    | some s =>
      obtain rfl : found = (s, rest) := by simpa [Except.toOption] using hread
      exact .scalar rfl

theorem Token.readHere_numeral (h : c = '-' ∨ c.isDigit = true) :
    readHere (c :: cs) = readNumber (c :: cs) := by
  have hne (d : Char) (hd : (d == '-' || d.isDigit) = false) : c ≠ d := by
    rintro rfl
    rcases h with rfl | h
    · exact absurd hd (by decide)
    · simp [h] at hd
  simp [readHere, h, hne '[' (by decide), hne '\x7b' (by decide), hne '"' (by decide),
    hne 'n' (by decide), hne 't' (by decide), hne 'f' (by decide)]

/-- Blanks in front of a value are passed and nothing else. -/
theorem Tree.Spells.skipBlanks_eq (h : Tree.Spells (.value t) ds rest) (hblanks : Blanks cs ds) :
    skipBlanks cs = ds := by
  rcases h.head with ⟨c, es, rfl, hbegins, _⟩
  exact hblanks.skip hbegins.visible

theorem Tree.SpelledBy.not_isEmpty {text : String} (h : t.SpelledBy text.toList) :
    ¬ text.isEmpty := by
  intro hempty
  rw [String.isEmpty_iff.mp hempty, String.toList_empty] at h
  rcases h with ⟨hblanks, hspells, _⟩
  rcases hspells.head with ⟨c, es, rfl, _⟩
  cases hblanks

theorem Token.found_read (hblanks : Blanks cs ds) (h : Tree.Spells (.value t) ds rest)
    (hrest : Delimited rest) : Found rest t (Token.read cs) := by
  rw [Token.read, h.skipBlanks_eq hblanks]
  cases h with
  | null => exact .scalar rfl
  | yes => exact .scalar rfl
  | no => exact .scalar rfl
  | string hstring => exact found_readString hstring
  | array hitems => exact .list hitems
  | object hmembers => exact .object hmembers
  | number hn =>
    rcases hn.head with ⟨c, es, rfl, hc⟩
    rw [List.cons_append, readHere_numeral hc]
    exact found_readNumber hn hrest

/-! ### Views of lists -/

theorem nextItem_of_end (h : Blanks cs (']' :: rest)) : nextItem first cs = .ok (false, rest) := by
  simp [nextItem, h.skip (by decide)]

theorem nextItem_of_lead (hlead : Lead first cs ds) (h : Tree.Spells (.value t) ds es) :
    nextItem first cs = .ok (true, ds) := by
  rcases h.head with ⟨c, fs, rfl, hbegins, _⟩
  cases hlead with
  | first hblanks => simp [nextItem, hblanks.skip hbegins.visible, hbegins.not_list]
  | later hcomma hblanks =>
    simp [nextItem, hcomma.skip (by decide), hblanks.skip hbegins.visible, hbegins.not_list]

theorem Reader.toOption_listBody_next {item : Reader α}
    (hnext : nextItem first cs = .ok (true, ds)) :
    (item.listBody first cs).toOption =
      (item.run ds).toOption.bind fun found =>
        (item.listBody false found.2).toOption.map fun more => (found.1 :: more.1, more.2) := by
  rw [listBody]
  split
  · simp_all
  · simp_all
  · rename_i rest hrest
    obtain rfl : ds = rest := by simpa [hnext] using hrest
    split
    · simp_all
    · rename_i x es hrun
      simp only [hrun, toOption_ok, Option.bind_some]
      split <;> simp_all

theorem Reader.listBody_end {item : Reader α} (hnext : nextItem first cs = .ok (false, rest)) :
    item.listBody first cs = .ok ([], rest) := by
  rw [listBody]
  split <;> simp_all

/-- The items of a list are read one by one, each as its own view. -/
theorem Reader.toOption_listBody {item : Reader α} {view : Tree → Option α}
    (hitem : item.Reads view) (h : Tree.Spells (.items first ts) cs rest) :
    (item.listBody first cs).toOption = (ts.mapM view).map (·, rest) := by
  induction ts generalizing first cs with
  | nil =>
    cases h with
    | noItem hend => simp [listBody_end (nextItem_of_end hend), Except.toOption]
  | cons t ts ih =>
    cases h with
    | item hlead hvalue hmore =>
      rw [toOption_listBody_next (nextItem_of_lead hlead hvalue), List.mapM_cons,
        hitem.toOption_run .nil hvalue (delimited_of_items hmore)]
      cases view t with
      | none => rfl
      | some x =>
        simp only [Option.map_some, Option.bind_some, ih hmore, bind, pure]
        cases ts.mapM view <;> rfl

/-! ### Views of objects -/

/-- Take the members of an object into a state, one after the other. A key that is no text cannot be
    taken. -/
def Tree.foldMembers (step : String → Tree → σ → Option σ) : Tree.Members → σ → Option σ
  | [], s => some s
  | (none, _) :: _, _ => none
  | (some key, t) :: ms, s => (step key t s).bind (foldMembers step ms)

/-- The values of members are read into a state as `step` says. -/
def Reader.MemberReads (member : String → σ → Except Mismatch (Reader σ))
    (step : String → Tree → σ → Option σ) : Prop :=
  ∀ key s,
    (∀ r, member key s = .ok r → r.Reads fun t => step key t s) ∧
    (∀ m, member key s = .error m → ∀ t, step key t s = none)

theorem nextKey_of_end (h : Blanks cs ('\x7d' :: rest)) :
    nextKey first cs = .ok (none, rest) := by
  simp [nextKey, h.skip (by decide)]

theorem nextKey_of_lead (hlead : Lead first cs ('"' :: ds)) : nextKey first cs = readKey ds := by
  cases hlead with
  | first hblanks => simp [nextKey, hblanks.skip (by decide)]
  | later hcomma hblanks => simp [nextKey, hcomma.skip (by decide), hblanks.skip (by decide)]

theorem toOption_readKey {key : Option String} (h : Quotation.Says key cs rest) :
    (readKey cs).toOption = key.map fun k => (some k, rest) := by
  have hread := Quotation.toOption_read h
  unfold readKey
  cases hresult : Quotation.read cs with
  | error f => cases key <;> simp_all [Except.toOption]
  | ok found => cases key <;> simp_all [Except.toOption]

theorem Reader.objectBody_end {member : String → σ → Except Mismatch (Reader σ)} {s : σ}
    (hnext : nextKey first cs = .ok (none, rest)) :
    objectBody member first s cs = .ok (s, rest) := by
  rw [objectBody]
  split <;> simp_all

theorem Reader.toOption_objectBody_next {member : String → σ → Except Mismatch (Reader σ)} {s : σ}
    {key : String} (hnext : nextKey first cs = .ok (some key, ds))
    (hcolon : passColon ds = .ok es) :
    (objectBody member first s cs).toOption =
      (member key s).toOption.bind fun value =>
        (value.run es).toOption.bind fun found =>
          (objectBody member false found.1 found.2).toOption := by
  rw [objectBody]
  split
  · simp_all
  · simp_all
  · rename_i key' rest hrest
    obtain ⟨rfl, rfl⟩ : key = key' ∧ ds = rest := by simpa [hnext] using hrest
    split
    · simp_all
    · rename_i value hmember
      split
      · simp_all
      · rename_i es' hes
        obtain rfl : es = es' := by simpa [hcolon] using hes
        simp only [hmember, toOption_ok, Option.bind_some]
        split <;> simp_all

theorem Reader.toOption_objectBody_error {member : String → σ → Except Mismatch (Reader σ)} {s : σ}
    (hnext : (nextKey first cs).toOption = none) :
    (objectBody member first s cs).toOption = none := by
  rw [objectBody]
  split <;> simp_all

/-- The members of an object are read one by one, as the state is built up. -/
theorem Reader.toOption_objectBody {member : String → σ → Except Mismatch (Reader σ)}
    {step : String → Tree → σ → Option σ} (hmember : MemberReads member step) {s : σ}
    (h : Tree.Spells (.members first ms) cs rest) :
    (objectBody member first s cs).toOption = (Tree.foldMembers step ms s).map (·, rest) := by
  induction ms generalizing first s cs with
  | nil =>
    cases h with
    | noMember hend => simp [objectBody_end (nextKey_of_end hend), Tree.foldMembers]
  | cons m ms ih =>
    cases h with
    | @member _ key t _ _ ds es fs gs hs _ hlead hkey hcolon hblanks hvalue hmore =>
      have hnext := toOption_readKey hkey
      rw [← nextKey_of_lead hlead] at hnext
      cases key with
      | none => exact toOption_objectBody_error hnext
      | some key =>
        rw [toOption_objectBody_next (toOption_eq_some_iff.mp hnext) (passColon_of_blanks hcolon),
          Tree.foldMembers]
        cases hm : member key s with
        | error m => simp [(hmember key s).2 m hm]
        | ok value =>
          have hread := ((hmember key s).1 value hm).toOption_run hblanks hvalue
            (delimited_of_members hmore)
          simp only [toOption_ok, Option.bind_some, hread]
          cases step key t s with
          | none => rfl
          | some s' => exact ih hmore

/-! ### Views of the combinators -/

namespace Tree

/-- The text of a string. -/
def string? : Tree → Option String
  | string s => s
  | _ => none

def boolean? : Tree → Option Bool
  | boolean b => some b
  | _ => none

/-- A number of 32 bits without a sign. -/
def word? : Tree → Option UInt32
  | number n => n.natural?.bind fun k => if k < 0x100000000 then some (UInt32.ofNat k) else none
  | _ => none

/-- The items of a list, all seen by `view`. -/
def list? (view : Tree → Option α) : Tree → Option (List α)
  | array ts => ts.mapM view
  | _ => none

/-- The members of an object, all seen by `view`; of two with one name the later counts. -/
def dict? (view : Tree → Option α) : Tree → Option (Dict α)
  | object ms => foldMembers (fun key t d => (view t).map (d.insert key)) ms .empty
  | _ => none

/-- Null seen as `absent`, and everything else by `view`. -/
def nullOr? (absent : α) (view : Tree → Option α) : Tree → Option α
  | null => some absent
  | t => view t

theorem nullOr?_of_ne_null {absent : α} {view : Tree → Option α} (h : t ≠ .null) :
    nullOr? absent view t = view t := by
  cases t with
  | null => exact absurd rfl h
  | _ => rfl

end Tree

namespace Reader

theorem Reads.map {r : Reader α} {view : Tree → Option α} (h : r.Reads view) (f : α → β) :
    (r.map f).Reads fun t => (view t).map f := by
  constructor
  intro t cs ds rest hblanks hspells hrest
  have hread := h.toOption_run hblanks hspells hrest
  unfold Reader.map
  dsimp only
  cases hview : view t with
  | none => split <;> simp_all
  | some a => split <;> simp_all

theorem reads_scalar (wanted : Wanted) (accept : Scalar → Except Mismatch α) :
    (Reader.scalar wanted accept).Reads fun t => t.scalar?.bind fun s => (accept s).toOption := by
  constructor
  intro t cs ds rest hblanks hspells hrest
  have hfound := Token.found_read hblanks hspells hrest
  unfold Reader.scalar
  dsimp only
  generalize Token.read cs = found at hfound
  cases hfound with
  | list _ => rfl
  | object _ => rfl
  | @scalar t s hs =>
    dsimp only
    cases haccept : accept s <;> simp [hs, haccept]
  | refused hnone _ => simp [hnone]

theorem Reads.congr {r : Reader α} {view view' : Tree → Option α} (h : r.Reads view)
    (hview : ∀ t, view t = view' t) : r.Reads view' :=
  (funext hview : view = view') ▸ h

theorem reads_string : Codec.string.reader.Reads Tree.string? := by
  refine (reads_scalar _ _).congr fun t => ?_
  cases t with
  | string s => cases s <;> rfl
  | number n => cases hvalue : n.value? <;> simp [Tree.scalar?, Tree.string?, hvalue]
  | _ => rfl

theorem reads_boolean : Codec.boolean.reader.Reads Tree.boolean? := by
  refine (reads_scalar _ _).congr fun t => ?_
  cases t with
  | string s => cases s <;> rfl
  | number n => cases hvalue : n.value? <;> simp [Tree.scalar?, Tree.boolean?, hvalue]
  | _ => rfl

theorem reads_word : Codec.word.reader.Reads Tree.word? := by
  refine (reads_scalar _ _).congr fun t => ?_
  cases t with
  | number n =>
    simp only [Tree.scalar?, Tree.word?]
    by_cases hliteral : ∃ k, n.natural? = some k ∧ k < 0x100000000
    · rcases hliteral with ⟨k, hnatural, hk⟩
      have hbound : k < Numeral.wordBound := Nat.lt_trans hk (by simp [Numeral.wordBound])
      have hvalue := Numeral.value?_of_natural hnatural hbound
      have hi : 0 ≤ (k : Int) ∧ (k : Int) < 0x100000000 := by omega
      rw [hvalue, hnatural, Option.map_some, Option.bind_some, Option.bind_some, if_pos hk]
      dsimp only
      rw [if_pos hi, Int.toNat_natCast, toOption_ok]
    · -- No other numeral is evaluated to an integer in the range.
      have hword : (n.natural?.bind fun k =>
          if k < 0x100000000 then some (UInt32.ofNat k) else none) = none := by
        cases hnatural : n.natural? with
        | none => rfl
        | some k => exact if_neg fun hk => hliteral ⟨k, hnatural, hk⟩
      rw [hword]
      cases hvalue : n.value? with
      | none => rfl
      | some x =>
        cases x with
        | float x => rfl
        | integer i =>
          have hi : ¬ (0 ≤ i ∧ i < 0x100000000) := fun h =>
            hliteral ⟨i.toNat, (Numeral.natural_of_value? hvalue h.1).1, by omega⟩
          simp [hi]
  | string s => cases s <;> rfl
  | _ => rfl

theorem reads_list {item : Reader α} {view : Tree → Option α} (h : item.Reads view) :
    item.list.Reads (Tree.list? view) := by
  constructor
  intro t cs ds rest hblanks hspells hrest
  have hfound := Token.found_read hblanks hspells hrest
  unfold Reader.list
  dsimp only
  generalize Token.read cs = found at hfound
  cases hfound with
  | list hitems => exact toOption_listBody h hitems
  | object _ => rfl
  | @scalar t s hs => cases t <;> simp_all [Tree.list?, Tree.scalar?]
  | @refused t f _ hsimple => cases t <;> simp_all [Tree.list?, Tree.isSimple]

theorem reads_dict {value : Reader α} {view : Tree → Option α} (h : value.Reads view) :
    value.dict.Reads (Tree.dict? view) := by
  have hmember : MemberReads (fun key d => .ok (value.map (d.insert key)))
      (fun key t (d : Dict α) => (view t).map (d.insert key)) := by
    intro key d
    constructor
    · intro r hr
      obtain rfl := Except.ok.inj hr
      exact h.map (d.insert key)
    · intro m hm
      cases hm
  constructor
  intro t cs ds rest hblanks hspells hrest
  have hfound := Token.found_read hblanks hspells hrest
  unfold Reader.dict
  dsimp only
  generalize Token.read cs = found at hfound
  cases hfound with
  | list _ => rfl
  | object hmembers => exact toOption_objectBody hmember hmembers
  | @scalar t s hs => cases t <;> simp_all [Tree.dict?, Tree.scalar?]
  | @refused t f _ hsimple => cases t <;> simp_all [Tree.dict?, Tree.isSimple]

theorem reads_nullOr {r : Reader α} {view : Tree → Option α} (h : r.Reads view) (absent : α) :
    (Reader.nullOr absent r).Reads (Tree.nullOr? absent view) := by
  constructor
  intro t cs ds rest hblanks hspells hrest
  have hskip := hspells.skipBlanks_eq hblanks
  rcases hspells.head with ⟨c, es, rfl, _, hnull⟩
  unfold Reader.nullOr
  dsimp only
  rw [hskip]
  by_cases hc : c = 'n'
  · obtain rfl := hnull.mp hc
    cases hspells with
    | null => rfl
  · have hne : t ≠ .null := fun ht => hc (hnull.mpr ht)
    rw [Tree.nullOr?_of_ne_null hne, ← h.toOption_run hblanks hspells hrest]
    split
    · rename_i rest' heq
      exact absurd (List.cons.inj heq).1 hc
    · rfl

/-- A value that is passed over reads as nothing, whatever it is. -/
theorem reads_skip : Reader.skip.Reads fun _ => some () := by
  constructor
  intro t cs ds rest hblanks hspells hrest
  have hskip : skipValue [] cs = skipRest [] rest := skipValue_of_spells hspells hrest hblanks
  simp [Reader.skip, hskip, skipRest]

/-! ### Whole texts -/

theorem delimited_of_end (h : Blanks rest []) : Delimited rest := by
  cases h with
  | nil => exact fun c hc => by simp at hc
  | cons hblank _ =>
    intro c hc
    obtain rfl := Option.some.inj hc
    exact .inl hblank

theorem Reads.toOption_parse {r : Reader α} {view : Tree → Option α} (h : r.Reads view)
    {text : String} (htext : t.SpelledBy text.toList) : (r.parse text).toOption = view t := by
  rcases htext with ⟨hblanks, hspells, hend⟩
  have hread := h.toOption_run hblanks hspells (delimited_of_end hend)
  unfold parse
  cases hview : view t with
  | none => split <;> simp_all
  | some a =>
    rw [hview] at hread
    rw [toOption_eq_some_iff.mp hread]
    simp [hend.skip_end]

end Reader

end Provisioner.Json
