import Provisioner.Json.Enumeration
import Provisioner.Proofs.Json.Writing
/-!
# Named alternatives are read as they were written

An alternative is written as its name and found again by it, if the names are told apart
(`Alternatives.Named`). The view of an enumeration knows both forms in which an alternative can be
given: its name, or an object with the name as the only key and null beside it.
-/

namespace Provisioner.Json.Alternatives

variable {α : Type} {a : Alternatives α} {cs ds rest : List Char} {ms : Tree.Members}

/-- Every alternative is found under its name. -/
def Named (a : Alternatives α) : Prop := ∀ choice, a.choose (a.name choice) = .ok choice

theorem lawful (h : a.Named) : (Codec.enumeration a).Lawful := ⟨h, fun _ => Json.noConfusion⟩

/-! ### The view -/

def nothing? : Tree → Option Unit
  | .null => some ()
  | _ => none

def view (a : Alternatives α) : Tree → Option α
  | .string s => s.bind fun name => (a.choose name).toOption
  | .object [(some name, t)] =>
      (a.choose name).toOption.bind fun choice => (nothing? t).map fun () => choice
  | _ => none

theorem writes (h : a.Named) : (Codec.enumeration a).Writes a.view where
  exact_encode _ := trivial
  view_tree choice := by
    show (a.choose (a.name choice)).toOption = some choice
    rw [h choice]
    rfl
  ne_null choice := by simp [Codec.enumeration, tree]

/-! ### The reader -/

theorem toOption_readString {s : Option String} (h : Quotation.Says s cs rest) :
    (a.readString cs).toOption = (a.view (.string s)).map (·, rest) := by
  have hread := Quotation.toOption_read h
  unfold readString
  cases s with
  | none =>
    cases hresult : Quotation.read cs with
    | error f => rfl
    | ok found =>
      rw [hresult] at hread
      cases hread
  | some name =>
    rw [toOption_eq_some_iff.mp hread]
    dsimp only [view, Option.bind_some]
    cases a.choose name <;> rfl

theorem readName_of_quote (h : Blanks cs ('"' :: ds)) : readName cs = Quotation.read ds := by
  simp [readName, h.skip (by decide)]

theorem toOption_readNothing {t : Tree} (hblanks : Blanks cs ds)
    (h : Tree.Spells (.value t) ds rest) (hrest : Delimited rest) :
    (readNothing cs).toOption = (nothing? t).map fun () => rest := by
  have hfound := Token.found_read hblanks h hrest
  unfold readNothing
  generalize Token.read cs = found at hfound
  cases hfound with
  | list _ => rfl
  | object _ => rfl
  | @scalar t s hs =>
    cases t with
    | null =>
      obtain rfl := Option.some.inj hs
      rfl
    | boolean b =>
      obtain rfl := Option.some.inj hs
      rfl
    | number n =>
      obtain ⟨x, -, rfl⟩ := Option.map_eq_some_iff.mp hs
      rfl
    | string text =>
      obtain ⟨x, -, rfl⟩ := Option.map_eq_some_iff.mp hs
      rfl
    | array ts => cases hs
    | object ms => cases hs
  | @refused t f hnone _ =>
    cases t with
    | null => cases hnone
    | _ => rfl

theorem toOption_readEnd (h : Tree.Spells (.members false ms) cs rest) :
    (readEnd cs).toOption = if ms = [] then some rest else none := by
  cases h with
  | noMember hend => simp [readEnd, hend.skip (by decide)]
  | member hlead _ _ _ _ _ =>
    cases hlead with
    | later hcomma _ => simp [readEnd, hcomma.skip (by decide)]

theorem toOption_readObject_eq (a : Alternatives α) (cs : List Char) :
    (a.readObject cs).toOption =
      (readName cs).toOption.bind fun (name, cs) =>
        (a.choose name).toOption.bind fun choice =>
          (passColon cs).toOption.bind fun cs =>
            (readNothing cs).toOption.bind fun cs =>
              (readEnd cs).toOption.bind fun cs => some (choice, cs) := by
  simp only [readObject, toOption_bind, toOption_mapError]
  rfl

theorem toOption_readObject (h : Tree.Spells (.members true ms) cs rest) :
    (a.readObject cs).toOption = (a.view (.object ms)).map (·, rest) := by
  rw [toOption_readObject_eq]
  cases h with
  | noMember hend => simp [readName, hend.skip (by decide), view]
  | @member _ key t ms' _ _ es fs gs hs _ hlead hkey hcolon hblanks hvalue hmore =>
    cases hlead with
    | first hquote =>
      rw [readName_of_quote hquote, Quotation.toOption_read hkey]
      cases key with
      | none => rfl
      | some name =>
        have hnothing := toOption_readNothing hblanks hvalue (delimited_of_members hmore)
        have hend := toOption_readEnd hmore
        simp only [Option.map_some, Option.bind_some, passColon_of_blanks hcolon, toOption_ok,
          hnothing]
        cases hchoose : (a.choose name).toOption with
        | none => cases ms' <;> simp [view, hchoose]
        | some choice =>
          cases hnull : nothing? t with
          | none => cases ms' <;> simp [view, hnull]
          | some _ => cases ms' <;> simp [view, hchoose, hnull, hend]

theorem reads (a : Alternatives α) : (Codec.enumeration a).reader.Reads a.view := by
  constructor
  intro t cs ds rest hblanks hspells hrest
  show (a.read cs).toOption = _
  unfold read
  rw [hspells.skipBlanks_eq hblanks]
  cases hspells with
  | null => rfl
  | yes => rfl
  | no => rfl
  | string hstring => exact toOption_readString hstring
  | array _ => rfl
  | object hmembers => exact toOption_readObject hmembers
  | number hn =>
    rcases hn.head with ⟨c, es, rfl, hc⟩
    have hne (d : Char) (hd : (d == '-' || d.isDigit) = false) : c ≠ d := by
      rintro rfl
      rcases hc with rfl | hc
      · exact absurd hd (by decide)
      · simp [hc] at hd
    simp [hne '"' (by decide), hne '\x7b' (by decide), view]

end Provisioner.Json.Alternatives
