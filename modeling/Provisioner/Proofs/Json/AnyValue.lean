import Provisioner.Json.Text
import Provisioner.Proofs.Json.Printing
import Provisioner.Proofs.Json.Views
/-!
# Values of unknown type

A reader that asks for nothing in particular takes a text for the value that it says, settled, unless
its brackets nest too deep (`Reader.reads_value`). So the text of a value is read as this value with
its members in the order of their names (`ofText_text`). This is to hold of what a reader hands back:
floats are not the matter here, and integers have to fit 64 bits.
-/

namespace Provisioner.Json

/-! ### The view of a value -/

/-- The value that a content is, if its brackets nest no deeper than `depth`. -/
def Tree.json? : (depth : Nat) → Tree → Option Json
  | depth + 1, array ts => (ts.mapM (json? depth)).map Json.array
  | depth + 1, object ms =>
      (foldMembers (fun key t ms => (json? depth t).map (Entries.put key · ms)) ms []).map Json.object
  | _, t => t.scalar?.map Scalar.value

theorem Tree.json?_of_isSimple {t : Tree} (h : t.isSimple = true) (depth : Nat) :
    t.json? depth = t.scalar?.map Scalar.value := by
  cases depth <;> cases t <;> first | rfl | cases h

theorem Tree.isSimple_of_scalar? {t : Tree} {s : Scalar} (h : t.scalar? = some s) :
    t.isSimple = true := by
  cases t <;> first | rfl | cases h

/-- What is read behind an opening bracket is the view of the list or the object. -/
structure Inside.Reads (inside : Inside) (view : Tree → Option Json) : Prop where
  list : ∀ {ts : List Tree} {cs rest : List Char}, Tree.Spells (.items true ts) cs rest →
    (inside .list cs).toOption = (view (.array ts)).map (·, rest)
  object : ∀ {ms : Tree.Members} {cs rest : List Char}, Tree.Spells (.members true ms) cs rest →
    (inside .object cs).toOption = (view (.object ms)).map (·, rest)

theorem reads_inside {value : Reader Json} {depth : Nat} (h : value.Reads (Tree.json? depth)) :
    (readInside value).Reads (Tree.json? (depth + 1)) := by
  have hmember : Reader.MemberReads (fun key ms => .ok (value.map (Entries.put key · ms)))
      (fun key t ms => (Tree.json? depth t).map (Entries.put key · ms)) := by
    intro key ms
    constructor
    · intro r hr
      obtain rfl := Except.ok.inj hr
      exact h.map (Entries.put key · ms)
    · intro m hm
      cases hm
  constructor
  · intro ts cs rest hitems
    have hread := Reader.toOption_listBody h hitems
    rw [Tree.json?, Option.map_map, readInside]
    cases hview : ts.mapM (Tree.json? depth) with
    | none => split <;> simp_all
    | some items => split <;> simp_all
  · intro ms cs rest hmembers
    have hread := Reader.toOption_objectBody hmember (s := []) hmembers
    rw [Tree.json?, Option.map_map, readInside]
    generalize Tree.foldMembers _ ms [] = view at hread ⊢
    cases view with
    | none => split <;> simp_all
    | some members => split <;> simp_all

theorem Inside.Reads.toOption_readValue {inside : Inside} {depth : Nat}
    (h : inside.Reads (Tree.json? depth)) {t : Tree} {cs ds rest : List Char}
    (hblanks : Blanks cs ds) (hspells : Tree.Spells (.value t) ds rest) (hrest : Delimited rest) :
    (readValue inside cs).toOption = (t.json? depth).map (·, rest) := by
  have hfound := Token.found_read hblanks hspells hrest
  unfold readValue
  generalize Token.read cs = found at hfound
  cases hfound with
  | list hitems => exact h.list hitems
  | object hmembers => exact h.object hmembers
  | scalar hs => simp [Tree.json?_of_isSimple (Tree.isSimple_of_scalar? hs), hs]
  | refused hnone hsimple => simp [Tree.json?_of_isSimple hsimple, hnone]

/-- A value is read as what the text says, whatever type it is of. -/
theorem Reader.reads_value (depth : Nat) : (Reader.value depth).Reads (Tree.json? depth) := by
  induction depth with
  | zero =>
    have hinside : Inside.Reads (fun _ cs => .error (.here .nestedTooDeep cs)) (Tree.json? 0) :=
      ⟨fun _ => rfl, fun _ => rfl⟩
    exact ⟨hinside.toOption_readValue⟩
  | succ depth ih => exact ⟨(reads_inside ih).toOption_readValue⟩

/-! ### Values that are written -/

mutual

/-- A reader can keep the value: no float is part of it, its integers are unsigned and of 64 bits,
    and its brackets nest no deeper than `depth`. -/
def Fits : (depth : Nat) → Json → Prop
  | _, number (.integer n) => 0 ≤ n ∧ n < Numeral.wordBound
  | _, number (.float _) => False
  | 0, array _ => False
  | 0, object _ => False
  | depth + 1, array items => FitsItems depth items
  | depth + 1, object members => FitsMembers depth members
  | _, _ => True

def FitsItems (depth : Nat) : List Json → Prop
  | [] => True
  | item :: items => Fits depth item ∧ FitsItems depth items

def FitsMembers (depth : Nat) : Members → Prop
  | [] => True
  | (_, value) :: members => Fits depth value ∧ FitsMembers depth members

end

theorem fitsItems_iff {depth : Nat} {items : List Json} :
    FitsItems depth items ↔ ∀ item ∈ items, Fits depth item := by
  induction items with
  | nil => simp [FitsItems]
  | cons item items ih => simp [FitsItems, ih]

mutual

/-- The settled value is what is said by the text of a value. -/
theorem json?_tree : (v : Json) → (depth : Nat) → v.Fits depth →
    v.tree.json? depth = some v.settle
  | null, depth, _ => Tree.json?_of_isSimple rfl depth
  | boolean _, depth, _ => Tree.json?_of_isSimple rfl depth
  | string _, depth, _ => Tree.json?_of_isSimple rfl depth
  | number (.integer n), depth, h => by
    have hfits : 0 ≤ n ∧ n < Numeral.wordBound := by cases depth <;> exact h
    obtain ⟨k, rfl⟩ := Int.eq_ofNat_of_zero_le hfits.1
    have hvalue : (Numeral.ofInteger k).value? = some (.integer k) :=
      Numeral.value?_of_natural (Numeral.natural?_ofInteger k) (Int.ofNat_lt.mp hfits.2)
    rw [tree, Tree.json?_of_isSimple rfl, Tree.scalar?, hvalue]
    rfl
  | array items, depth + 1, h => by
    rw [tree, Tree.json?, mapM_json?_treeItems items depth h]
    rfl
  | object members, depth + 1, h => by
    rw [tree, Tree.json?, foldMembers_json?_treeMembers members depth h]
    rfl

theorem mapM_json?_treeItems : (items : List Json) → (depth : Nat) → FitsItems depth items →
    (treeItems items).mapM (Tree.json? depth) = some (settleItems items)
  | [], _, _ => rfl
  | item :: items, depth, h => by
    rw [treeItems, List.mapM_cons, json?_tree item depth h.1,
      mapM_json?_treeItems items depth h.2]
    rfl

theorem foldMembers_json?_treeMembers : (members : Members) → (depth : Nat) →
    FitsMembers depth members → (sorted : Members) →
    Tree.foldMembers (fun key t ms => (Tree.json? depth t).map (Entries.put key · ms))
      (treeMembers members) sorted = some (Entries.overlay sorted (settleMembers members))
  | [], _, _, _ => rfl
  | (name, value) :: members, depth, h, sorted => by
    rw [treeMembers, Tree.foldMembers, json?_tree value depth h.1, Option.map_some,
      Option.bind_some, foldMembers_json?_treeMembers members depth h.2]
    rfl

end

/-- The text of a value is read as the value. -/
theorem ofText_text {v : Json} (hexact : v.Exact) (hfits : v.Fits greatestDepth) :
    ofText v.text = .ok v.settle := by
  have hread := (Reader.reads_value greatestDepth).toOption_parse (spelledBy_text hexact)
  rw [json?_tree v greatestDepth hfits] at hread
  exact toOption_eq_some_iff.mp hread

end Provisioner.Json
