import Provisioner.Json.Text
import Provisioner.Proofs.Json.Numerals
/-!
# What is written

The text of a value says the value: it is one of the texts of `Json.tree` (`spells_write`). This
holds of every value without floats; how those are written is not the matter here.
-/

namespace Provisioner.Json

/-! ### Integers -/

namespace Numeral

/-- How an integer is written. -/
def ofInteger (n : Int) : Numeral :=
  { negative := n < 0, whole := Nat.toDigits 10 n.natAbs, fraction := [], exponent := none }

theorem isDigit_of_mem_toDigits {n : Nat} {d : Char} (h : d ∈ Nat.toDigits 10 n) :
    d.isDigit = true :=
  Nat.isDigit_of_mem_toDigits (by decide) (by decide) h

theorem digitChar_ne_zero {n : Nat} (hpos : 0 < n) (hlt : n < 10) : n.digitChar ≠ '0' := by
  intro h
  have hvalue := Nat.toNat_digitChar_sub_48_of_lt_ten hlt
  simp [h] at hvalue
  omega

theorem head_toDigits (n : Nat) (hpos : 0 < n) :
    ∃ d ds, Nat.toDigits 10 n = d :: ds ∧ d ≠ '0' := by
  induction n using Nat.strongRecOn with
  | ind n ih =>
    by_cases hlt : n < 10
    · exact ⟨n.digitChar, [], Nat.toDigits_of_lt_base hlt, digitChar_ne_zero hpos hlt⟩
    · obtain ⟨d, ds, hds, hne⟩ := ih (n / 10) (by omega) (by omega)
      refine ⟨d, ds ++ [(n % 10).digitChar], ?_, hne⟩
      rw [Nat.toDigits_of_base_le (by decide) (Nat.not_lt.mp hlt), hds, List.cons_append]

theorem whole_toDigits (n : Nat) : Whole (Nat.toDigits 10 n) := by
  by_cases hzero : n = 0
  · rw [hzero, Nat.toDigits_zero]
    exact .zero
  · obtain ⟨d, ds, hds, hne⟩ := head_toDigits n (Nat.pos_of_ne_zero hzero)
    have hdigit : ∀ e ∈ d :: ds, e.isDigit = true := fun e he =>
      isDigit_of_mem_toDigits (hds ▸ he)
    rw [hds]
    exact .positive hne (hdigit d List.mem_cons_self) fun e he =>
      hdigit e (List.mem_cons_of_mem d he)

theorem spells_writeInteger (n : Int) : (ofInteger n).Spells (writeInteger n) := by
  have hspells : (ofInteger n).Spells
      (sign (n < 0) ++ (Nat.toDigits 10 n.natAbs ++ ([] ++ []))) :=
    .mk (whole_toDigits _) .absent .absent
  unfold writeInteger
  by_cases hneg : n < 0 <;> simpa [sign, hneg] using hspells

theorem decimalFrom_toDigits (n : Nat) : decimalFrom 0 (Nat.toDigits 10 n) = n := by
  have hvalue := Nat.ofDigitChars_ten_toDigits (n := n)
  simp only [Nat.ofDigitChars, Nat.mul_comm 10] at hvalue
  exact hvalue

theorem natural?_ofInteger (n : Nat) : (ofInteger n).natural? = some n := by
  have hneg : ¬ (n : Int) < 0 := by omega
  simp [natural?, ofInteger, hneg, decimalFrom_toDigits]

end Numeral

/-! ### Values -/

mutual

/-- What a value's text says. A float counts as nothing. -/
def tree : Json → Tree
  | null => .null
  | boolean b => .boolean b
  | number (.integer n) => .number (.ofInteger n)
  | number (.float _) => .null
  | string s => .string (some s)
  | array items => .array (treeItems items)
  | object members => .object (treeMembers members)

def treeItems : List Json → List Tree
  | [] => []
  | item :: items => tree item :: treeItems items

def treeMembers : Members → Tree.Members
  | [] => []
  | (name, value) :: members => (some name, tree value) :: treeMembers members

end

mutual

/-- No float is part of a value. -/
def Exact : Json → Prop
  | number (.float _) => False
  | array items => ExactItems items
  | object members => ExactMembers members
  | _ => True

def ExactItems : List Json → Prop
  | [] => True
  | item :: items => Exact item ∧ ExactItems items

def ExactMembers : Members → Prop
  | [] => True
  | (_, value) :: members => Exact value ∧ ExactMembers members

end

theorem says_write (s : String) (rest : List Char) :
    Quotation.Says (some s) (s.toList.flatMap Quotation.writeChar ++ '"' :: rest) rest :=
  .characters (Quotation.spells_write s rest)

theorem quotation_write_append (s : String) (rest : List Char) :
    Quotation.write s ++ rest = '"' :: (s.toList.flatMap Quotation.writeChar ++ '"' :: rest) := by
  simp [Quotation.write]

mutual

/-- The text of a value is one of the texts of what it says. -/
theorem spells_write : (v : Json) → v.Exact → (rest : List Char) →
    Tree.Spells (.value v.tree) (v.write ++ rest) rest
  | null, _, _ => .null
  | boolean true, _, _ => .yes
  | boolean false, _, _ => .no
  | number (.integer n), _, rest => .number (Numeral.spells_writeInteger n)
  | string s, _, rest => by
    rw [write, quotation_write_append]
    exact .string (says_write s rest)
  | array [], _, rest => .array (.noItem .nil)
  | array (item :: items), h, rest => by
    rw [write, List.cons_append, List.append_assoc]
    exact .array (.item (.first .nil) (spells_write item h.1 _) (spells_writeItems items h.2 rest))
  | object [], _, rest => .object (.noMember .nil)
  | object ((name, value) :: members), h, rest => by
    rw [write, List.cons_append, List.append_assoc, quotation_write_append, List.cons_append,
      List.append_assoc]
    exact .object (.member (.first .nil) (says_write name _) .nil .nil (spells_write value h.1 _)
      (spells_writeMembers members h.2 rest))

theorem spells_writeItems : (items : List Json) → ExactItems items → (rest : List Char) →
    Tree.Spells (.items false (treeItems items)) (writeItems items ++ rest) rest
  | [], _, rest => .noItem .nil
  | item :: items, h, rest => by
    rw [writeItems, List.cons_append, List.append_assoc]
    exact .item (.later .nil .nil) (spells_write item h.1 _) (spells_writeItems items h.2 rest)

theorem spells_writeMembers : (members : Members) → ExactMembers members → (rest : List Char) →
    Tree.Spells (.members false (treeMembers members)) (writeMembers members ++ rest) rest
  | [], _, rest => .noMember .nil
  | (name, value) :: members, h, rest => by
    rw [writeMembers, List.cons_append, List.append_assoc, quotation_write_append, List.cons_append,
      List.append_assoc]
    exact .member (.later .nil .nil) (says_write name _) .nil .nil (spells_write value h.1 _)
      (spells_writeMembers members h.2 rest)

end

/-- The text of a value says the value and nothing else. -/
theorem spelledBy_text {v : Json} (h : v.Exact) : v.tree.SpelledBy v.text.toList := by
  have hspells := spells_write v h []
  rw [List.append_nil] at hspells
  rw [text, String.toList_ofList]
  exact .mk .nil hspells .nil

end Provisioner.Json
