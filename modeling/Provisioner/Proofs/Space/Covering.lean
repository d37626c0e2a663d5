import Provisioner.Space.Document
/-!
# Texts with other identifiers

Two texts may be the same but for the identifiers of questions in them (`SameButIds`). With all
identifiers covered they are the same (`maskIds_congr`).

An identifier that is found in such a text need not be one in which the two differ; it may as well
stand in what they have in common. Then it stands there as a whole. For the place of an identifier
begins with a quote and an `i`, and from its second character to its last digit there is no quote
with an `i` behind it; so no other place begins before the closing quote. That quote may belong to
the next place, and the search goes on right there.
-/

namespace Provisioner.Space

open Text (hexDigit hexPadded)

variable {s s' t t' w : List Char} {c : Char}

/-! ### Identifiers have the form that is searched for -/

theorem isIdDigit_hexDigit {n : Nat} (h : n < 16) : isIdDigit (hexDigit n) = true := by
  have : ∀ m : Fin 16, isIdDigit (hexDigit m) = true := by decide
  exact this ⟨n, h⟩

theorem isIdDigit_of_mem_hexPadded {width n : Nat} (h : c ∈ hexPadded width n) :
    isIdDigit c = true := by
  induction width generalizing n with
  | zero => cases h
  | succ width ih =>
    rw [hexPadded, List.mem_append, List.mem_singleton] at h
    rcases h with hfront | rfl
    · exact ih hfront
    · exact isIdDigit_hexDigit (Nat.mod_lt n (by decide))

theorem getElem?_behind {front rest : List Char} {n : Nat} (h : front.length = n) :
    (front ++ c :: rest)[n]? = some c := by
  rw [List.getElem?_append_right (Nat.le_of_eq h), h, Nat.sub_self]
  rfl

namespace QuestionId

theorem isIdDigit_of_mem (id : QuestionId) (h : c ∈ id.digits) : isIdDigit c = true := by
  have hvariant : 8 + id.variant.val < 16 := by have := id.variant.isLt; omega
  simp only [digits, List.mem_append, List.mem_cons] at h
  rcases h with hhead | rfl | hmiddle | rfl | htail
  · exact isIdDigit_of_mem_hexPadded hhead
  · decide
  · exact isIdDigit_of_mem_hexPadded hmiddle
  · exact isIdDigit_hexDigit hvariant
  · exact isIdDigit_of_mem_hexPadded htail

theorem isId_digits (id : QuestionId) : isId id.digits = true := by
  have hall : id.digits.all isIdDigit = true :=
    List.all_eq_true.mpr fun c hc => id.isIdDigit_of_mem hc
  have hversion : id.digits[12]? = some '4' := getElem?_behind (Text.length_hexPadded 12 _)
  have hvariant : id.digits[16]? = some (hexDigit (8 + id.variant)) := by
    have hsplit : id.digits = (hexPadded 12 id.head ++ '4' :: hexPadded 3 id.middle) ++
        hexDigit (8 + id.variant) :: hexPadded 15 id.tail := by
      rw [digits, List.append_assoc, List.cons_append]
    rw [hsplit]
    apply getElem?_behind
    rw [List.length_append, List.length_cons, Text.length_hexPadded, Text.length_hexPadded]
  have hdigit : ∀ v : Fin 4, (hexDigit (8 + v) == '8' || hexDigit (8 + v) == '9' ||
      hexDigit (8 + v) == 'a' || hexDigit (8 + v) == 'b') = true := by decide
  simp only [isId, length_digits, hall, hversion, hvariant, Option.any_some, hdigit id.variant]
  rfl

end QuestionId

/-! ### The search -/

theorem length_of_isId (h : isId w = true) : w.length = 32 := by
  simp only [isId, Bool.and_eq_true, beq_iff_eq] at h
  exact h.1.1.1

theorem isIdDigit_of_isId (h : isId w = true) : ∀ c ∈ w, isIdDigit c = true := by
  simp only [isId, Bool.and_eq_true] at h
  exact List.all_eq_true.mp h.1.1.2

/-- What is found stands behind its key and in front of a quote. -/
theorem idHere?_eq_some_iff :
    idHere? s = some w ↔ isId w = true ∧ ∃ rest, s = idLead ++ (w ++ '"' :: rest) := by
  constructor
  · intro h
    unfold idHere? at h
    split at h
    · rename_i hlead
      obtain ⟨behind, rfl⟩ := List.isPrefixOf_iff_prefix.mp hlead
      simp only [List.drop_left, Bool.and_eq_true, beq_iff_eq, List.getElem?_append_right,
        Nat.le_add_right, Nat.add_sub_cancel_left] at h
      split at h
      · rename_i hfound
        obtain rfl := Option.some.inj h
        obtain ⟨hid, hquote⟩ := hfound
        refine ⟨hid, behind.drop 33, ?_⟩
        obtain ⟨hlt, hget⟩ := List.getElem?_eq_some_iff.mp hquote
        rw [← hget, ← List.drop_eq_getElem_cons hlt, List.take_append_drop]
      · cases h
    · cases h
  · rintro ⟨hid, rest, rfl⟩
    have hlength := length_of_isId hid
    have htake : (w ++ '"' :: rest).take 32 = w := by rw [← hlength, List.take_left]
    have hquote : (w ++ '"' :: rest)[32]? = some '"' := getElem?_behind hlength
    have hlead : idLead.isPrefixOf (idLead ++ (w ++ '"' :: rest)) = true :=
      List.isPrefixOf_iff_prefix.mpr (List.prefix_append _ _)
    rw [idHere?, if_pos hlead]
    simp only [List.drop_left, htake, hid, List.getElem?_append_right, Nat.le_add_right,
      Nat.add_sub_cancel_left, hquote, beq_self_eq_true, Bool.and_self, if_pos]

/-- The search goes on at the quote behind the identifier. -/
theorem maskIds_of_id (hw : isId w = true) (rest : List Char) :
    maskIds (idLead ++ (w ++ '"' :: rest)) =
      (idLead ++ idCover ++ (maskIds ('"' :: rest)).1, w :: (maskIds ('"' :: rest)).2) := by
  have hhere : idHere? ('"' :: (idLead.tail ++ (w ++ '"' :: rest))) = some w :=
    idHere?_eq_some_iff.mpr ⟨hw, rest, rfl⟩
  have hdrop : (idLead.tail ++ (w ++ '"' :: rest)).drop 37 = '"' :: rest := by
    rw [← List.append_assoc]
    exact List.drop_left' (by rw [List.length_append, length_of_isId hw]; rfl)
  show maskIds ('"' :: (idLead.tail ++ (w ++ '"' :: rest))) = _
  rw [maskIds, hhere, hdrop]

theorem maskIds_of_none (h : idHere? (c :: s) = none) :
    maskIds (c :: s) = (c :: (maskIds s).1, (maskIds s).2) := by
  rw [maskIds, h]

/-! ### Other identifiers -/

/-- The texts are the same but for identifiers of questions, each in its place. -/
inductive SameButIds : List Char → List Char → Prop
  | nil : SameButIds [] []
  | cons (c : Char) {s t : List Char} (h : SameButIds s t) : SameButIds (c :: s) (c :: t)
  | id (i j : QuestionId) {s t : List Char} (h : SameButIds s t) :
      SameButIds (idLead ++ (i.digits ++ '"' :: s)) (idLead ++ (j.digits ++ '"' :: t))

namespace SameButIds

theorem refl (s : List Char) : SameButIds s s := by
  induction s with
  | nil => exact .nil
  | cons c s ih => exact .cons c ih

theorem symm (h : SameButIds s t) : SameButIds t s := by
  induction h with
  | nil => exact .nil
  | cons c _ ih => exact .cons c ih
  | id i j _ ih => exact .id j i ih

theorem append (h : SameButIds s t) (h' : SameButIds s' t') :
    SameButIds (s ++ s') (t ++ t') := by
  induction h with
  | nil => exact h'
  | cons c _ ih => exact .cons c ih
  | id i j _ ih =>
    simp only [List.append_assoc, List.cons_append]
    exact .id i j ih

/-! A character at which no identifier has its place is common. -/

theorem uncons (h : SameButIds (c :: s) t) (hplace : ¬ idLead <+: c :: s) :
    ∃ t', t = c :: t' ∧ SameButIds s t' := by
  generalize hs : c :: s = s' at h
  cases h with
  | nil => cases hs
  | cons d h =>
    obtain ⟨rfl, rfl⟩ := List.cons.inj hs
    exact ⟨_, rfl, h⟩
  | id i j h => exact absurd (hs ▸ List.prefix_append _ _) hplace

theorem unappend {front : List Char} (h : SameButIds (front ++ s) t)
    (hquote : ∀ c ∈ front, c ≠ '"') : ∃ t', t = front ++ t' ∧ SameButIds s t' := by
  induction front generalizing t with
  | nil => exact ⟨t, rfl, h⟩
  | cons c front ih =>
    have hplace : ¬ idLead <+: c :: (front ++ s) := by
      intro hlead
      exact hquote c List.mem_cons_self (List.cons_prefix_cons.mp hlead).1.symm
    obtain ⟨t₁, rfl, h₁⟩ := uncons h hplace
    obtain ⟨t₂, rfl, h₂⟩ := ih h₁ fun d hd => hquote d (List.mem_cons_of_mem c hd)
    exact ⟨t₂, rfl, h₂⟩

theorem head_quote (h : SameButIds ('"' :: s) t) : ∃ t', t = '"' :: t' := by
  generalize hs : '"' :: s = s' at h
  cases h with
  | nil => cases hs
  | cons d h =>
    obtain ⟨rfl, rfl⟩ := List.cons.inj hs
    exact ⟨_, rfl⟩
  | id i j h => exact ⟨_, rfl⟩

/-- An identifier is common if the first character of its place is. -/
theorem common_id {rest : List Char} (hw : isId w = true)
    (h : SameButIds (idLead.tail ++ (w ++ '"' :: rest)) t) :
    ∃ rest', t = idLead.tail ++ (w ++ '"' :: rest') ∧ SameButIds ('"' :: rest) ('"' :: rest') := by
  have hdigit := isIdDigit_of_isId hw
  have hquote : ∀ c ∈ w, c ≠ '"' := by
    rintro c hc rfl
    exact absurd (hdigit _ hc) (by decide)
  have hplace : ¬ idLead <+: '"' :: (w ++ '"' :: rest) := by
    intro hlead
    have hbehind := (List.cons_prefix_cons.mp hlead).2
    cases w with
    | nil => exact absurd (List.cons_prefix_cons.mp hbehind).1 (by decide)
    | cons d w =>
      obtain rfl := (List.cons_prefix_cons.mp hbehind).1
      exact absurd (hdigit _ List.mem_cons_self) (by decide)
  have hcolon : ¬ idLead <+: '"' :: ':' :: '"' :: (w ++ '"' :: rest) := by
    intro hlead
    exact absurd (List.cons_prefix_cons.mp (List.cons_prefix_cons.mp hlead).2).1 (by decide)
  have hlead : idLead.tail ++ (w ++ '"' :: rest) =
      ['i', 'd'] ++ '"' :: ([':'] ++ '"' :: (w ++ '"' :: rest)) := rfl
  rw [hlead] at h
  obtain ⟨t₁, rfl, h₁⟩ := h.unappend (by simp)
  obtain ⟨t₂, rfl, h₂⟩ := h₁.uncons hcolon
  obtain ⟨t₃, rfl, h₃⟩ := h₂.unappend (by simp)
  obtain ⟨t₄, rfl, h₄⟩ := h₃.uncons hplace
  obtain ⟨t₅, rfl, h₅⟩ := h₄.unappend hquote
  obtain ⟨rest', rfl⟩ := h₅.head_quote
  exact ⟨rest', rfl, h₅⟩

/-- What is found behind a common character is found in both texts. -/
theorem idHere?_cons (h : SameButIds s t) (hs : idHere? (c :: s) = some w) :
    idHere? (c :: t) = some w := by
  obtain ⟨hw, rest, hplace⟩ := idHere?_eq_some_iff.mp hs
  obtain ⟨rfl, rfl⟩ := List.cons.inj hplace
  obtain ⟨rest', rfl, -⟩ := common_id hw h
  exact idHere?_eq_some_iff.mpr ⟨hw, rest', rfl⟩

end SameButIds

/-- With all identifiers covered the texts are the same. -/
theorem maskIds_congr (h : SameButIds s t) : (maskIds s).1 = (maskIds t).1 := by
  -- By length, since the search leaves a whole identifier behind in one step.
  induction hlength : s.length using Nat.strongRecOn generalizing s t with
  | ind n ih =>
    cases h with
    | nil => rfl
    | id i j h =>
      rw [maskIds_of_id i.isId_digits, maskIds_of_id j.isId_digits,
        ih _ (by rw [← hlength]; simp [idLead]; omega) (.cons '"' h) rfl]
    | cons c h =>
      rename_i s t
      cases hs : idHere? (c :: s) with
      | some w =>
        -- An identifier that begins with a common character is common, and covered in both.
        obtain ⟨hw, rest, hplace⟩ := idHere?_eq_some_iff.mp hs
        obtain ⟨rfl, rfl⟩ := List.cons.inj hplace
        obtain ⟨rest', rfl, hrest⟩ := h.common_id hw
        have hmask := ih _ (by rw [← hlength]; simp; omega) hrest rfl
        have hleft := congrArg Prod.fst (maskIds_of_id hw rest)
        have hright := congrArg Prod.fst (maskIds_of_id hw rest')
        exact hleft.trans ((congrArg (idLead ++ idCover ++ ·) hmask).trans hright.symm)
      | none =>
        have ht : idHere? (c :: t) = none := by
          cases ht : idHere? (c :: t) with
          | none => rfl
          | some w =>
            rw [h.symm.idHere?_cons ht] at hs
            cases hs
        rw [maskIds_of_none hs, maskIds_of_none ht]
        exact congrArg (c :: ·) (ih _ (by rw [← hlength]; simp) h rfl)

end Provisioner.Space
