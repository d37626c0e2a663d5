/-!
# Sets of characters

Characters have an order, and a set of them is known by its edges in that order: the places where it
begins and, alternately, where it has ended. The edges increase, so two sets of the same characters
have the same edges, and to put a set together with another is one walk along the edges of both
(`combine`, with the law `contains_combine`). Places are counted over characters alone; the code
points of surrogates are left out of the count, so that a set and what it lacks have no gap between
them.
-/

namespace Provisioner.Text

/-- A set of characters, by its edges. -/
structure CharSet where
  edges : List Nat
  increasing : edges.Pairwise (· < ·)
deriving DecidableEq, Repr

namespace CharSet

/-! ### Membership -/

/-- Whether a place is inside: an odd number of edges is passed on the way to it. -/
def isInside (place : Nat) : List Nat → Bool
  | [] => false
  | edge :: edges => edge ≤ place && !isInside place edges

def contains (s : CharSet) (c : Char) : Bool := isInside c.ordinal s.edges

/-- Begin or end at a place in front of all edges. What would begin and end there does neither. -/
def toggle (place : Nat) (edges : List Nat) : List Nat :=
  if edges.head? = some place then edges.tail else place :: edges

/-- No place in front of all edges is inside. -/
theorem isInside_of_lt {place : Nat} {edges : List Nat} (h : ∀ e ∈ edges, place < e) :
    isInside place edges = false := by
  cases edges with
  | nil => rfl
  | cons edge edges =>
    have := h edge (by simp)
    simp only [isInside, Bool.and_eq_false_iff, decide_eq_false_iff_not]
    omega

theorem pairwise_toggle {place : Nat} {edges : List Nat} (hle : ∀ e ∈ edges, place ≤ e)
    (h : edges.Pairwise (· < ·)) : (toggle place edges).Pairwise (· < ·) := by
  unfold toggle
  split
  · exact h.tail
  · rename_i hne
    refine List.pairwise_cons.mpr ⟨fun e he => ?_, h⟩
    cases edges with
    | nil => simp at he
    | cons edge edges =>
      have hplace := hle edge (by simp)
      simp only [List.head?_cons, Option.some.injEq] at hne
      rcases List.mem_cons.mp he with rfl | he
      · omega
      · have := (List.pairwise_cons.mp h).1 e he
        omega

theorem le_of_mem_toggle {place : Nat} {edges : List Nat} (hle : ∀ e ∈ edges, place ≤ e) :
    ∀ e ∈ toggle place edges, place ≤ e := by
  intro e he
  unfold toggle at he
  split at he
  · exact hle e (List.mem_of_mem_tail he)
  · rcases List.mem_cons.mp he with rfl | he
    · exact Nat.le_refl _
    · exact hle e he

/-- From the place on, what was inside is outside, and the other way round. -/
theorem isInside_toggle {place : Nat} {edges : List Nat} (hle : ∀ e ∈ edges, place ≤ e)
    (h : edges.Pairwise (· < ·)) (x : Nat) :
    isInside x (toggle place edges) = (decide (place ≤ x) ^^ isInside x edges) := by
  unfold toggle
  split
  · rename_i hhead
    obtain ⟨rest, rfl⟩ := List.head?_eq_some_iff.mp hhead
    by_cases hx : place ≤ x
    · simp [isInside, hx]
    · have hrest : isInside x rest = false :=
        isInside_of_lt fun e he => by
          have := (List.pairwise_cons.mp h).1 e he
          omega
      simp [isInside, hx, hrest]
  · by_cases hx : place ≤ x
    · simp [isInside, hx]
    · have hedges : isInside x edges = false :=
        isInside_of_lt fun e he => by
          have := hle e he
          omega
      simp [isInside, hx, hedges]

/-! ### Simple sets -/

def empty : CharSet := ⟨[], .nil⟩

def complement (s : CharSet) : CharSet :=
  ⟨toggle 0 s.edges, pairwise_toggle (by simp) s.increasing⟩

/-- The places from one up to another, which is left out. -/
def interval (start stop : Nat) : CharSet :=
  if h : start < stop then ⟨[start, stop], by simpa using h⟩ else empty

/-- All characters from a place on. -/
def tail (start : Nat) : CharSet := ⟨[start], by simp⟩

/-- All characters from one to another. -/
def range (first last : Char) : CharSet :=
  if last < first then empty
  else if last.ordinal.val + 1 = Char.numCodePoints then tail first.ordinal
  else interval first.ordinal (last.ordinal + 1)

def singleton (c : Char) : CharSet := range c c

def charAt? (place : Nat) : Option Char :=
  if h : place < Char.numCodePoints then some (.ofOrdinal ⟨place, h⟩) else none

/-- The only character of a set that has no more than one. -/
def only? (s : CharSet) : Option Char :=
  match s.edges with
  | [start] => if start + 1 = Char.numCodePoints then charAt? start else none
  | [start, stop] => if start + 1 = stop then charAt? start else none
  | _ => none

@[simp] theorem contains_empty (c : Char) : empty.contains c = false := rfl

@[simp] theorem contains_complement (s : CharSet) (c : Char) :
    s.complement.contains c = !s.contains c := by
  simp only [contains, complement]
  rw [isInside_toggle (by simp) s.increasing]
  simp

/-! ### Two sets -/

/-- An edge of one of two sets. -/
structure Edge where
  place : Nat
  isSecond : Bool

/-- Put an edge in front of the first one that does not come before it. -/
def insertEdge (e : Edge) : List Edge → List Edge
  | [] => [e]
  | f :: edges => if e.place ≤ f.place then e :: f :: edges else f :: insertEdge e edges

/-- The edges of two sets in increasing order. -/
def edgesOfBoth (s t : CharSet) : List Edge :=
  (s.edges.map (⟨·, false⟩)).foldr insertEdge (t.edges.map (⟨·, true⟩))

/-- Walk along the edges of two sets, from a place that is inside them or not, and keep the places
    where `op` of being inside the first set and inside the second one changes. -/
def walk (op : Bool → Bool → Bool) (first second : Bool) : List Edge → List Nat
  | [] => []
  | e :: edges =>
      let first' := first ^^ !e.isSecond
      let second' := second ^^ e.isSecond
      let later := walk op first' second' edges
      if op first second = op first' second' then later else toggle e.place later

/-- Edges in an order where none comes before an earlier one. -/
abbrev Ordered (edges : List Edge) : Prop := edges.Pairwise (·.place ≤ ·.place)

theorem mem_insertEdge {e f : Edge} {edges : List Edge} :
    f ∈ insertEdge e edges ↔ f = e ∨ f ∈ edges := by
  induction edges with
  | nil => simp [insertEdge]
  | cons g edges ih =>
    simp only [insertEdge]
    split
    · simp
    · simp only [List.mem_cons, ih]
      grind

theorem ordered_insertEdge {e : Edge} {edges : List Edge} (h : Ordered edges) :
    Ordered (insertEdge e edges) := by
  induction edges with
  | nil => simp [insertEdge, Ordered]
  | cons g edges ih =>
    obtain ⟨hg, hedges⟩ := List.pairwise_cons.mp h
    simp only [insertEdge]
    split
    · rename_i hle
      refine List.pairwise_cons.mpr ⟨fun f hf => ?_, h⟩
      rcases List.mem_cons.mp hf with rfl | hf
      · exact hle
      · exact Nat.le_trans hle (hg f hf)
    · rename_i hle
      refine List.pairwise_cons.mpr ⟨fun f hf => ?_, ih hedges⟩
      rcases mem_insertEdge.mp hf with rfl | hf
      · omega
      · exact hg f hf

theorem ordered_edgesOfBoth (s t : CharSet) : Ordered (edgesOfBoth s t) := by
  have ht : Ordered (t.edges.map (⟨·, true⟩)) :=
    List.pairwise_map.mpr (t.increasing.imp Nat.le_of_lt)
  unfold edgesOfBoth
  generalize s.edges.map (⟨·, false⟩ : Nat → Edge) = firsts
  induction firsts with
  | nil => exact ht
  | cons e firsts ih => exact ordered_insertEdge ih

/-- What is walked begins at no place in front of all edges, and increases. -/
theorem walk_increasing (op : Bool → Bool → Bool) (first second : Bool) {edges : List Edge}
    (h : Ordered edges) :
    (walk op first second edges).Pairwise (· < ·) ∧
      ∀ n, (∀ e ∈ edges, n ≤ e.place) → ∀ x ∈ walk op first second edges, n ≤ x := by
  induction edges generalizing first second with
  | nil => simp [walk]
  | cons e edges ih =>
    obtain ⟨he, hedges⟩ := List.pairwise_cons.mp h
    obtain ⟨hpair, hbound⟩ := ih (first ^^ !e.isSecond) (second ^^ e.isSecond) hedges
    simp only [walk]
    split
    · exact ⟨hpair, fun n hn => hbound n fun f hf => hn f (List.mem_cons_of_mem _ hf)⟩
    · have hle := hbound e.place he
      exact ⟨pairwise_toggle hle hpair, fun n hn x hx =>
        Nat.le_trans (hn e (by simp)) (le_of_mem_toggle hle x hx)⟩

/-- The characters for which `op` of being in the first set and in the second one holds. It is not
    to hold of characters outside both. -/
def combine (op : Bool → Bool → Bool) (s t : CharSet) : CharSet :=
  ⟨walk op false false (edgesOfBoth s t),
    (walk_increasing op false false (ordered_edgesOfBoth s t)).1⟩

/-- Whether a place has an odd number of edges of the first or of the second set in front of it. -/
def isPassed (isSecond : Bool) (x : Nat) : List Edge → Bool
  | [] => false
  | e :: edges => (e.isSecond == isSecond && e.place ≤ x) ^^ isPassed isSecond x edges

theorem isPassed_insertEdge (isSecond : Bool) (x : Nat) (e : Edge) (edges : List Edge) :
    isPassed isSecond x (insertEdge e edges) = isPassed isSecond x (e :: edges) := by
  induction edges with
  | nil => rfl
  | cons f edges ih =>
    simp only [insertEdge]
    split
    · rfl
    · simp only [isPassed, ih, Bool.xor_left_comm]

theorem isPassed_eq_false {isSecond : Bool} {x : Nat} {edges : List Edge}
    (h : ∀ e ∈ edges, e.isSecond = isSecond → x < e.place) : isPassed isSecond x edges = false := by
  induction edges with
  | nil => rfl
  | cons e edges ih =>
    have he := h e (by simp)
    simp only [isPassed, ih fun f hf => h f (List.mem_cons_of_mem _ hf), Bool.xor_false,
      Bool.and_eq_false_iff, beq_eq_false_iff_ne, decide_eq_false_iff_not]
    by_cases hs : e.isSecond = isSecond
    · exact .inr (by have := he hs; omega)
    · exact .inl hs

/-- Edges of one set alone are passed as often as it begins and ends. -/
theorem isPassed_map (isSecond : Bool) (x : Nat) {edges : List Nat}
    (h : edges.Pairwise (· < ·)) :
    isPassed isSecond x (edges.map (⟨·, isSecond⟩)) = isInside x edges := by
  induction edges with
  | nil => rfl
  | cons edge edges ih =>
    obtain ⟨hedge, hedges⟩ := List.pairwise_cons.mp h
    simp only [List.map_cons, isPassed, isInside, ih hedges, beq_self_eq_true, Bool.true_and]
    by_cases hx : edge ≤ x
    · simp [hx]
    · have hedges : isInside x edges = false :=
        isInside_of_lt fun e he => by
          have := hedge e he
          omega
      simp [hx, hedges]

theorem isPassed_edgesOfBoth (isSecond : Bool) (x : Nat) (s t : CharSet) :
    isPassed isSecond x (edgesOfBoth s t) = isInside x (if isSecond then t.edges else s.edges) := by
  have hfold (firsts others : List Edge) :
      isPassed isSecond x (firsts.foldr insertEdge others) =
        (isPassed isSecond x firsts ^^ isPassed isSecond x others) := by
    induction firsts with
    | nil => simp [isPassed]
    | cons e firsts ih =>
      simp only [List.foldr_cons, isPassed_insertEdge, isPassed, ih, Bool.xor_assoc]
  rw [edgesOfBoth, hfold]
  cases isSecond with
  | false =>
    rw [isPassed_map false x s.increasing, isPassed_eq_false (by simp)]
    simp
  | true =>
    rw [isPassed_map true x t.increasing, isPassed_eq_false (by simp)]
    simp

/-- A walk ends inside if the edges that are passed change `op`. -/
theorem isInside_walk (op : Bool → Bool → Bool) (first second : Bool) (x : Nat)
    {edges : List Edge} (h : Ordered edges) :
    isInside x (walk op first second edges) =
      (op first second ^^
        op (first ^^ isPassed false x edges) (second ^^ isPassed true x edges)) := by
  induction edges generalizing first second with
  | nil => simp [walk, isInside, isPassed]
  | cons e edges ih =>
    obtain ⟨he, hedges⟩ := List.pairwise_cons.mp h
    have hwalk := walk_increasing op (first ^^ !e.isSecond) (second ^^ e.isSecond) hedges
    by_cases hx : e.place ≤ x
    · have hlater := ih (first ^^ !e.isSecond) (second ^^ e.isSecond) hedges
      have hpassed (isSecond : Bool) :
          isPassed isSecond x (e :: edges) =
            ((e.isSecond == isSecond) ^^ isPassed isSecond x edges) := by
        simp [isPassed, hx]
      simp only [hpassed]
      simp only [walk]
      split
      · rename_i hop
        rw [hlater, hop]
        cases e.isSecond <;> simp
      · rename_i hop
        rw [isInside_toggle (hwalk.2 e.place he) hwalk.1, hlater]
        have hnot : op first second = !op (first ^^ !e.isSecond) (second ^^ e.isSecond) := by
          cases h₁ : op first second <;>
            cases h₂ : op (first ^^ !e.isSecond) (second ^^ e.isSecond) <;> simp_all
        rw [hnot]
        cases e.isSecond <;> simp [hx]
    · have hnone (isSecond : Bool) : isPassed isSecond x (e :: edges) = false :=
        isPassed_eq_false fun f hf _ => by
          rcases List.mem_cons.mp hf with rfl | hf
          · omega
          · have := he f hf
            omega
      rw [hnone, hnone, Bool.xor_false, Bool.xor_false, Bool.xor_self]
      refine isInside_of_lt fun y hy => ?_
      have := (walk_increasing op first second h).2 e.place
        (fun f hf => by
          rcases List.mem_cons.mp hf with rfl | hf
          · exact Nat.le_refl _
          · exact he f hf) y hy
      omega

/-- A character is in the combination when `op` says so of the two sets. -/
theorem contains_combine {op : Bool → Bool → Bool} (h : op false false = false) (s t : CharSet)
    (c : Char) : (combine op s t).contains c = op (s.contains c) (t.contains c) := by
  simp only [contains, combine]
  rw [isInside_walk op false false _ (ordered_edgesOfBoth s t), h]
  simp [isPassed_edgesOfBoth]

def union : CharSet → CharSet → CharSet := combine or

def intersection : CharSet → CharSet → CharSet := combine and

def difference : CharSet → CharSet → CharSet := combine fun first second => first && !second

/-- The characters that are in one of the sets, and not in both. -/
def symmetricDifference : CharSet → CharSet → CharSet := combine xor

@[simp] theorem contains_union (s t : CharSet) (c : Char) :
    (s.union t).contains c = (s.contains c || t.contains c) := contains_combine rfl s t c

@[simp] theorem contains_intersection (s t : CharSet) (c : Char) :
    (s.intersection t).contains c = (s.contains c && t.contains c) := contains_combine rfl s t c

@[simp] theorem contains_difference (s t : CharSet) (c : Char) :
    (s.difference t).contains c = (s.contains c && !t.contains c) := contains_combine rfl s t c

@[simp] theorem contains_symmetricDifference (s t : CharSet) (c : Char) :
    (s.symmetricDifference t).contains c = (s.contains c ^^ t.contains c) :=
  contains_combine rfl s t c

/-! ### Many sets -/

/-- All characters of some sets. -/
def unions (sets : List CharSet) : CharSet := sets.foldl union empty

/-- All characters out of ranges. -/
def ofRanges (ranges : List (Char × Char)) : CharSet :=
  unions (ranges.map fun ends => range ends.1 ends.2)

/-! ### Upper and lower case -/

/-- The letters of ASCII in both cases, by the places of the alphabet. -/
def letterPairs : List (Char × Char) :=
  (List.range 26).map fun n => (.ofNat ('A'.toNat + n), .ofNat ('a'.toNat + n))

/-- The set together with the other case of each letter of ASCII. -/
def ignoringCase (s : CharSet) : CharSet :=
  let found := letterPairs.filter fun pair => s.contains pair.1 || s.contains pair.2
  unions (s :: found.map fun pair => (singleton pair.1).union (singleton pair.2))

/-- Sets that touch are one. -/
example : (range 'a' 'c').union (range 'd' 'f') = range 'a' 'f' := by decide +kernel

example : (range 'a' 'f').difference (range 'c' 'd') = ofRanges [('e', 'f'), ('a', 'b')] := by
  decide +kernel

example : (range 'X' 'c').ignoringCase = ofRanges [('X', 'c'), ('A', 'C'), ('x', 'z')] := by
  decide +kernel

/-- No character is missing on either side of the surrogates. -/
example :
    ((range '\x00' '\ud7ff').union (range '\ue000' (Char.ofNat 0x10ffff))).complement = empty := by
  decide +kernel

end CharSet

end Provisioner.Text
