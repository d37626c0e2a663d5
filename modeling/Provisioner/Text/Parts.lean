/-!
# Parts of texts and places in them

A text is cut at a number of bytes (`Text.cutAt?`), at the first place where a character stands
(`Text.splitOnce`) or at its line ends (`Text.lines`), and searched for another text
(`Text.occursIn`). For a reader of a diagnostic a place is a line and a column (`Position`).
-/

namespace Provisioner

namespace Text

/-! ## Lengths in bytes -/

/-- The length of a text in UTF-8 bytes, on top of those of a text in front of it. -/
def byteSizeFrom (bytes : Nat) : List Char → Nat
  | [] => bytes
  | c :: cs => byteSizeFrom (bytes + c.utf8Size) cs

/-- The length of a text in UTF-8 bytes. -/
def byteSize (cs : List Char) : Nat := byteSizeFrom 0 cs

theorem byteSizeFrom_eq (bytes : Nat) (cs : List Char) :
    byteSizeFrom bytes cs = bytes + byteSize cs := by
  induction cs generalizing bytes with
  | nil => rfl
  | cons c cs ih =>
    rw [byteSize, byteSizeFrom, byteSizeFrom, ih, ih (0 + c.utf8Size)]
    omega

@[simp] theorem byteSize_nil : byteSize [] = 0 := rfl

@[simp] theorem byteSize_cons (c : Char) (cs : List Char) :
    byteSize (c :: cs) = c.utf8Size + byteSize cs := by
  rw [byteSize, byteSizeFrom, byteSizeFrom_eq]
  omega

/-!
## Parts of a text by bytes

A part of a text is given by two places, each counted in UTF-8 bytes from the beginning. A place
inside a character is none where a text can be cut.
-/

/-- What stands in front of a place and what stands behind it. -/
def cutAt? (place : Nat) : List Char → Option (List Char × List Char)
  | [] => if place = 0 then some ([], []) else none
  | c :: cs =>
      if place = 0 then some ([], c :: cs)
      else if place < c.utf8Size then none
      else (cutAt? (place - c.utf8Size) cs).map fun halves => (c :: halves.1, halves.2)

/-- What stands behind a place. -/
def behind? (place : Nat) (cs : List Char) : Option (List Char) := (cutAt? place cs).map (·.2)

/-- What stands between two places. -/
def slice? (start stop : Nat) (cs : List Char) : Option (List Char) := do
  let (_, rest) ← cutAt? start cs
  let (part, _) ← cutAt? (stop - start) rest
  return part

/-- A text can be cut between any two characters, and nowhere else. -/
theorem cutAt?_eq_some_iff {place : Nat} {cs before after : List Char} :
    cutAt? place cs = some (before, after) ↔ cs = before ++ after ∧ place = byteSize before := by
  induction cs generalizing place before with
  | nil =>
    simp only [cutAt?, List.nil_eq_append_iff]
    constructor
    · grind [byteSize_nil]
    · rintro ⟨⟨rfl, rfl⟩, rfl⟩
      rfl
  | cons c cs ih =>
    have hpos := c.utf8Size_pos
    cases before with
    | nil => grind [cutAt?, byteSize_nil, Option.map_eq_some_iff]
    | cons b before =>
      have hb := b.utf8Size_pos
      simp only [cutAt?, byteSize_cons, List.cons_append, List.cons.injEq]
      split
      · simp
        omega
      split
      · simp only [reduceCtorEq, false_iff, not_and]
        rintro ⟨rfl, -⟩
        omega
      · simp only [Option.map_eq_some_iff, Prod.exists, Prod.mk.injEq, List.cons.injEq]
        constructor
        · rintro ⟨x, y, hcut, ⟨rfl, rfl⟩, rfl⟩
          obtain ⟨hcs, hplace⟩ := ih.mp hcut
          exact ⟨⟨rfl, hcs⟩, by omega⟩
        · rintro ⟨⟨rfl, hcs⟩, hplace⟩
          exact ⟨before, after, ih.mpr ⟨hcs, by omega⟩, ⟨rfl, rfl⟩, rfl⟩

/-!
## Searching and splitting texts

A text occurs in another if it begins at some place of it; the empty text occurs everywhere. A text
is split at the first place where a character stands.
-/

/-- Whether `part` stands somewhere in a text. -/
def isPart (part : List Char) : List Char → Bool
  | [] => part.isEmpty
  | c :: cs => part.isPrefixOf (c :: cs) || isPart part cs

/-- Whether one string occurs in another. -/
def occursIn (part whole : String) : Bool := isPart part.toList whole.toList

/-- What stands in front of the first `sep` and what stands behind it. -/
def cut? (sep : Char) : List Char → Option (List Char × List Char)
  | [] => none
  | c :: cs =>
      if c = sep then some ([], cs)
      else (cut? sep cs).map fun halves => (c :: halves.1, halves.2)

/-- A string in front of the first `sep` and behind it. -/
def splitOnce (sep : Char) (s : String) : Option (String × String) :=
  (cut? sep s.toList).map fun halves => (String.ofList halves.1, String.ofList halves.2)

theorem isPart_iff {part cs : List Char} : isPart part cs = true ↔ part <:+: cs := by
  induction cs with
  | nil => cases part <;> simp [isPart]
  | cons c cs ih =>
    simp only [isPart, Bool.or_eq_true, List.isPrefixOf_iff_prefix, ih, List.infix_cons_iff]

/-- The halves and the separator make up the text, and the first half is free of separators. -/
theorem cut?_eq_some_iff {sep : Char} {cs before after : List Char} :
    cut? sep cs = some (before, after) ↔ cs = before ++ sep :: after ∧ sep ∉ before := by
  induction cs generalizing before with
  | nil => simp [cut?]
  | cons c cs ih =>
    by_cases h : c = sep
    · subst h
      cases before with
      | nil => simp [cut?, eq_comm]
      | cons b before =>
        simp only [cut?, if_true, Option.some.injEq, Prod.mk.injEq, List.cons_append,
          List.cons.injEq, List.mem_cons, not_or]
        constructor
        · rintro ⟨h, -⟩
          simp at h
        · rintro ⟨⟨rfl, -⟩, h, -⟩
          exact absurd rfl h
    · cases before with
      | nil => simp [cut?, h]
      | cons b before =>
        simp only [cut?, h, if_false, Option.map_eq_some_iff, Prod.exists, Prod.mk.injEq,
          List.cons.injEq, List.cons_append, List.mem_cons, not_or]
        constructor
        · rintro ⟨x, y, hcut, ⟨rfl, rfl⟩, rfl⟩
          obtain ⟨hcs, hsep⟩ := ih.mp hcut
          exact ⟨⟨rfl, hcs⟩, Ne.symm h, hsep⟩
        · rintro ⟨⟨rfl, hcs⟩, -, hsep⟩
          exact ⟨before, after, ih.mpr ⟨hcs, hsep⟩, ⟨rfl, rfl⟩, rfl⟩

theorem splitOnce_eq_some_iff {sep : Char} {s before after : String} :
    splitOnce sep s = some (before, after) ↔
      s.toList = before.toList ++ sep :: after.toList ∧ sep ∉ before.toList := by
  rw [← cut?_eq_some_iff, splitOnce, Option.map_eq_some_iff]
  constructor
  · rintro ⟨⟨b, a⟩, hcut, heq⟩
    obtain ⟨rfl, rfl⟩ := Prod.mk.inj heq
    rw [hcut, String.toList_ofList, String.toList_ofList]
  · intro hcut
    exact ⟨_, hcut, by simp⟩

/-- A string can be split exactly at the separators that it has. -/
theorem exists_splitOnce_iff {sep : Char} {s : String} :
    (∃ before after, splitOnce sep s = some (before, after)) ↔ sep ∈ s.toList := by
  constructor
  · rintro ⟨before, after, h⟩
    rw [(splitOnce_eq_some_iff.mp h).1]
    exact List.mem_append_right _ List.mem_cons_self
  · intro h
    obtain ⟨before, after, htext, hbefore⟩ := List.eq_append_cons_of_mem h
    refine ⟨String.ofList before, String.ofList after, splitOnce_eq_some_iff.mpr ?_⟩
    simpa using ⟨htext, hbefore⟩

/-!
## Lines of a text

A line ends with a line feed, which may have a carriage return in front of it.
-/

/-- A line without a carriage return at its end. -/
def dropReturn (cs : List Char) : List Char :=
  if cs.getLast? = some '\r' then cs.dropLast else cs

def lines (s : String) : List String :=
  (s.toList.splitOn '\n').map fun line => String.ofList (dropReturn line)

/-- A carriage return inside a line belongs to it. -/
example : dropReturn ['a', '\r', 'b', '\r'] = ['a', '\r', 'b'] := rfl

end Text

/-!
## Positions in a text

A diagnostic points into a text by line and column. Lines are counted from one; a column is the
number of UTF-8 bytes between the last line break and the place, so that a place may lie inside a
character. A reader of a text only knows what is left to read, hence a place is handed over as the
number of bytes not yet read (`Position.before`).
-/

/-- A place in a text: the line, from one, and the bytes before it on that line. -/
structure Position where
  line : Nat
  column : Nat
deriving DecidableEq, Repr

namespace Position

/-- Where every text begins. -/
def start : Position := ⟨1, 0⟩

/-- The place behind one more character. -/
def next (p : Position) (c : Char) : Position :=
  if c = '\n' then ⟨p.line + 1, 0⟩ else ⟨p.line, p.column + c.utf8Size⟩

/-- The place `bytes` bytes further on in a text that begins at `p`. -/
def advance (p : Position) : List Char → Nat → Position
  | [], _ => p
  | c :: cs, bytes =>
      if bytes < c.utf8Size then ⟨p.line, p.column + bytes⟩
      else advance (p.next c) cs (bytes - c.utf8Size)

/-- The place in `text` that has `unread` bytes behind it. -/
def before (text : List Char) (unread : Nat) : Position :=
  start.advance text (Text.byteSize text - unread)

end Position

end Provisioner
