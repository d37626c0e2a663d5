import Provisioner.Text.Pattern.Escape
/-!
# Sets between brackets

A set is written between brackets: characters, ranges, named classes and further sets, whose union
it is, and operators between such unions, which bind less tightly and are applied from the left.
With a caret behind its bracket it stands for all other characters. The sets that are not closed yet
are kept in a list, the innermost first. How deep sets are nested is counted along with them.
-/

namespace Provisioner.Text.Pattern

/-- Something that is read, and how deep it is nested. -/
structure Nested (α : Type) where
  value : α
  depth : Nat := 0
deriving DecidableEq, Repr

/-- The depth of several things that are put together; one alone stays as it is. -/
def jointDepth (depths : List Nat) : Nat :=
  let deepest := depths.foldl max 0
  if 1 < depths.length then deepest + 1 else deepest

/-! ### Classes -/

def class? (name : String) : Option CharSet :=
  match name with
  | "alnum" => some (digits.union letters)
  | "alpha" => some letters
  | "ascii" => some (.range '\x00' '\x7f')
  | "blank" => some (.ofRanges [('\t', '\t'), (' ', ' ')])
  | "cntrl" => some (.ofRanges [('\x00', '\x1f'), ('\x7f', '\x7f')])
  | "digit" => some digits
  | "graph" => some (.range '!' '~')
  | "lower" => some (.range 'a' 'z')
  | "print" => some (.range ' ' '~')
  | "punct" => some (.ofRanges [('!', '/'), (':', '@'), ('[', '`'), ('\x7b', '~')])
  | "space" => some blanks
  | "upper" => some (.range 'A' 'Z')
  | "word" => some wordChars
  | "xdigit" => some (.ofRanges [('0', '9'), ('A', 'F'), ('a', 'f')])
  | _ => none

/-- All other characters; without `u` there is no set that leaves ASCII. -/
def invert? (flags : Flags) (s : CharSet) : Option CharSet :=
  if flags.allScripts then some s.complement else none

/-- What a class stands for, or all but it. -/
def classSet? (flags : Flags) (isInverted : Bool) (s : CharSet) : Option CharSet :=
  if flags.anyCase && flags.allScripts then none
  else
    let s := if flags.anyCase then s.ignoringCase else s
    if isInverted then invert? flags s else some s

/-- A class behind its bracket, such as `:alpha:]`, and whether all other characters are meant. -/
def readClass (cs : List Char) : Option ((Bool × CharSet) × List Char) :=
  match cs with
  | ':' :: cs =>
      let isInverted := cs.head? == some '^'
      let cs := if isInverted then cs.tail else cs
      match class? (String.ofList (cs.takeWhile (· != ':'))), cs.dropWhile (· != ':') with
      | some s, ':' :: ']' :: rest => some ((isInverted, s), rest)
      | _, _ => none
  | _ => none

/-! ### Ranges -/

/-- One end of a range, or what stands alone. -/
def readEnd (flags : Flags) : List Char → Option (Escape × List Char)
  | [] => none
  | c :: cs => if c = '\\' then readEscape flags cs else some (.char c, cs)

/-- The character behind a minus, as far as it tells what the minus means. At most one comment sign
    is looked past. -/
def peek (flags : Flags) (cs : List Char) : Option Char :=
  if flags.spaced then
    let near := cs.dropWhile isBlank
    let far := if near.head? = some '#' then near.tail.dropWhile isBlank else near
    far.head? <|> cs.head?
  else cs.head?

/-- What stands alone in a set. -/
def alone? (flags : Flags) : Escape → Option CharSet
  | .char c => flags.range? c c
  | .set s => some s
  | .anchor _ => none

/-- A range whose ends are read. -/
def between? (flags : Flags) : Escape → Escape → Option CharSet
  | .char first, .char last => if first ≤ last then flags.range? first last else none
  | _, _ => none

/-- Read a character, a class by its letter, or a range. A minus in front of another one or in front
    of the closing bracket makes no range. -/
def readRange (flags : Flags) (cs : List Char) : Option (CharSet × List Char) := do
  let (first, rest) ← readEnd flags cs
  match flags.skip rest with
  | '-' :: rest =>
      if peek flags rest = some ']' ∨ peek flags rest = some '-' then
        return (← alone? flags first, '-' :: rest)
      else
        let (last, rest) ← readEnd flags (flags.skip rest)
        return (← between? flags first last, rest)
  | rest => return (← alone? flags first, rest)

/-! ### Sets -/

inductive Operator where
  | intersection
  | difference
  | symmetricDifference
deriving DecidableEq, Repr

def Operator.apply : Operator → CharSet → CharSet → CharSet
  | intersection => .intersection
  | difference => .difference
  | symmetricDifference => .symmetricDifference

/-- A set that is not closed yet. -/
structure OpenSet where
  isInverted : Bool
  /-- Nothing but hyphens is read. -/
  isLeading : Bool := true
  /-- What stands in front of the last operator, and the operator. -/
  left : Option (Nested CharSet × Operator) := none
  /-- What stands behind it, in reverse. -/
  items : List (Nested CharSet) := []

namespace OpenSet

def push (s : OpenSet) (item : Nested CharSet) : OpenSet :=
  { s with isLeading := false, items := item :: s.items }

/-- The set with one more hyphen in front of all else. -/
def pushHyphen (s : OpenSet) (hyphen : CharSet) : OpenSet :=
  { s with items := ⟨hyphen, 0⟩ :: s.items }

/-- The union behind the last operator. -/
def union (s : OpenSet) : Nested CharSet :=
  ⟨.unions (s.items.map Nested.value), jointDepth (s.items.map Nested.depth)⟩

/-- All that is read of a set. -/
def whole (s : OpenSet) : Nested CharSet :=
  match s.left with
  | none => s.union
  | some (left, op) =>
      ⟨op.apply left.value s.union.value, max left.depth s.union.depth + 1⟩

/-- The set with one more operator. -/
def operate (s : OpenSet) (op : Operator) : OpenSet :=
  ⟨s.isInverted, false, some (s.whole, op), []⟩

/-- The set as it is meant, behind its closing bracket. -/
def close? (flags : Flags) (s : OpenSet) : Option (Nested CharSet) :=
  let set := s.whole
  (if s.isInverted then invert? flags set.value else some set.value).map (⟨·, set.depth + 1⟩)

end OpenSet

/-- What may come next in a set. -/
inductive SetPart where
  | opening (isInverted : Bool)
  | closing
  | operator (op : Operator)
  | hyphen (set : CharSet)
  | item (set : CharSet)

/-- Read the caret behind an opening bracket, if there is one. -/
def readCaret (flags : Flags) (cs : List Char) : Bool × List Char :=
  match flags.skip cs with
  | '^' :: rest => (true, rest)
  | rest => (false, rest)

/-- Read what comes next in a set. In front of all else a hyphen is one, and a closing bracket is a
    character if not even a hyphen stands in front of it. -/
def readSetPart (flags : Flags) (s : OpenSet) (cs : List Char) : Option (SetPart × List Char) :=
  let rest := flags.skip cs
  match rest with
  | [] => none
  | c :: rest =>
      if s.isLeading && c == '-' then (flags.range? '-' '-').map fun set => (.hyphen set, rest)
      else if c = ']' then
        if s.isLeading && s.items.isEmpty then
          (flags.range? ']' ']').map fun set => (.item set, rest)
        else some (.closing, rest)
      else if c = '[' then
        match readClass rest with
        | some ((isInverted, set), rest) =>
            (classSet? flags isInverted set).map fun set => (.item set, rest)
        | none =>
            let (isInverted, rest) := readCaret flags rest
            some (.opening isInverted, rest)
      else if c = '&' && rest.head? == some '&' then some (.operator .intersection, rest.tail)
      else if c = '-' && rest.head? == some '-' then some (.operator .difference, rest.tail)
      else if c = '~' && rest.head? == some '~' then
        some (.operator .symmetricDifference, rest.tail)
      else (readRange flags (c :: rest)).map fun (set, rest) => (.item set, rest)

theorem readClass_le {cs rest : List Char} {found : Bool × CharSet}
    (h : readClass cs = some (found, rest)) : rest.length ≤ cs.length := by
  unfold readClass at h
  split at h
  · rename_i cs
    dsimp only at h
    generalize hname : (if (cs.head? == some '^') = true then cs.tail else cs) = name at h
    have hle : name.length ≤ cs.length := by
      rw [← hname]
      split <;> simp
    have hdrop := (List.dropWhile_sublist (l := name) (· != ':')).length_le
    split at h
    · rename_i hrest
      simp only [Option.some.injEq, Prod.mk.injEq] at h
      rw [hrest, h.2] at hdrop
      simp only [List.length_cons] at hdrop ⊢
      omega
    · simp at h
  · simp at h

theorem readEnd_shrinks {flags : Flags} {cs rest : List Char} {e : Escape}
    (h : readEnd flags cs = some (e, rest)) : rest.length < cs.length := by
  cases cs with
  | nil => simp [readEnd] at h
  | cons c cs =>
    simp only [readEnd] at h
    split at h
    · have := readEscape_shrinks h
      simp only [List.length_cons]
      omega
    · simp only [Option.some.injEq, Prod.mk.injEq] at h
      simp [← h.2]

theorem readRange_shrinks {flags : Flags} {cs rest : List Char} {set : CharSet}
    (h : readRange flags cs = some (set, rest)) : rest.length < cs.length := by
  simp only [readRange, Option.bind_eq_bind, Option.bind_eq_some_iff, Prod.exists] at h
  obtain ⟨first, behind, hfirst, h⟩ := h
  have h₁ := readEnd_shrinks hfirst
  have h₂ := flags.length_skip_le behind
  split at h
  · rename_i minus hskip
    rw [hskip, List.length_cons] at h₂
    split at h
    · simp only [Option.bind_eq_some_iff, Option.pure_def, Option.some.injEq, Prod.mk.injEq] at h
      obtain ⟨_, _, _, rfl⟩ := h
      simp only [List.length_cons]
      omega
    · simp only [Option.bind_eq_some_iff, Option.pure_def, Option.some.injEq, Prod.mk.injEq,
        Prod.exists] at h
      obtain ⟨_, _, hlast, _, _, _, rfl⟩ := h
      have h₃ := readEnd_shrinks hlast
      have h₄ := flags.length_skip_le minus
      omega
  · simp only [Option.bind_eq_some_iff, Option.pure_def, Option.some.injEq, Prod.mk.injEq] at h
    obtain ⟨_, _, _, rfl⟩ := h
    omega

theorem readCaret_le (flags : Flags) (cs : List Char) :
    (readCaret flags cs).2.length ≤ cs.length := by
  have := flags.length_skip_le cs
  unfold readCaret
  split <;> grind

theorem readSetPart_shrinks {flags : Flags} {s : OpenSet} {cs rest : List Char} {part : SetPart}
    (h : readSetPart flags s cs = some (part, rest)) : rest.length < cs.length := by
  have hle := flags.length_skip_le cs
  unfold readSetPart at h
  dsimp only at h
  split at h
  · simp at h
  · rename_i c behind hskip
    rw [hskip, List.length_cons] at hle
    split at h
    · simp only [Option.map_eq_some_iff, Prod.mk.injEq] at h
      grind
    split at h
    · split at h
      · simp only [Option.map_eq_some_iff, Prod.mk.injEq] at h
        grind
      · grind
    split at h
    · split at h
      · rename_i hclass
        have := readClass_le hclass
        simp only [Option.map_eq_some_iff, Prod.mk.injEq] at h
        grind
      · have := readCaret_le flags behind
        grind
    split at h
    · grind
    split at h
    · grind
    split at h
    · grind
    · simp only [Option.map_eq_some_iff, Prod.mk.injEq, Prod.exists] at h
      obtain ⟨_, _, hrange, _, rfl⟩ := h
      have := readRange_shrinks hrange
      simp only [List.length_cons] at this
      omega

/-- Read on in the innermost of some open sets, up to the bracket that closes the outermost. -/
def readSets (flags : Flags) (s : OpenSet) (outer : List OpenSet) (cs : List Char) :
    Option (Nested CharSet × List Char) :=
  match h : readSetPart flags s cs with
  | none => none
  | some (part, rest) =>
      have : rest.length < cs.length := readSetPart_shrinks h
      match part with
      | .hyphen set => readSets flags (s.pushHyphen set) outer rest
      | .item set => readSets flags (s.push ⟨set, 0⟩) outer rest
      | .operator op => readSets flags (s.operate op) outer rest
      | .opening isInverted => readSets flags ⟨isInverted, true, none, []⟩ (s :: outer) rest
      | .closing =>
          match s.close? flags, outer with
          | none, _ => none
          | some set, [] => some (set, rest)
          | some set, around :: outer => readSets flags (around.push set) outer rest
termination_by cs.length

/-- Read a set behind its opening bracket. -/
def readBracket (flags : Flags) (cs : List Char) : Option (Nested CharSet × List Char) :=
  let (isInverted, rest) := readCaret flags cs
  readSets flags ⟨isInverted, true, none, []⟩ [] rest

theorem readSets_shrinks {flags : Flags} {s : OpenSet} {outer : List OpenSet}
    {cs rest : List Char} {set : Nested CharSet}
    (h : readSets flags s outer cs = some (set, rest)) : rest.length < cs.length := by
  fun_induction readSets flags s outer cs <;> grind

theorem readBracket_shrinks {flags : Flags} {cs rest : List Char} {set : Nested CharSet}
    (h : readBracket flags cs = some (set, rest)) : rest.length < cs.length :=
  Nat.lt_of_lt_of_le (readSets_shrinks h) (readCaret_le flags cs)

end Provisioner.Text.Pattern
