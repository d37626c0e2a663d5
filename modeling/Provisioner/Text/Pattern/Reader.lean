import Provisioner.Text.Pattern.Token
/-!
# Reading patterns

The tokens of a pattern are put together group by group: parts one behind the other, alternatives
between bars, and a count on the part in front of it. The groups that are not closed yet are kept in
a list, the innermost first. How deep a pattern is nested is counted along: every sequence of more
than one part, every choice of more than one alternative, every group, count and set is one deeper
than what is in it.
-/

namespace Provisioner.Text.Pattern

/-- Why a text cannot be used as a pattern. -/
inductive Problem where
  | malformed
  /-- The pattern asks for the words of all scripts, which are not known. -/
  | wordsUnknown
deriving DecidableEq, Repr

/-- How deep a pattern may be nested. -/
def greatestDepth : Nat := 250

/-! ### Groups -/

/-- A part of a sequence. A change of flags is one, but not to be repeated. -/
structure Part where
  pattern : Nested Pattern
  isRepeatable : Bool := true

/-- A group that is not closed yet. -/
structure Group where
  number : Option Nat
  /-- The alternatives in front of the last bar, in reverse. -/
  done : List (Nested Pattern) := []
  /-- The parts behind it, in reverse. -/
  parts : List Part := []

namespace Group

def push (g : Group) (part : Part) : Group := { g with parts := part :: g.parts }

/-- The parts behind the last bar, one behind the other. -/
def sequence (g : Group) : Nested Pattern :=
  let parts := g.parts.map Part.pattern
  ⟨Pattern.sequence (parts.reverse.map Nested.value), jointDepth (parts.map Nested.depth)⟩

/-- All that is read of a group. -/
def whole (g : Group) : Nested Pattern :=
  let all := g.sequence :: g.done
  ⟨Pattern.alternatives (all.reverse.map Nested.value), jointDepth (all.map Nested.depth)⟩

/-- The group with a bar behind it. -/
def bar (g : Group) : Group := { g with done := g.sequence :: g.done, parts := [] }

/-- The group as a part of the one around it. -/
def close (g : Group) : Part :=
  let whole := g.whole
  match g.number with
  | some number => ⟨⟨group number whole.value, whole.depth + 1⟩, true⟩
  | none => ⟨⟨whole.value, whole.depth + 1⟩, true⟩

/-- The group with a count on its last part. -/
def repeatLast (g : Group) (count : Count) (isLazy : Bool) : Option Group :=
  match g.parts with
  | ⟨p, true⟩ :: parts =>
      some { g with parts := ⟨⟨repetition count isLazy p.value, p.depth + 1⟩, true⟩ :: parts }
  | _ => none

end Group

/-! ### Reading -/

/-- Put tokens together: `g` is the group they stand in, `around` are those around it, the innermost
    first, and `number` is that of the last numbered group. -/
def assemble (number : Nat) (g : Group) (around : List Group) :
    List Token → Option (Nested Pattern)
  | [] => if around.isEmpty then some g.whole else none
  | .part p :: tokens => assemble number (g.push ⟨p, true⟩) around tokens
  | .change _ :: tokens => assemble number (g.push ⟨⟨empty, 0⟩, false⟩) around tokens
  | .openGroup _ :: tokens =>
      assemble (number + 1) ⟨some (number + 1), [], []⟩ (g :: around) tokens
  | .openPlain _ :: tokens => assemble number ⟨none, [], []⟩ (g :: around) tokens
  | .close :: tokens =>
      match around with
      | [] => none
      | outer :: around => assemble number (outer.push g.close) around tokens
  | .bar :: tokens => assemble number g.bar around tokens
  | .count count isLazy :: tokens =>
      (g.repeatLast count isLazy).bind fun g => assemble number g around tokens

def groupNames (tokens : List Token) : List (List Char) :=
  tokens.filterMap fun
    | .openGroup name => if name.isEmpty then none else some name
    | _ => none

/-- The pattern asks for the edges of words of all scripts. -/
def asksForScripts : Pattern → Bool
  | anchor (.word _ allScripts) => allScripts
  | group _ body => asksForScripts body
  | both first second => asksForScripts first || asksForScripts second
  | either first second => asksForScripts first || asksForScripts second
  | repeated _ _ body => asksForScripts body
  | _ => false

/-- The pattern of a text, if it is one. No two groups have one name. -/
def read? (s : String) : Option Pattern := do
  let tokens ← tokens? {} [] s.toList
  let p ← assemble 0 ⟨none, [], []⟩ [] tokens
  if (groupNames tokens).Nodup ∧ p.depth ≤ greatestDepth then some p.value else none

/-- Read a pattern that can be run. -/
def parse (s : String) : Except Problem Pattern :=
  match read? s with
  | none => .error .malformed
  | some p => if p.asksForScripts then .error .wordsUnknown else .ok p

end Provisioner.Text.Pattern
