import Provisioner.Text.Pattern.Basic
/-!
# Running patterns

A pattern is laid out as the states of an automaton. A state takes a character, asks something of
the place, goes on in two ways of which the first is preferred, or ends; the states of a part stand
together, and what follows it is known before they are laid out. A text is followed with a list of
states, the preferred ones first. A state that is reached a second time at one place is passed over,
so that the list never grows beyond the automaton, however many ways the pattern fits.

A fit may begin anywhere in the text, at an earlier place rather than at a later one. Where the
automaton ends, all that is less preferred is dropped. A text is accepted when the automaton can
still end at the end of the text: the preferred fit reaches up to there.
-/

namespace Provisioner.Text

/-! ### Places -/

/-- Whether a character makes words of ASCII. -/
def isWordChar (c : Char) : Bool := c.isAlphanum || c == '_'

namespace Anchor

/-- The anchor holds inside a character, between two of its bytes. -/
def holdsInside : Anchor → Bool
  | word .noBoundary _ => true
  | _ => false

/-- The anchor holds at a place between two characters, of which there is none at an end of the
    text. A carriage return and a line feed end a line together. -/
def holds (before after : Option Char) : Anchor → Bool
  | textStart => before.isNone
  | textEnd => after.isNone
  | lineStart false => before.all (· == '\n')
  | lineStart true => before.all (· == '\n') || (before == some '\r' && after != some '\n')
  | lineEnd false => after.all (· == '\n')
  | lineEnd true => after.all (· == '\r') || (after == some '\n' && before != some '\r')
  | word edge _ =>
      let left := before.any isWordChar
      let right := after.any isWordChar
      match edge with
      | .boundary => left != right
      | .noBoundary => left == right
      | .start => !left && right
      | .stop => left && !right

end Anchor

/-! ### States -/

/-- A state of an automaton; other states are given by their numbers. -/
inductive State where
  | finish
  | take (set : CharSet) (next : Nat)
  | anchor (a : Anchor) (next : Nat)
  | fork (preferred other : Nat)
deriving DecidableEq, Repr

namespace Pattern

def stateCount : Pattern → Nat
  | empty => 0
  | text cs => cs.length
  | char _ _ => 1
  | anchor _ => 1
  | group _ body => stateCount body
  | both first second => stateCount first + stateCount second
  | either first second => stateCount first + stateCount second + 1
  | repeated .any _ body => stateCount body + if body.takesSome then 1 else 2
  | repeated _ _ body => stateCount body + 1

/-- The state where a pattern begins whose states are numbered from `base` on and that goes on with
    the state `next`. -/
def entry (base next : Nat) : Pattern → Nat
  | empty => next
  | text cs => if cs.isEmpty then next else base
  | char _ _ => base
  | anchor _ => base
  | group _ body => entry base next body
  | both first second => entry base (entry (base + first.stateCount) next second) first
  | either _ _ => base
  | repeated .some _ body => entry (base + 1) base body
  | repeated _ _ _ => base

/-- The states that take characters one behind the other. -/
def textStates (base next : Nat) : List Char → List State
  | [] => []
  | [c] => [.take (.singleton c) next]
  | c :: cs => .take (.singleton c) (base + 1) :: textStates (base + 1) next cs

/-- The fork of a repetition: one more, or no more. -/
def forkOf (isLazy : Bool) (again next : Nat) : State :=
  if isLazy then .fork next again else .fork again next

/-- The states of a pattern, numbered from `base` on, that goes on with the state `next`. A
    repetition is one fork, to which its body comes back. If the body can take nothing, any number
    of repetitions is at most one of some: else the fork would be passed before the body is, and the
    order be lost. -/
def states (base next : Nat) : Pattern → List State
  | empty => []
  | text cs => textStates base next cs
  | char set _ => [.take set next]
  | anchor a => [.anchor a next]
  | group _ body => states base next body
  | both first second =>
      let middle := base + first.stateCount
      states base (entry middle next second) first ++ states middle next second
  | either first second =>
      let middle := base + 1 + first.stateCount
      .fork (entry (base + 1) next first) (entry middle next second) ::
        (states (base + 1) next first ++ states middle next second)
  | repeated .optional isLazy body =>
      forkOf isLazy (entry (base + 1) next body) next :: states (base + 1) next body
  | repeated .some isLazy body =>
      forkOf isLazy (entry (base + 1) base body) next :: states (base + 1) base body
  | repeated .any isLazy body =>
      if body.takesSome then
        forkOf isLazy (entry (base + 1) base body) next :: states (base + 1) base body
      else
        let fork := forkOf isLazy (entry (base + 2) (base + 1) body) next
        fork :: fork :: states (base + 2) (base + 1) body

end Pattern

/-! ### Automata -/

structure Automaton where
  states : Array State
  start : Nat
deriving DecidableEq, Repr

namespace Automaton

def ofPattern (p : Pattern) : Automaton :=
  ⟨(.finish :: p.states 1 0).toArray, p.entry 1 0⟩

/-- Follow a state as far as no character is needed. All states that are reached are put in front of
    those reached before, the last one first. -/
def explore (m : Automaton) (holds : Anchor → Bool) : (fuel : Nat) → List Nat → Nat → List Nat
  | 0, reached, _ => reached
  | fuel + 1, reached, n =>
      if reached.contains n then reached
      else
        match m.states[n]? with
        | some (.fork preferred other) =>
            explore m holds fuel (explore m holds fuel (n :: reached) preferred) other
        | some (.anchor a next) =>
            if holds a then explore m holds fuel (n :: reached) next else n :: reached
        | _ => n :: reached

/-- The states that are reached from some without a character, in their order. -/
def reach (m : Automaton) (holds : Anchor → Bool) (sources : List Nat) : List Nat :=
  (sources.foldl (m.explore holds (m.states.size + 1)) []).reverse

def isFinish (m : Automaton) (n : Nat) : Bool := m.states[n]? == some .finish

/-- The state behind a character that a state takes. -/
def next? (m : Automaton) (c : Char) (n : Nat) : Option Nat :=
  match m.states[n]? with
  | some (.take set next) => if set.contains c then some next else none
  | _ => none

/-- The pattern fits inside a character, between two of its bytes, where it can take nothing. -/
def fitsInside (m : Automaton) : Bool :=
  (m.reach Anchor.holdsInside [m.start]).any m.isFinish

/-- Follow a text from some states, behind a character or at the start. While the automaton is
    searching no fit is found yet, so that one may still begin further on. -/
def follow (m : Automaton) (searching : Bool) (before : Option Char) (sources : List Nat) :
    List Char → Bool
  | [] => (m.reach (Anchor.holds before none) sources).any m.isFinish
  | c :: cs =>
      let reached := m.reach (Anchor.holds before (some c)) sources
      let searching :=
        searching && !reached.any m.isFinish && !(c.utf8Size > 1 && m.fitsInside)
      let taken := (reached.takeWhile (!m.isFinish ·)).filterMap (m.next? c)
      m.follow searching (some c) (if searching then taken ++ [m.start] else taken) cs

/-- The preferred fit reaches up to the end of the text. -/
def accepts (m : Automaton) (s : String) : Bool := m.follow true none [m.start] s.toList

end Automaton

namespace Pattern

/-- The preferred fit of the pattern in a text reaches up to its end. -/
def accepts (p : Pattern) (s : String) : Bool := (Automaton.ofPattern p).accepts s

/-- A fit may begin anywhere, and has to end at the end. -/
example : (text ['b']).accepts "ab" = true ∧ (text ['a']).accepts "ab" = false := by
  decide +kernel

/-- The first fit counts, not one that would reach further. -/
example : (text ['a']).accepts "aa" = false ∧
    (repeated .some false (text ['a'])).accepts "aa" = true := by
  decide +kernel

/-- The second alternative is not tried on a text whose front the first one takes. -/
example :
    (either (text ['a']) (text ['a', 'b'])).accepts "ab" = false ∧
      (either (text ['a', 'b']) (text ['a'])).accepts "ab" = true := by
  decide +kernel

/-- A lazy repetition takes as little as it can. -/
example :
    (both (anchor .textStart) (repeated .any true (text ['a']))).accepts "a" = false ∧
      (both (anchor .textStart) (repeated .any false (text ['a']))).accepts "a" = true := by
  decide +kernel

end Pattern

end Provisioner.Text
