import Provisioner.Text.CharSet
/-!
# Patterns

A pattern says how a part of a text may look: characters out of sets, one behind the other, in
alternatives and repeated, and places with something before or behind them. Where a pattern fits in
several ways there is an order among them: what an earlier alternative does goes before what a later
one does, and more repetitions go before fewer, unless the repetition is a lazy one.

Patterns are put together in a normal form (`sequence`, `alternatives`, `repetition`): sequences and
alternatives are not nested, characters that follow each other make up one text, alternatives that
are all single characters or all sets are one set, and what all alternatives begin with stands once
in front of them. The last rule matters for the order: the ways to fit what is in common come first,
and the alternatives behind it second. In common is only what is the same in normal form; parts that
fit the same texts may differ there.
-/

namespace Provisioner.Text

/-- How a place lies to the words around it. -/
inductive WordEdge where
  | boundary
  | noBoundary
  | start
  | stop
deriving DecidableEq, Repr

/-- What may be asked of a place in a text. -/
inductive Anchor where
  | textStart
  | textEnd
  /-- A line begins; with `returns` lines may also end with carriage returns. -/
  | lineStart (returns : Bool)
  | lineEnd (returns : Bool)
  /-- An edge of words, which are made of letters of ASCII or of those of all scripts. -/
  | word (edge : WordEdge) (allScripts : Bool)
deriving DecidableEq, Repr

/-- How often something stands. -/
inductive Count where
  | any
  | some
  | optional
deriving DecidableEq, Repr

/-- What a part of a text may look like. -/
inductive Pattern where
  | empty
  /-- These characters, of which there is at least one. -/
  | text (cs : List Char)
  /-- One character out of a set. A set that was read for ASCII alone is another one than that of
      the same characters read for all scripts. -/
  | char (set : CharSet) (allScripts : Bool)
  | anchor (a : Anchor)
  /-- A group by its number. Groups of one text differ by their numbers only, but they differ. -/
  | group (number : Nat) (body : Pattern)
  | both (first second : Pattern)
  | either (first second : Pattern)
  | repeated (count : Count) (isLazy : Bool) (body : Pattern)
deriving DecidableEq, Repr

namespace Pattern

/-- Nothing looks like this. -/
def never : Pattern := char .empty false

/-! ### Lengths -/

/-- The least number of characters that a pattern takes; none if it has an empty set in it. -/
def shortest? : Pattern → Option Nat
  | empty => some 0
  | text cs => some cs.length
  | char set _ => if set = .empty then none else some 1
  | anchor _ => some 0
  | group _ body => shortest? body
  | both first second => return (← shortest? first) + (← shortest? second)
  | either first second => return min (← shortest? first) (← shortest? second)
  | repeated .some _ body => shortest? body
  | repeated _ _ body => (shortest? body).map fun _ => 0

/-- The pattern takes at least one character. -/
def takesSome (p : Pattern) : Bool := p.shortest?.any (0 < ·)

/-- The pattern never takes a character. -/
def takesNone : Pattern → Bool
  | empty => true
  | text cs => cs.isEmpty
  | char _ _ => false
  | anchor _ => true
  | group _ body => takesNone body
  | both first second => takesNone first && takesNone second
  | either first second => takesNone first && takesNone second
  | repeated count _ body => count == .optional && takesNone body

/-! ### Sets and texts -/

/-- One character out of a set. A set of one is a text, and all empty sets are the same. -/
def ofSet (allScripts : Bool) (set : CharSet) : Pattern :=
  if set = .empty then never
  else
    match set.only? with
    | some c => text [c]
    | none => char set allScripts

def char? : Pattern → Option Char
  | text [c] => some c
  | _ => none

/-- The set out of which a pattern takes one character. -/
def set? : Pattern → Option CharSet
  | char set _ => some set
  | _ => none

/-! ### One behind the other -/

def parts : Pattern → List Pattern
  | empty => []
  | both first second => parts first ++ parts second
  | p => [p]

/-- A part in front of others; texts that meet become one. -/
def prepend : Pattern → List Pattern → List Pattern
  | text cs, text ds :: ps => text (cs ++ ds) :: ps
  | p, ps => p :: ps

/-- Parts of a sequence one behind the other, as they are. -/
def chain : List Pattern → Pattern
  | [] => empty
  | [p] => p
  | p :: ps => both p (chain ps)

def sequence (ps : List Pattern) : Pattern := chain ((ps.flatMap parts).foldr prepend [])

/-! ### Alternatives -/

def branches : Pattern → List Pattern
  | either first second => branches first ++ branches second
  | p => [p]

/-- Alternatives as they are. -/
def choice : List Pattern → Pattern
  | [] => never
  | [p] => p
  | p :: ps => either p (choice ps)

/-- Alternatives; if all are single characters, or all are sets, they are one set of all scripts.
    Characters and sets among each other are not. -/
def choiceOrSet (ps : List Pattern) : Pattern :=
  match ps, ps.mapM char?, ps.mapM set? with
  | [p], _, _ => p
  | _, some cs, _ => ofSet true (.unions (cs.map .singleton))
  | _, none, some sets => ofSet true (.unions sets)
  | _, none, none => choice ps

/-- What two sequences begin with. -/
def commonFront : List Pattern → List Pattern → List Pattern
  | p :: ps, q :: qs => if p = q then p :: commonFront ps qs else []
  | _, _ => []

/-- What several sequences begin with, if each has more than one part. -/
def commonFrontOfAll : List (List Pattern) → List Pattern
  | first :: second :: others =>
      if (first :: second :: others).all (1 < ·.length) then
        (second :: others).foldl commonFront first
      else []
  | _ => []

/-- Alternatives, with what they all begin with in front of them. -/
def alternatives (ps : List Pattern) : Pattern :=
  let ps := ps.flatMap branches
  let front := commonFrontOfAll (ps.map parts)
  if front.isEmpty then choiceOrSet ps
  else
    let rests := ps.map fun p => sequence (p.parts.drop front.length)
    sequence (front ++ [choiceOrSet (rests.flatMap branches)])

/-! ### Repetitions -/

/-- A pattern repeated. What takes no character fits as well once as many times. -/
def repetition (count : Count) (isLazy : Bool) (body : Pattern) : Pattern :=
  if takesNone body then
    match count with
    | .some => body
    | _ => repeated .optional isLazy body
  else repeated count isLazy body

example : alternatives [text ['a'], text ['c'], text ['b']] = char (.range 'a' 'c') true := by
  decide +kernel

/-- A character and a set stay alternatives. -/
example :
    alternatives [text ['a'], char (.range 'b' 'c') true] =
      either (text ['a']) (char (.range 'b' 'c') true) := by
  decide +kernel

/-- What is in common is not repeated in the alternatives. -/
example :
    let optional := repeated .optional false (text ['a'])
    alternatives [sequence [optional, text ['b']], sequence [optional, text ['c']]] =
      sequence [optional, char (.range 'b' 'c') true] := by
  decide +kernel

/-- A text is one part, so that these alternatives have nothing in common. -/
example :
    alternatives [sequence [text ['a'], text ['b']], sequence [text ['a'], text ['c']]] =
      either (text ['a', 'b']) (text ['a', 'c']) := by
  decide +kernel

end Pattern

end Provisioner.Text
