import Provisioner.Text.Characters
import Provisioner.Text.Pattern.Bracket
/-!
# Tokens of written patterns

A written pattern is a list of tokens: what stands for a part of a text, parentheses, bars, and
counts behind what is repeated. Flags that are changed hold up to the end of the group they are
changed in, across its bars, or in the group whose opening parenthesis names them. The tokens are
read with the flags of each place, so that nothing of a token depends on flags any more.
-/

namespace Provisioner.Text.Pattern

inductive Token where
  /-- A part of the pattern by itself. -/
  | part (p : Nested Pattern)
  /-- A change of flags, for the rest of a group. -/
  | change (flags : Flags)
  /-- A parenthesis that opens a numbered group, which may have a name. -/
  | openGroup (name : List Char)
  /-- A parenthesis that opens what is only held together, with flags of its own. -/
  | openPlain (flags : Flags)
  | close
  | bar
  | count (count : Count) (isLazy : Bool)
deriving DecidableEq, Repr

/-! ### Groups -/

/-- A name begins with a letter or a low line, and goes on with these, numbers, points and square
    brackets. -/
def isGroupName : List Char → Bool
  | [] => false
  | c :: cs =>
      (c == '_' || isAlphabetic c) &&
        cs.all fun c => c == '_' || c == '.' || c == '[' || c == ']' || isAlphanumeric c

def readGroupName (cs : List Char) : Option (Token × List Char) :=
  match cs.dropWhile (· != '>') with
  | [] => none
  | _ :: rest =>
      let name := cs.takeWhile (· != '>')
      if isGroupName name then some (.openGroup name, rest) else none

/-- Read flags, and the sign behind them: that of a group, or of the end of their parenthesis, in
    front of which there has to be a flag. -/
def readFlags (flags : Flags) (cs : List Char) : Option (Token × List Char) :=
  let written := cs.takeWhile fun c => c != ':' && c != ')'
  match cs.dropWhile (fun c => c != ':' && c != ')'), flags.change? written with
  | ':' :: rest, some flags => some (.openPlain flags, rest)
  | ')' :: rest, some flags => if written.isEmpty then none else some (.change flags, rest)
  | _, _ => none

/-- Read what stands behind an opening parenthesis. -/
def readOpening (flags : Flags) (cs : List Char) : Option (Token × List Char) :=
  match flags.skip cs with
  | '?' :: 'P' :: '<' :: rest => readGroupName rest
  | '?' :: '<' :: rest => readGroupName rest
  | '?' :: rest => readFlags flags rest
  | rest => some (.openGroup [], rest)

/-! ### Parts -/

/-- A character that stands for itself, or for both of its cases. -/
def literal? (flags : Flags) (c : Char) : Option Pattern :=
  if !flags.anyCase then some (text [c])
  else if flags.allScripts then none
  else if c.isAlpha then some (ofSet false (CharSet.singleton c).ignoringCase)
  else some (text [c])

/-- What an escape stands for. -/
def escaped? (flags : Flags) : Escape → Option Pattern
  | .char c => literal? flags c
  | .anchor a => some (anchor a)
  | .set s => some (ofSet flags.allScripts s)

/-- Any character, of a line or of all. -/
def anyChar? (flags : Flags) : Option Pattern :=
  if !flags.allScripts then none
  else if flags.acrossLines then some (char CharSet.empty.complement true)
  else
    let ends := if flags.returns then ['\n', '\r'] else ['\n']
    some (char (CharSet.unions (ends.map .singleton)).complement true)

/-- A part that is written as one sign. -/
def sign? (flags : Flags) (c : Char) : Option Pattern :=
  match c with
  | '.' => anyChar? flags
  | '^' => some (anchor (if flags.byLine then .lineStart flags.returns else .textStart))
  | '$' => some (anchor (if flags.byLine then .lineEnd flags.returns else .textEnd))
  | '\x7b' => none
  | c => literal? flags c

/-- Read a part that begins with a character. -/
def readPart (flags : Flags) (c : Char) (cs : List Char) : Option (Nested Pattern × List Char) :=
  if c = '[' then
    (readBracket flags cs).map fun (set, rest) =>
      (⟨ofSet flags.allScripts set.value, set.depth⟩, rest)
  else if c = '\\' then do
    let (e, rest) ← readEscape flags cs
    return (⟨← escaped? flags e, 0⟩, rest)
  else (sign? flags c).map fun p => (⟨p, 0⟩, cs)

/-! ### Tokens -/

/-- The count that a sign stands for. -/
def count? : Char → Option Count
  | '*' => some .any
  | '+' => some .some
  | '?' => some .optional
  | _ => none

/-- Read a token that begins with a character. A question mark right behind a count makes it lazy,
    or not lazy if all counts are so. -/
def readToken (flags : Flags) (c : Char) (cs : List Char) : Option (Token × List Char) :=
  match count? c with
  | some count =>
      match cs with
      | '?' :: rest => some (.count count (!flags.lazyFirst), rest)
      | rest => some (.count count flags.lazyFirst, rest)
  | none =>
      if c = '(' then readOpening flags cs
      else if c = ')' then some (.close, cs)
      else if c = '|' then some (.bar, cs)
      else (readPart flags c cs).map fun (p, rest) => (.part p, rest)

theorem readGroupName_le {cs rest : List Char} {t : Token}
    (h : readGroupName cs = some (t, rest)) : rest.length ≤ cs.length := by
  have hdrop := (List.dropWhile_sublist (l := cs) (· != '>')).length_le
  unfold readGroupName at h
  grind

theorem readFlags_le {flags : Flags} {cs rest : List Char} {t : Token}
    (h : readFlags flags cs = some (t, rest)) : rest.length ≤ cs.length := by
  have hdrop := (List.dropWhile_sublist (l := cs) (fun c => c != ':' && c != ')')).length_le
  unfold readFlags at h
  grind

theorem readOpening_le {flags : Flags} {cs rest : List Char} {t : Token}
    (h : readOpening flags cs = some (t, rest)) : rest.length ≤ cs.length := by
  have hskip := flags.length_skip_le cs
  unfold readOpening at h
  split at h
  · have := readGroupName_le h
    simp_all
    omega
  · have := readGroupName_le h
    simp_all
    omega
  · have := readFlags_le h
    simp_all
    omega
  · grind

theorem readPart_le {flags : Flags} {c : Char} {cs rest : List Char} {p : Nested Pattern}
    (h : readPart flags c cs = some (p, rest)) : rest.length ≤ cs.length := by
  unfold readPart at h
  split at h
  · simp only [Option.map_eq_some_iff, Prod.mk.injEq, Prod.exists] at h
    obtain ⟨_, _, hset, _, rfl⟩ := h
    exact Nat.le_of_lt (readBracket_shrinks hset)
  split at h
  · simp only [Option.bind_eq_bind, Option.bind_eq_some_iff, Option.pure_def, Option.some.injEq,
      Prod.mk.injEq, Prod.exists] at h
    obtain ⟨_, _, hescape, _, _, _, rfl⟩ := h
    exact Nat.le_of_lt (readEscape_shrinks hescape)
  · simp only [Option.map_eq_some_iff, Prod.mk.injEq] at h
    obtain ⟨_, _, _, rfl⟩ := h
    exact Nat.le_refl _

theorem readToken_le {flags : Flags} {c : Char} {cs rest : List Char} {t : Token}
    (h : readToken flags c cs = some (t, rest)) : rest.length ≤ cs.length := by
  unfold readToken at h
  split at h
  · grind
  split at h
  · exact readOpening_le h
  split at h
  · grind
  split at h
  · grind
  · simp only [Option.map_eq_some_iff, Prod.mk.injEq, Prod.exists] at h
    obtain ⟨_, _, hpart, _, rfl⟩ := h
    exact readPart_le hpart

/-- The tokens of a written pattern, read with some flags and with those of the groups around, the
    innermost first. -/
def tokens? (flags : Flags) (around : List Flags) (cs : List Char) : Option (List Token) :=
  match hskip : flags.skip cs with
  | [] => some []
  | c :: rest =>
      match htoken : readToken flags c rest with
      | none => none
      | some (token, behind) =>
          have : behind.length < cs.length := by
            have hskip' := hskip ▸ flags.length_skip_le cs
            exact Nat.lt_of_lt_of_le (Nat.lt_succ_of_le (readToken_le htoken)) hskip'
          let later :=
            match token, around with
            | .change flags, _ => tokens? flags around behind
            | .openPlain inner, _ => tokens? inner (flags :: around) behind
            | .openGroup _, _ => tokens? flags (flags :: around) behind
            | .close, [] => none
            | .close, outer :: around => tokens? outer around behind
            | _, _ => tokens? flags around behind
          later.map (token :: ·)
termination_by cs.length

end Provisioner.Text.Pattern
