import Provisioner.Text.Characters
import Provisioner.Text.Pattern.Basic
/-!
# Characters in written patterns

How a written pattern is meant depends on flags, which it may change as it goes. Most characters
stand for themselves. A backslash makes a sign out of a letter, and a character out of a sign; it
also stands in front of characters that are given by number.

Classes of characters are known for ASCII only, and so are the two cases of a letter. What would ask
for those of all scripts is no pattern; without the flag `u` it is one, and keeps to ASCII.
-/

namespace Provisioner.Text.Pattern

/-! ### Flags -/

structure Flags where
  /-- Letters stand for both of their cases. -/
  anyCase : Bool := false
  /-- The signs for the start and the end of the text stand for those of lines. -/
  byLine : Bool := false
  /-- The sign for any character of a line stands for line feeds, too. -/
  acrossLines : Bool := false
  /-- Repetitions are lazy if they are not marked so. -/
  lazyFirst : Bool := false
  /-- Characters are those of all scripts. -/
  allScripts : Bool := true
  /-- Lines may also end with carriage returns. -/
  returns : Bool := false
  /-- Blanks and comments may stand between the parts. -/
  spaced : Bool := false
deriving DecidableEq, Repr

namespace Flags

/-- Set the flag of a letter. -/
def set (value : Bool) (flags : Flags) : Char → Option Flags
  | 'i' => some { flags with anyCase := value }
  | 'm' => some { flags with byLine := value }
  | 's' => some { flags with acrossLines := value }
  | 'U' => some { flags with lazyFirst := value }
  | 'u' => some { flags with allScripts := value }
  | 'R' => some { flags with returns := value }
  | 'x' => some { flags with spaced := value }
  | _ => none

/-- Set flags by their letters, those behind a minus to false. -/
def setAll (value : Bool) (flags : Flags) : List Char → Option Flags
  | [] => some flags
  | c :: cs =>
      if c = '-' then setAll false flags cs
      else (set value flags c).bind fun flags => setAll value flags cs

/-- Change flags as it is written: no letter stands twice, and there is something behind a minus. -/
def change? (flags : Flags) (written : List Char) : Option Flags :=
  if written.Nodup ∧ written.getLast? ≠ some '-' then flags.setAll true written else none

end Flags

/-! ### Blanks and comments -/

/-- A text without the blanks and comments in front of it. A comment ends with its line. -/
def skipBlanks (inComment : Bool) : List Char → List Char
  | [] => []
  | c :: cs =>
      if inComment then skipBlanks (c != '\n') cs
      else if c = '#' then skipBlanks true cs
      else if isBlank c then skipBlanks false cs
      else c :: cs

/-- A text without what may be skipped in front of it. -/
def Flags.skip (flags : Flags) (cs : List Char) : List Char :=
  if flags.spaced then skipBlanks false cs else cs

theorem length_skipBlanks_le (inComment : Bool) (cs : List Char) :
    (skipBlanks inComment cs).length ≤ cs.length := by
  fun_induction skipBlanks inComment cs <;> grind

theorem Flags.length_skip_le (flags : Flags) (cs : List Char) :
    (flags.skip cs).length ≤ cs.length := by
  unfold skip
  split
  · exact length_skipBlanks_le false cs
  · exact Nat.le_refl _

/-! ### Sets -/

/-- The set of a range of characters. -/
def Flags.range? (flags : Flags) (first last : Char) : Option CharSet :=
  if flags.allScripts then if flags.anyCase then none else some (.range first last)
  else if 128 ≤ last.toNat then none
  else some (if flags.anyCase then (CharSet.range first last).ignoringCase else .range first last)

def digits : CharSet := .range '0' '9'

def letters : CharSet := .ofRanges [('A', 'Z'), ('a', 'z')]

/-- What makes words of ASCII. -/
def wordChars : CharSet := .unions [digits, letters, .singleton '_']

/-- The blanks of ASCII. -/
def blanks : CharSet := .ofRanges [('\t', '\r'), (' ', ' ')]

/-- The set that a letter stands for behind a backslash. -/
def letterSet? : Char → Option CharSet
  | 'd' => some digits
  | 's' => some blanks
  | 'w' => some wordChars
  | _ => none

/-! ### Escapes -/

/-- What stands behind a backslash. -/
inductive Escape where
  | char (c : Char)
  | anchor (a : Anchor)
  | set (s : CharSet)
deriving DecidableEq, Repr

/-- The control that a letter stands for. -/
def letterControl? : Char → Option Char
  | 'a' => some '\x07'
  | 'f' => some '\x0c'
  | 'n' => some '\n'
  | 'r' => some '\r'
  | 't' => some '\t'
  | 'v' => some '\x0b'
  | _ => none

/-- The anchor that a letter or a sign stands for. -/
def letterAnchor? (flags : Flags) : Char → Option Anchor
  | 'A' => some .textStart
  | 'z' => some .textEnd
  | 'b' => some (.word .boundary flags.allScripts)
  | 'B' => some (.word .noBoundary flags.allScripts)
  | '<' => some (.word .start flags.allScripts)
  | '>' => some (.word .stop flags.allScripts)
  | _ => none

/-- The number of digits behind a letter for characters by number. -/
def numberWidth? : Char → Option Nat
  | 'x' => some 2
  | 'u' => some 4
  | 'U' => some 8
  | _ => none

/-- What one character stands for behind a backslash. A sign stands for itself. -/
def escape? (flags : Flags) (c : Char) : Option Escape :=
  match letterControl? c, letterAnchor? flags c, letterSet? c with
  | some control, _, _ => some (.char control)
  | none, some a, _ => some (.anchor a)
  | none, none, some set => if flags.allScripts then none else some (.set set)
  | none, none, none => if c.toNat < 128 && !c.isAlphanum then some (.char c) else none

/-- Read a number with so many digits of base sixteen. -/
def readNumber (flags : Flags) : (width : Nat) → (value : Nat) → List Char →
    Option (Nat × List Char)
  | 0, value, cs => some (value, cs)
  | width + 1, value, cs =>
      match flags.skip cs with
      | [] => none
      | c :: rest =>
          match hexValue? c with
          | some digit => readNumber flags width (16 * value + digit) rest
          | none => none

/-- Read what stands behind a backslash. Two digits alone do not go beyond ASCII without `u`. -/
def readEscape (flags : Flags) : List Char → Option (Escape × List Char)
  | [] => none
  | c :: cs =>
      match numberWidth? c with
      | none => (escape? flags c).map (·, cs)
      | some width =>
          match readNumber flags width 0 cs with
          | none => none
          | some (n, rest) =>
              if n.isValidChar ∧ (flags.allScripts ∨ width ≠ 2 ∨ n < 128) then
                some (.char (.ofNat n), rest)
              else none

theorem length_readNumber_le {flags : Flags} {width value n : Nat} {cs rest : List Char}
    (h : readNumber flags width value cs = some (n, rest)) : rest.length ≤ cs.length := by
  induction width generalizing value cs with
  | zero =>
    simp only [readNumber, Option.some.injEq, Prod.mk.injEq] at h
    simp [h.2]
  | succ width ih =>
    have hskip := flags.length_skip_le cs
    unfold readNumber at h
    split at h
    · simp at h
    · rename_i c cs' hcs
      rw [hcs, List.length_cons] at hskip
      split at h
      · have := ih h
        omega
      · simp at h

theorem readEscape_shrinks {flags : Flags} {cs rest : List Char} {e : Escape}
    (h : readEscape flags cs = some (e, rest)) : rest.length < cs.length := by
  unfold readEscape at h
  split at h
  · simp at h
  · rename_i c cs'
    split at h
    · simp only [Option.map_eq_some_iff, Prod.mk.injEq] at h
      obtain ⟨_, _, _, rfl⟩ := h
      simp
    · split at h
      · simp at h
      · rename_i n rest' hnumber
        have := length_readNumber_le hnumber
        split at h
        · simp only [Option.some.injEq, Prod.mk.injEq] at h
          rw [← h.2, List.length_cons]
          omega
        · simp at h

end Provisioner.Text.Pattern
