import Provisioner.Json.Basic
import Provisioner.Text.Characters
/-!
# Strings in a text

A string stands in double quotes. A writer escapes the quote, the backslash and the characters below
the space, and nothing else. A reader knows more escapes, among them code points above the basic
plane as two surrogates, and refuses a bare control character. A string that is passed over is only
checked as far as needed to find its end: its surrogates need not pair.
-/

namespace Provisioner.Json.Quotation

open Text (hexDigit hexValue?)

/-! ### Writing -/

def controlEscape (n : Nat) : List Char :=
  ['\\', 'u', '0', '0', hexDigit (n / 16), hexDigit (n % 16)]

def writeChar (c : Char) : List Char :=
  if c = '"' then ['\\', '"']
  else if c = '\\' then ['\\', '\\']
  else if c = '\x08' then ['\\', 'b']
  else if c = '\x0c' then ['\\', 'f']
  else if c = '\n' then ['\\', 'n']
  else if c = '\r' then ['\\', 'r']
  else if c = '\t' then ['\\', 't']
  else if c < ' ' then controlEscape c.toNat
  else [c]

def write (s : String) : List Char := '"' :: (s.toList.flatMap writeChar ++ ['"'])

/-! ### Escapes -/

def quad? (a b c d : Char) : Option Nat := do
  let a ← hexValue? a
  let b ← hexValue? b
  let c ← hexValue? c
  let d ← hexValue? d
  return ((a * 16 + b) * 16 + c) * 16 + d

/-- The fault of four bytes that are not four digits. They are passed; if there are fewer, all of
    them are. -/
def quadFault (cs : List Char) : Fault :=
  if Text.byteSize cs < 4 then .here .endInString []
  else ⟨.malformed .escapeInvalid, Text.byteSize cs - 4⟩

def readQuad : List Char → Reading Nat
  | a :: b :: c :: d :: rest =>
      match quad? a b c d with
      | some n => .ok (n, rest)
      | none => .error (quadFault (a :: b :: c :: d :: rest))
  | cs => .error (quadFault cs)

/-- The first of two surrogates. -/
def isLeading (n : Nat) : Bool := 0xD800 ≤ n && n ≤ 0xDBFF

/-- The second of two surrogates. -/
def isTrailing (n : Nat) : Bool := 0xDC00 ≤ n && n ≤ 0xDFFF

def ofSurrogates (leading trailing : Nat) : Char :=
  Char.ofNat (0x10000 + (leading - 0xD800) * 0x400 + (trailing - 0xDC00))

/-- The escape that has to follow the surrogate `leading`. -/
def readTrailing (leading : Nat) : List Char → Reading Char
  | [] => .error (.here .endInString [])
  | '\\' :: [] => .error (.here .endInString [])
  | '\\' :: 'u' :: cs =>
      match readQuad cs with
      | .error f => .error f
      | .ok (n, rest) =>
          if isTrailing n then .ok (ofSurrogates leading n, rest)
          else .error (.here .surrogateUnpaired rest)
  | '\\' :: cs => .error (.ahead .surrogateCutOff cs)
  | cs => .error (.ahead .surrogateCutOff cs)

def readCodePoint (cs : List Char) : Reading Char :=
  match readQuad cs with
  | .error f => .error f
  | .ok (n, rest) =>
      if isTrailing n then .error (.here .surrogateUnpaired rest)
      else if isLeading n then readTrailing n rest
      else .ok (Char.ofNat n, rest)

/-- The character that a backslash and `c` stand for. -/
def plainEscape? (c : Char) : Option Char :=
  if c = '"' ∨ c = '\\' ∨ c = '/' then some c
  else if c = 'b' then some '\x08'
  else if c = 'f' then some '\x0c'
  else if c = 'n' then some '\n'
  else if c = 'r' then some '\r'
  else if c = 't' then some '\t'
  else none

def readEscape : List Char → Reading Char
  | [] => .error (.here .endInString [])
  | c :: cs =>
      match plainEscape? c with
      | some x => .ok (x, cs)
      | none => if c = 'u' then readCodePoint cs else .error (.ahead .escapeInvalid (c :: cs))

/-- An escape that is passed over, behind its backslash. -/
def skipEscape : List Char → Except Fault (List Char)
  | [] => .error (.here .endInString [])
  | c :: cs =>
      if (plainEscape? c).isSome then .ok cs
      else if c = 'u' then (readQuad cs).map Prod.snd
      else .error (.ahead .escapeInvalid (c :: cs))

theorem readQuad_shrinks {cs rest : List Char} {n : Nat} (h : readQuad cs = .ok (n, rest)) :
    rest.length < cs.length := by
  unfold readQuad at h
  split at h
  · split at h
    · simp only [Except.ok.injEq, Prod.mk.injEq] at h
      rw [← h.2]
      simp only [List.length_cons]
      omega
    · simp at h
  · simp at h

theorem readTrailing_shrinks {leading : Nat} {cs rest : List Char} {x : Char}
    (h : readTrailing leading cs = .ok (x, rest)) : rest.length < cs.length := by
  unfold readTrailing at h
  split at h
  · simp at h
  · simp at h
  · split at h
    · simp at h
    · rename_i n rest' hquad
      have := readQuad_shrinks hquad
      split at h
      · simp only [Except.ok.injEq, Prod.mk.injEq] at h
        rw [← h.2]
        simp only [List.length_cons]
        omega
      · simp at h
  · simp at h
  · simp at h

theorem readCodePoint_shrinks {cs rest : List Char} {x : Char}
    (h : readCodePoint cs = .ok (x, rest)) : rest.length < cs.length := by
  unfold readCodePoint at h
  split at h
  · simp at h
  · rename_i n rest' hquad
    have h₁ := readQuad_shrinks hquad
    split at h
    · simp at h
    · split at h
      · have h₂ := readTrailing_shrinks h
        omega
      · simp only [Except.ok.injEq, Prod.mk.injEq] at h
        rw [← h.2]
        exact h₁

theorem readEscape_shrinks {cs rest : List Char} {x : Char} (h : readEscape cs = .ok (x, rest)) :
    rest.length < cs.length := by
  cases cs with
  | nil => simp [readEscape] at h
  | cons c cs =>
    simp only [readEscape] at h
    split at h
    · simp only [Except.ok.injEq, Prod.mk.injEq] at h
      simp [← h.2]
    · split at h
      · have := readCodePoint_shrinks h
        simp only [List.length_cons]
        omega
      · simp at h

theorem skipEscape_shrinks {cs rest : List Char} (h : skipEscape cs = .ok rest) :
    rest.length < cs.length := by
  cases cs with
  | nil => simp [skipEscape] at h
  | cons c cs =>
    simp only [skipEscape] at h
    split at h
    · simp only [Except.ok.injEq] at h
      simp [← h]
    · split at h
      · cases hquad : readQuad cs with
        | error f => simp [hquad, Except.map] at h
        | ok found =>
          have := readQuad_shrinks (show readQuad cs = .ok (found.1, found.2) from hquad)
          simp only [hquad, Except.map, Except.ok.injEq] at h
          simp only [← h, List.length_cons]
          omega
      · simp at h

/-! ### Whole strings -/

/-- The characters of a string up to its closing quote, put in front of `read` in reverse. -/
def readRest (read : List Char) (cs : List Char) : Reading (List Char) :=
  match cs with
  | [] => .error (.here .endInString [])
  | c :: cs =>
      if c = '"' then .ok (read, cs)
      else if c = '\\' then
        match h : readEscape cs with
        | .error f => .error f
        | .ok (x, rest) =>
            have : rest.length < cs.length := readEscape_shrinks h
            readRest (x :: read) rest
      else if c < ' ' then .error (.ahead .controlCharacter (c :: cs))
      else readRest (c :: read) cs
termination_by cs.length

def read (cs : List Char) : Reading String :=
  match readRest [] cs with
  | .error f => .error f
  | .ok (reversed, rest) => .ok (String.ofList reversed.reverse, rest)

/-- A string that is passed over, behind its opening quote. -/
def skip (cs : List Char) : Except Fault (List Char) :=
  match cs with
  | [] => .error (.here .endInString [])
  | c :: cs =>
      if c = '"' then .ok cs
      else if c = '\\' then
        match h : skipEscape cs with
        | .error f => .error f
        | .ok rest =>
            have : rest.length < cs.length := skipEscape_shrinks h
            skip rest
      else if c < ' ' then .error (.here .controlCharacter (c :: cs))
      else skip cs
termination_by cs.length

theorem readRest_shrinks {read cs rest s : List Char}
    (h : readRest read cs = .ok (s, rest)) : rest.length < cs.length := by
  fun_induction readRest read cs with
  | case1 => simp at h
  | case2 read cs =>
    simp only [Except.ok.injEq, Prod.mk.injEq] at h
    simp [← h.2]
  | case3 => simp at h
  | case4 read cs x rest' hescape hlt hquote ih =>
    have := ih h
    simp only [List.length_cons]
    omega
  | case5 => simp at h
  | case6 read c cs hquote hslash hcontrol ih =>
    have := ih h
    simp only [List.length_cons]
    omega

theorem read_shrinks {cs rest : List Char} {s : String} (h : read cs = .ok (s, rest)) :
    rest.length < cs.length := by
  unfold read at h
  split at h
  · simp at h
  · rename_i reversed rest' hrest
    simp only [Except.ok.injEq, Prod.mk.injEq] at h
    rw [← h.2]
    exact readRest_shrinks hrest

theorem skip_shrinks {cs rest : List Char} (h : skip cs = .ok rest) :
    rest.length < cs.length := by
  fun_induction skip cs with
  | case1 => simp at h
  | case2 cs =>
    simp only [Except.ok.injEq] at h
    simp [← h]
  | case3 => simp at h
  | case4 cs rest' hescape hlt hquote ih =>
    have := ih h
    simp only [List.length_cons]
    omega
  | case5 => simp at h
  | case6 c cs hquote hslash hcontrol ih =>
    have := ih h
    simp only [List.length_cons]
    omega

end Provisioner.Json.Quotation
