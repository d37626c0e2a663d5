import Provisioner.Json.Numeral
import Provisioner.Json.Quotation
/-!
# The first token of a value

Every value begins either with a bracket or with a scalar, a value without parts. `Token.read` reads
a scalar whole and of a list or an object only the bracket. What is found can then be refused with
its shape (`Token.refuse`): a scalar is refused behind it, a bracket in front of it.
-/

namespace Provisioner.Json

/-- A value without parts. -/
inductive Scalar where
  | null
  | boolean (b : Bool)
  | number (n : Number)
  | string (s : String)
deriving DecidableEq, Repr

def Scalar.value : Scalar → Json
  | null => .null
  | boolean b => .boolean b
  | number n => .number n
  | string s => .string s

def Scalar.shape (s : Scalar) : Shape := s.value.shape

/-- The brackets around a value with parts. -/
inductive Bracket where
  | list
  | object
deriving DecidableEq, Repr

def Bracket.opening : Bracket → Char
  | list => '['
  | object => '\x7b'

def Bracket.ending : Bracket → Char
  | list => ']'
  | object => '\x7d'

def Bracket.shape : Bracket → Shape
  | list => .sequence
  | object => .map

/-- What a value begins with. -/
inductive Token where
  | scalar (s : Scalar)
  | opening (b : Bracket)
deriving DecidableEq, Repr

/-- The rest of a literal whose first letter is passed. -/
def spell : List Char → List Char → Except Fault (List Char)
  | [], cs => .ok cs
  | _ :: _, [] => .error (.here .endInValue [])
  | w :: ws, c :: cs =>
      if c = w then spell ws cs else .error (.ahead .literalMisspelt (c :: cs))

theorem spell_le {word cs rest : List Char} (h : spell word cs = .ok rest) :
    rest.length ≤ cs.length := by
  induction word generalizing cs with
  | nil =>
    simp only [spell, Except.ok.injEq] at h
    simp [h]
  | cons w ws ih =>
    cases cs with
    | nil => simp [spell] at h
    | cons c cs =>
      simp only [spell] at h
      split at h
      · have := ih h
        simp only [List.length_cons]
        omega
      · simp at h

namespace Token

/-- A literal, behind its first letter, and the scalar it stands for. -/
def readLiteral (word : List Char) (s : Scalar) (cs : List Char) : Reading Token :=
  (spell word cs).map fun rest => (scalar s, rest)

def readNumber (cs : List Char) : Reading Token :=
  match Numeral.read .endInValue cs with
  | .error f => .error f
  | .ok (numeral, rest) => (numeral.evaluate rest).map fun n => (scalar (.number n), rest)

def readString (cs : List Char) : Reading Token :=
  match Quotation.read cs with
  | .error f => .error f
  | .ok (s, rest) => .ok (scalar (.string s), rest)

/-- The token in front of a text without leading blanks. -/
def readHere : List Char → Reading Token
  | [] => .error (.ahead .endInValue [])
  | c :: cs =>
      if c = '[' then .ok (opening .list, cs)
      else if c = '\x7b' then .ok (opening .object, cs)
      else if c = '"' then readString cs
      else if c = 'n' then readLiteral ['u', 'l', 'l'] .null cs
      else if c = 't' then readLiteral ['r', 'u', 'e'] (.boolean true) cs
      else if c = 'f' then readLiteral ['a', 'l', 's', 'e'] (.boolean false) cs
      else if c = '-' ∨ c.isDigit then readNumber (c :: cs)
      else .error (.ahead .valueMissing (c :: cs))

def read (cs : List Char) : Reading Token := readHere (skipBlanks cs)

theorem readLiteral_le {word cs rest : List Char} {s : Scalar} {t : Token}
    (h : readLiteral word s cs = .ok (t, rest)) : rest.length ≤ cs.length := by
  unfold readLiteral at h
  cases hspell : spell word cs with
  | error f => simp [hspell, Except.map] at h
  | ok rest' =>
    simp only [hspell, Except.map, Except.ok.injEq, Prod.mk.injEq] at h
    rw [← h.2]
    exact spell_le hspell

theorem readNumber_shrinks {cs rest : List Char} {t : Token} (h : readNumber cs = .ok (t, rest)) :
    rest.length < cs.length := by
  unfold readNumber at h
  split at h
  · simp at h
  · rename_i numeral rest' hread
    cases hvalue : numeral.evaluate rest' with
    | error f => simp [hvalue, Except.map] at h
    | ok n =>
      simp only [hvalue, Except.map, Except.ok.injEq, Prod.mk.injEq] at h
      rw [← h.2]
      exact Numeral.read_shrinks hread

theorem readString_shrinks {cs rest : List Char} {t : Token} (h : readString cs = .ok (t, rest)) :
    rest.length < cs.length := by
  unfold readString at h
  split at h
  · simp at h
  · rename_i s rest' hread
    simp only [Except.ok.injEq, Prod.mk.injEq] at h
    rw [← h.2]
    exact Quotation.read_shrinks hread

theorem readHere_shrinks {cs rest : List Char} {t : Token} (h : readHere cs = .ok (t, rest)) :
    rest.length < cs.length := by
  cases cs with
  | nil => simp [readHere] at h
  | cons c cs =>
    simp only [readHere] at h
    simp only [List.length_cons]
    split at h
    · simp only [Except.ok.injEq, Prod.mk.injEq] at h
      rw [← h.2]
      omega
    split at h
    · simp only [Except.ok.injEq, Prod.mk.injEq] at h
      rw [← h.2]
      omega
    split at h
    · exact Nat.lt_succ_of_lt (readString_shrinks h)
    split at h
    · exact Nat.lt_succ_of_le (readLiteral_le h)
    split at h
    · exact Nat.lt_succ_of_le (readLiteral_le h)
    split at h
    · exact Nat.lt_succ_of_le (readLiteral_le h)
    split at h
    · exact readNumber_shrinks h
    · simp at h

theorem read_shrinks {cs rest : List Char} {t : Token} (h : read cs = .ok (t, rest)) :
    rest.length < cs.length :=
  Nat.lt_of_lt_of_le (readHere_shrinks h) (length_skipBlanks_le cs)

/-- The fault of a token that is not what was wanted; `rest` is the text behind it. -/
def refuse (wanted : Wanted) (rest : List Char) : Token → Fault
  | scalar s => .mismatch (.shape s.shape wanted) rest
  | opening b => .mismatch (.shape b.shape wanted) (b.opening :: rest)

end Token

end Provisioner.Json
