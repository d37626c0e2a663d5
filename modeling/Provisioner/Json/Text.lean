import Provisioner.Json.Reader
import Provisioner.Json.Basic
import Provisioner.Json.Quotation
/-!
# Values as text

A value of unknown type is read whole. Lists and objects may nest only so deep; the reader is built
by recursion on the depth that is left, so it ends for every text. Of two members with one name the
later counts, and the members come out in the order of their names.

The written form of a value has no blanks. Members appear in the order in which the object lists
them.
-/

namespace Provisioner.Json

/-! ## Reading -/

/-- How deep the brackets of a whole text may nest. -/
def greatestDepth : Nat := 127

/-- What a reader of values does behind an opening bracket. -/
abbrev Inside := Bracket → List Char → Reading Json

/-- Read a value by its first token: a scalar, or what `inside` makes of an opening bracket. -/
def readValue (inside : Inside) (cs : List Char) : Reading Json :=
  match Token.read cs with
  | .error f => .error f
  | .ok (.scalar s, rest) => .ok (s.value, rest)
  | .ok (.opening b, rest) => inside b rest

/-- The items or members behind an opening bracket, all of them read by `value`. -/
def readInside (value : Reader Json) : Inside
  | .list, cs =>
      match value.listBody true cs with
      | .error f => .error f
      | .ok (items, rest) => .ok (.array items, rest)
  | .object, cs =>
      match Reader.objectBody (fun key ms => .ok (value.map (Entries.put key · ms))) true [] cs with
      | .error f => .error f
      | .ok (members, rest) => .ok (.object members, rest)

theorem readValue_shrinks {inside : Inside}
    (hinside : ∀ {b cs v rest}, inside b cs = .ok (v, rest) → rest.length < cs.length)
    {cs rest : List Char} {v : Json} (h : readValue inside cs = .ok (v, rest)) :
    rest.length < cs.length := by
  unfold readValue at h
  split at h
  · simp at h
  · rename_i s rest' hread
    simp only [Except.ok.injEq, Prod.mk.injEq] at h
    rw [← h.2]
    exact Token.read_shrinks hread
  · rename_i b rest' hread
    exact Nat.lt_trans (hinside h) (Token.read_shrinks hread)

theorem readInside_shrinks {value : Reader Json} {b : Bracket} {cs rest : List Char} {v : Json}
    (h : readInside value b cs = .ok (v, rest)) : rest.length < cs.length := by
  cases b with
  | list =>
    simp only [readInside] at h
    split at h
    · simp at h
    · rename_i items rest' hbody
      simp only [Except.ok.injEq, Prod.mk.injEq] at h
      rw [← h.2]
      exact Reader.listBody_shrinks hbody
  | object =>
    simp only [readInside] at h
    split at h
    · simp at h
    · rename_i members rest' hbody
      simp only [Except.ok.injEq, Prod.mk.injEq] at h
      rw [← h.2]
      exact Reader.objectBody_shrinks hbody

/-- Read a value in which brackets nest no deeper than `depth`. -/
def Reader.value : Nat → Reader Json
  | 0 =>
      { run := readValue fun _ cs => .error (.here .nestedTooDeep cs)
        shrinks := readValue_shrinks (by simp) }
  | depth + 1 =>
      { run := readValue (readInside (value depth))
        shrinks := readValue_shrinks readInside_shrinks }

def ofText (text : String) : Except Error Json := (Reader.value greatestDepth).parse text

/-! ## Writing -/

def writeInteger (n : Int) : List Char :=
  if n < 0 then '-' :: Nat.toDigits 10 n.natAbs else Nat.toDigits 10 n.natAbs

def Number.write : Number → List Char
  | integer n => writeInteger n
  | float x => (Decimal.ofFloat x).toList

mutual

def write : Json → List Char
  | null => ['n', 'u', 'l', 'l']
  | boolean true => ['t', 'r', 'u', 'e']
  | boolean false => ['f', 'a', 'l', 's', 'e']
  | number n => n.write
  | string s => Quotation.write s
  | array [] => ['[', ']']
  | array (item :: items) => '[' :: (write item ++ writeItems items)
  | object [] => ['\x7b', '\x7d']
  | object ((name, value) :: members) =>
      '\x7b' :: (Quotation.write name ++ ':' :: (write value ++ writeMembers members))

/-- The items behind the first one, and the closing bracket. -/
def writeItems : List Json → List Char
  | [] => [']']
  | item :: items => ',' :: (write item ++ writeItems items)

/-- The members behind the first one, and the closing bracket. -/
def writeMembers : Members → List Char
  | [] => ['\x7d']
  | (name, value) :: members =>
      ',' :: (Quotation.write name ++ ':' :: (write value ++ writeMembers members))

end

def text (v : Json) : String := String.ofList v.write

end Provisioner.Json
