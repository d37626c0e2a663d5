import Provisioner.Json.Codec
/-!
# Named alternatives

A value of an enumeration is written as the name of the alternative. It is read from that string, or
from an object with the name as its only key and null as its value.
-/

namespace Provisioner.Json

variable {α : Type}

/-- The alternatives of an enumeration under their names. -/
structure Alternatives (α : Type) where
  named : List (String × α)
  name : α → String

namespace Alternatives

def names (a : Alternatives α) : List String := a.named.map Prod.fst

def choose (a : Alternatives α) (name : String) : Except Mismatch α :=
  match Entries.find? name a.named with
  | some choice => .ok choice
  | none => .error (.alternative name a.names)

def decode (a : Alternatives α) : Json → Except Mismatch α
  | .string s => a.choose s
  | .object [(name, content)] =>
      match a.choose name, content with
      | .error m, _ => .error m
      | .ok choice, .null => .ok choice
      | .ok _, content => .error (.shape content.shape .nothing)
  | .object _ => .error .manyNames
  | v => .error (.shape v.shape .alternative)

def readName (cs : List Char) : Reading String :=
  match skipBlanks cs with
  | [] => .error (.ahead .endInObject [])
  | c :: rest =>
      if c = '"' then Quotation.read rest
      else if c = '\x7d' then .error (.ahead .valueMissing (c :: rest))
      else .error (.ahead .keyNotString (c :: rest))

/-- The null that stands beside a name. -/
def readNothing (cs : List Char) : Except Fault (List Char) :=
  match Token.read cs with
  | .error f => .error f
  | .ok (.scalar .null, rest) => .ok rest
  | .ok (t, rest) => .error (t.refuse .nothing rest)

/-- The end of an object that has room for one name only. -/
def readEnd (cs : List Char) : Except Fault (List Char) :=
  match skipBlanks cs with
  | [] => .error (.here .endInObject [])
  | c :: rest => if c = '\x7d' then .ok rest else .error (.here .valueMissing (c :: rest))

def readString (a : Alternatives α) (cs : List Char) : Reading α :=
  match Quotation.read cs with
  | .error f => .error f
  | .ok (name, rest) =>
      match a.choose name with
      | .ok choice => .ok (choice, rest)
      | .error m => .error (.mismatch m rest)

def readObject (a : Alternatives α) (cs : List Char) : Except Fault (α × List Char) := do
  let (name, cs) ← readName cs
  let choice ← (a.choose name).mapError (Fault.mismatch · cs)
  let cs ← passColon cs
  let cs ← readNothing cs
  let cs ← readEnd cs
  return (choice, cs)

def read (a : Alternatives α) (cs : List Char) : Reading α :=
  match skipBlanks cs with
  | [] => .error (.ahead .endInValue [])
  | c :: rest =>
      if c = '"' then a.readString rest
      else if c = '\x7b' then a.readObject rest
      else .error (.ahead .valueMissing (c :: rest))

theorem readName_shrinks {cs rest : List Char} {name : String}
    (h : readName cs = .ok (name, rest)) : rest.length < cs.length := by
  have hle := length_skipBlanks_le cs
  unfold readName at h
  split at h
  · simp at h
  · rename_i c rest' hskip
    rw [hskip, List.length_cons] at hle
    split at h
    · have := Quotation.read_shrinks h
      omega
    split at h <;> simp at h

theorem readNothing_shrinks {cs rest : List Char} (h : readNothing cs = .ok rest) :
    rest.length < cs.length := by
  unfold readNothing at h
  split at h
  · simp at h
  · rename_i rest' hread
    simp only [Except.ok.injEq] at h
    rw [← h]
    exact Token.read_shrinks hread
  · simp at h

theorem readEnd_shrinks {cs rest : List Char} (h : readEnd cs = .ok rest) :
    rest.length < cs.length := by
  have hle := length_skipBlanks_le cs
  unfold readEnd at h
  split at h
  · simp at h
  · rename_i c rest' hskip
    rw [hskip, List.length_cons] at hle
    split at h
    · simp only [Except.ok.injEq] at h
      rw [← h]
      omega
    · simp at h

theorem readString_shrinks {a : Alternatives α} {cs rest : List Char} {choice : α}
    (h : a.readString cs = .ok (choice, rest)) : rest.length < cs.length := by
  unfold readString at h
  split at h
  · simp at h
  · rename_i name rest' hread
    split at h
    · simp only [Except.ok.injEq, Prod.mk.injEq] at h
      rw [← h.2]
      exact Quotation.read_shrinks hread
    · simp at h

theorem readObject_shrinks {a : Alternatives α} {cs rest : List Char} {choice : α}
    (h : a.readObject cs = .ok (choice, rest)) : rest.length < cs.length := by
  simp only [readObject, bind, Except.bind] at h
  split at h
  · simp at h
  · rename_i found hname
    have h₁ := readName_shrinks hname
    split at h
    · simp at h
    · split at h
      · simp at h
      · rename_i rest₁ hcolon
        have h₂ := passColon_shrinks hcolon
        split at h
        · simp at h
        · rename_i rest₂ hnothing
          have h₃ := readNothing_shrinks hnothing
          split at h
          · simp at h
          · rename_i rest₃ hend
            have h₄ := readEnd_shrinks hend
            simp only [pure, Except.pure, Except.ok.injEq, Prod.mk.injEq] at h
            rw [← h.2]
            omega

theorem read_shrinks {a : Alternatives α} {cs rest : List Char} {choice : α}
    (h : a.read cs = .ok (choice, rest)) : rest.length < cs.length := by
  have hle := length_skipBlanks_le cs
  unfold read at h
  split at h
  · simp at h
  · rename_i c rest' hskip
    rw [hskip, List.length_cons] at hle
    split at h
    · have := readString_shrinks h
      omega
    split at h
    · have := readObject_shrinks h
      omega
    · simp at h

end Alternatives

def Codec.enumeration (a : Alternatives α) : Codec α where
  encode choice := .string (a.name choice)
  decode := a.decode
  reader := ⟨a.read, Alternatives.read_shrinks⟩

end Provisioner.Json
