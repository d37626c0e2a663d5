import Provisioner.Json.Reader
/-!
# Values that are passed over

The value of a member that a record does not know is checked but not kept. It may nest to any depth,
its numbers are not evaluated, the surrogates of its strings need not pair, and its separators have
complaints of their own. The open brackets around the current place are kept in a list, innermost
first (`skipValue`, `skipRest`).
-/

namespace Provisioner.Json

/-- The complaint about a text that ends inside brackets. -/
def Bracket.cutOff : Bracket → Malformation
  | list => .endInList
  | object => .endInObject

/-- The complaint about anything but a comma or the closing bracket behind a value in brackets. -/
def Bracket.notContinued : Bracket → Malformation
  | list => .listNotContinued
  | object => .objectNotContinued

def Bracket.opened? (c : Char) : Option Bracket :=
  if c = '[' then some .list else if c = '\x7b' then some .object else none

def skipKey (cs : List Char) : Except Fault (List Char) :=
  match skipBlanks cs with
  | [] => .error (.ahead .endInObject [])
  | c :: rest =>
      if c = '"' then
        match Quotation.skip rest with
        | .error f => .error f
        | .ok rest => passColon rest
      else .error (.ahead .keyNotString (c :: rest))

/-- Pass a scalar in front of a text without leading blanks. -/
def skipScalar : List Char → Except Fault (List Char)
  | [] => .error (.ahead .endInValue [])
  | c :: cs =>
      if c = '"' then Quotation.skip cs
      else if c = 'n' then spell ['u', 'l', 'l'] cs
      else if c = 't' then spell ['r', 'u', 'e'] cs
      else if c = 'f' then spell ['a', 'l', 's', 'e'] cs
      else if c = '-' ∨ c.isDigit then (Numeral.read .numberInvalid (c :: cs)).map Prod.snd
      else .error (.ahead .valueMissing (c :: cs))

/-- Pass what a member of an object has in front of its value; an item of a list has nothing. -/
def skipLead : Bracket → List Char → Except Fault (List Char)
  | .list, cs => .ok cs
  | .object, cs => skipKey cs

/-- Go on behind an opening bracket: the answer is whether the bracket was closed at once. If not,
    the first value comes next. -/
def skipOpening (b : Bracket) (cs : List Char) : Reading Bool :=
  match skipBlanks cs with
  | [] => .error (.ahead b.cutOff [])
  | c :: rest =>
      if c = b.ending then .ok (true, rest)
      else (skipLead b (c :: rest)).map fun rest => (false, rest)

theorem skipKey_shrinks {cs rest : List Char} (h : skipKey cs = .ok rest) :
    rest.length < cs.length := by
  have hle := length_skipBlanks_le cs
  unfold skipKey at h
  split at h
  · simp at h
  · rename_i c rest' hskip
    rw [hskip, List.length_cons] at hle
    split at h
    · split at h
      · simp at h
      · rename_i rest'' hstring
        have h₁ := Quotation.skip_shrinks hstring
        have h₂ := passColon_shrinks h
        omega
    · simp at h

theorem skipScalar_shrinks {cs rest : List Char} (h : skipScalar cs = .ok rest) :
    rest.length < cs.length := by
  cases cs with
  | nil => simp [skipScalar] at h
  | cons c cs =>
    simp only [skipScalar] at h
    simp only [List.length_cons]
    split at h
    · exact Nat.lt_succ_of_lt (Quotation.skip_shrinks h)
    split at h
    · exact Nat.lt_succ_of_le (spell_le h)
    split at h
    · exact Nat.lt_succ_of_le (spell_le h)
    split at h
    · exact Nat.lt_succ_of_le (spell_le h)
    split at h
    · cases hread : Numeral.read .numberInvalid (c :: cs) with
      | error f => simp [hread, Except.map] at h
      | ok found =>
        have := Numeral.read_shrinks (show _ = Except.ok (found.1, found.2) from hread)
        simp only [hread, Except.map, Except.ok.injEq] at h
        rw [← h]
        exact this
    · simp at h

theorem skipLead_le {b : Bracket} {cs rest : List Char} (h : skipLead b cs = .ok rest) :
    rest.length ≤ cs.length := by
  cases b with
  | list =>
    simp only [skipLead, Except.ok.injEq] at h
    simp [h]
  | object => exact Nat.le_of_lt (skipKey_shrinks h)

theorem skipOpening_le {b : Bracket} {closed : Bool} {cs rest : List Char}
    (h : skipOpening b cs = .ok (closed, rest)) : rest.length ≤ cs.length := by
  have hle := length_skipBlanks_le cs
  unfold skipOpening at h
  split at h
  · simp at h
  · rename_i c rest' hskip
    rw [hskip, List.length_cons] at hle
    split at h
    · simp only [Except.ok.injEq, Prod.mk.injEq] at h
      rw [← h.2]
      omega
    · cases hlead : skipLead b (c :: rest') with
      | error f => simp [hlead, Except.map] at h
      | ok rest'' =>
        have := skipLead_le hlead
        simp only [hlead, Except.map, Except.ok.injEq, Prod.mk.injEq] at h
        rw [← h.2]
        simp only [List.length_cons] at this
        omega

mutual

/-- Pass a value that stands inside the brackets `around`, and then all of these to their end. -/
def skipValue (around : List Bracket) (cs : List Char) : Except Fault (List Char) :=
  match hskip : skipBlanks cs with
  | [] => .error (.ahead .endInValue [])
  | c :: rest =>
      have hle : rest.length < cs.length := by
        have := length_skipBlanks_le cs
        rw [hskip] at this
        exact this
      match Bracket.opened? c with
      | some b =>
          match hopening : skipOpening b rest with
          | .error f => .error f
          | .ok (true, rest') =>
              have := skipOpening_le hopening
              skipRest around rest'
          | .ok (false, rest') =>
              have := skipOpening_le hopening
              skipValue (b :: around) rest'
      | none =>
          match hscalar : skipScalar (c :: rest) with
          | .error f => .error f
          | .ok rest' =>
              have : rest'.length < cs.length := by
                have := skipScalar_shrinks hscalar
                simp only [List.length_cons] at this
                omega
              skipRest around rest'
termination_by cs.length

/-- Go on behind a value inside the brackets `around`, to the end of all of these. -/
def skipRest (around : List Bracket) (cs : List Char) : Except Fault (List Char) :=
  match around with
  | [] => .ok cs
  | b :: around =>
      match hskip : skipBlanks cs with
      | [] => .error (.ahead b.cutOff [])
      | c :: rest =>
          have hle : rest.length < cs.length := by
            have := length_skipBlanks_le cs
            rw [hskip] at this
            exact this
          if c = b.ending then skipRest around rest
          else if c = ',' then
            match hlead : skipLead b rest with
            | .error f => .error f
            | .ok rest' =>
                have := skipLead_le hlead
                skipValue (b :: around) rest'
          else .error (.ahead b.notContinued (c :: rest))
termination_by cs.length

end

theorem skip_bounds (n : Nat) : ∀ (around : List Bracket) (cs rest : List Char), cs.length = n →
    (skipValue around cs = .ok rest → rest.length < cs.length) ∧
    (skipRest around cs = .ok rest → rest.length ≤ cs.length) := by
  induction n using Nat.strongRecOn with
  | _ n ih =>
    intro around cs rest hn
    constructor
    · intro h
      rw [skipValue] at h
      split at h
      · simp at h
      · rename_i c rest' hskip
        have hle := length_skipBlanks_le cs
        rw [hskip, List.length_cons] at hle
        split at h
        · split at h
          · simp at h
          · rename_i rest'' hopening
            have h₁ := skipOpening_le hopening
            have h₂ := (ih rest''.length (by omega) around rest'' rest rfl).2 h
            omega
          · rename_i rest'' hopening
            have h₁ := skipOpening_le hopening
            have h₂ := (ih rest''.length (by omega) _ rest'' rest rfl).1 h
            omega
        · split at h
          · simp at h
          · rename_i rest'' hscalar
            have h₁ := skipScalar_shrinks hscalar
            simp only [List.length_cons] at h₁
            have h₂ := (ih rest''.length (by omega) around rest'' rest rfl).2 h
            omega
    · intro h
      cases around with
      | nil =>
        simp only [skipRest, Except.ok.injEq] at h
        simp [h]
      | cons b around =>
        rw [skipRest] at h
        split at h
        · simp at h
        · rename_i c rest' hskip
          have hle := length_skipBlanks_le cs
          rw [hskip, List.length_cons] at hle
          split at h
          · have := (ih rest'.length (by omega) around rest' rest rfl).2 h
            omega
          split at h
          · split at h
            · simp at h
            · rename_i rest'' hlead
              have h₁ := skipLead_le hlead
              have h₂ := (ih rest''.length (by omega) _ rest'' rest rfl).1 h
              omega
          · simp at h

def Reader.skip : Reader Unit where
  run cs := (skipValue [] cs).map fun rest => ((), rest)
  shrinks {cs a rest} h := by
    cases hskip : skipValue [] cs with
    | error f => simp [hskip, Except.map] at h
    | ok rest' =>
      simp only [hskip, Except.map, Except.ok.injEq, Prod.mk.injEq] at h
      rw [← h.2]
      exact (skip_bounds cs.length [] cs rest' rfl).1 hskip

end Provisioner.Json
