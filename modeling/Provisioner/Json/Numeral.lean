import Provisioner.Json.Basic
/-!
# Numerals

A numeral is read in two steps. Its text is split into sign, digits and exponent (`Numeral.read`);
this is all that matters for a value that is passed over. Only a value that is kept is then
evaluated (`Numeral.evaluate`). An integer of 64 bits stays an integer; everything else, also `-0`,
is a float. Of the digits as many count as fit 64 bits, further ones only move the point.
-/

namespace Provisioner.Json

structure Numeral where
  negative : Bool
  whole : List Char
  /-- The digits behind the point; none if there is no point. -/
  fraction : List Char
  /-- Whether the exponent is negative, and its digits. -/
  exponent : Option (Bool × List Char)
deriving DecidableEq, Repr

namespace Numeral

/-! ### Splitting -/

def digits (cs : List Char) : List Char × List Char :=
  (cs.takeWhile Char.isDigit, cs.dropWhile Char.isDigit)

/-- The digits in front of the point: a single zero, or digits that do not begin with one.
    `cut` is the complaint about a text that ends too early. -/
def readWhole (cut : Malformation) : List Char → Reading (List Char)
  | [] => .error (.here cut [])
  | c :: cs =>
      if c = '0' then
        match cs with
        | d :: _ => if d.isDigit then .error (.ahead .numberInvalid cs) else .ok (['0'], cs)
        | [] => .ok (['0'], [])
      else if c.isDigit then .ok (c :: (digits cs).1, (digits cs).2)
      else .error (.ahead .numberInvalid (c :: cs))

/-- A point and the digits behind it, at least one; or nothing. -/
def readFraction (cut : Malformation) : List Char → Reading (List Char)
  | '.' :: cs =>
      match digits cs with
      | ([], []) => .error (.ahead cut [])
      | ([], rest) => .error (.ahead .numberInvalid rest)
      | found => .ok found
  | cs => .ok ([], cs)

/-- The sign in front of an exponent's digits, and whether it is a minus. -/
def readSign : List Char → Bool × List Char
  | '+' :: cs => (false, cs)
  | '-' :: cs => (true, cs)
  | cs => (false, cs)

/-- The mark of an exponent and at least one digit; or nothing. -/
def readExponent (cut : Malformation) : List Char → Reading (Option (Bool × List Char))
  | [] => .ok (none, [])
  | c :: cs =>
      if c = 'e' ∨ c = 'E' then
        match readSign cs with
        | (_, []) => .error (.here cut [])
        | (negative, d :: rest) =>
            if d.isDigit then .ok (some (negative, d :: (digits rest).1), (digits rest).2)
            else .error (.ahead .numberInvalid (d :: rest))
      else .ok (none, c :: cs)

def readUnsigned (cut : Malformation) (negative : Bool) (cs : List Char) :
    Except Fault (Numeral × List Char) := do
  let (whole, cs) ← readWhole cut cs
  let (fraction, cs) ← readFraction cut cs
  let (exponent, cs) ← readExponent cut cs
  return (⟨negative, whole, fraction, exponent⟩, cs)

def read (cut : Malformation) : List Char → Reading Numeral
  | '-' :: cs => readUnsigned cut true cs
  | cs => readUnsigned cut false cs

theorem length_digits_le (cs : List Char) : (digits cs).2.length ≤ cs.length :=
  length_dropWhile_le _ cs

theorem readWhole_shrinks {cut : Malformation} {cs rest ds : List Char}
    (h : readWhole cut cs = .ok (ds, rest)) : rest.length < cs.length := by
  cases cs with
  | nil => simp [readWhole] at h
  | cons c cs =>
    simp only [readWhole] at h
    split at h
    · split at h
      · split at h
        · simp at h
        · simp at h; simp [← h.2]
      · simp at h; simp [← h.2]
    · split at h
      · simp only [Except.ok.injEq, Prod.mk.injEq] at h
        have := length_digits_le cs
        rw [← h.2, List.length_cons]
        omega
      · simp at h

theorem readFraction_le {cut : Malformation} {cs rest ds : List Char}
    (h : readFraction cut cs = .ok (ds, rest)) : rest.length ≤ cs.length := by
  unfold readFraction at h
  split at h
  · rename_i cs
    have hle := length_digits_le cs
    split at h
    · simp at h
    · simp at h
    · simp only [Except.ok.injEq] at h
      rw [h] at hle
      exact Nat.le_of_lt (Nat.lt_succ_of_le hle)
  · simp only [Except.ok.injEq, Prod.mk.injEq] at h
    exact Nat.le_of_eq (congrArg List.length h.2.symm)

theorem readSign_le (cs : List Char) : (readSign cs).2.length ≤ cs.length := by
  unfold readSign
  split <;> simp

theorem readExponent_le {cut : Malformation} {cs rest : List Char} {e : Option (Bool × List Char)}
    (h : readExponent cut cs = .ok (e, rest)) : rest.length ≤ cs.length := by
  cases cs with
  | nil =>
    simp only [readExponent, Except.ok.injEq, Prod.mk.injEq] at h
    simp [← h.2]
  | cons c cs =>
    simp only [readExponent] at h
    split at h
    · have hsign := readSign_le cs
      split at h
      · simp at h
      · rename_i negative d rest' heq
        rw [heq] at hsign
        split at h
        · simp only [Except.ok.injEq, Prod.mk.injEq] at h
          have := length_digits_le rest'
          simp only [List.length_cons] at hsign ⊢
          rw [← h.2]
          omega
        · simp at h
    · simp only [Except.ok.injEq, Prod.mk.injEq] at h
      simp [← h.2]

theorem readUnsigned_shrinks {cut : Malformation} {negative : Bool} {cs rest : List Char}
    {n : Numeral} (h : readUnsigned cut negative cs = .ok (n, rest)) :
    rest.length < cs.length := by
  simp only [readUnsigned, bind, Except.bind] at h
  split at h
  · simp at h
  · rename_i whole hwhole
    have h₁ := readWhole_shrinks hwhole
    split at h
    · simp at h
    · rename_i fraction hfraction
      have h₂ := readFraction_le hfraction
      split at h
      · simp at h
      · rename_i exponent hexponent
        have h₃ := readExponent_le hexponent
        simp only [pure, Except.pure, Except.ok.injEq, Prod.mk.injEq] at h
        rw [← h.2]
        omega

theorem read_shrinks {cut : Malformation} {cs rest : List Char} {n : Numeral}
    (h : read cut cs = .ok (n, rest)) : rest.length < cs.length := by
  unfold read at h
  split at h
  · have := readUnsigned_shrinks h
    simp only [List.length_cons]
    omega
  · exact readUnsigned_shrinks h

/-! ### Evaluating -/

def digitValue (c : Char) : Nat := c.toNat - '0'.toNat

/-- Significands are kept below this bound, `2 ^ 64`. -/
def wordBound : Nat := 0x10000000000000000

/-- Append digits to a significand while it stays below the bound; also the number of digits that
    were left out. -/
def absorb : Nat → List Char → Nat × Nat
  | significand, [] => (significand, 0)
  | significand, d :: ds =>
      let next := significand * 10 + digitValue d
      if next < wordBound then absorb next ds else (significand, ds.length + 1)

/-- Exponents are read up to this value, the greatest of 32 bits with a sign. -/
def greatestExponent : Nat := 0x7fffffff

/-- The value of an exponent's digits, or else the number of digits behind the one with which it
    grows too large. -/
def exponentValue : Nat → List Char → Except Nat Nat
  | value, [] => .ok value
  | value, d :: ds =>
      let next := value * 10 + digitValue d
      if next ≤ greatestExponent then exponentValue next ds else .error ds.length

/-- The float `± significand * 10 ^ shift`, unless it is too large. -/
def float? (negative : Bool) (significand : Nat) (shift : Int) : Option Number :=
  (Decimal.scale (Decimal.ofNat significand) shift).map fun x =>
    .float (if negative then -x else x)

/-- The number that a numeral stands for; `rest` is the text behind it, for the place of a fault. -/
def evaluate (n : Numeral) (rest : List Char) : Except Fault Number :=
  let (significand, dropped) := absorb 0 n.whole
  let integral := n.fraction.isEmpty && n.exponent.isNone && dropped == 0
  if integral && !n.negative then .ok (.integer significand)
  else if integral && 0 < significand && significand ≤ wordBound / 2 then
    .ok (.integer (-(significand : Int)))
  else
    let (significand, unused) := absorb significand n.fraction
    let shift : Int := (dropped : Int) - ((n.fraction.length - unused : Nat) : Int)
    match n.exponent with
    | none => finish significand shift (Text.byteSize rest)
    | some (negative, ds) =>
        match exponentValue 0 ds with
        | .ok e => finish significand (if negative then shift - e else shift + e) (Text.byteSize rest)
        | .error left =>
            if significand ≠ 0 ∧ !negative then tooLarge (left + Text.byteSize rest)
            else .ok (.float (if n.negative then -0.0 else 0.0))
where
  tooLarge (unread : Nat) : Except Fault Number :=
    .error ⟨.malformed .numberTooLarge, unread⟩
  finish (significand : Nat) (shift : Int) (unread : Nat) : Except Fault Number :=
    match float? n.negative significand shift with
    | some x => .ok x
    | none => tooLarge unread

end Numeral

end Provisioner.Json
