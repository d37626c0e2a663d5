import Provisioner.Json.Token
/-!
# Readers

A reader takes a value of some type from the front of a text. It never hands back a longer text, and
on success always a shorter one; this travels with the reader (`Reader.shrinks`), so lists and
objects of any length are read by a recursion that ends without a bound given from outside. The
fault that a reader reports is the first one in the order of the text.
-/

namespace Provisioner.Json

structure Reader (α : Type) where
  run : List Char → Reading α
  shrinks : ∀ {cs : List Char} {a : α} {rest : List Char},
    run cs = .ok (a, rest) → rest.length < cs.length

/-! ### Separators -/

/-- Pass what stands in front of an item of a list, `first` or later. The answer is whether there is
    one; if not, the closing bracket is passed. -/
def nextItem (first : Bool) (cs : List Char) : Reading Bool :=
  match skipBlanks cs with
  | [] => .error (.ahead .endInList [])
  | c :: rest =>
      if c = ']' then .ok (false, rest)
      else if first then .ok (true, c :: rest)
      else if c = ',' then
        match skipBlanks rest with
        | [] => .error (.ahead .endInValue [])
        | d :: rest =>
            if d = ']' then .error (.ahead .commaTrailing (d :: rest)) else .ok (true, d :: rest)
      else .error (.ahead .listNotContinued (c :: rest))

def readKey (cs : List Char) : Reading (Option String) :=
  match Quotation.read cs with
  | .error f => .error f
  | .ok (key, rest) => .ok (some key, rest)

/-- Pass a member's key, `first` or later, and what stands in front of it. If there is no further
    member, the closing bracket is passed. -/
def nextKey (first : Bool) (cs : List Char) : Reading (Option String) :=
  match skipBlanks cs with
  | [] => .error (.ahead .endInObject [])
  | c :: rest =>
      if c = '\x7d' then .ok (none, rest)
      else if first then
        if c = '"' then readKey rest else .error (.ahead .keyNotString (c :: rest))
      else if c = ',' then
        match skipBlanks rest with
        | [] => .error (.ahead .endInValue [])
        | d :: rest =>
            if d = '"' then readKey rest
            else if d = '\x7d' then .error (.ahead .commaTrailing (d :: rest))
            else .error (.ahead .keyNotString (d :: rest))
      else .error (.ahead .objectNotContinued (c :: rest))

def passColon (cs : List Char) : Except Fault (List Char) :=
  match skipBlanks cs with
  | [] => .error (.ahead .endInObject [])
  | c :: rest => if c = ':' then .ok rest else .error (.ahead .colonMissing (c :: rest))

theorem nextItem_le {first more : Bool} {cs rest : List Char}
    (h : nextItem first cs = .ok (more, rest)) : rest.length ≤ cs.length := by
  have hle := length_skipBlanks_le cs
  unfold nextItem at h
  split at h
  · simp at h
  · rename_i c rest' hskip
    rw [hskip, List.length_cons] at hle
    split at h
    · simp only [Except.ok.injEq, Prod.mk.injEq] at h
      rw [← h.2]
      omega
    split at h
    · simp only [Except.ok.injEq, Prod.mk.injEq] at h
      rw [← h.2, List.length_cons]
      omega
    split at h
    · have hle' := length_skipBlanks_le rest'
      split at h
      · simp at h
      · rename_i d rest'' hskip'
        rw [hskip', List.length_cons] at hle'
        split at h
        · simp at h
        · simp only [Except.ok.injEq, Prod.mk.injEq] at h
          rw [← h.2, List.length_cons]
          omega
    · simp at h

theorem nextItem_done_shrinks {first : Bool} {cs rest : List Char}
    (h : nextItem first cs = .ok (false, rest)) : rest.length < cs.length := by
  have hle := length_skipBlanks_le cs
  unfold nextItem at h
  split at h
  · simp at h
  · rename_i c rest' hskip
    rw [hskip, List.length_cons] at hle
    split at h
    · simp only [Except.ok.injEq, Prod.mk.injEq, true_and] at h
      rw [← h]
      omega
    split at h
    · simp at h
    split at h
    · split at h
      · simp at h
      · split at h <;> simp at h
    · simp at h

theorem readKey_shrinks {cs rest : List Char} {key : Option String}
    (h : readKey cs = .ok (key, rest)) : rest.length < cs.length := by
  unfold readKey at h
  split at h
  · simp at h
  · rename_i s rest' hread
    simp only [Except.ok.injEq, Prod.mk.injEq] at h
    rw [← h.2]
    exact Quotation.read_shrinks hread

theorem nextKey_shrinks {first : Bool} {cs rest : List Char} {key : Option String}
    (h : nextKey first cs = .ok (key, rest)) : rest.length < cs.length := by
  have hle := length_skipBlanks_le cs
  unfold nextKey at h
  split at h
  · simp at h
  · rename_i c rest' hskip
    rw [hskip, List.length_cons] at hle
    split at h
    · simp only [Except.ok.injEq, Prod.mk.injEq] at h
      rw [← h.2]
      omega
    split at h
    · split at h
      · have := readKey_shrinks h
        omega
      · simp at h
    split at h
    · have hle' := length_skipBlanks_le rest'
      split at h
      · simp at h
      · rename_i d rest'' hskip'
        rw [hskip', List.length_cons] at hle'
        split at h
        · have := readKey_shrinks h
          omega
        · split at h <;> simp at h
    · simp at h

theorem passColon_shrinks {cs rest : List Char} (h : passColon cs = .ok rest) :
    rest.length < cs.length := by
  have hle := length_skipBlanks_le cs
  unfold passColon at h
  split at h
  · simp at h
  · rename_i c rest' hskip
    rw [hskip, List.length_cons] at hle
    split at h
    · simp only [Except.ok.injEq] at h
      rw [← h]
      omega
    · simp at h

namespace Reader

variable {α β σ : Type}

/-! ### Lists and objects -/

/-- The items of a list behind its opening bracket. -/
def listBody (item : Reader α) (first : Bool) (cs : List Char) : Reading (List α) :=
  match hnext : nextItem first cs with
  | .error f => .error f
  | .ok (false, rest) => .ok ([], rest)
  | .ok (true, rest) =>
      match hitem : item.run rest with
      | .error f => .error f
      | .ok (x, rest') =>
          have : rest'.length < cs.length :=
            Nat.lt_of_lt_of_le (item.shrinks hitem) (nextItem_le hnext)
          match listBody item false rest' with
          | .error f => .error f
          | .ok (xs, rest'') => .ok (x :: xs, rest'')
termination_by cs.length

/-- The members of an object behind its opening bracket, taken into a state one by one. For each key
    `member` says how its value is read into the state, or why the key is refused. -/
def objectBody (member : String → σ → Except Mismatch (Reader σ)) (first : Bool) (state : σ)
    (cs : List Char) : Reading σ :=
  match hkey : nextKey first cs with
  | .error f => .error f
  | .ok (none, rest) => .ok (state, rest)
  | .ok (some key, rest) =>
      match member key state with
      | .error m => .error (.late m rest)
      | .ok value =>
          match hcolon : passColon rest with
          | .error f => .error f
          | .ok rest' =>
              match hvalue : value.run rest' with
              | .error f => .error f
              | .ok (state', rest'') =>
                  have : rest''.length < cs.length :=
                    Nat.lt_trans (value.shrinks hvalue)
                      (Nat.lt_trans (passColon_shrinks hcolon) (nextKey_shrinks hkey))
                  objectBody member false state' rest''
termination_by cs.length

theorem listBody_shrinks {item : Reader α} {first : Bool} {cs rest : List Char} {xs : List α}
    (h : listBody item first cs = .ok (xs, rest)) : rest.length < cs.length := by
  fun_induction listBody item first cs generalizing xs rest with
  | case1 => simp at h
  | case2 first cs rest' hnext =>
    simp only [Except.ok.injEq, Prod.mk.injEq] at h
    rw [← h.2]
    exact nextItem_done_shrinks hnext
  | case3 => simp at h
  | case4 => simp at h
  | case5 first cs rest' hnext x rest'' hitem hlt ys rest''' hrest ih =>
    simp only [Except.ok.injEq, Prod.mk.injEq] at h
    have := ih hrest
    rw [← h.2]
    omega

theorem objectBody_shrinks {member : String → σ → Except Mismatch (Reader σ)} {first : Bool}
    {state final : σ} {cs rest : List Char}
    (h : objectBody member first state cs = .ok (final, rest)) : rest.length < cs.length := by
  fun_induction objectBody member first state cs with
  | case1 => simp at h
  | case2 first state cs rest' hkey =>
    simp only [Except.ok.injEq, Prod.mk.injEq] at h
    rw [← h.2]
    exact nextKey_shrinks hkey
  | case3 => simp at h
  | case4 => simp at h
  | case5 => simp at h
  | case6 first state cs key rest' hkey value hmember rest'' hcolon state' rest''' hvalue hlt ih =>
    have := ih h
    omega

/-! ### Building readers -/

def map (f : α → β) (r : Reader α) : Reader β where
  run cs :=
    match r.run cs with
    | .error fault => .error fault
    | .ok (a, rest) => .ok (f a, rest)
  shrinks {cs b rest} h := by
    split at h
    · simp at h
    · rename_i a rest' hrun
      simp only [Except.ok.injEq, Prod.mk.injEq] at h
      rw [← h.2]
      exact r.shrinks hrun

/-- Read a value by its first token: a scalar that `accept` takes. -/
def scalar (wanted : Wanted) (accept : Scalar → Except Mismatch α) : Reader α where
  run cs :=
    match Token.read cs with
    | .error f => .error f
    | .ok (.scalar s, rest) =>
        match accept s with
        | .error m => .error (.mismatch m rest)
        | .ok a => .ok (a, rest)
    | .ok (.opening b, rest) => .error ((Token.opening b).refuse wanted rest)
  shrinks {cs a rest} h := by
    split at h
    · simp at h
    · rename_i s rest' hread
      split at h
      · simp at h
      · simp only [Except.ok.injEq, Prod.mk.injEq] at h
        rw [← h.2]
        exact Token.read_shrinks hread
    · simp at h

def list (item : Reader α) : Reader (List α) where
  run cs :=
    match Token.read cs with
    | .error f => .error f
    | .ok (.opening .list, rest) => item.listBody true rest
    | .ok (t, rest) => .error (t.refuse .sequence rest)
  shrinks {cs a rest} h := by
    split at h
    · simp at h
    · rename_i rest' hread
      exact Nat.lt_trans (listBody_shrinks h) (Token.read_shrinks hread)
    · simp at h

/-- Read an object whose members are all of one type; of two with one name the later counts. -/
def dict (value : Reader α) : Reader (Dict α) where
  run cs :=
    match Token.read cs with
    | .error f => .error f
    | .ok (.opening .object, rest) =>
        objectBody (fun key d => .ok (value.map (d.insert key))) true .empty rest
    | .ok (t, rest) => .error (t.refuse .map rest)
  shrinks {cs a rest} h := by
    split at h
    · simp at h
    · rename_i rest' hread
      exact Nat.lt_trans (objectBody_shrinks h) (Token.read_shrinks hread)
    · simp at h

/-- Read null as `absent`, and anything else with `r`. A text that begins with the letter of null has
    to go on with it. -/
def nullOr (absent : α) (r : Reader α) : Reader α where
  run cs :=
    match skipBlanks cs with
    | 'n' :: rest =>
        match spell ['u', 'l', 'l'] rest with
        | .error f => .error f
        | .ok rest => .ok (absent, rest)
    | _ => r.run cs
  shrinks {cs a rest} h := by
    split at h
    · rename_i rest' hskip
      have hle := length_skipBlanks_le cs
      rw [hskip, List.length_cons] at hle
      split at h
      · simp at h
      · rename_i rest'' hspell
        have := spell_le hspell
        simp only [Except.ok.injEq, Prod.mk.injEq] at h
        rw [← h.2]
        omega
    · exact r.shrinks h

/-! ### Whole texts -/

/-- Read a text that holds one value and nothing else but blanks. -/
def parse (r : Reader α) (text : String) : Except Error α :=
  match r.run text.toList with
  | .error f => .error (f.error text.toList)
  | .ok (a, rest) =>
      match skipBlanks rest with
      | [] => .ok a
      | rest => .error ((Fault.ahead .charactersTrailing rest).error text.toList)

end Reader

end Provisioner.Json
