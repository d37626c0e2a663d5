import Provisioner.Json.Codec
import Provisioner.Json.Skip
/-!
# Records

A record is described once, by the list of its fields (`Field`), and the description gives its
codec. Its contents are a tuple with one component per field (`Row`).

A record is written as an object with its fields in declared order; a field may be left out when its
content says nothing. It is read from an object, whose members may come in any order and whose
unknown members are passed over, or from an array of the contents in declared order. A field that is
absent takes its default; without one, the record is refused. In a text a known field may occur only
once.
-/

namespace Provisioner.Json

structure Field where
  name : String
  Content : Type
  codec : Codec Content
  /-- What stands for an absent content; without it the field is required. -/
  absent : Option Content := none
  /-- Which contents are left out when the record is written. -/
  omitted : Content → Bool := fun _ => false

namespace Field

variable {α : Type}

def required (name : String) (codec : Codec α) : Field := { name, Content := α, codec }

/-- A field with a content of its own when it is absent. -/
def defaulting (name : String) (codec : Codec α) (absent : α) : Field :=
  { name, Content := α, codec, absent := some absent }

/-- A field that may be absent or null, and is written as null when it has no content. -/
def optional (name : String) (codec : Codec α) : Field :=
  { name, Content := Option α, codec := codec.option, absent := some none }

/-- A field with a content of its own when it is absent or null. -/
def nullable (name : String) (codec : Codec α) (absent : α) : Field :=
  { name, Content := α, codec := codec.nullAs absent, absent := some absent }

end Field

/-- The contents of all fields. -/
abbrev Row : List Field → Type
  | [] => Unit
  | field :: fields => field.Content × Row fields

/-- The contents of the fields met so far. -/
abbrev Draft : List Field → Type
  | [] => Unit
  | field :: fields => Option field.Content × Draft fields

namespace Record

/-! ### Writing -/

def members : (fields : List Field) → Row fields → Members
  | [], _ => []
  | field :: fields, (content, row) =>
      if field.omitted content then members fields row
      else (field.name, field.codec.encode content) :: members fields row

/-! ### Absent fields -/

/-- The content of a field that was not met. -/
def whenAbsent (field : Field) : Except Mismatch field.Content :=
  match field.absent with
  | some content => .ok content
  | none => .error (.missing field.name)

def blank : (fields : List Field) → Draft fields
  | [] => ()
  | _ :: fields => (none, blank fields)

/-- The row of a draft, or the first field that is required and was not met. -/
def complete : (fields : List Field) → Draft fields → Except Mismatch (Row fields)
  | [], _ => .ok ()
  | field :: fields, (slot, draft) =>
      match slot with
      | some content => (complete fields draft).map (content, ·)
      | none =>
          match whenAbsent field with
          | .error m => .error m
          | .ok content => (complete fields draft).map (content, ·)

/-- The row of the fields behind the end of an array with `length` items. -/
def defaults (record : String) (total : Nat) :
    (fields : List Field) → (length : Nat) → Except Mismatch (Row fields)
  | [], _ => .ok ()
  | field :: fields, length =>
      match field.absent with
      | some content => (defaults record total fields (length + 1)).map (content, ·)
      | none => .error (.short length record total)

/-! ### Reading values -/

/-- The field with a name, if a value is not of its type. -/
def refusal? (fields : List Field) (member : String × Json) : Option Mismatch :=
  fields.findSome? fun field =>
    if field.name = member.1 then
      match field.codec.decode member.2 with
      | .error m => some m
      | .ok _ => none
    else none

/-- The contents among the members of an object. -/
def draft : (fields : List Field) → Members → Draft fields
  | [], _ => ()
  | field :: fields, ms =>
      ((Entries.find? field.name ms).bind fun v => (field.codec.decode v).toOption, draft fields ms)

/-- Read the members of an object. The first bad member is the fault, before any absent one. -/
def ofMembers (fields : List Field) (ms : Members) : Except Mismatch (Row fields) :=
  match ms.findSome? (refusal? fields) with
  | some m => .error m
  | none => complete fields (draft fields ms)

/-- Read the items of an array, of which `index` are passed; also what is left of them. -/
def ofItems (record : String) (total : Nat) :
    (fields : List Field) → (index : Nat) → List Json → Except Mismatch (Row fields × List Json)
  | [], _, items => .ok ((), items)
  | field :: fields, index, [] => (defaults record total (field :: fields) index).map (·, [])
  | field :: fields, index, item :: items =>
      match field.codec.decode item with
      | .error m => .error m
      | .ok content =>
          (ofItems record total fields (index + 1) items).map fun found =>
            ((content, found.1), found.2)

def decode (record : String) (fields : List Field) : Json → Except Mismatch (Row fields)
  | .object ms => ofMembers fields ms
  | .array items =>
      match ofItems record fields.length fields 0 items with
      | .error m => .error m
      | .ok (row, []) => .ok row
      | .ok (_, _ :: _) => .error (.long items.length)
  | v => .error (.shape v.shape (.record record))

/-! ### Reading texts -/

/-- How the value of a key is read into a draft. -/
def member : (fields : List Field) → String → Draft fields →
    Except Mismatch (Reader (Draft fields))
  | [], _, _ => .ok Reader.skip
  | field :: fields, key, (slot, draft) =>
      if key = field.name then
        match slot with
        | some _ => .error (.duplicate key)
        | none => .ok (field.codec.reader.map fun content => (some content, draft))
      else (member fields key draft).map fun r => r.map fun draft => (slot, draft)

/-- The end of an array all of whose fields are read. -/
def readEnd (cs : List Char) : Except Fault (List Char) :=
  match skipBlanks cs with
  | [] => .error (.ahead .endInList [])
  | c :: rest =>
      if c = ']' then .ok rest
      else if c = ',' then
        match skipBlanks rest with
        | d :: rest =>
            if d = ']' then .error (.ahead .commaTrailing (d :: rest))
            else .error (.ahead .charactersTrailing (d :: rest))
        | [] => .error (.ahead .charactersTrailing [])
      else .error (.ahead .charactersTrailing (c :: rest))

/-- Read the items of an array, of which `index` are passed, up to and with the closing bracket. -/
def readItems (record : String) (total : Nat) :
    (fields : List Field) → (index : Nat) → List Char → Reading (Row fields)
  | [], _, cs => (readEnd cs).map ((), ·)
  | field :: fields, index, cs =>
      match nextItem (index == 0) cs with
      | .error f => .error f
      | .ok (false, rest) =>
          match defaults record total (field :: fields) index with
          | .error m => .error (.mismatch m rest)
          | .ok row => .ok (row, rest)
      | .ok (true, rest) =>
          match field.codec.reader.run rest with
          | .error f => .error f
          | .ok (content, rest) =>
              match readItems record total fields (index + 1) rest with
              | .error f => .error f
              | .ok (row, rest) => .ok ((content, row), rest)

/-- Read the members of an object, up to and with the closing bracket. -/
def readMembers (fields : List Field) (cs : List Char) : Reading (Row fields) :=
  match Reader.objectBody (member fields) true (blank fields) cs with
  | .error f => .error f
  | .ok (draft, rest) =>
      match complete fields draft with
      | .error m => .error (.mismatch m rest)
      | .ok row => .ok (row, rest)

def read (record : String) (fields : List Field) (cs : List Char) : Reading (Row fields) :=
  match Token.read cs with
  | .error f => .error f
  | .ok (.opening .object, rest) => readMembers fields rest
  | .ok (.opening .list, rest) => readItems record fields.length fields 0 rest
  | .ok (t, rest) => .error (t.refuse (.record record) rest)

theorem readEnd_shrinks {cs rest : List Char} (h : readEnd cs = .ok rest) :
    rest.length < cs.length := by
  have hle := length_skipBlanks_le cs
  unfold readEnd at h
  split at h
  · simp at h
  · rename_i c rest' hskip
    rw [hskip, List.length_cons] at hle
    split at h
    · simp only [Except.ok.injEq] at h
      rw [← h]
      omega
    split at h
    · split at h
      · split at h <;> simp at h
      · simp at h
    · simp at h

theorem readItems_shrinks {record : String} {total : Nat} {fields : List Field} {index : Nat}
    {cs rest : List Char} {row : Row fields}
    (h : readItems record total fields index cs = .ok (row, rest)) : rest.length < cs.length := by
  induction fields generalizing index cs rest with
  | nil =>
    simp only [readItems] at h
    cases hend : readEnd cs with
    | error f => simp [hend, Except.map] at h
    | ok rest' =>
      simp only [hend, Except.map, Except.ok.injEq] at h
      have heq : rest' = rest := congrArg Prod.snd h
      exact heq ▸ readEnd_shrinks hend
  | cons field fields ih =>
    simp only [readItems] at h
    split at h
    · simp at h
    · rename_i rest' hnext
      have h₁ := nextItem_done_shrinks hnext
      split at h
      · simp at h
      · simp only [Except.ok.injEq, Prod.mk.injEq] at h
        rw [← h.2]
        exact h₁
    · rename_i rest' hnext
      have h₁ := nextItem_le hnext
      split at h
      · simp at h
      · rename_i content rest'' hcontent
        have h₂ := field.codec.reader.shrinks hcontent
        split at h
        · simp at h
        · rename_i row' rest''' hitems
          have h₃ := ih hitems
          simp only [Except.ok.injEq] at h
          have heq : rest''' = rest := congrArg Prod.snd h
          rw [← heq]
          omega

theorem readMembers_shrinks {fields : List Field} {cs rest : List Char} {row : Row fields}
    (h : readMembers fields cs = .ok (row, rest)) : rest.length < cs.length := by
  unfold readMembers at h
  split at h
  · simp at h
  · rename_i draft rest' hbody
    split at h
    · simp at h
    · simp only [Except.ok.injEq, Prod.mk.injEq] at h
      rw [← h.2]
      exact Reader.objectBody_shrinks hbody

theorem read_shrinks {record : String} {fields : List Field} {cs rest : List Char}
    {row : Row fields} (h : read record fields cs = .ok (row, rest)) :
    rest.length < cs.length := by
  unfold read at h
  split at h
  · simp at h
  · rename_i rest' hread
    exact Nat.lt_trans (readMembers_shrinks h) (Token.read_shrinks hread)
  · rename_i rest' hread
    exact Nat.lt_trans (readItems_shrinks h) (Token.read_shrinks hread)
  · simp at h

end Record

def Codec.record (name : String) (fields : List Field) : Codec (Row fields) where
  encode row := .object (Record.members fields row)
  decode := Record.decode name fields
  reader := ⟨Record.read name fields, Record.read_shrinks⟩

end Provisioner.Json
