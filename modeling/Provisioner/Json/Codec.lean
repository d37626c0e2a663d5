import Provisioner.Json.Text
/-!
# Codecs

A codec ties a type to JSON in three ways: how a value of the type is written, how it is read from a
JSON value at hand, and how it is read from a text. The last two accept the same contents but do not
go through each other, since a reader of a text meets faults in the order of the text. Codecs are
built from those of scalars by the combinators below, and of records in `Json.Record`.
-/

namespace Provisioner.Json

/-- A type's form in JSON. -/
structure Codec (α : Type) where
  encode : α → Json
  decode : Json → Except Mismatch α
  reader : Reader α

namespace Codec

variable {α β : Type}

/-! ### Use -/

/-- The text of `a`, with the members of records in their declared order. -/
def toText (c : Codec α) (a : α) : String := (c.encode a).text

/-- The settled value of `a`. -/
def toValue (c : Codec α) (a : α) : Json := (c.encode a).settle

/-- Read a text that holds nothing else. -/
def ofText (c : Codec α) (text : String) : Except Error α := c.reader.parse text

def ofValue (c : Codec α) (v : Json) : Except Error α := (c.decode v).mapError Mismatch.error

/-! ### Scalars -/

def scalar (wanted : Wanted) (encode : α → Scalar) (accept : Scalar → Except Mismatch α) :
    Codec α where
  encode a := (encode a).value
  decode
    | .null => accept .null
    | .boolean b => accept (.boolean b)
    | .number n => accept (.number n)
    | .string s => accept (.string s)
    | .array _ => .error (.shape .sequence wanted)
    | .object _ => .error (.shape .map wanted)
  reader := .scalar wanted accept

def string : Codec String :=
  scalar .string .string fun
    | .string s => .ok s
    | s => .error (.shape s.shape .string)

def boolean : Codec Bool :=
  scalar .boolean .boolean fun
    | .boolean b => .ok b
    | s => .error (.shape s.shape .boolean)

def word : Codec UInt32 :=
  scalar .word (fun w => .number (.integer w.toNat)) fun
    | .number (.integer n) =>
        if 0 ≤ n ∧ n < 0x100000000 then .ok (UInt32.ofNat n.toNat) else .error (.range n)
    | s => .error (.shape s.shape .word)

/-! ### Combinators -/

def map (f : α → β) (g : β → α) (c : Codec α) : Codec β where
  encode b := c.encode (g b)
  decode v := (c.decode v).map f
  reader := c.reader.map f

/-- Lists, read up to their first bad item. -/
def list (c : Codec α) : Codec (List α) where
  encode items := .array (items.map c.encode)
  decode
    | .array items => items.mapM c.decode
    | v => .error (.shape v.shape .sequence)
  reader := c.reader.list

def dict (c : Codec α) : Codec (Dict α) where
  encode d := .object (d.entries.map fun entry => (entry.1, c.encode entry.2))
  decode
    | .object members => do
        let entries ← members.mapM fun member => do return (member.1, ← c.decode member.2)
        return Dict.ofList entries
    | v => .error (.shape v.shape .map)
  reader := c.reader.dict

/-- Null reads as a given value; otherwise as `c`. -/
def nullAs (absent : α) (c : Codec α) : Codec α where
  encode := c.encode
  decode
    | .null => .ok absent
    | v => c.decode v
  reader := .nullOr absent c.reader

def option (c : Codec α) : Codec (Option α) where
  encode
    | none => .null
    | some a => c.encode a
  decode
    | .null => .ok none
    | v => (c.decode v).map some
  reader := .nullOr none (c.reader.map some)

/-- Values of any kind, at the given depth inside a text. -/
def value (depth : Nat) : Codec Json where
  encode v := v
  decode v := .ok v
  reader := .value (greatestDepth - depth)

end Codec

end Provisioner.Json
