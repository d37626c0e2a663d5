import Provisioner.Dict
import Provisioner.Decimal
import Provisioner.Text.Parts
import Provisioner.Text.Characters
/-!
# JSON values, and why they are refused

States, configurations and answers travel as JSON values. A number is an integer or a float, never
both: the two are told apart when a value is read, and they show differently in messages.

An object lists its members. A writer lists them in the order in which they are to appear. Values
that are handed around are *settled*: in every object the names increase, so each occurs once.

A text that is no value, or a value that is not of the type it is read as, is refused with an
`Error`.
-/

namespace Provisioner

/-- A number as a reader tells it apart: `1` is an integer, `1.0` and `1e0` are floats. -/
inductive Json.Number where
  | integer (n : Int)
  | float (x : Float)
deriving DecidableEq, Repr

inductive Json where
  | null
  | boolean (b : Bool)
  | number (n : Json.Number)
  | string (s : String)
  | array (items : List Json)
  | object (members : List (String × Json))
deriving Repr

namespace Json

abbrev Members := List (String × Json)

mutual

/-- The same value with the members of every object in increasing order of their names; of two
    members with one name the later stays. -/
def settle : Json → Json
  | null => null
  | boolean b => boolean b
  | number n => number n
  | string s => string s
  | array items => array (settleItems items)
  | object members => object (Entries.arrange (settleMembers members))

def settleItems : List Json → List Json
  | [] => []
  | item :: items => settle item :: settleItems items

def settleMembers : Members → Members
  | [] => []
  | (name, value) :: members => (name, settle value) :: settleMembers members

end

/-- An object whose members are replaced and extended by `edits`; any other value as it is. -/
def amend (edits : Members) : Json → Json
  | object members => object (Entries.overlay members edits)
  | value => value

/-!
## Why JSON is refused

A text can break the rules of JSON (`Malformation`), and a value, read from a text or at hand, can
have another shape than the type it is read as (`Mismatch`). Each cause has one wording, in its
`message`. A cause found in a text also has a position there; one found in a value has none.
-/

/-! ### Broken texts -/

inductive Malformation where
  | endInValue
  | endInList
  | endInObject
  | endInString
  | colonMissing
  | listNotContinued
  | objectNotContinued
  | literalMisspelt
  | valueMissing
  | escapeInvalid
  | numberInvalid
  | numberTooLarge
  | controlCharacter
  | keyNotString
  | surrogateUnpaired
  | surrogateCutOff
  | commaTrailing
  | charactersTrailing
  | nestedTooDeep
deriving DecidableEq, Repr

def Malformation.message : Malformation → String
  | endInValue => "EOF while parsing a value"
  | endInList => "EOF while parsing a list"
  | endInObject => "EOF while parsing an object"
  | endInString => "EOF while parsing a string"
  | colonMissing => "expected `:`"
  | listNotContinued => "expected `,` or `]`"
  | objectNotContinued => "expected `,` or `\x7d`"
  | literalMisspelt => "expected ident"
  | valueMissing => "expected value"
  | escapeInvalid => "invalid escape"
  | numberInvalid => "invalid number"
  | numberTooLarge => "number out of range"
  | controlCharacter => "control character (\\u0000-\\u001F) found while parsing a string"
  | keyNotString => "key must be a string"
  | surrogateUnpaired => "lone leading surrogate in hex escape"
  | surrogateCutOff => "unexpected end of hex escape"
  | commaTrailing => "trailing comma"
  | charactersTrailing => "trailing characters"
  | nestedTooDeep => "recursion limit exceeded"

/-! ### Wrong shapes -/

/-- What stands where something else was wanted, as far as a message shows it. -/
inductive Shape where
  | null
  | boolean (b : Bool)
  | number (n : Number)
  | string (s : String)
  | sequence
  | map
deriving DecidableEq, Repr

def Shape.message : Shape → String
  | null => "null"
  | boolean b => "boolean `" ++ (if b then "true" else "false") ++ "`"
  | number (.integer n) => "integer `" ++ toString n ++ "`"
  | number (.float x) => "floating point `" ++ Decimal.ofFloat x ++ "`"
  | string s => "string " ++ Text.quoted s
  | sequence => "sequence"
  | map => "map"

def shape : Json → Shape
  | .null => .null
  | .boolean b => .boolean b
  | .number n => .number n
  | .string s => .string s
  | .array _ => .sequence
  | .object _ => .map

/-- What a reader wants to see. -/
inductive Wanted where
  | boolean
  | string
  | sequence
  | map
  | word
  | record (name : String)
  | alternative
  | nothing
deriving DecidableEq, Repr

def Wanted.message : Wanted → String
  | boolean => "a boolean"
  | string => "a string"
  | sequence => "a sequence"
  | map => "a map"
  | word => "u32"
  | record name => "struct " ++ name
  | alternative => "string or map"
  | nothing => "unit"

/-- A way for a value not to be of the type it is read as. -/
inductive Mismatch where
  | shape (found : Shape) (wanted : Wanted)
  /-- An integer that a word of 32 bits does not hold. -/
  | range (n : Int)
  /-- An object with other than one member in place of a named alternative. -/
  | manyNames
  /-- A name that is none of the alternatives. -/
  | alternative (name : String) (known : List String)
  | missing (name : String)
  | duplicate (name : String)
  /-- A record written as an array of its members in order ends before a required one. -/
  | short (length : Nat) (record : String) (fields : Nat)
  /-- A record written as an array has more items than members. -/
  | long (length : Nat)
deriving DecidableEq, Repr

private def backquoted (s : String) : String := "`" ++ s ++ "`"

/-- The alternatives as a message lists them. -/
def alternatives : List String → String
  | [a, b] => backquoted a ++ " or " ++ backquoted b
  | names => "one of " ++ ", ".intercalate (names.map backquoted)

def Mismatch.message : Mismatch → String
  | shape found wanted => "invalid type: " ++ found.message ++ ", expected " ++ wanted.message
  | range n => "invalid value: integer `" ++ toString n ++ "`, expected " ++ Wanted.word.message
  | manyNames => "invalid value: map, expected map with a single key"
  | alternative name known =>
      "unknown variant " ++ backquoted name ++ ", expected " ++ alternatives known
  | missing name => "missing field " ++ backquoted name
  | duplicate name => "duplicate field " ++ backquoted name
  | short length record fields =>
      "invalid length " ++ toString length ++ ", expected " ++ (Wanted.record record).message ++
        " with " ++ toString fields ++ (if fields = 1 then " element" else " elements")
  | long length => "invalid length " ++ toString length ++ ", expected fewer elements in array"

/-! ### Errors -/

/-- Why a text or a value is refused. -/
inductive Cause where
  | malformed (m : Malformation)
  | mismatch (m : Mismatch)
deriving DecidableEq, Repr

def Cause.message : Cause → String
  | malformed m => m.message
  | mismatch m => m.message

/-- A refusal as it is reported: its cause, and its place if it comes from a text. -/
structure Error where
  cause : Cause
  position? : Option Position
deriving DecidableEq, Repr

/-- The refusal of a value, which has no place in a text. -/
def Mismatch.error (m : Mismatch) : Error := ⟨.mismatch m, none⟩

def Error.message (e : Error) : String :=
  match e.position? with
  | none => e.cause.message
  | some p =>
      e.cause.message ++ " at line " ++ toString p.line ++ " column " ++ toString p.column

/-!
## Faults of a reader

A reader of a text sees only what is still unread, so the place of a fault is given by the number
of unread bytes behind it. Three places occur: right behind what was read (`Fault.here`), behind the
character that was looked at (`Fault.ahead`), and behind the closing bracket of a record, if that is
next when the record is given up (`Fault.late`).
-/

/-- A cause of refusal and how many bytes were left when a reader met it. -/
structure Fault where
  cause : Cause
  unread : Nat
deriving DecidableEq, Repr

/-- What a reader makes of a text: a value and the text behind it, or a fault. -/
abbrev Reading (α : Type) := Except Fault (α × List Char)

/-! ### Blanks -/

def isBlank (c : Char) : Bool := c == ' ' || c == '\n' || c == '\t' || c == '\r'

def skipBlanks (cs : List Char) : List Char := cs.dropWhile isBlank

theorem length_dropWhile_le {α : Type} (p : α → Bool) (xs : List α) :
    (xs.dropWhile p).length ≤ xs.length :=
  (List.dropWhile_suffix p).length_le

theorem length_skipBlanks_le (cs : List Char) : (skipBlanks cs).length ≤ cs.length :=
  length_dropWhile_le isBlank cs

/-! ### Places -/

namespace Fault

/-- A fault in front of `rest`. -/
def here (m : Malformation) (rest : List Char) : Fault := ⟨.malformed m, Text.byteSize rest⟩

/-- A fault behind the next byte of `rest`, or at the end of the text. -/
def ahead (m : Malformation) (rest : List Char) : Fault := ⟨.malformed m, Text.byteSize rest - 1⟩

def mismatch (m : Mismatch) (rest : List Char) : Fault := ⟨.mismatch m, Text.byteSize rest⟩

/-- What is left of a text when an object is given up in front of it: blanks are passed, and the
    closing bracket if it is next. -/
def giveUp (cs : List Char) : List Char :=
  match skipBlanks cs with
  | '\x7d' :: rest => rest
  | rest => rest

/-- A member that makes its object be given up in front of `rest`. -/
def late (m : Mismatch) (rest : List Char) : Fault := mismatch m (giveUp rest)

/-- The refusal that a fault in `text` amounts to. -/
def error (text : List Char) (f : Fault) : Error :=
  ⟨f.cause, some (Position.before text f.unread)⟩

end Fault

end Json

end Provisioner
