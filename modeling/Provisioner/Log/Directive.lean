import Provisioner.Log.Event
import Provisioner.Text.Characters
import Provisioner.Text.Pattern.Automaton
import Provisioner.Text.Pattern.Reader
import Provisioner.Text.Parts
/-!
# Directives

A directive says up to which level events are shown, and which events it is about: those of targets
that begin with its own, those inside spans of a name, those with a field, and those inside spans
where a field has a value. A written directive is a level, or `target[span{field=value}]=level`, of
which any part may be left out. Without a level it shows everything.

Blanks around a directive are passed over when its parts are looked for, but the parts are counted
off in the directive as it stands, byte by byte, so that a blank in front of it shifts them all. The
name or the level at its end takes the blanks behind it along. A part that would then begin or end
inside a character cannot be counted off at all, and nothing is read any further.
-/

namespace Provisioner.Log

/-- What a directive asks of the value of a field. -/
structure ValueTest where
  text : String
  /-- What looks for the pattern in a value; without it no value will do. -/
  automaton : Option Text.Automaton
deriving DecidableEq, Repr

/-- A field that a directive asks for. -/
structure FieldTest where
  name : String
  value : Option ValueTest
deriving DecidableEq, Repr

/-- What a directive is about. -/
structure Scope where
  target : Option String := none
  span : Option String := none
  field : Option FieldTest := none
deriving DecidableEq, Repr

/-- A directive: the events in its scope pass up to rank `limit`. -/
structure Directive where
  scope : Scope
  limit : Nat
deriving DecidableEq, Repr

inductive Problem where
  | malformed
  | levelUnknown
  | pattern (p : Text.Pattern.Problem)
deriving DecidableEq, Repr

def Problem.message : Problem → String
  | malformed => "invalid filter directive"
  | levelUnknown =>
      "error parsing level filter: expected one of \"off\", \"error\", \"warn\", \"info\", " ++
        "\"debug\", \"trace\", or a number 0-5"
  | pattern .malformed => "invalid field filter: error building NFA"
  | pattern .wordsUnknown =>
      "invalid field filter: unsupported regex feature for DFAs: cannot build DFAs for regexes " ++
        "with Unicode word boundaries; switch to ASCII word boundaries, or heuristically enable " ++
        "Unicode word boundaries or use a different regex engine"

inductive Fault where
  /-- It is no directive, and may be passed over. -/
  | problem (p : Problem)
  /-- A part of it begins or ends inside a character, and nothing can be passed over. -/
  | insideCharacter
deriving DecidableEq, Repr

/-- What comes of reading a directive or a part of one. -/
abbrev Reading (α : Type) := Except Fault α

def refuse {α : Type} (p : Problem) : Reading α := .error (.problem p)

/-! ### Levels -/

/-- The value of a text of digits, which may have a plus in front of it. -/
def number? (cs : List Char) : Option Nat :=
  let digits := if cs.head? = some '+' then cs.tail else cs
  if digits.isEmpty || !digits.all Char.isDigit then none
  else some (digits.foldl (fun n c => 10 * n + (c.toNat - '0'.toNat)) 0)

/-- The rank that a level lets pass, by its name in any case or by its number. -/
def limit? (s : String) : Option Nat :=
  match s.toLower with
  | "off" => some 0
  | "error" => some Level.error.rank
  | "warn" => some Level.warn.rank
  | "info" => some Level.info.rank
  | "debug" => some Level.debug.rank
  | "trace" => some Level.trace.rank
  | _ => (number? s.toList).filter (· ≤ Level.trace.rank)

/-! ### Values -/

/-- Whether a text is empty or a power of ten behind a number. -/
def isExponent : List Char → Bool
  | [] => true
  | e :: cs =>
      let digits := if cs.head? = some '+' || cs.head? = some '-' then cs.tail else cs
      (e == 'e' || e == 'E') && !digits.isEmpty && digits.all Char.isDigit

/-- Whether a text is a number without a sign: with or without a point, but not without a digit. -/
def isUnsigned (cs : List Char) : Bool :=
  let whole := cs.takeWhile Char.isDigit
  match cs.dropWhile Char.isDigit with
  | '.' :: rest =>
      !(whole.isEmpty && (rest.takeWhile Char.isDigit).isEmpty) &&
        isExponent (rest.dropWhile Char.isDigit)
  | rest => !whole.isEmpty && isExponent rest

/-- Whether a text is a truth value or a number, among them the infinite ones and what is none. -/
def isConstant (s : String) : Bool :=
  let cs := s.toList
  let unsigned := if cs.head? = some '+' || cs.head? = some '-' then cs.tail else cs
  s == "true" || s == "false" || isUnsigned unsigned ||
    ["inf", "infinity", "nan"].contains (String.ofList unsigned).toLower

namespace ValueTest

/-- Read what is asked of a value. Truth values and numbers are asked of fields of those kinds only,
    so no text is accepted for them; any other text is a pattern. -/
def parse (text : String) : Reading ValueTest :=
  if isConstant text then .ok ⟨text, none⟩
  else
    match Text.Pattern.parse text with
    | .ok p => .ok ⟨text, some (.ofPattern p)⟩
    | .error p => refuse (.pattern p)

def accepts (test : ValueTest) (value : String) : Bool := test.automaton.any (·.accepts value)

end ValueTest

namespace FieldTest

/-- Read a field: its name and, between the first two equals signs, what is asked of its value. -/
def parse (text : String) : Reading FieldTest :=
  match text.toList.splitOn '=' with
  | name :: value :: _ =>
      (ValueTest.parse (String.ofList value)).map fun test => ⟨String.ofList name, some test⟩
  | _ => .ok ⟨text, none⟩

end FieldTest

/-! ### Reading -/

/-- A directive to be read: as it stands, and without the blanks around it. -/
structure Item where
  written : List Char
  trimmed : List Char

namespace Item

def ofString (s : String) : Item := ⟨s.toList, Text.trim s.toList⟩

/-- The place in the trimmed text that has `rest` behind it. -/
def place (item : Item) (rest : List Char) : Nat :=
  Text.byteSize item.trimmed - Text.byteSize rest

/-- A part of the text that has been counted off. -/
def counted : Option (List Char) → Reading String
  | some cs => .ok (String.ofList cs)
  | none => .error .insideCharacter

/-- What stands between the places in front of two rests of the trimmed text. -/
def between (item : Item) (rest rest' : List Char) : Reading String :=
  counted (Text.slice? (item.place rest) (item.place rest') item.written)

/-- What stands behind the place in front of a rest of the trimmed text. -/
def onward (item : Item) (rest : List Char) : Reading String :=
  counted (Text.behind? (item.place rest) item.written)

end Item

/-- The characters that the name of a target or a level may begin with. -/
def opensName (c : Char) : Bool := c == '-' || c == ':' || c == '_' || Text.isAlphanumeric c

namespace Directive

/-- A single word is a level, or else a target that passes altogether. -/
def ofWord (word : String) : Directive :=
  match limit? word with
  | some limit => ⟨{}, limit⟩
  | none => ⟨{ target := some word }, Level.trace.rank⟩

/-- A directive from the level behind its equals sign. -/
def readLevel (item : Item) (scope : Scope) (rest : List Char) : Reading Directive := do
  let level ← item.onward rest
  if level.isEmpty then return ⟨scope, Level.trace.rank⟩
  match limit? level with
  | some limit => return ⟨scope, limit⟩
  | none => refuse .levelUnknown

/-- A directive from what stands behind the bracket that closes its span. -/
def readEnd (item : Item) (scope : Scope) : List Char → Reading Directive
  | [] => .ok ⟨scope, Level.trace.rank⟩
  | c :: rest => if c = '=' then readLevel item scope rest else refuse .malformed

/-- A directive from its field, behind the brace that opens it. -/
def readField (item : Item) (scope : Scope) (field : List Char) : Reading Directive :=
  match field.dropWhile (· != '\x7d') with
  | [] => refuse .malformed
  | brace :: rest => do
      let text ← item.between field (brace :: rest)
      if text.isEmpty then refuse .malformed
      let test ← FieldTest.parse text
      match rest with
      | ']' :: rest => readEnd item { scope with field := some test } rest
      | _ => refuse .malformed

/-- A directive from its span, behind the bracket that opens it. A name is left out in front of a
    brace only. -/
def readSpan (item : Item) (target : Option String) (span : List Char) : Reading Directive :=
  match span.dropWhile (fun c => c != ']' && c != '\x7b') with
  | [] => refuse .malformed
  | c :: rest => do
      let name ← item.between span (c :: rest)
      if c = ']' then readEnd item ⟨target, some name, none⟩ rest
      else readField item ⟨target, if name.isEmpty then none else some name, none⟩ rest

/-- A directive that begins with a name. -/
def readName (item : Item) : Reading Directive :=
  match item.trimmed.dropWhile (fun c => c != '=' && c != '[') with
  | [] => (item.onward item.trimmed).map ofWord
  | c :: rest => do
      let target ← item.between item.trimmed (c :: rest)
      if c = '=' then readLevel item ⟨some target, none, none⟩ rest
      else readSpan item (some target) rest

def parse (s : String) : Reading Directive :=
  let item := Item.ofString s
  match item.trimmed with
  | [] => refuse .malformed
  | c :: rest =>
      if c = '[' then readSpan item none rest
      else if opensName c then readName item
      else refuse .malformed

end Directive

/-! ### Scopes -/

namespace Scope

/-- The scope is about a target. -/
def covers (s : Scope) (target : String) : Bool :=
  match s.target with
  | some t => t.toList.isPrefixOf target.toList
  | none => true

/-- The scope is about events by themselves, wherever they lie. -/
def isPlain (s : Scope) : Bool := s.span.isNone && s.field.all (·.value.isNone)

/-- The scope is about spans and what lies inside them. -/
def isInner (s : Scope) : Bool := s.span.isSome || s.field.isSome

/-- The name of the field that is asked for; empty if there is none. -/
def fieldName (s : Scope) : String :=
  match s.field with
  | some test => test.name
  | none => ""

/-- Longer targets weigh more than shorter ones, and any target more than none. -/
def weight (s : Scope) : Nat :=
  match s.target with
  | some t => t.length + 1
  | none => 0

/-- The other scope decides before this one where both apply: its target weighs more or, for the
    same target, it asks for a field, or for one that comes later in the alphabet. -/
def yields (s other : Scope) : Bool :=
  s.weight < other.weight || (s.weight == other.weight && s.fieldName ≤ other.fieldName)

/-- The scope is about spans like this one, whatever the values in them. -/
def concerns (s : Scope) (span : Span) : Bool :=
  s.isInner && s.covers Log.target && s.span.all (· == span.name) &&
    s.field.all fun test => (valueOf? test.name span.tags).isSome

/-- The values in a span are as the scope asks. -/
def fits (s : Scope) (span : Span) : Bool :=
  s.field.all fun test =>
    test.value.all fun value =>
      (valueOf? test.name span.tags).any value.accepts

end Scope

end Provisioner.Log
