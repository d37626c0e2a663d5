import Provisioner.Provider
import Provisioner.Text.Characters
/-!
# What is logged

A provider logs every call twice: when it is called and when it has finished. Events are values; who
wants to see them filters and renders them. An event lies in the span of its call, which carries the
call's names in quotes; its own fields follow the message as they are.
-/

namespace Provisioner.Log

inductive Level where
  | error
  | warn
  | info
  | debug
  | trace
deriving DecidableEq, Repr

namespace Level

/-- Levels count from the gravest. -/
def rank : Level → Nat
  | error => 1
  | warn => 2
  | info => 3
  | debug => 4
  | trace => 5

def name : Level → String
  | error => "ERROR"
  | warn => "WARN"
  | info => "INFO"
  | debug => "DEBUG"
  | trace => "TRACE"

end Level

/-- A named value of an event or a span. -/
structure Tag where
  name : String
  value : String
deriving DecidableEq, Repr

/-- The work that events belong to. -/
structure Span where
  name : String
  tags : List Tag
deriving DecidableEq, Repr

structure Event where
  level : Level
  span : Span
  message : String
  tags : List Tag
deriving DecidableEq, Repr

/-- Where all events of this library come from. -/
def target : String := "workspace_provider::provider"

def Span.level : Level := .info

def valueOf? (name : String) (tags : List Tag) : Option String :=
  (tags.find? (·.name == name)).map Tag.value

/-- The names that an event carries: that of its message and those of its tags. -/
def Event.names (e : Event) : List String := "message" :: e.tags.map Tag.name

def Span.text (s : Span) : String :=
  s.name ++ "\x7b" ++
    " ".intercalate (s.tags.map fun tag => tag.name ++ "=" ++ Text.quoted tag.value) ++ "\x7d"

/-- The event in one line; its span is left out when it is not wanted. -/
def Event.text (e : Event) (withSpan : Bool) : String :=
  let span := if withSpan then e.span.text ++ ": " else ""
  let tags := e.tags.map fun tag => " " ++ tag.name ++ "=" ++ tag.value
  e.level.name ++ " " ++ span ++ target ++ ": " ++ e.message ++ String.join tags

end Log

/-! ### The events of a call -/

namespace Call

open Log

variable {α : Type}

/-- The names that tell a call from others. -/
def tags : Call α → List Tag
  | create t _ => [⟨"resource_type", t⟩]
  | read t _ => [⟨"resource_type", t⟩]
  | update t _ _ => [⟨"resource_type", t⟩]
  | delete t _ => [⟨"resource_type", t⟩]
  | importResource t id => [⟨"resource_type", t⟩, ⟨"id", id⟩]
  | readDataSource t _ => [⟨"data_source_type", t⟩]

def spanName : Call α → String
  | create _ _ => "provider.create"
  | read _ _ => "provider.read"
  | update _ _ _ => "provider.update"
  | delete _ _ => "provider.delete"
  | importResource _ _ => "provider.import_resource"
  | readDataSource _ _ => "provider.read_data_source"

def title : Call α → String
  | create _ _ => "Create"
  | read _ _ => "Read"
  | update _ _ _ => "Update"
  | delete _ _ => "Delete"
  | importResource _ _ => "ImportResource"
  | readDataSource _ _ => "ReadDataSource"

/-- Calls that only look are logged less loudly. -/
def calledLevel : Call α → Level
  | read _ _ => .debug
  | readDataSource _ _ => .debug
  | _ => .info

/-- The level and the message of a success. -/
def succeeded : (call : Call α) → call.Reply → Level × String
  | create _ _, _ => (.info, "Create completed successfully")
  | read _ _, some _ => (.debug, "Read completed successfully")
  | read _ _, none => (.warn, "Remote object no longer exists, removing from state")
  | update _ _ _, _ => (.info, "Update completed successfully")
  | delete _ _, _ => (.info, "Delete completed successfully")
  | importResource _ _, _ => (.info, "ImportResource completed")
  | readDataSource _ _, _ => (.info, "ReadDataSource completed successfully")

def span (call : Call α) : Span := ⟨call.spanName, call.tags⟩

/-- The event of a call that begins. -/
def called (call : Call α) : Event :=
  ⟨call.calledLevel, call.span, call.title ++ " called", call.tags⟩

/-- The event of a call that has a result. -/
def finished (call : Call α) : Except Failure call.Reply → Event
  | .ok reply =>
      let (level, message) := call.succeeded reply
      ⟨level, call.span, message, call.tags⟩
  | .error f =>
      ⟨.error, call.span, call.title ++ " failed", call.tags ++ [⟨"error", f.text⟩]⟩

def events (call : Call α) (result : Except Failure call.Reply) : List Event :=
  [call.called, call.finished result]

end Call

end Provisioner
