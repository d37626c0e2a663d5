import Provisioner.Log.Directive
import Provisioner.Text.Parts
/-!
# Filters and the setup of the log

A filter says which events are shown (`Filter.shows`). A process sets its log up with one filter
(`Output.apply`), and that one stays.
-/

namespace Provisioner.Log

/-!
## Which events are shown

A filter is a list of directives, written with commas between them; of two with one scope the later
counts. An event is shown if the directives about it let it pass: of those that are about events by
themselves the most specific one decides (`Filter.deciding?`), and inside a span every directive
about that span may let it pass too. An event about which there is no directive is not shown.

The ceiling of a filter is the highest level that it may ever show. A span below the ceiling is
noticed; otherwise the directives about it have no effect.
-/

/-- What is shown. -/
structure Filter where
  directives : List Directive
deriving DecidableEq, Repr

/-- A directive that is not read, and why. -/
structure Notice where
  item : String
  problem : Problem
deriving DecidableEq, Repr

def Notice.text (n : Notice) : String :=
  "ignoring `" ++ n.item ++ "`: " ++ n.problem.message

namespace Filter

/-! ### Reading -/

/-- The items of a text, without the empty ones. -/
def items (text : String) : List String :=
  (text.toList.splitOn ',').filterMap fun item =>
    if item.isEmpty then none else some (String.ofList item)

/-- Read a filter all of whose items are directives. The first that is not decides what is wrong. -/
def parse (text : String) : Reading Filter := ((items text).mapM Directive.parse).map Filter.mk

/-- What is there of some items: notices of those that are passed over, and the directives, unless
    an item cannot be passed over. No notice is taken of what stands behind such an item. -/
def sortOut : List String → List Notice × Option (List Directive)
  | [] => ([], some [])
  | item :: items =>
      match Directive.parse item with
      | .ok d =>
          let (notices, directives) := sortOut items
          (notices, directives.map (d :: ·))
      | .error (.problem p) =>
          let (notices, directives) := sortOut items
          (⟨item, p⟩ :: notices, directives)
      | .error .insideCharacter => ([], none)

/-- A filter of directives. If there is none, it shows the errors. -/
def ofDirectives : List Directive → Filter
  | [] => ⟨[⟨{}, Level.error.rank⟩]⟩
  | directives => ⟨directives⟩

/-- Read a filter from those items that are directives. -/
def parseLeniently (text : String) : List Notice × Option Filter :=
  let (notices, directives) := sortOut (items text)
  (notices, directives.map ofDirectives)

/-! ### Deciding -/

/-- The directives without those whose scope has a later directive. -/
def lastOfEach : List Directive → List Directive
  | [] => []
  | d :: ds => if ds.any (·.scope = d.scope) then lastOfEach ds else d :: lastOfEach ds

def current (f : Filter) : List Directive := lastOfEach f.directives

/-- The directive that decides among some that apply: the most specific one. -/
def deciding? (ds : List Directive) : Option Directive :=
  ds.foldl
    (fun best d =>
      match best with
      | some b => if b.scope.yields d.scope then some d else some b
      | none => some d)
    none

/-- The deciding directive lets a level pass. -/
def allows (ds : List Directive) (level : Level) : Bool :=
  (deciding? ds).any fun d => level.rank ≤ d.limit

/-- The directives about events of this library by themselves. -/
def plain (f : Filter) : List Directive :=
  f.current.filter fun d => d.scope.isPlain && d.scope.covers Log.target

/-- An event passes by itself. A directive that asks for a field is about events that have it. -/
def allowsEvent (f : Filter) (e : Event) : Bool :=
  allows (f.plain.filter fun d => d.scope.field.all fun test => e.names.contains test.name) e.level

/-- The highest rank that may ever be shown. Where values are asked for, that is any. -/
def ceiling (f : Filter) : Nat :=
  if f.directives.any (fun d => d.scope.field.any (·.value.isSome)) then Level.trace.rank
  else f.directives.foldl (fun rank d => max rank d.limit) 0

/-- A span is shown when its level passes or a directive is about it, below the ceiling. -/
def showsSpan (f : Filter) (ceiling : Nat) (s : Span) : Bool :=
  Span.level.rank ≤ ceiling &&
    (f.current.any (·.scope.concerns s) || allows f.plain Span.level)

/-- An event passes because of the span in which it lies. -/
def allowsInside (f : Filter) (ceiling : Nat) (e : Event) : Bool :=
  Span.level.rank ≤ ceiling &&
    f.current.any fun d =>
      d.scope.concerns e.span && d.scope.fits e.span && e.level.rank ≤ d.limit

def shows (f : Filter) (ceiling : Nat) (e : Event) : Bool :=
  f.allowsEvent e || f.allowsInside ceiling e

/-- What is shown of some events. -/
def render (f : Filter) (ceiling : Nat) (events : List Event) : List String :=
  (events.filter (f.shows ceiling)).map fun e => e.text (f.showsSpan ceiling e.span)

end Filter

/-!
## Setting up the log

A process sets up its log once. The filter comes from the environment if it holds a readable one,
and else from a default, whose unreadable items are reported. Whoever comes later is told so: an
attempt is answered with false, a demand is a fault of the program. Such a later filter shows
nothing, but the last one of them still raises the ceiling. Where a filter cannot be read on, the
setup breaks off, and the log is as it was.
-/

/-- A way to set up the log. -/
inductive Setup where
  /-- Set it up unless that is done already. -/
  | attempt
  /-- Set it up, with a default for an environment without a filter. -/
  | demand (defaultFilter : String)
deriving DecidableEq, Repr

/-- What comes of it. -/
inductive SetupResult where
  | attempted (success : Bool)
  | done
  | alreadyDone
  /-- The filter could not be read to its end. -/
  | brokenOff
deriving DecidableEq, Repr

def defaultFilter : String := "info"

/-- A log that is set up. -/
structure Active where
  filter : Filter
  /-- The filter of the last setup that came too late. -/
  late : Option Filter := none
deriving DecidableEq, Repr

/-- The log of a process: whether it is set up, and what was reported about filters. -/
structure Output where
  active : Option Active := none
  notices : List Notice := []
deriving DecidableEq, Repr

/-- The ceiling of a log: that of its filter or of the late one, whichever is higher. -/
def Active.ceiling (a : Active) : Nat :=
  match a.late with
  | some late => max a.filter.ceiling late.ceiling
  | none => a.filter.ceiling

namespace Setup

/-- The default that comes with a way to set up the log. -/
def fallback : Setup → String
  | attempt => defaultFilter
  | demand default => default

/-- The filter that the environment asks for, or the default, whose notices come with it. There is
    none if it cannot be read to its end. -/
def filter? (s : Setup) (environment : Option String) : List Notice × Option Filter :=
  match environment.map Filter.parse with
  | some (.ok filter) => ([], some filter)
  | some (.error .insideCharacter) => ([], none)
  | some (.error (.problem _)) => Filter.parseLeniently s.fallback
  | none => Filter.parseLeniently s.fallback

/-- The answer, given whether the log was not set up before. -/
def answer (success : Bool) : Setup → SetupResult
  | attempt => .attempted success
  | demand _ => if success then .done else .alreadyDone

/-- The log that is set up, after one more filter. -/
def activate (filter : Filter) : Option Active → Active
  | none => ⟨filter, none⟩
  | some active => { active with late := some filter }

/-- Set up the log. -/
def apply (environment : Option String) (log : Output) (s : Setup) : SetupResult × Output :=
  let (notices, filter) := s.filter? environment
  let log := { log with notices := log.notices ++ notices }
  match filter with
  | some filter =>
      (s.answer log.active.isNone, { log with active := some (activate filter log.active) })
  | none => (.brokenOff, log)

def applyAll (environment : Option String) : Output → List Setup → List SetupResult × Output
  | log, [] => ([], log)
  | log, s :: setups =>
      let (result, log) := s.apply environment log
      let (results, log) := applyAll environment log setups
      (result :: results, log)

end Setup

namespace Output

/-- What the log shows of some events; nothing without a setup. -/
def render (log : Output) (events : List Event) : List String :=
  match log.active with
  | some active => active.filter.render active.ceiling events
  | none => []

/-- All lines of the log: the notices, and then the events. -/
def lines (log : Output) (events : List Event) : List String :=
  (log.notices.map Notice.text ++ log.render events).flatMap Text.lines

end Output

end Provisioner.Log
