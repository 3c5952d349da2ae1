import FieldRules.Run

/-!
The logger that events go to: handlers, of which at most one is the library's own, and a level
below which events are dropped.
-/

namespace FieldRules

inductive Renderer where
  | json
  | console
  deriving DecidableEq, Repr

structure Handler where
  name : Text
  renderer : Renderer
  deriving DecidableEq, Repr

def Handler.ownName : Text := "rulecheck-structlog".toList

/-- What a logger hands events to: a handler that renders them, or one of the program around the library,
which is told from others by its identity and need not have a name. -/
inductive Sink where
  | rendering (handler : Handler)
  | foreign (identity : Nat) (name : Option Text)
  deriving DecidableEq, Repr

namespace Sink

def name? : Sink → Option Text
  | .rendering handler => some handler.name
  | .foreign _ name => name

def handler? : Sink → Option Handler
  | .rendering handler => some handler
  | .foreign _ _ => none

/-- It goes by the name of the library's own handler, whoever made it. -/
def isOwn (s : Sink) : Bool := s.name? = some Handler.ownName

end Sink

structure Logger where
  handlers : List Sink
  level : Nat
  deriving DecidableEq, Repr

namespace Logger

def unset : Logger := ⟨[], 0⟩

def levelNames : List (String × Nat) := [
  ("CRITICAL", 50), ("FATAL", 50), ("ERROR", 40), ("WARN", 30), ("WARNING", 30), ("INFO", 20),
  ("DEBUG", 10), ("NOTSET", 0)]

/-- The number of a level given by name in any case; a name that is not known means `INFO`. -/
def levelNumber (name : Text) : Nat :=
  let upper := Unicode.upperText name
  match levelNames.find? (·.1.toList = upper) with
  | some (_, n) => n
  | none => Level.info.number

/-- A logger without a level of its own drops what is below a warning. -/
def effectiveLevel (l : Logger) : Nat := if l.level = 0 then Level.warning.number else l.level

def detach (l : Logger) (s : Sink) : Logger := { l with handlers := l.handlers.erase s }

def detachOwn (l : Logger) : Logger :=
  l.handlers.foldl (fun l s => if s.isOwn then l.detach s else l) l

def handlerFor (s : Settings) : Handler := ⟨Handler.ownName, if s.debug then .console else .json⟩

/-- Puts one handler in the place of those that earlier calls have put there. -/
def configure (l : Logger) (s : Settings) : Logger where
  handlers := l.detachOwn.handlers ++ [.rendering (handlerFor s)]
  level := levelNumber s.logLevel

def own? (l : Logger) : Option Handler := (l.handlers.find? Sink.isOwn).bind Sink.handler?

def accepted (l : Logger) (events : List Event) : List Event :=
  if l.handlers.isEmpty then []
  else events.filter fun e => l.effectiveLevel ≤ e.level.number

/-- What is left of a run for those who hear of it through a logger. -/
def watch (l : Logger) (r : Run) : Run := { r with events := l.accepted r.events }

end Logger

end FieldRules
