import FieldRules.Decimal.Shortest
import FieldRules.Unicode.Case

/-!
Settings are read from variables whose names are compared without regard to case; of variables of
one name the last counts.
-/

namespace FieldRules

structure Settings where
  /-- Seconds to wait for an answer. -/
  timeout : Binary64
  userAgent : Text
  debug : Bool
  logLevel : Text
  deriving DecidableEq

namespace Settings

inductive Problem where
  | timeout
  | debug
  deriving DecidableEq, Repr

abbrev Variables := List (Text × Text)

def timeoutName : Text := "ACTIVE_URL_TIMEOUT".toList
def userAgentName : Text := "ACTIVE_URL_USER_AGENT".toList
def debugName : Text := "DEBUG".toList
def logLevelName : Text := "LOG_LEVEL".toList

def Problem.variable : Problem → Text
  | .timeout => timeoutName
  | .debug => debugName

def look (given : Variables) (name : Text) : Option Text :=
  (given.reverse.find? fun v => Unicode.lowerText v.1 = Unicode.lowerText name).map (·.2)

def number? (t : Text) : Option Binary64 := if t.isAscii then Decimal.float? t else none

/-- Single underscores stand inside the text only. -/
def withoutUnderscores? (t : Text) : Option Text :=
  let pieces := t.split '_'
  if 1 < pieces.length && pieces.all (!·.isEmpty) then some pieces.flatten else none

/-- A number with blanks around it, or a number with underscores and no blanks. -/
def readNumber? (t : Text) : Option Binary64 :=
  match number? (t.strip Unicode.isSpace) with
  | some x => some x
  | none => (withoutUnderscores? t).bind number?

def trueWords : List String := ["1", "t", "true", "y", "yes", "on"]
def falseWords : List String := ["0", "f", "false", "n", "no", "off"]

def readSwitch? (t : Text) : Option Bool :=
  let word := t.map Char.toLower
  if trueWords.any (·.toList = word) then some true
  else if falseWords.any (·.toList = word) then some false
  else none

def read {α : Type} (given : Variables) (name : Text) (default : α) (read? : Text → Option α) :
    Option α :=
  match look given name with
  | none => some default
  | some t => read? t

def defaultTimeout : Binary64 := .ofDecimal false 5 0

def defaultUserAgent : Text := "rulecheck/0.1.0".toList

/-- The settings, or everything that is wrong with the variables. -/
def load (given : Variables) : Except (List Problem) Settings :=
  match read given timeoutName defaultTimeout readNumber?,
      read given debugName false readSwitch? with
  | some timeout, some debug => .ok {
      timeout
      userAgent := (look given userAgentName).getD defaultUserAgent
      debug
      logLevel := (look given logLevelName).getD "info".toList }
  | timeout, debug => .error
      ((if timeout.isNone then [.timeout] else []) ++ if debug.isNone then [.debug] else [])

end Settings

end FieldRules
