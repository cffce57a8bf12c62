import SharedChannel.FileTree
import SharedChannel.Logging.Config
import SharedChannel.Logging.Format
import SharedChannel.Logging.Hierarchy
import SharedChannel.Step
import SharedChannel.Text.Lines
import SharedChannel.Text.UpperCase

/-!
The package logger. `setup` sets its level and replaces the handlers of an earlier setup by those
that a config asks for, the console before the file; handlers of others stay. `write` gives a
record to every handler in order. What was done before a failing step stays done.
-/

namespace SharedChannel.Logging

/-- Where a handler writes. A file handler has a stream of its own, numbered from one. -/
inductive Sink where
  | console
  | file (stream : Nat) (path : Path)
  | discard
deriving DecidableEq, Repr

structure Handler where
  sink : Sink
  /-- Whether a setup made it. -/
  own : Bool
  format : Option String
deriving DecidableEq, Repr

structure System where
  environment : Environment := .empty
  level : Int := 0
  handlers : List Handler := []
  /-- The names of the loggers that were written to. -/
  loggers : List String := []
  files : FileTree String := {}
  console : List String := []
  opened : Nat := 0
  closed : List Nat := []
deriving DecidableEq, Repr, Inhabited

def rootName : String := "zitadel_client"

/-- The level that applies when the logger has none. -/
def defaultLevel : Int := 30

def namedLevels : List (String × Int) := [
  ("CRITICAL", 50), ("FATAL", 50), ("ERROR", 40), ("WARN", 30), ("WARNING", 30), ("INFO", 20),
  ("DEBUG", 10), ("NOTSET", 0)]

def setLevel (name : String) : Step System Unit := do
  let name := Text.upperCase name
  match namedLevels.lookup name with
  | some n => modify fun l => { l with level := n }
  | none => throw (.unknownLevel name)

/-- The stream of a file handler. -/
def Handler.stream? (h : Handler) : Option Nat :=
  match h.sink with
  | .file stream _ => some stream
  | _ => none

/-- Takes the handlers of earlier setups off and closes them. -/
def dropOwn : Step System Unit :=
  modify fun l =>
    { l with
      handlers := l.handlers.filter (!·.own)
      closed := l.closed ++ (l.handlers.filter (·.own)).filterMap (·.stream?) }

def checkFormat (format : String) : Step System String := do
  let format := if format.isEmpty then Format.plain else format
  if Format.isValid format then return format else throw (.invalidFormat format)

/-- Opens a log file at its end. -/
def openFile (name : String) : Step System Sink := do
  let path := Path.ofText name
  let files ← Step.ofExcept ((← get).files.openToAppend path "")
  modify fun l => { l with files := files, opened := l.opened + 1 }
  return .file (← get).opened path

def setup (c : Config) : Step System Unit := do
  setLevel c.level
  dropOwn
  let format ← checkFormat c.format
  let console : List Sink := if c.console then [.console] else []
  let file : List Sink ← if c.file.isEmpty then pure [] else do pure [← openFile c.file]
  modify fun l =>
    { l with handlers := l.handlers ++ (console ++ file).map (⟨·, true, some format⟩) }

/-- Adds a handler that no setup made. -/
def addForeign : Step System Unit :=
  modify fun l => { l with handlers := l.handlers ++ [⟨.discard, false, none⟩] }

def setVariable (name value : String) : Step System Unit := do
  let e ← Step.ofExcept ((← get).environment.assign name value)
  modify fun l => { l with environment := e }

/-- The level that a record needs. -/
def System.threshold (l : System) : Int := if l.level == 0 then defaultLevel else l.level

/-- Appends a line where a handler writes. -/
def System.append (l : System) (line : String) : Sink → System
  | .console => { l with console := l.console ++ [line] }
  | .file _ path => { l with files := l.files.write path ((l.files.read? path).getD "" ++ line) }
  | .discard => l

/-- The files of the current directory as they are read. -/
def System.listing (l : System) : List (String × String) :=
  l.files.listing.map fun f => (f.1, String.ofList (Text.unifyLines f.2.toList))

/-- One handler's share of a record: its line, unless the format cannot show it. -/
def System.handle (r : Record) (l : System) (h : Handler) : System :=
  match h.format.bind (Format.render r) with
  | some text => l.append (text ++ "\n") h.sink
  | none => l

/-- Whether a record reaches the handlers: its logger is the package logger or lies below it, and
its level is high enough. -/
def System.accepts (l : System) (r : Record) : Bool :=
  isBelow rootName l.loggers r.logger && l.threshold ≤ r.level

def write (r : Record) : Step System Unit :=
  modify fun l =>
    let l := { l with loggers := l.loggers ++ [r.logger] }
    if l.accepts r then l.handlers.foldl (System.handle r) l else l

end SharedChannel.Logging
