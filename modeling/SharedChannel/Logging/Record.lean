import SharedChannel.Value

/-!
Log records and their levels. Levels are numbers; five of them have a name of their own, and zero
stands for none set. Formats refer to the fields of a record by name.
-/

namespace SharedChannel.Logging

inductive Level where
  | debug
  | info
  | warning
  | error
  | critical
deriving DecidableEq, Repr

namespace Level

def number : Level → Int
  | debug => 10
  | info => 20
  | warning => 30
  | error => 40
  | critical => 50

def name : Level → String
  | debug => "DEBUG"
  | info => "INFO"
  | warning => "WARNING"
  | error => "ERROR"
  | critical => "CRITICAL"

def all : List Level := [debug, info, warning, error, critical]

end Level

/-- The name of a level as records show it. -/
def levelName (n : Int) : String :=
  match Level.all.find? (·.number == n) with
  | some l => l.name
  | none => if n == 0 then "NOTSET" else "Level " ++ toString n

structure Record where
  logger : String
  level : Int
  message : String
deriving DecidableEq, Repr

/-- A field of a record: a value, or something that is known only by how it is written. -/
inductive Field where
  | value (v : Value)
  | written (s : String)
deriving DecidableEq, Repr

def Field.quoted : Field → String
  | value v => v.quoted
  | written s => s

namespace Record

/-- A number in the place of the thread that made a record, which is not known. -/
def thread : Int := 140000000000000

/-- A number in the place of the process that made a record, which is not known. -/
def process : Int := 1

/-- The fields in order. The time is always the same, and where a record was made is not known: such
fields have the kind of their value, and a conversion that shows none of it is exact. -/
def fields (r : Record) : List (String × Field) := [
  ("name", .value (.text r.logger)), ("msg", .value (.text r.message)), ("args", .written "()"),
  ("levelname", .value (.text (levelName r.level))), ("levelno", .value (.int r.level)),
  ("pathname", .value (.text "/(unknown file)")), ("filename", .value (.text "(unknown file)")),
  ("module", .value (.text "(unknown file)")), ("exc_info", .value .none),
  ("exc_text", .value .none), ("stack_info", .value .none), ("lineno", .value (.int 0)),
  ("funcName", .value (.text "(unknown function)")), ("created", .value (.float .zero)),
  ("msecs", .value (.float .zero)), ("relativeCreated", .value (.float .zero)),
  ("thread", .value (.int thread)), ("threadName", .value (.text "MainThread")),
  ("processName", .value (.text "MainProcess")), ("process", .value (.int process)),
  ("message", .value (.text r.message)), ("asctime", .value (.text "1970-01-01 00:00:00,000"))]

/-- The record as a whole. -/
def toField (r : Record) : Field :=
  let entries := r.fields.map fun f => Text.quoted f.1 ++ ": " ++ f.2.quoted
  .written ("\x7b" ++ ", ".intercalate entries ++ "\x7d")

end Record

end SharedChannel.Logging
