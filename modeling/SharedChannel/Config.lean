import SharedChannel.Attribute
import SharedChannel.Environment
import SharedChannel.Number.Reading
import SharedChannel.Value.Writing

/-!
Connection settings. A `Config` may hold any values; `ofEnvironment` reads one from the variables,
where a flag is set by one of three words and a timeout is a numeral or nothing. The personal
access token is left out of the text of a config.
-/

namespace SharedChannel

structure Config where
  domain : Value := .text ""
  port : Value := .text "443"
  insecure : Value := .bool false
  pat : Value := .text ""
  timeout : Value := .none
deriving DecidableEq, Repr, Inhabited

namespace Config

/-- Lower case within ASCII. The words compared with hold letters that are the lower case of no
letter outside it. -/
def lowerCase (s : String) : String := s.map Numeral.lowerAscii

def flag (s : String) : Bool := ["true", "1", "yes"].contains (lowerCase s)

def duration (s : String) : Value :=
  match Binary64.parse? s with
  | some x => .float x
  | none => .none

def ofEnvironment (e : Environment) : Config where
  domain := .text (e.getD "ZITADEL_DOMAIN" "")
  port := .text (e.getD "ZITADEL_PORT" "443")
  insecure := .bool (flag (e.getD "ZITADEL_INSECURE" "false"))
  pat := .text (e.getD "ZITADEL_PAT" "")
  timeout := duration (e.getD "ZITADEL_TIMEOUT" "")

def equal (a b : Config) : Bool :=
  a.domain.equal b.domain && a.port.equal b.port && a.insecure.equal b.insecure &&
    a.pat.equal b.pat && a.timeout.equal b.timeout

def toText (c : Config) : Except Failure String := do
  return "ClientConfig(domain=" ++ (← c.domain.toQuoted) ++ ", port=" ++ (← c.port.toQuoted) ++
    ", insecure=" ++ (← c.insecure.toQuoted) ++ ", timeout=" ++ (← c.timeout.toQuoted) ++ ")"

/-- Assigns a field by its name; other attributes do not matter to a config. -/
def assign (c : Config) (name : String) (v : Value) : Except Failure Config :=
  match name with
  | "domain" => .ok { c with domain := v }
  | "port" => .ok { c with port := v }
  | "insecure" => .ok { c with insecure := v }
  | "pat" => .ok { c with pat := v }
  | "timeout" => .ok { c with timeout := v }
  | _ =>
    match Attribute.refusal? "ClientConfig" name v with
    | some f => .error f
    | none => .ok c

end Config

end SharedChannel
