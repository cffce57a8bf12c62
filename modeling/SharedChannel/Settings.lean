import SharedChannel.Dotenv.Interpolation
import SharedChannel.FileTree
import SharedChannel.Config
import SharedChannel.Step
import SharedChannel.Text.Lines

/-!
The settings of a process. `reload` reads the dotenv file into the environment without changing a
variable that is set, makes a config of the environment and keeps it; `current` gives the config
kept last and reloads only if there is none. Variables set before a failure stay set. The file is
read as dotenv 1.2.4 reads it.
-/

namespace SharedChannel.Settings

/-- A config as it was loaded; loads are counted from one. -/
structure Loaded where
  serial : Nat
  config : Config
deriving DecidableEq, Repr, Inhabited

structure Store where
  environment : Environment := .empty
  files : FileTree (List UInt8) := {}
  loads : Nat := 0
  cache : Option Loaded := none
deriving DecidableEq, Repr, Inhabited

/-- Lower case within ASCII, and the long s as an s. -/
def foldCase (s : String) : String :=
  s.map fun c => if c == 'ſ' then 's' else Numeral.lowerAscii c

/-- Whether dotenv is told to read no file, which release 1.0.0 cannot be. -/
def fileDisabled (e : Environment) : Bool :=
  ["1", "true", "t", "yes", "y"].contains (foldCase (e.getD "PYTHON_DOTENV_DISABLED" ""))

/-- The contents of the dotenv file. -/
def fileBytes (p : Store) : Option (List UInt8) :=
  p.files.find? (p.environment.getD "ZITADEL_ENV_FILE" ".env")

def dropMark : List Char → List Char
  | c :: rest => if c.toNat == 0xfeff then rest else c :: rest
  | [] => []

/-- The characters of a file without a leading byte order mark. -/
def fileChars (bytes : List UInt8) : Except Failure (List Char) :=
  match Text.decodeUtf8 bytes with
  | .ok cs => .ok (Text.unifyLines (dropMark cs))
  | .error f => .error (.undecodable f)

def setVariable (name value : String) : Step Store Unit := do
  let e ← Step.ofExcept ((← get).environment.assign name value)
  modify fun p => { p with environment := e }

def saveFile (name : String) (bytes : List UInt8) : Step Store Unit := do
  let files ← Step.ofExcept ((← get).files.save name bytes)
  modify fun p => { p with files := files }

def deleteFile (name : String) : Step Store Unit := do
  let files ← Step.ofExcept ((← get).files.delete name)
  modify fun p => { p with files := files }

/-- Sets the values whose names are free. -/
def setFree : Dotenv.Values → Step Store Unit
  | [] => pure ()
  | (name, value) :: rest => do
    match value with
    | some v => if !(← get).environment.has name then setVariable name v
    | none => pure ()
    setFree rest

def loadFile : Step Store Unit := do
  let p ← get
  if fileDisabled p.environment then return
  match fileBytes p with
  | none => return
  | some bytes =>
    let cs ← Step.ofExcept (fileChars bytes)
    setFree (Dotenv.values p.environment (Dotenv.bindings cs))

def reload : Step Store Loaded := do
  loadFile
  let p ← get
  let loaded : Loaded := ⟨p.loads + 1, .ofEnvironment p.environment⟩
  set { p with loads := p.loads + 1, cache := some loaded }
  return loaded

def current : Step Store Loaded := do
  match (← get).cache with
  | some loaded => return loaded
  | none => reload

/-- Assigns a field of the config that a load gave, wherever it is kept. -/
def amend (serial : Nat) (name : String) (v : Value) : Step Store Unit := do
  match (← get).cache with
  | some loaded =>
    if loaded.serial == serial then
      let config ← Step.ofExcept (loaded.config.assign name v)
      modify fun p => { p with cache := some { loaded with config } }
  | none => pure ()

end SharedChannel.Settings
