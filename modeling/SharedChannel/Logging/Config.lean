import SharedChannel.Config

/-!
Logging settings. `ofEnvironment` reads them from the variables; the console is on unless the
variable for it is set to anything but one word.
-/

namespace SharedChannel.Logging

structure Config where
  level : String := "INFO"
  format : String := "%(asctime)s - %(name)s - %(levelname)s - %(message)s"
  file : String := ""
  console : Bool := true
deriving DecidableEq, Repr, Inhabited

namespace Config

def ofEnvironment (e : Environment) : Config :=
  let plain : Config := {}
  { level := e.getD "LOG_LEVEL" plain.level
    format := e.getD "LOG_FORMAT" plain.format
    file := e.getD "LOG_FILE" plain.file
    console := SharedChannel.Config.lowerCase (e.getD "LOG_CONSOLE" "true") == "true" }

def toText (c : Config) : String :=
  "LoggingConfig(log_level=" ++ Text.quoted c.level ++ ", log_format=" ++ Text.quoted c.format ++
    ", log_file=" ++ Text.quoted c.file ++ ", enable_console=" ++
    (Value.bool c.console).quoted ++ ")"

end Config

end SharedChannel.Logging
