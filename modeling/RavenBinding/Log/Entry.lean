import RavenBinding.FieldMap
import RavenBinding.Text.Basic

/-!
# Log entries

## Main definitions

- `Level`: how much an entry matters, with the names of the usual levels
- `LogEntry`: an entry with its context
-/

namespace RavenBinding

/-- Levels are numbers, of which some have names. -/
abbrev Level := Int

namespace Level

/-- What helps to follow the course of a program. -/
def debug : Level := 10

/-- What happens as it should. -/
def info : Level := 20

/-- What is not as it should be but does no harm. -/
def warning : Level := 30

/-- What failed. -/
def error : Level := 40

/-- What ends the program. -/
def critical : Level := 50

/-- The name of a level; one without a name shows its number. -/
def name (level : Level) : Text :=
  if level = critical then "CRITICAL"
  else if level = error then "ERROR"
  else if level = warning then "WARNING"
  else if level = info then "INFO"
  else if level = debug then "DEBUG"
  else if level = 0 then "NOTSET"
  else Text.ofString "Level " ++ Text.ofInt level

/-- The names under which a level can be asked for. -/
def named : List (Text × Level) :=
  [("CRITICAL", critical), ("FATAL", critical), ("ERROR", error), ("WARN", warning),
    ("WARNING", warning), ("INFO", info), ("DEBUG", debug), ("NOTSET", 0)]

/-- The level of a name. -/
def ofName? (name : Text) : Option Level := FieldMap.get? named name

end Level

/-- An entry of the log. -/
structure LogEntry where
  level : Level
  logger : Text
  message : Text
  /-- The attributes that the context of the entry adds. -/
  context : FieldMap Text Text := []
  /-- The name that is shown of the level. -/
  levelName : Text := Level.name level
  deriving DecidableEq, Repr

end RavenBinding
