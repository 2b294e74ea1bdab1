import RavenBinding.Log.Entry
import RavenBinding.Log.SafeText

/-!
# Log calls with context

A log call names values that go along with its message. Some names belong to the entry itself or to
the call and cannot be used.

## Main definitions

- `Logger`: a logger with its level
- `Logger.logWithContext`, `Logger.logErrorWithContext`: the two calls; each makes one entry, or
  none if its level is not enabled, or raises a fault
-/

namespace RavenBinding

/-- A logger: entries below its level are dropped. -/
structure Logger where
  name : Text
  level : Level
  deriving DecidableEq, Repr

namespace Logger

/-- The level that counts for a logger: an unset one, which is zero, gives way to warnings. -/
def effectiveLevel (logger : Logger) : Level :=
  if logger.level = 0 then Level.warning else logger.level

/-- Entries of a level above zero and not below that of the logger are made. -/
def isEnabled (logger : Logger) (level : Level) : Bool :=
  0 < level && logger.effectiveLevel ≤ level

/-- The attributes that an entry has of its own in version 3.11 of the logging library, which has the
same ones in 3.10. From version 3.12 on, `taskName` is one more. -/
def reservedNames : List Text :=
  ["message", "asctime", "name", "msg", "args", "levelname", "levelno", "pathname", "filename",
    "module", "exc_info", "exc_text", "stack_info", "lineno", "funcName", "created", "msecs",
    "relativeCreated", "thread", "threadName", "processName", "process"].map Text.ofString

/-- The fault of a context that names a parameter of the call itself. -/
def checkParameters (call : String) (parameters : List String) (context : FieldMap Text Value) :
    Except Fault Unit :=
  match context.find? fun e => (parameters.map Text.ofString).contains e.1 with
  | some e =>
    .error ⟨.typeError, Text.ofString call ++ Text.ofString "() got multiple values for argument '"
      ++ e.1 ++ Text.ofString "'"⟩
  | none => .ok ()

/-- Makes an entry if its level is enabled; its attributes cannot take reserved names. -/
def log (logger : Logger) (level : Level) (levelName message : Text)
    (context : FieldMap Text Text) : Except Fault (Option LogEntry) :=
  if logger.isEnabled level then
    match context.find? fun e => reservedNames.contains e.1 with
    | some e =>
      .error ⟨.keyError, Text.ofString "Attempt to overwrite " ++ e.1.quoted
        ++ Text.ofString " in LogRecord"⟩
    | none => .ok (some ⟨level, logger.name, message, context, levelName⟩)
  else .ok none

/-- The texts of the values of a context. -/
def contextTexts (context : FieldMap Text Value) : FieldMap Text Text :=
  context.map fun e => (e.1, e.2.logText Value.logLength)

/-- The level that a value is, which has to be a whole number, with its name. -/
def levelOf : Value → Except Fault (Level × Text)
  | .int i => .ok (i, Level.name i)
  | .bool true => .ok (1, "Level True")
  | .bool false => .ok (0, Level.name 0)
  | _ => .error ⟨.typeError, "level must be an integer"⟩

/-- Logs a message with the texts of the values of its context. -/
def logWithContext (logger : Logger) (level : Value) (message : Text)
    (context : FieldMap Text Value) : Except Fault (Option LogEntry) := do
  checkParameters "log_with_context" ["logger", "level", "message"] context
  let (level, levelName) ← levelOf level
  logger.log level levelName message (contextTexts context)

/-- Logs a handled error, shown by the name of its kind and its text, with the texts of the values
of its context. -/
def logErrorWithContext (logger : Logger) (message errorName : Text)
    (errorText : Except Fault Text) (context : FieldMap Text Value) :
    Except Fault (Option LogEntry) := do
  checkParameters "log_error_with_context" ["logger", "message", "exc"] context
  let shown ← errorText
  let context := ((contextTexts context).insert (Text.ofString "error_type") errorName).insert
    (Text.ofString "error_msg") shown
  logger.log Level.error (Level.name Level.error) (message ++ Text.ofString ": " ++ shown) context

end Logger

end RavenBinding
