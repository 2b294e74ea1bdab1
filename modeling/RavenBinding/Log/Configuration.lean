import RavenBinding.Fault
import RavenBinding.Log.Entry
import RavenBinding.Text.Uppercase

/-!
# Configuration of logging

All entries end at the handlers of the root. Configuring replaces the handlers by one that writes
lines to the error stream, sets the level of the root and quiets the loggers of the HTTP layer.

## Main definitions

- `LogHandler`, `LogTree`: the handlers of the root and the levels of the loggers
- `LogTree.configure`: the configuration; it may fail after the old handlers are gone
- `LogTree.write`: what an entry writes to the error stream
-/

namespace RavenBinding

/-- Where a handler writes. -/
inductive LogTarget where
  | errorStream
  | other (name : Text)
  deriving DecidableEq, Repr

/-- A handler: what is below its level is dropped. -/
structure LogHandler where
  target : LogTarget
  level : Level
  /-- The layout of a line. -/
  layout : Text
  /-- The layout of the time in a line. -/
  timeLayout : Text
  deriving DecidableEq, Repr

namespace LogHandler

/-- The handler of the configuration. -/
def standard : LogHandler :=
  ⟨.errorStream, Level.debug, "%(asctime)s - %(name)s - %(levelname)s - %(message)s",
    "%Y-%m-%d %H:%M:%S"⟩

/-- The line of an entry in the standard layout at a given time. A logger without a name is the
root. -/
def line (time : Text) (entry : LogEntry) : Text :=
  let separator := Text.ofString " - "
  let logger := if entry.logger.isEmpty then Text.ofString "root" else entry.logger
  time ++ separator ++ logger ++ separator ++ entry.levelName ++ separator ++ entry.message

end LogHandler

/-- The handlers of the root and the levels of the loggers; a level of zero is unset. -/
structure LogTree where
  handlers : List LogHandler := []
  rootLevel : Level := Level.warning
  levels : FieldMap Text Level := []
  deriving DecidableEq, Repr

namespace LogTree

/-- The loggers of the HTTP layer, which would drown out all else. -/
def quietLoggers : List Text := ["httpx", "httpcore"].map Text.ofString

/-- The level that is set for a logger. -/
def level (tree : LogTree) (logger : Text) : Level := (tree.levels.get? logger).getD 0

/-- Takes a handler away from the root, if it is there. -/
def removeHandler (tree : LogTree) (handler : LogHandler) : LogTree :=
  { tree with handlers := tree.handlers.erase handler }

/-- Takes the handlers away that the root has at the start, one after another. -/
def clear (tree : LogTree) : LogTree := tree.handlers.foldl removeHandler tree

/-- No handler is left, and all else is as it was. -/
theorem clear_eq (tree : LogTree) : tree.clear = { tree with handlers := [] } := by
  -- the handlers that are still to be taken away are those that the root has then
  have hfold : ∀ (handlers : List LogHandler) (tree : LogTree), tree.handlers = handlers →
      handlers.foldl removeHandler tree = { tree with handlers := [] } := by
    intro handlers
    induction handlers with
    | nil =>
      rintro ⟨_, rootLevel, levels⟩ rfl
      rfl
    | cons handler handlers ih =>
      intro tree h
      have hleft : (tree.removeHandler handler).handlers = handlers := by
        rw [removeHandler, h, List.erase_cons_head]
      rw [List.foldl_cons, ih _ hleft]
      rfl
  exact hfold tree.handlers tree rfl

/-- Configures logging at the level of a name. An unknown name is refused, but the old handlers are
gone by then. -/
def configure (tree : LogTree) (levelName : Text) : LogTree × Except Fault Unit :=
  let name := levelName.toUpper
  let cleared := tree.clear
  match Level.ofName? name with
  | none => (cleared, .error ⟨.valueError, Text.ofString "Unknown level: " ++ name.quoted⟩)
  | some level =>
    ({ handlers := cleared.handlers ++ [LogHandler.standard], rootLevel := level,
       levels := cleared.levels.insertAll (quietLoggers.map fun logger => (logger, Level.warning)) },
      .ok ())

/-- The names of a logger and of those above it, the nearest first. -/
def chain (logger : Text) : List Text :=
  let dot := CodePoint.ofChar '.'
  let pieces := Text.splitOn dot logger
  (List.range pieces.length).map fun i => Text.join [dot] (pieces.take (pieces.length - i))

/-- The level that counts for a logger: that of the nearest logger above it that has one set. -/
def effectiveLevel (tree : LogTree) (logger : Text) : Level :=
  (((chain logger).map tree.level).find? (· != 0)).getD tree.rootLevel

/-- Whether an entry of a logger at a level is made. -/
def isEnabled (tree : LogTree) (logger : Text) (level : Level) : Bool :=
  0 < level && tree.effectiveLevel logger ≤ level

/-- What an entry writes to the error stream. Without any handler, entries from warnings on write
their bare message. -/
def write (tree : LogTree) (time : Text) (entry : LogEntry) : Text :=
  let newline := Text.ofString "\n"
  if tree.isEnabled entry.logger entry.level then
    if tree.handlers.isEmpty then
      if Level.warning ≤ entry.level then entry.message ++ newline else []
    else
      tree.handlers.flatMap fun handler =>
        if handler.target = .errorStream ∧ handler.level ≤ entry.level then
          LogHandler.line time entry ++ newline
        else []
  else []

end LogTree

end RavenBinding
