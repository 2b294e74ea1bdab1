import RavenBinding.Interaction.Program
import RavenBinding.Log.Configuration

/-!
# What a program shows on a console

## Main definitions

- `Event.outputText`, `Event.errorText`: what an event shows on the output and on the error stream
- `consoleText`: what a list of events shows on both
-/

namespace RavenBinding

namespace Event

/-- What an event shows on the output. -/
def outputText : Event → Text
  | output t => t
  | _ => []

/-- What an event shows on the error stream at a given time. -/
def errorText (logging : LogTree) (time : Text) : Event → Text
  | log entry => logging.write time entry
  | errorOutput t => t
  | output _ => []

end Event

/-- What events in order show on the output and on the error stream. -/
def consoleText (logging : LogTree) (time : Text) (events : List Event) : Text × Text :=
  (events.flatMap Event.outputText, events.flatMap (Event.errorText logging time))

end RavenBinding
