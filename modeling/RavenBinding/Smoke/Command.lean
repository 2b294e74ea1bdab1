import RavenBinding.Binding.Registry
import RavenBinding.Log.Configuration
import RavenBinding.Settings.Application
import RavenBinding.Smoke.Arguments
import RavenBinding.Smoke.Workload

/-!
# The smoke command

The command reads its arguments and the settings of the application and configures logging. Then it
sets up a binding, runs the workload, gives the binding up again, and reports the statuses that were
seen. It ends with status 1 if some of them were not expected.

## Main definitions

- `SmokePlan`, `SmokePlan.ofArguments`: what is to be run
- `SmokeStop`: why nothing is run
- `SmokePlan.run`: the run, with the status that the command ends with
-/

namespace RavenBinding

/-- What is to be run, and how it is logged. -/
structure SmokePlan where
  options : SmokeOptions
  logging : LogTree
  deriving DecidableEq, Repr

/-- Why nothing is run. -/
inductive SmokeStop where
  | arguments (stop : ArgumentStop)
  | settings (failure : SettingsFailure)
  /-- The log level is unknown. -/
  | logging (f : Fault)

namespace SmokePlan

/-- The plan for some arguments. -/
def ofArguments (arguments : List Text) (env : Environment) : Except SmokeStop SmokePlan := do
  let options ← (SmokeOptions.parse arguments).mapError .arguments
  let settings ← (ApplicationSettings.read env).mapError .settings
  let (logging, configured) := LogTree.configure {} settings.logLevel
  configured.mapError .logging
  pure ⟨options, logging⟩

/-- The name of the binding that is run. -/
def bindingName : Text := "ravendb35"

/-- The properties of the binding; an empty URL counts as none. -/
def properties (plan : SmokePlan) : Properties :=
  match plan.options.url with
  | .missing | .one none | .one (some []) => []
  | .one (some url) => [(Text.ofString "ravendb.url", .text url)]

/-- The fault of a generator without a seed. -/
def seedFault : Fault :=
  ⟨.typeError, Text.ofString "The only supported seed types are: None,\n"
    ++ Text.ofString "int, float, str, bytes, and bytearray."⟩

/-- The fault of a number that is missing. -/
def numberFault : Fault :=
  ⟨.typeError, "'list' object cannot be interpreted as an integer"⟩

/-- The records to work with. A number that is missing is a fault once it is needed: those of the
fields if there are records, and their length if there are fields. -/
def workload (plan : SmokePlan) : Except Fault Workload := do
  let options := plan.options
  let seed ← options.seed.orFault seedFault
  let count ← options.records.orFault numberFault
  let fieldCount ← if 0 < count then options.fields.orFault numberFault else pure 0
  let fieldLength ← if 0 < count ∧ 0 < fieldCount then options.fieldLength.orFault numberFault
    else pure 0
  pure (Workload.ofSeed ⟨fieldCount, fieldLength⟩ count seed)

/-- Runs the workload and gives the binding up, whether or not the workload failed; a failure to
give it up counts before one of the workload. -/
def runBinding (plan : SmokePlan) : AdapterAction (Except Failure (List (Phase × Tally))) := do
  let ending ← match plan.workload with
    | .error f => pure (.error (.fault f))
    | .ok workload => (workload.run Adapter.binding).run
  match ← Adapter.cleanUp with
  | .error failure => pure (.error failure)
  | .ok () => pure ending

/-- The line of a phase in the report. -/
def summary (phase : Phase) (tally : Tally) : Text :=
  phase.name.padRight 13 ++ Text.ofString " " ++ Text.join (Text.ofString ", ")
    (tally.sorted.map fun entry =>
      entry.1.name ++ Text.ofString "=" ++ Text.ofNat entry.2)

/-- The line about a status that was not expected. -/
def surprise (phase : Phase) (status : Status) : Text :=
  phase.name ++ Text.ofString ": " ++ status.name ++ Text.ofString " - " ++ status.description

/-- Reports the statuses that were seen. The result is the status that the command ends with. -/
def report (counts : List (Phase × Tally)) : Program Nat := do
  counts.forM fun c => Program.printLine (summary c.1 c.2)
  counts.forM fun c =>
    (c.1.surprises c.2).forM fun status => Program.printError (surprise c.1 status)
  match Phase.unexpected counts with
  | [] => pure 0
  | failed => do
    Program.log Level.error Workload.loggerName
      (Workload.loggerName ++ Text.ofString ":main - Unexpected statuses in: "
        ++ Text.join (Text.ofString ", ") (failed.map Phase.name)) []
    pure 1

/-- Runs the plan. The result is the status that the command ends with. -/
def run (plan : SmokePlan) (env : Environment) : Action Nat := do
  let a ← createBinding bindingName plan.properties
  let (ready, a) ← Action.ofProgram ((Adapter.setUp env).run a)
  Action.ofExcept ready
  let (ending, _) ← Action.ofProgram (plan.runBinding.run a)
  let counts ← Action.ofExcept ending
  Action.ofProgram (report counts)

end SmokePlan

end RavenBinding
