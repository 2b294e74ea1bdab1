import RavenBinding.Interaction.Console
import RavenBinding.Interaction.World
import RavenBinding.Smoke.Command

/-!
# Running the smoke command

The command runs against a server in memory that holds the databases `System` and `YCSB`. Variables
and the settings file of the working directory are read as usual; lines of the log carry the
milliseconds since the start in place of a time.
-/

namespace RavenBinding

/-- The variables that the settings know. -/
def settingVariables : List String :=
  ["LOG_LEVEL", "RAVENDB"] ++ SettingsField.all.map fun field =>
    (Settings.search.namePrefix ++ field.name).toString.toUpper

/-- The environment of the process. -/
def readEnvironment : IO Environment := do
  let mut entries : List (Text × Text) := []
  for name in settingVariables do
    if let some value ← IO.getEnv name then
      entries := entries ++ [(Text.ofString name, Text.ofString value)]
  let file ← try IO.FS.readFile ".env" catch _ => pure ""
  pure (Environment.ofTexts entries (Text.ofString file))

/-- What is shown of the reason why nothing was run, and the status that the command ends with. -/
def stopText : SmokeStop → Text × Text × Nat
  | .arguments stop => (stop.outputText, stop.errorText, stop.exitStatus)
  | .settings failure => ([], failure.message ++ Text.ofString "\n", 1)
  | .logging f => ([], f.message ++ Text.ofString "\n", 1)

end RavenBinding

open RavenBinding in
/-- The command. -/
def main (arguments : List String) : IO UInt32 := do
  let start ← IO.monoMsNow
  let env ← readEnvironment
  let (shown, errors, status) ← match SmokePlan.ofArguments (arguments.map Text.ofString) env with
    | .error stop => pure (stopText stop)
    | .ok plan => do
      let server := Server.ofNames [Text.ofString "System", Text.ofString "YCSB"]
      let (ending, world) := Program.run (plan.run env) { server := server }
      let time := Text.ofNat ((← IO.monoMsNow) - start)
      let (shown, errors) := consoleText plan.logging time world.events
      match ending with
      | .ok status => pure (shown, errors, status)
      | .error (.exit status) => pure (shown, errors, status)
      | .error failure => pure (shown, errors ++ failure.message ++ Text.ofString "\n", 1)
  (← IO.getStdout).putStr shown.toString
  (← IO.getStderr).putStr errors.toString
  pure (UInt32.ofNat status)
