import RavenBinding.Settings.Basic
import RavenBinding.Settings.SearchMembers

/-!
# Settings of the application

The application has a log level of its own and the settings of the binding. The latter may be given
together, as one JSON object in a variable or in the settings file; the members of both objects are
merged, and what they hold counts before the single variables. The application settings are read
once and kept.

## Main definitions

- `ApplicationSettings`, `ApplicationSettings.read`: the settings
- `SettingsFailure`: why they cannot be read, with the places and reasons
- `ApplicationSettings.cached`: reading them unless they are kept
-/

namespace RavenBinding

/-- The settings of the application. -/
structure ApplicationSettings where
  logLevel : Text
  binding : Settings
  deriving DecidableEq, Repr

/-- Where a value comes from. -/
inductive SettingsSource where
  | process
  | file
  deriving DecidableEq, Repr

/-- The name of a source. -/
def SettingsSource.name : SettingsSource → Text
  | process => "EnvSettingsSource"
  | file => "DotEnvSettingsSource"

/-- Why the settings of the application cannot be read. -/
inductive SettingsFailure where
  /-- A source does not hold JSON. -/
  | unreadable (source : SettingsSource) (error : Json.ParseError)
  /-- The value is no object. -/
  | shape (error : ConversionError)
  /-- Fields of the binding cannot be converted, some of which the object holds. -/
  | nested (errors : FieldErrors)
  /-- Fields of the binding cannot be converted, and there is no object. -/
  | direct (errors : FieldErrors)
  /-- A fault of the surroundings. -/
  | fault (f : Fault)

/-- The variable that holds the settings of the binding, which is their place in the settings of the
application too. -/
def ApplicationSettings.bindingVariable : Text := "ravendb"

namespace SettingsFailure

/-- What cannot be converted: the place of each value and the reason. -/
def reports : SettingsFailure → List (List Text × ConversionError)
  | unreadable _ _ => []
  | shape error => [([ApplicationSettings.bindingVariable], error)]
  | nested errors =>
    errors.toList.map fun e => ([ApplicationSettings.bindingVariable, e.field.name], e.error)
  | direct errors => errors.toList.map fun e => ([e.field.name], e.error)
  | fault _ => []

/-- The message of a failure; of values that cannot be converted, one line each. -/
def message : SettingsFailure → Text
  | unreadable source _ =>
    Text.ofString "error parsing value for field \"" ++ ApplicationSettings.bindingVariable
      ++ Text.ofString "\" from source \"" ++ source.name ++ Text.ofString "\""
  | fault f => f.message
  | failure =>
    Text.join (Text.ofString "\n") (failure.reports.map fun r =>
      Text.join (Text.ofString ".") r.1 ++ Text.ofString ": " ++ r.2.message)

end SettingsFailure

namespace ApplicationSettings

/-- The variable that holds the log level. -/
def logLevelVariable : Text := "log_level"

mutual

/-- A value over another: objects are merged member by member, and other values replace it. -/
def overlay (upper lower : Json) : Json :=
  match upper with
  | .object members =>
    match lower with
    | .object others => .object (overlayMembers members others)
    | _ => .object members
  | value => value

/-- Members over others. -/
def overlayMembers (upper : List (Text × Json)) (lower : FieldMap Text Json) : FieldMap Text Json :=
  match upper with
  | [] => lower
  | (name, value) :: rest =>
    let value := match lower.get? name with
      | none => value
      | some other => overlay value other
    overlayMembers rest (lower.insert name value)

end

/-- The value with the names of fields in their own case; of several, the last one counts. -/
def canonicalNames : Json → Json
  | .object members =>
    .object (FieldMap.ofList (members.map fun m =>
      ((SettingsField.all.map SettingsField.name).find? (· == m.1.toLowerAscii) |>.getD m.1, m.2)))
  | value => value

/-- How the settings of the application are looked for. -/
def search : Search := {}

/-- The value that a source holds for the binding; JSON null counts as none. -/
def readSource (source : SettingsSource) (entries : Entries) :
    Except SettingsFailure (Option Json) :=
  match search.find? entries bindingVariable with
  | none | some none => .ok none
  | some (some t) =>
    match Json.parse t with
    | .error error =>
      match error.fault? with
      | some f => .error (.fault f)
      | none => .error (.unreadable source error)
    | .ok .null => .ok none
    | .ok value => .ok (some (canonicalNames value))

/-- The value that both sources hold for the binding. -/
def readBinding (env : Environment) : Except SettingsFailure (Option Json) := do
  let upper ← readSource .process env.processValues
  let lower ← readSource .file env.fileValues
  match upper, lower with
  | some upper, some lower => pure (some (overlay upper lower))
  | some value, none | none, some value => pure (some value)
  | none, none => pure none

/-- What an object gives for a field. -/
def givenByMembers (members : FieldMap Text Json) (field : SettingsField) : Option Value :=
  (members.get? field.name).map Value.ofJson

/-- The log level, which has a default. -/
def readLogLevel (env : Environment) : Text :=
  ((search.findIn? env logLevelVariable).getD none).getD Settings.default.logLevel

/-- Reads the settings. -/
def read (env : Environment) : Except SettingsFailure ApplicationSettings := do
  let binding ← match ← readBinding env with
    | none => (Settings.ofSources (fun _ => none) Settings.search env).mapError .direct
    | some (.object members) => do
      let search ← (SearchMembers.adjust members Settings.search).mapError .fault
      (Settings.ofSources (givenByMembers members) search env).mapError .nested
    | some _ => .error (.shape .modelType)
  pure ⟨readLogLevel env, binding⟩

/-- The settings that are kept, or those that are read now; the second part says what to keep. -/
def cached (kept : Option ApplicationSettings) (env : Environment) :
    Except SettingsFailure ApplicationSettings × Option ApplicationSettings :=
  match kept with
  | some settings => (.ok settings, some settings)
  | none =>
    match read env with
    | .ok settings => (.ok settings, some settings)
    | .error failure => (.error failure, none)

end ApplicationSettings

end RavenBinding
