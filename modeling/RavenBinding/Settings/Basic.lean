import RavenBinding.Error.Failure
import RavenBinding.Settings.Conversion
import RavenBinding.Settings.Environment

/-!
# Settings of the binding

Each setting has a raw value from the first source that knows it: the value given for it, the
variable of its name, the file entry of its name. Without a raw value it has its default. All raw
values have to be convertible; otherwise the fields that are not are reported in the order of their
declaration.

## Main definitions

- `SettingsField`, `Settings`: the fields and their values
- `Settings.raw?`: the raw value of a field
- `Settings.ofRaw`: converting all raw values
- `Settings.ofProperties`: the settings of a run with some properties
-/

namespace RavenBinding

/-- The fields, in the order of their declaration. -/
inductive SettingsField where
  | logLevel
  | url
  | database
  | databasePageSize
  | applyFieldFilter
  | timeout
  | activeBundles
  | dataDir
  | anonymousAccess
  | storageEngine
  deriving DecidableEq, Repr

namespace SettingsField

/-- The name of a field. -/
def name : SettingsField → Text
  | logLevel => "log_level"
  | url => "url"
  | database => "database"
  | databasePageSize => "database_page_size"
  | applyFieldFilter => "apply_field_filter"
  | timeout => "timeout"
  | activeBundles => "active_bundles"
  | dataDir => "data_dir"
  | anonymousAccess => "anonymous_access"
  | storageEngine => "storage_engine"

/-- All fields. -/
def all : List SettingsField :=
  [logLevel, url, database, databasePageSize, applyFieldFilter, timeout, activeBundles, dataDir,
    anonymousAccess, storageEngine]

/-- The property of a run that sets a field, for the fields that have one. -/
def property? : SettingsField → Option Text
  | url => some "ravendb.url"
  | applyFieldFilter => some "ravendb.applyfieldfilter"
  | timeout => some "ravendb.timeout"
  | _ => none

end SettingsField

/-- The settings of the binding. -/
structure Settings where
  logLevel : Text := "INFO"
  url : Text := "http://localhost:10301"
  database : Text := "YCSB"
  databasePageSize : Int := 1024
  applyFieldFilter : Bool := false
  timeout : Binary64 := Binary64.ofInt 5
  activeBundles : Text := "PeriodicExport"
  dataDir : Text := "~\\Databases\\YCSB"
  anonymousAccess : Text := "Admin"
  storageEngine : Text := "voron"
  deriving DecidableEq, Repr

/-- A field whose raw value cannot be converted. -/
structure FieldError where
  field : SettingsField
  error : ConversionError
  input : Value

/-- The errors of one or more fields. -/
structure FieldErrors where
  first : FieldError
  later : List FieldError

/-- The errors in order. -/
def FieldErrors.toList (errors : FieldErrors) : List FieldError := errors.first :: errors.later

/-- The errors of both, in order. -/
def FieldErrors.append (earlier later : FieldErrors) : FieldErrors :=
  ⟨earlier.first, earlier.later ++ later.toList⟩

/-- A result, or all field errors on the way to it. -/
abbrev Checked (α : Type) := Except FieldErrors α

/-- Applies a checked function; the errors of both sides are kept. -/
def Checked.apply {α β : Type} (f : Checked (α → β)) (x : Checked α) : Checked β :=
  match f, x with
  | .ok f, .ok x => .ok (f x)
  | .ok _, .error later => .error later
  | .error earlier, .ok _ => .error earlier
  | .error earlier, .error later => .error (earlier.append later)

namespace Settings

/-- The settings without any source. -/
def default : Settings := {}

/-- A field by its raw value, or by its default if there is none. -/
def convert {α : Type} (raw : SettingsField → Option Value) (field : SettingsField)
    (read : Value → Except ConversionError α) (default : α) : Checked α :=
  match raw field with
  | none => .ok default
  | some v => (read v).mapError fun error => ⟨⟨field, error, v⟩, []⟩

/-- The settings with the given raw values. -/
def ofRaw (raw : SettingsField → Option Value) : Checked Settings :=
  let field {α : Type} (name : SettingsField) (read : Value → Except ConversionError α)
      (get : Settings → α) : Checked α := convert raw name read (get default)
  let make : Checked _ := .ok Settings.mk
  let make := make.apply (field .logLevel Value.toSettingText logLevel)
  let make := make.apply (field .url Value.toSettingText url)
  let make := make.apply (field .database Value.toSettingText database)
  let make := make.apply (field .databasePageSize Value.toSettingInt databasePageSize)
  let make := make.apply (field .applyFieldFilter Value.toSettingBool applyFieldFilter)
  let make := make.apply (field .timeout Value.toSettingFloat timeout)
  let make := make.apply (field .activeBundles Value.toSettingText activeBundles)
  let make := make.apply (field .dataDir Value.toSettingText dataDir)
  let make := make.apply (field .anonymousAccess Value.toSettingText anonymousAccess)
  make.apply (field .storageEngine Value.toSettingText storageEngine)

/-- How the fields are looked for in an environment. -/
def search : Search := { namePrefix := Text.ofString "RAVENDB_" }

/-- The raw value of a field: the one that is given, else that of the environment. -/
def raw? (given : SettingsField → Option Value) (search : Search) (env : Environment)
    (field : SettingsField) : Option Value :=
  given field <|> (search.findIn? env field.name).map fun found =>
    match found with
    | some t => Value.text t
    | none => Value.none

/-- The settings with some values given and the others from the environment. -/
def ofSources (given : SettingsField → Option Value) (search : Search) (env : Environment) :
    Checked Settings :=
  ofRaw (raw? given search env)

/-- What the properties of a run give for a field. -/
def givenByProperties (properties : FieldMap Text Value) (field : SettingsField) : Option Value :=
  field.property?.bind fun name => properties.get? name

/-- The settings of a run; the first field that cannot be converted is reported. -/
def ofProperties (properties : FieldMap Text Value) (env : Environment) :
    Except ConfigurationError Settings :=
  (ofSources (givenByProperties properties) search env).mapError fun errors =>
    ⟨errors.first.error.message, errors.first.field.name, errors.first.input⟩

/-- The form that a URL has to begin with. -/
def urlScheme : Text := "http://"

/-- The URL begins with the one form that is supported. -/
def hasValidUrl (s : Settings) : Bool := urlScheme.isPrefixOf s.url

/-- The settings of a database that is created. -/
def databaseSettings (s : Settings) : FieldMap Text Text :=
  [(Text.ofString "Raven/ActiveBundles", s.activeBundles),
    (Text.ofString "Raven/DataDir", s.dataDir),
    (Text.ofString "Raven/AnonymousAccess", s.anonymousAccess),
    (Text.ofString "Raven/StorageEngine", s.storageEngine)]

/-- The fields as values, by name. -/
def fields (s : Settings) : FieldMap Text Value :=
  [(SettingsField.logLevel.name, .text s.logLevel), (SettingsField.url.name, .text s.url),
    (SettingsField.database.name, .text s.database),
    (SettingsField.databasePageSize.name, .int s.databasePageSize),
    (SettingsField.applyFieldFilter.name, .bool s.applyFieldFilter),
    (SettingsField.timeout.name, .float s.timeout),
    (SettingsField.activeBundles.name, .text s.activeBundles),
    (SettingsField.dataDir.name, .text s.dataDir),
    (SettingsField.anonymousAccess.name, .text s.anonymousAccess),
    (SettingsField.storageEngine.name, .text s.storageEngine)]

end Settings

end RavenBinding
