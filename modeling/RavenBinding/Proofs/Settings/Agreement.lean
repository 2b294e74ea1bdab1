import RavenBinding.Proofs.Settings.Sources
import RavenBinding.Settings.Application

/-!
# Two ways to the settings of the binding

The settings of the binding are read by themselves when a binding is set up, and as a part of the
settings of the application. On the second way an object may supply fields, and what it supplies
counts before the variables and the file. The fields that it does not supply are the same on both
ways. On the first way only fields that the object supplies can fail.

## Main definitions

- `Settings.value`, `SettingsField.converted`: one field of settings, and its conversion
- `ApplicationSettings.Supplies`, `ApplicationSettings.KeepsSearch`: what the object holds

## Main statements

- `Settings.holds_of_ofRaw`, `Settings.isExplained_ofRaw`: what settings and their errors come from
- `ApplicationSettings.agrees_with_direct`: both ways lead to the same fields
-/

namespace RavenBinding

/-! ### Fields one by one -/

theorem SettingsField.forall_iff {p : SettingsField → Prop} :
    (∀ field, p field) ↔ ∀ field ∈ SettingsField.all, p field := by
  refine ⟨fun h field _ => h field, fun h field => h field ?_⟩
  cases field with
  | _ => decide

/-- The value of a field. -/
def Settings.value (s : Settings) : SettingsField → Value
  | .logLevel => .text s.logLevel
  | .url => .text s.url
  | .database => .text s.database
  | .databasePageSize => .int s.databasePageSize
  | .applyFieldFilter => .bool s.applyFieldFilter
  | .timeout => .float s.timeout
  | .activeBundles => .text s.activeBundles
  | .dataDir => .text s.dataDir
  | .anonymousAccess => .text s.anonymousAccess
  | .storageEngine => .text s.storageEngine

/-- A raw value in the type of a field. -/
def SettingsField.converted : SettingsField → Value → Except ConversionError Value
  | .databasePageSize, v => v.toSettingInt.map Value.int
  | .applyFieldFilter, v => v.toSettingBool.map Value.bool
  | .timeout, v => v.toSettingFloat.map Value.float
  | _, v => v.toSettingText.map Value.text

/-- A field is what its raw value stands for, or its default if there is none. -/
def Settings.Holds (s : Settings) (raw : SettingsField → Option Value) (field : SettingsField) :
    Prop :=
  match raw field with
  | none => s.value field = Settings.default.value field
  | some v => field.converted v = .ok (s.value field)

/-- The error is the reason why the raw value of its field cannot be converted. -/
def FieldError.Explains (e : FieldError) (raw : SettingsField → Option Value) : Prop :=
  raw e.field = some e.input ∧ e.field.converted e.input = .error e.error

/-- All errors are explained by raw values. -/
def Checked.IsExplained {α : Type} (x : Checked α) (raw : SettingsField → Option Value) : Prop :=
  ∀ errors, x = .error errors → ∀ e ∈ errors.toList, e.Explains raw

namespace Checked

variable {α β : Type} {raw : SettingsField → Option Value}

theorem isExplained_ok (a : α) : IsExplained (.ok a) raw := fun _ h => nomatch h

theorem IsExplained.apply {f : Checked (α → β)} {x : Checked α} (hf : f.IsExplained raw)
    (hx : x.IsExplained raw) : (f.apply x).IsExplained raw := by
  intro errors h e he
  cases f with
  | ok g =>
    cases x with
    | ok a => cases h
    | error later =>
      obtain rfl := Except.error.inj h
      exact hx later rfl e he
  | error earlier =>
    cases x with
    | ok a =>
      obtain rfl := Except.error.inj h
      exact hf earlier rfl e he
    | error later =>
      obtain rfl := Except.error.inj h
      rcases List.mem_append.1 (show e ∈ earlier.toList ++ later.toList from he) with he | he
      · exact hf earlier rfl e he
      · exact hx later rfl e he

end Checked

namespace Settings

section Fields

variable {α : Type} {read : Value → Except ConversionError α} {wrap : α → Value}

theorem isExplained_convert (raw : SettingsField → Option Value) (field : SettingsField)
    (hread : ∀ v, field.converted v = (read v).map wrap) (standard : α) :
    (convert raw field read standard).IsExplained raw := by
  intro errors h e he
  rw [convert] at h
  cases hraw : raw field with
  | none =>
    rw [hraw] at h
    cases h
  | some v =>
    rw [hraw] at h
    obtain ⟨error, herror, rfl⟩ := Attempt.mapError_eq_error_iff.1 h
    obtain rfl := List.mem_singleton.1 (show e ∈ [_] from he)
    exact ⟨hraw, by rw [hread, herror]; rfl⟩

theorem holds_of_convert {raw : SettingsField → Option Value} {field : SettingsField}
    (hread : ∀ v, field.converted v = (read v).map wrap) {standard a : α}
    (h : convert raw field read standard = .ok a) {s : Settings} (hs : s.value field = wrap a)
    (hstandard : Settings.default.value field = wrap standard) : s.Holds raw field := by
  rw [Holds, hs, hstandard]
  rcases convert_eq_ok h with ⟨hraw, rfl⟩ | ⟨v, hraw, hok⟩
  · rw [hraw]
  · rw [hraw]
    exact (hread v).trans (by rw [hok]; rfl)

end Fields

variable {raw : SettingsField → Option Value}

/-- Every field of settings that were read comes from its raw value. -/
theorem holds_of_ofRaw {s : Settings} (h : ofRaw raw = .ok s) (field : SettingsField) :
    s.Holds raw field := by
  obtain ⟨hlevel, hurl, hdatabase, hsize, hfilter, htimeout, hbundles, hdata, haccess, hstorage⟩ :=
    ofRaw_eq_ok_iff.1 h
  cases field with
  | logLevel => exact holds_of_convert (fun _ => rfl) hlevel rfl rfl
  | url => exact holds_of_convert (fun _ => rfl) hurl rfl rfl
  | database => exact holds_of_convert (fun _ => rfl) hdatabase rfl rfl
  | databasePageSize => exact holds_of_convert (fun _ => rfl) hsize rfl rfl
  | applyFieldFilter => exact holds_of_convert (fun _ => rfl) hfilter rfl rfl
  | timeout => exact holds_of_convert (fun _ => rfl) htimeout rfl rfl
  | activeBundles => exact holds_of_convert (fun _ => rfl) hbundles rfl rfl
  | dataDir => exact holds_of_convert (fun _ => rfl) hdata rfl rfl
  | anonymousAccess => exact holds_of_convert (fun _ => rfl) haccess rfl rfl
  | storageEngine => exact holds_of_convert (fun _ => rfl) hstorage rfl rfl

/-- Every error on the way to settings comes from a raw value. -/
theorem isExplained_ofRaw (raw : SettingsField → Option Value) : (ofRaw raw).IsExplained raw := by
  have hlevel := isExplained_convert raw .logLevel (fun _ => rfl) default.logLevel
  have hurl := isExplained_convert raw .url (fun _ => rfl) default.url
  have hdatabase := isExplained_convert raw .database (fun _ => rfl) default.database
  have hsize := isExplained_convert raw .databasePageSize (fun _ => rfl) default.databasePageSize
  have hfilter := isExplained_convert raw .applyFieldFilter (fun _ => rfl) default.applyFieldFilter
  have htimeout := isExplained_convert raw .timeout (fun _ => rfl) default.timeout
  have hbundles := isExplained_convert raw .activeBundles (fun _ => rfl) default.activeBundles
  have hdata := isExplained_convert raw .dataDir (fun _ => rfl) default.dataDir
  have haccess := isExplained_convert raw .anonymousAccess (fun _ => rfl) default.anonymousAccess
  have hstorage := isExplained_convert raw .storageEngine (fun _ => rfl) default.storageEngine
  exact (Checked.isExplained_ok Settings.mk).apply hlevel |>.apply hurl |>.apply hdatabase
    |>.apply hsize |>.apply hfilter |>.apply htimeout |>.apply hbundles |>.apply hdata
    |>.apply haccess |>.apply hstorage

/-- Properties that are not there give nothing. -/
theorem givenByProperties_nil (field : SettingsField) : givenByProperties [] field = none := by
  cases field with
  | _ => rfl

end Settings

/-! ### Both ways -/

namespace ApplicationSettings

variable {env : Environment} {app : ApplicationSettings}

/-- The members of the object of the surroundings; there are none without an object. -/
def suppliedMembers (env : Environment) : FieldMap Text Json :=
  match readBinding env with
  | .ok (some (.object members)) => members
  | _ => []

/-- The object of the surroundings holds a value for a field. -/
def Supplies (env : Environment) (field : SettingsField) : Prop :=
  (givenByMembers (suppliedMembers env) field).isSome

/-- The object of the surroundings does not change how the fields are looked for that it does not
supply. -/
def KeepsSearch (env : Environment) : Prop :=
  SearchMembers.adjust (suppliedMembers env) Settings.search = .ok Settings.search

instance (env : Environment) (field : SettingsField) : Decidable (Supplies env field) :=
  inferInstanceAs (Decidable (_ = true))

instance (env : Environment) : Decidable (KeepsSearch env) :=
  inferInstanceAs (Decidable (SearchMembers.adjust _ _ = _))

theorem suppliedMembers_of_object {members : FieldMap Text Json}
    (h : readBinding env = .ok (some (.object members))) : suppliedMembers env = members := by
  rw [suppliedMembers, h]

/-- The settings of the application hold settings of the binding whose sources are the object and
the surroundings. -/
theorem exists_sources (h : read env = .ok app) (hsearch : KeepsSearch env) :
    ∃ given, Settings.ofSources given Settings.search env = .ok app.binding ∧
      ∀ field, ¬Supplies env field → given field = none := by
  rw [read] at h
  obtain ⟨object, hobject, h⟩ := Attempt.bind_eq_ok_iff.1 h
  cases object with
  | none =>
    obtain ⟨binding, hbinding, happ⟩ := Attempt.bind_eq_ok_iff.1 h
    obtain rfl := Except.ok.inj happ
    exact ⟨fun _ => none, Attempt.mapError_eq_ok_iff.1 hbinding, fun _ _ => rfl⟩
  | some value =>
    cases value with
    | object members =>
      rw [KeepsSearch, suppliedMembers_of_object hobject] at hsearch
      obtain ⟨adjusted, hadjust, h⟩ := Attempt.bind_eq_ok_iff.1 h
      obtain rfl := Except.ok.inj ((Attempt.mapError_eq_ok_iff.1 hadjust).symm.trans hsearch)
      obtain ⟨binding, hbinding, happ⟩ := Attempt.bind_eq_ok_iff.1 h
      obtain rfl := Except.ok.inj happ
      refine ⟨givenByMembers members, Attempt.mapError_eq_ok_iff.1 hbinding, fun field hnot => ?_⟩
      rw [Supplies, suppliedMembers_of_object hobject] at hnot
      exact Option.not_isSome_iff_eq_none.1 hnot
    | _ => cases h

/-- As long as the settings of the application can be read, and no object changes how fields are
looked for, the settings of the binding that are read by themselves have the same fields, apart from
those that the object supplies. If they cannot be read, such a field is at fault. Without one, both
are the same settings. -/
theorem agrees_with_direct (h : read env = .ok app) (hsearch : KeepsSearch env) :
    ((∀ field, ¬Supplies env field) → Settings.ofProperties [] env = .ok app.binding) ∧
    match Settings.ofProperties [] env with
    | .ok direct => ∀ field, ¬Supplies env field → direct.value field = app.binding.value field
    | .error error => ∃ field, Supplies env field ∧ error.field = field.name := by
  obtain ⟨given, hsources, hgiven⟩ := exists_sources h hsearch
  -- the raw values differ at most where the object supplies one
  have hraw : ∀ field, ¬Supplies env field →
      Settings.raw? (Settings.givenByProperties []) Settings.search env field =
        Settings.raw? given Settings.search env field := by
    intro field hnot
    rw [Settings.raw?, Settings.raw?, Settings.givenByProperties_nil, hgiven field hnot]
  refine ⟨fun hnone => ?_, ?_⟩
  · have hsame : Settings.ofSources (Settings.givenByProperties []) Settings.search env =
        Settings.ofSources given Settings.search env :=
      congrArg Settings.ofRaw (funext fun field => hraw field (hnone field))
    rw [Settings.ofProperties, hsame, hsources]
    rfl
  · cases hdirect : Settings.ofProperties [] env with
    | ok direct =>
      intro field hnot
      have hleft := Settings.holds_of_ofRaw (Attempt.mapError_eq_ok_iff.1 hdirect) field
      have hright := Settings.holds_of_ofRaw hsources field
      rw [Settings.Holds, hraw field hnot] at hleft
      rw [Settings.Holds] at hright
      split at hleft
      · next hv =>
        rw [hv] at hright
        exact hleft.trans hright.symm
      · next v hv =>
        rw [hv] at hright
        exact Except.ok.inj (hleft.symm.trans hright)
    | error error =>
      obtain ⟨errors, herrors, rfl⟩ := Attempt.mapError_eq_error_iff.1 hdirect
      obtain ⟨hinput, hreason⟩ :=
        Settings.isExplained_ofRaw _ errors herrors errors.first List.mem_cons_self
      refine ⟨errors.first.field, ?_, rfl⟩
      -- a field that is not supplied was converted on the other way
      refine Classical.byContradiction fun hnot => ?_
      have hholds := Settings.holds_of_ofRaw hsources errors.first.field
      rw [Settings.Holds, ← hraw _ hnot, hinput] at hholds
      cases hreason.symm.trans hholds

/-- Surroundings in which an object names the database and a variable the URL. -/
def namedDatabase : Environment :=
  { processEntries := [("RAVENDB", Text.ofString "\x7b\"database\":\"Other\"\x7d"),
      ("RAVENDB_URL", "http://a:1")] }

theorem agrees_with_direct_named_database :
    ∃ app, read namedDatabase = .ok app ∧ KeepsSearch namedDatabase ∧
      ((∀ field, ¬Supplies namedDatabase field) →
        Settings.ofProperties [] namedDatabase = .ok app.binding) ∧
      match Settings.ofProperties [] namedDatabase with
      | .ok direct =>
        ∀ field, ¬Supplies namedDatabase field → direct.value field = app.binding.value field
      | .error error => ∃ field, Supplies namedDatabase field ∧ error.field = field.name := by
  have hread : (read namedDatabase).toOption =
      some ⟨"INFO", { Settings.default with url := "http://a:1", database := "Other" }⟩ := by
    decide +kernel
  have hkeeps : KeepsSearch namedDatabase := by decide +kernel
  cases happ : read namedDatabase with
  | ok app => exact ⟨app, rfl, hkeeps, agrees_with_direct happ hkeeps⟩
  | error failure =>
    rw [happ] at hread
    cases hread

/-- What an object supplies is not seen on the other way, nor are the names and the file that it
says. -/
theorem disagrees_with_direct :
    let supplied : Environment :=
      { processEntries := [("RAVENDB", Text.ofString "\x7b\"url\":\"http://nested\"\x7d")] }
    let hidden : Environment :=
      { processEntries := [("RAVENDB", Text.ofString "\x7b\"database_page_size\":1\x7d"),
          ("RAVENDB_DATABASE_PAGE_SIZE", "x")] }
    let renamed : Environment :=
      { processEntries := [("RAVENDB", Text.ofString "\x7b\"_env_prefix\":\"X_\"\x7d"),
          ("X_URL", "http://nested")] }
    ((read supplied).toOption.map (·.binding.url) = some "http://nested" ∧
      (Settings.ofProperties [] supplied).toOption.map (·.url) = some Settings.default.url) ∧
    ((read hidden).toOption.map (·.binding.databasePageSize) = some 1 ∧
      (Settings.ofProperties [] hidden).toOption = none) ∧
    ((read renamed).toOption.map (·.binding.url) = some "http://nested" ∧
      (Settings.ofProperties [] renamed).toOption.map (·.url) = some Settings.default.url ∧
      ∀ field, ¬Supplies renamed field) := by
  refine ⟨⟨?_, ?_⟩, ⟨?_, ?_⟩, ?_, ?_, ?_⟩
  · decide +kernel
  · decide +kernel
  · decide +kernel
  · decide +kernel
  · decide +kernel
  · decide +kernel
  · rw [SettingsField.forall_iff]
    decide +kernel

end ApplicationSettings

end RavenBinding
