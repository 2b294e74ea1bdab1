import Mathlib.Data.List.Basic
import Mathlib.Data.List.Find
import Mathlib.Data.List.Induction
import RavenBinding.Proofs.Settings.Agreement

/-!
# Which value of a setting counts, and which error is reported

A setting has its value from the first source that has one: the property for it, the variable of its
name, the entry of its name in the settings file, its default. Only this value is converted. If some
settings cannot be converted, the first one in the order of declaration is reported with its value.
Nothing else in the sources matters.

Names of variables and entries are compared without regard to case. An entry keeps the place in which
its spelling first appears and has the value that the spelling has last; the spelling in the last
place counts.

## Main definitions

- `SettingsField.isSpelled`, `Entries.Holds`: the names of a field, and what entries hold for it
- `Settings.IsRaw`: the value of a field that counts
- `Settings.Reports`: a check that reports the fields at fault in order
- `Settings.IsFirstError`: the error that is reported
- `Environment.AgreesWith`: surroundings that differ where it does not matter

## Main statements

- `FileEntry.keys_resolve`, `FileEntry.get?_resolve`: places and values of the entries of a file
- `Settings.reports_ofRaw`: the fields at fault, in order
- `Settings.ofProperties_takes_first_source`: what the settings and their error come from
-/

namespace RavenBinding

/-! ### The entries of a file -/

namespace FileEntry

variable (variableValue : Text → Option Text)

theorem resolve_append_singleton (entries : List FileEntry) (e : FileEntry) :
    resolve variableValue (entries ++ [e]) =
      FieldMap.insert (resolve variableValue entries) e.name (e.value.map (substitute fun name =>
        FieldMap.get? (resolve variableValue entries) name <|>
          (variableValue name).map some)) := by
  rw [resolve, List.foldl_append]
  rfl

/-- Each spelling has one place, in the order in which the spellings first appear. -/
theorem keys_resolve (entries : List FileEntry) :
    FieldMap.keys (resolve variableValue entries) = (entries.map FileEntry.name).eraseDups := by
  induction entries using List.reverseRecOn with
  | nil => rfl
  | append_singleton entries e ih =>
    rw [resolve_append_singleton, List.map_append, List.eraseDups_append]
    by_cases hseen : e.name ∈ entries.map FileEntry.name
    · have hkey : e.name ∈ FieldMap.keys (resolve variableValue entries) :=
        ih ▸ List.mem_eraseDups.2 hseen
      rw [(FieldMap.keys_insert _ _ _).1 hkey, ih, List.map_singleton, List.removeAll,
        List.filter_cons_of_neg (by simpa using hseen)]
      exact (List.append_nil _).symm
    · have hkey : e.name ∉ FieldMap.keys (resolve variableValue entries) := fun h =>
        hseen (List.mem_eraseDups.1 (ih ▸ h))
      rw [(FieldMap.keys_insert _ _ _).2 hkey, ih, List.map_singleton, List.removeAll,
        List.filter_cons_of_pos (by simpa using hseen)]
      rfl

/-- Each spelling has the value of its last entry, whose references see the entries before it. -/
theorem get?_resolve (before after : List FileEntry) (e : FileEntry)
    (hlast : ∀ later ∈ after, later.name ≠ e.name) :
    FieldMap.get? (resolve variableValue (before ++ e :: after)) e.name =
      some (e.value.map (substitute fun name =>
        FieldMap.get? (resolve variableValue before) name <|> (variableValue name).map some)) := by
  induction after using List.reverseRecOn with
  | nil => rw [resolve_append_singleton, FieldMap.get?_insert_self]
  | append_singleton after later ih =>
    have hother : later.name ≠ e.name := hlast later (by simp)
    have hsplit : before ++ e :: (after ++ [later]) = (before ++ e :: after) ++ [later] := by simp
    rw [hsplit, resolve_append_singleton, FieldMap.get?_insert_of_ne _ _ hother]
    exact ih fun d hd => hlast d (List.mem_append_left _ hd)

/-- A reference begins somewhere in a text. -/
def hasReference : Text → Bool
  | c :: d :: rest =>
    (c == CodePoint.ofChar '$' && d == CodePoint.ofChar '{') || hasReference (d :: rest)
  | _ => false

/-- The value of the entry refers to nothing. -/
def IsPlain (e : FileEntry) : Prop := ∀ v ∈ e.value, hasReference v = false

theorem substituteLoop_of_plain (known : Text → Option (Option Text)) (steps : Nat) {t : Text}
    (h : hasReference t = false) : substituteLoop known steps t = t := by
  induction steps generalizing t with
  | zero => rw [substituteLoop.eq_def]
  | succ steps ih =>
    rcases t with _ | ⟨c, _ | ⟨d, rest⟩⟩
    · rfl
    · rfl
    · rw [hasReference, Bool.or_eq_false_iff] at h
      rw [substituteLoop.eq_def]
      simp only [h.1, Bool.false_eq_true, if_false, ih h.2]

/-- Entries without references are written as they are. -/
theorem resolve_of_plain {entries : List FileEntry} (h : ∀ e ∈ entries, e.IsPlain) :
    resolve variableValue entries = FieldMap.ofList (entries.map fun e => (e.name, e.value)) := by
  have hvalue : ∀ (known : Text → Option (Option Text)), ∀ e ∈ entries,
      e.value.map (substitute known) = e.value := by
    intro known e he
    cases hv : e.value with
    | none => rfl
    | some v =>
      rw [Option.map_some, substitute, substituteLoop_of_plain known _ (h e he v hv)]
  rw [resolve, FieldMap.ofList, FieldMap.insertAll, List.foldl_map]
  exact List.foldl_ext _ _ _ fun found e he =>
    congrArg (FieldMap.insert found e.name) (hvalue _ e he)

end FileEntry

/-! ### What entries hold for a field -/

/-- The name of a variable or of an entry of the file is that of the field, but for the case. -/
def SettingsField.isSpelled (field : SettingsField) (name : Text) : Bool :=
  name.toLowerAscii == (Settings.search.namePrefix ++ field.name).toLowerAscii

/-- The name is that of some field, but for the case. -/
def SettingsField.isMapped (name : Text) : Bool :=
  SettingsField.all.any fun field => field.isSpelled name

/-- The last entry for a field has the value. -/
def Entries.Holds (entries : Entries) (field : SettingsField) (t : Text) : Prop :=
  ∃ before spelled after, entries = before ++ (spelled, some t) :: after ∧
    field.isSpelled spelled = true ∧ ∀ e ∈ after, field.isSpelled e.1 = false

namespace Settings

theorem find?_eq (entries : Entries) (field : SettingsField) :
    search.find? entries field.name =
      ((entries.reverse.find? fun e => field.isSpelled e.1).bind Prod.snd).map some := by
  have hspelled : ((if search.skipsEmpty = true then entries.filter fun e => e.2 != some []
      else entries).reverse.find? fun e =>
        search.fold e.1 == search.fold (search.namePrefix ++ field.name)) =
      entries.reverse.find? fun e => field.isSpelled e.1 := rfl
  simp only [Search.find?, hspelled]
  cases (entries.reverse.find? fun e => field.isSpelled e.1).bind Prod.snd with
  | none => rfl
  | some t =>
    have hnothing : search.nothing ≠ some t := fun h => by cases h
    exact congrArg some (if_neg hnothing)

theorem find?_eq_some_iff {entries : Entries} {field : SettingsField} {found : Option Text} :
    search.find? entries field.name = some found ↔ ∃ t, found = some t ∧ entries.Holds field t := by
  rw [find?_eq, Option.map_eq_some_iff]
  constructor
  · rintro ⟨t, hfound, rfl⟩
    obtain ⟨e, he, hvalue⟩ := Option.bind_eq_some_iff.1 hfound
    obtain ⟨hspelled, after, before, hsplit, hlast⟩ := List.find?_eq_some_iff_append.1 he
    refine ⟨t, rfl, before.reverse, e.1, after.reverse, ?_, hspelled, fun d hd => ?_⟩
    · rw [← hvalue, ← List.reverse_reverse entries, hsplit]
      simp
    · simpa using hlast d (List.mem_reverse.1 hd)
  · rintro ⟨t, rfl, before, spelled, after, rfl, hspelled, hlast⟩
    refine ⟨t, Option.bind_eq_some_iff.2 ⟨(spelled, some t), ?_, rfl⟩, rfl⟩
    refine List.find?_eq_some_iff_append.2 ⟨hspelled, after.reverse, before.reverse, by simp,
      fun d hd => ?_⟩
    simpa using hlast d (List.mem_reverse.1 hd)

/-- Entries under other names do not matter. -/
theorem find?_filter {entries entries' : Entries}
    (h : (entries.filter fun e => SettingsField.isMapped e.1) =
      entries'.filter fun e => SettingsField.isMapped e.1) (field : SettingsField) :
    search.find? entries field.name = search.find? entries' field.name := by
  have hmapped : ∀ name, field.isSpelled name = true → SettingsField.isMapped name = true := by
    intro name hname
    refine List.any_eq_true.2 ⟨field, ?_, hname⟩
    cases field with
    | _ => decide
  have hfilter : ∀ entries : Entries, (entries.reverse.find? fun e => field.isSpelled e.1) =
      (entries.filter fun e => SettingsField.isMapped e.1).reverse.find?
        fun e => field.isSpelled e.1 := by
    intro entries
    rw [← List.filter_reverse, List.find?_filter]
    refine List.find?_congr fun e _ => ?_
    cases hspelled : field.isSpelled e.1 with
    | false => simp
    | true => simp [hmapped e.1 hspelled]
  rw [find?_eq, find?_eq, hfilter entries, hfilter entries', h]

/-! ### The value that counts -/

/-- The value of a field that counts, if one is given: that of the first source that has one. -/
inductive IsRaw (properties : FieldMap Text Value) (env : Environment) (field : SettingsField) :
    Option Value → Prop where
  | ofProperty {v : Value} (given : givenByProperties properties field = some v) :
    IsRaw properties env field (some v)
  | ofVariable {t : Text} (unset : givenByProperties properties field = none)
    (held : env.processValues.Holds field t) : IsRaw properties env field (some (.text t))
  | ofEntry {t : Text} (unset : givenByProperties properties field = none)
    (unheld : ∀ t, ¬env.processValues.Holds field t) (held : env.fileValues.Holds field t) :
    IsRaw properties env field (some (.text t))
  | ofDefault (unset : givenByProperties properties field = none)
    (unheld : ∀ t, ¬env.processValues.Holds field t) (absent : ∀ t, ¬env.fileValues.Holds field t) :
    IsRaw properties env field none

variable {properties : FieldMap Text Value} {env : Environment} {field : SettingsField}

theorem find?_eq_none_iff {entries : Entries} :
    search.find? entries field.name = none ↔ ∀ t, ¬entries.Holds field t := by
  rw [Option.eq_none_iff_forall_ne_some]
  constructor
  · exact fun h t ht => h (some t) (find?_eq_some_iff.2 ⟨t, rfl, ht⟩)
  · intro h found hfound
    obtain ⟨t, -, ht⟩ := find?_eq_some_iff.1 hfound
    exact h t ht

theorem findIn?_eq (env : Environment) (field : SettingsField) :
    search.findIn? env field.name =
      (search.find? env.processValues field.name <|> search.find? env.fileValues field.name) := rfl

/-- The value that counts is the raw value. -/
theorem IsRaw.eq_raw? {raw : Option Value} (h : IsRaw properties env field raw) :
    raw = raw? (givenByProperties properties) search env field := by
  rw [raw?, findIn?_eq]
  cases h with
  | ofProperty given =>
    rw [given]
    rfl
  | @ofVariable t unset held =>
    rw [unset, find?_eq_some_iff.2 ⟨t, rfl, held⟩]
    rfl
  | @ofEntry t unset unheld held =>
    rw [unset, find?_eq_none_iff.2 unheld, find?_eq_some_iff.2 ⟨t, rfl, held⟩]
    rfl
  | ofDefault unset unheld absent =>
    rw [unset, find?_eq_none_iff.2 unheld, find?_eq_none_iff.2 absent]
    rfl

theorem exists_isRaw (properties : FieldMap Text Value) (env : Environment)
    (field : SettingsField) : ∃ raw, IsRaw properties env field raw := by
  cases hgiven : givenByProperties properties field with
  | some v => exact ⟨_, .ofProperty hgiven⟩
  | none =>
    by_cases hvariable : ∃ t, env.processValues.Holds field t
    · obtain ⟨t, ht⟩ := hvariable
      exact ⟨_, .ofVariable hgiven ht⟩
    · have hunheld := not_exists.1 hvariable
      by_cases hentry : ∃ t, env.fileValues.Holds field t
      · obtain ⟨t, ht⟩ := hentry
        exact ⟨_, .ofEntry hgiven hunheld ht⟩
      · exact ⟨_, .ofDefault hgiven hunheld (not_exists.1 hentry)⟩

/-- One value counts. -/
theorem isRaw_iff {raw : Option Value} :
    IsRaw properties env field raw ↔
      raw = raw? (givenByProperties properties) search env field := by
  refine ⟨IsRaw.eq_raw?, ?_⟩
  rintro rfl
  obtain ⟨raw, h⟩ := exists_isRaw properties env field
  exact h.eq_raw? ▸ h

/-- The value of the field that counts, if one is given, can be converted. -/
def Converts (properties : FieldMap Text Value) (env : Environment) (field : SettingsField) : Prop :=
  ∀ v, IsRaw properties env field (some v) → ∃ c, field.converted v = .ok c

end Settings

/-! ### Fields at fault -/

/-- The details of an error are the name of a field and its value. -/
theorem ConfigurationError.exists_shown (error : ConfigurationError) :
    ∃ shown : BindingError, (Failure.configuration error).bindingError? = some shown ∧
      shown.details.get? (.text (Text.ofString "field")) = some (.text error.field) ∧
      shown.details.get? (.text (Text.ofString "input")) = some error.input := by
  refine ⟨_, rfl, ?_, ?_⟩
  · rw [FieldMap.get?, Value.beq_text, if_neg (by decide), FieldMap.get?, Value.beq_text,
      if_pos BEq.rfl]
  · rw [FieldMap.get?, Value.beq_text, if_pos BEq.rfl]

/-- The errors of a check. -/
def Checked.reported {α : Type} : Checked α → List FieldError
  | .ok _ => []
  | .error errors => errors.toList

theorem Checked.reported_apply {α β : Type} (f : Checked (α → β)) (x : Checked α) :
    (f.apply x).reported = f.reported ++ x.reported := by
  cases f with
  | ok g =>
    cases x with
    | ok a => rfl
    | error later => rfl
  | error earlier =>
    cases x with
    | ok a => exact (List.append_nil _).symm
    | error later => rfl

namespace Settings

/-- The raw value of a field cannot be converted. -/
def fails (raw : SettingsField → Option Value) (field : SettingsField) : Bool :=
  (raw field).any fun v => !(field.converted v).isOk

variable {raw : SettingsField → Option Value} {field : SettingsField}

theorem fails_eq_false_iff :
    fails raw field = false ↔ ∀ v, raw field = some v → ∃ c, field.converted v = .ok c := by
  rw [fails]
  cases raw field with
  | none => exact ⟨fun _ _ h => (by cases h), fun _ => rfl⟩
  | some v =>
    show (!(field.converted v).isOk) = false ↔ _
    cases hv : field.converted v with
    | ok c => exact ⟨fun _ w hw => ⟨c, Option.some.inj hw ▸ hv⟩, fun _ => rfl⟩
    | error e =>
      refine ⟨fun h => (by cases h), fun h => ?_⟩
      obtain ⟨c, hc⟩ := h v rfl
      rw [hv] at hc
      cases hc

/-- The check reports those of the fields that are at fault, in order. -/
def Reports {α : Type} (x : Checked α) (raw : SettingsField → Option Value)
    (fields : List SettingsField) : Prop :=
  x.reported.map FieldError.field = fields.filter (fails raw)

theorem Reports.apply {α β : Type} {f : Checked (α → β)} {x : Checked α}
    {earlier later : List SettingsField} (hf : Reports f raw earlier) (hx : Reports x raw later) :
    Reports (f.apply x) raw (earlier ++ later) := by
  rw [Reports, Checked.reported_apply, List.map_append, List.filter_append]
  exact congrArg₂ _ hf hx

theorem reports_convert {α : Type} {read : Value → Except ConversionError α} {wrap : α → Value}
    (raw : SettingsField → Option Value) (field : SettingsField)
    (hread : ∀ v, field.converted v = (read v).map wrap) (standard : α) :
    Reports (convert raw field read standard) raw [field] := by
  rw [Reports, convert, List.filter_singleton, fails]
  cases raw field with
  | none => rfl
  | some v =>
    show _ = bif !(field.converted v).isOk then [field] else []
    rw [hread]
    cases hv : read v with
    | ok a =>
      simp only [hv]
      rfl
    | error e =>
      simp only [hv]
      rfl

/-- The fields at fault are reported in the order of their declaration. -/
theorem reports_ofRaw (raw : SettingsField → Option Value) :
    Reports (ofRaw raw) raw SettingsField.all := by
  have hnone : Reports (.ok Settings.mk) raw [] := rfl
  exact hnone.apply (reports_convert raw .logLevel (fun _ => rfl) _)
    |>.apply (reports_convert raw .url (fun _ => rfl) _)
    |>.apply (reports_convert raw .database (fun _ => rfl) _)
    |>.apply (reports_convert raw .databasePageSize (fun _ => rfl) _)
    |>.apply (reports_convert raw .applyFieldFilter (fun _ => rfl) _)
    |>.apply (reports_convert raw .timeout (fun _ => rfl) _)
    |>.apply (reports_convert raw .activeBundles (fun _ => rfl) _)
    |>.apply (reports_convert raw .dataDir (fun _ => rfl) _)
    |>.apply (reports_convert raw .anonymousAccess (fun _ => rfl) _)
    |>.apply (reports_convert raw .storageEngine (fun _ => rfl) _)

/-- All raw values are converted exactly if no field is at fault. -/
theorem exists_ofRaw_iff : (∃ s, ofRaw raw = .ok s) ↔ ∀ field, fails raw field = false := by
  have hfields := reports_ofRaw raw
  rw [Reports] at hfields
  constructor
  · rintro ⟨s, hs⟩ field
    rw [hs] at hfields
    have hmem : field ∈ SettingsField.all := SettingsField.forall_iff.2 (fun _ h => h) field
    simpa using List.filter_eq_nil_iff.1 hfields.symm field hmem
  · intro h
    cases hraw : ofRaw raw with
    | ok s => exact ⟨s, rfl⟩
    | error errors =>
      rw [hraw, List.filter_eq_nil_iff.2 fun field _ => by simp [h field]] at hfields
      cases hfields

/-! ### Settings of a run -/

variable {properties properties' : FieldMap Text Value} {env env' : Environment}
  {error : ConfigurationError}

theorem converts_of_not_fails
    (h : fails (raw? (givenByProperties properties) search env) field = false) :
    Converts properties env field :=
  fun v hv => fails_eq_false_iff.1 h v (isRaw_iff.1 hv).symm

/-- The error is that of the first field, in the order of declaration, whose value cannot be
converted. Its details are the name of the field and this value. -/
structure IsFirstError (properties : FieldMap Text Value) (env : Environment)
    (error : ConfigurationError) (field : SettingsField) : Prop where
  input : IsRaw properties env field (some error.input)
  fault : ∃ reason, field.converted error.input = .error reason ∧ error.reason = reason.message
  first : ∃ before after, SettingsField.all = before ++ field :: after ∧
    ∀ earlier ∈ before, Converts properties env earlier
  shown : ∃ shown : BindingError, (Failure.configuration error).bindingError? = some shown ∧
    shown.details.get? (.text (Text.ofString "field")) = some (.text field.name) ∧
    shown.details.get? (.text (Text.ofString "input")) = some error.input

theorem exists_isFirstError (h : ofProperties properties env = .error error) :
    ∃ field, IsFirstError properties env error field := by
  obtain ⟨errors, herrors, rfl⟩ := Attempt.mapError_eq_error_iff.1 h
  obtain ⟨hinput, hreason⟩ := isExplained_ofRaw _ errors herrors errors.first List.mem_cons_self
  have hfields := reports_ofRaw (raw? (givenByProperties properties) search env)
  rw [Reports, show ofRaw (raw? (givenByProperties properties) search env) = .error errors
    from herrors] at hfields
  obtain ⟨before, after, hall, hbefore, -⟩ := List.filter_eq_cons_iff.1 hfields.symm
  refine ⟨errors.first.field, ?_⟩
  constructor
  case input => exact isRaw_iff.2 hinput.symm
  case fault => exact ⟨_, hreason, rfl⟩
  case first =>
    refine ⟨before, after, hall, fun earlier hearlier => ?_⟩
    exact converts_of_not_fails (Bool.eq_false_iff.2 (hbefore earlier hearlier))
  case shown => exact ConfigurationError.exists_shown _

/-- Settings can be read exactly if the values of all fields can be converted. -/
theorem exists_ofProperties_iff :
    (∃ s, ofProperties properties env = .ok s) ↔ ∀ field, Converts properties env field := by
  have hread : ∀ s, ofProperties properties env = .ok s ↔
      ofRaw (raw? (givenByProperties properties) search env) = .ok s :=
    fun _ => Attempt.mapError_eq_ok_iff
  simp only [hread, exists_ofRaw_iff]
  refine forall_congr' fun field => ⟨converts_of_not_fails, fun h => ?_⟩
  exact fails_eq_false_iff.2 fun v hv => h v (isRaw_iff.2 hv.symm)

/-- Properties, variables and entries under names that are those of no field do not matter. -/
theorem ofProperties_congr
    (hproperties : ∀ field : SettingsField, ∀ name ∈ field.property?,
      properties.get? name = properties'.get? name)
    (hprocess : (env.processValues.filter fun e => SettingsField.isMapped e.1) =
      env'.processValues.filter fun e => SettingsField.isMapped e.1)
    (hfile : (env.fileValues.filter fun e => SettingsField.isMapped e.1) =
      env'.fileValues.filter fun e => SettingsField.isMapped e.1) :
    ofProperties properties env = ofProperties properties' env' := by
  have hraw : raw? (givenByProperties properties) search env =
      raw? (givenByProperties properties') search env' := by
    funext field
    have hgiven : givenByProperties properties field = givenByProperties properties' field := by
      rw [givenByProperties, givenByProperties]
      cases hname : field.property? with
      | none => rfl
      | some name => exact hproperties field name hname
    have hfound : search.findIn? env field.name = search.findIn? env' field.name := by
      rw [Search.findIn?, Search.findIn?, find?_filter hprocess, find?_filter hfile]
    rw [raw?, raw?, hgiven, hfound]
  rw [ofProperties, ofProperties, ofSources, ofSources, hraw]

end Settings

/-- The surroundings have the same variables and entries under the names of fields, and no entry of
a file refers to anything. -/
structure Environment.AgreesWith (env env' : Environment) : Prop where
  processEntries_eq : (env.processEntries.filter fun e => SettingsField.isMapped e.1) =
    env'.processEntries.filter fun e => SettingsField.isMapped e.1
  fileEntries_eq : (env.fileEntries.filter fun e => SettingsField.isMapped e.name) =
    env'.fileEntries.filter fun e => SettingsField.isMapped e.name
  plain : (∀ e ∈ env.fileEntries, e.IsPlain) ∧ ∀ e ∈ env'.fileEntries, e.IsPlain

namespace Environment

variable {env env' : Environment}

theorem filter_processValues (p : Text → Bool) (env : Environment) :
    (env.processValues.filter fun e => p e.1) =
      (env.processEntries.filter fun e => p e.1).map fun e => (e.1, some e.2) := by
  rw [processValues, List.filter_map]
  rfl

theorem filter_fileValues (p : Text → Bool) (h : ∀ e ∈ env.fileEntries, e.IsPlain) :
    (env.fileValues.filter fun e => p e.1) =
      FieldMap.ofList ((env.fileEntries.filter fun e => p e.name).map fun e => (e.name, e.value)) := by
  rw [fileValues, FileEntry.resolve_of_plain _ h, FieldMap.ofList, FieldMap.filter_insertAll,
    List.filter_map]
  rfl

end Environment

namespace Settings

/-- Settings come from the first source of each field. One value of a field counts. All fields are
what their values stand for, or their defaults, exactly if these values can be converted; otherwise
the first field at fault is reported with its value. Each spelling in the settings file has one
place, where it first appears, and its last value. What has the name of no field does not matter,
unless an entry of the file refers to it. -/
theorem ofProperties_takes_first_source (properties : FieldMap Text Value) (env : Environment) :
    (∀ field, ∃! raw, IsRaw properties env field raw) ∧
    ((∃ s, ofProperties properties env = .ok s) ↔ ∀ field, Converts properties env field) ∧
    (∀ s, ofProperties properties env = .ok s → ∀ field,
      (IsRaw properties env field none → s.value field = default.value field) ∧
      ∀ v, IsRaw properties env field (some v) → field.converted v = .ok (s.value field)) ∧
    (∀ error, ofProperties properties env = .error error →
      ∃ field, IsFirstError properties env error field) ∧
    (FieldMap.keys env.fileValues = (env.fileEntries.map FileEntry.name).eraseDups ∧
      ∀ before e after, env.fileEntries = before ++ e :: after →
        (∀ later ∈ after, later.name ≠ e.name) →
        FieldMap.get? env.fileValues e.name = some (e.value.map (FileEntry.substitute fun name =>
          FieldMap.get? (FileEntry.resolve env.processEntries.get? before) name <|>
            (env.processEntries.get? name).map some))) ∧
    ∀ properties' env', (∀ field : SettingsField, ∀ name ∈ field.property?,
        FieldMap.get? properties name = FieldMap.get? properties' name) →
      ((env.processValues.filter fun e => SettingsField.isMapped e.1) =
          (env'.processValues.filter fun e => SettingsField.isMapped e.1) ∧
        (env.fileValues.filter fun e => SettingsField.isMapped e.1) =
          (env'.fileValues.filter fun e => SettingsField.isMapped e.1) ∨ env.AgreesWith env') →
      ofProperties properties env = ofProperties properties' env' := by
  refine ⟨fun field => ⟨_, isRaw_iff.2 rfl, fun raw h => isRaw_iff.1 h⟩, exists_ofProperties_iff,
    fun s hs field => ?_, fun error h => exists_isFirstError h,
    ⟨FileEntry.keys_resolve _ _, fun before e after hentries hlast => ?_⟩,
    fun properties' env' hproperties hsame => ?_⟩
  · have hholds := holds_of_ofRaw (Attempt.mapError_eq_ok_iff.1 hs) field
    refine ⟨fun hnone => ?_, fun v hv => ?_⟩
    · rw [Holds, ← isRaw_iff.1 hnone] at hholds
      exact hholds
    · rw [Holds, ← isRaw_iff.1 hv] at hholds
      exact hholds
  · rw [Environment.fileValues, hentries]
    exact FileEntry.get?_resolve _ before after e hlast
  · rcases hsame with ⟨hprocess, hfile⟩ | ⟨hvariables, hfile, hplain, hplain'⟩
    · exact ofProperties_congr hproperties hprocess hfile
    · refine ofProperties_congr hproperties ?_ ?_
      · rw [Environment.filter_processValues, Environment.filter_processValues, hvariables]
      · rw [Environment.filter_fileValues _ hplain, Environment.filter_fileValues _ hplain', hfile]

/-- Surroundings in which the timeout cannot be converted, in a variable and in the file. -/
def namedTimeout : Environment :=
  { processEntries := [("RAVENDB_TIMEOUT", "soon")],
    fileEntries := [⟨"ravendb_timeout", some "later"⟩] }

theorem ofProperties_takes_first_source_timeout :
    (∃ s, ofProperties [("ravendb.timeout", .text "5")] namedTimeout = .ok s ∧
      SettingsField.converted .timeout (.text "5") = .ok (s.value .timeout)) ∧
    ∃ error field, ofProperties [] namedTimeout = .error error ∧
      IsFirstError [] namedTimeout error field := by
  constructor
  · have hconverts : ∀ field, Converts [("ravendb.timeout", .text "5")] namedTimeout field := by
      refine fun field => converts_of_not_fails ?_
      revert field
      rw [SettingsField.forall_iff]
      decide +kernel
    obtain ⟨-, hexists, hfields, -⟩ :=
      ofProperties_takes_first_source [("ravendb.timeout", .text "5")] namedTimeout
    obtain ⟨s, hs⟩ := hexists.2 hconverts
    exact ⟨s, hs, (hfields s hs .timeout).2 _ (.ofProperty rfl)⟩
  · have herror : (ofProperties [] namedTimeout).isOk = false := by decide +kernel
    obtain ⟨-, -, -, hfirst, -⟩ := ofProperties_takes_first_source [] namedTimeout
    cases hread : ofProperties [] namedTimeout with
    | ok s =>
      rw [hread] at herror
      cases herror
    | error error =>
      obtain ⟨field, hfield⟩ := hfirst error hread
      exact ⟨error, field, rfl, hfield⟩

/-- The last entry whose name is that of a field does not count if its spelling appeared before, and
a variable that is not named like a field counts if an entry of the file refers to it. -/
theorem ofProperties_ignores_last_entry :
    let file := Text.ofString "RAVENDB_URL=a\nravendb_url=b\nRAVENDB_URL=c\n"
    let referring := Text.ofString "RAVENDB_URL=http://$\x7bRAVENDB_HOST\x7d\n"
    (((FileEntry.ofText file).reverse.find? fun e => SettingsField.isSpelled .url e.name) =
        some ⟨"RAVENDB_URL", some "c"⟩ ∧
      (ofProperties [] (.ofTexts [] file)).toOption.map (·.url) = some "b") ∧
    SettingsField.isMapped "RAVENDB_HOST" = false ∧
      (ofProperties [] (.ofTexts [("RAVENDB_HOST", "h")] referring)).toOption.map (·.url) =
        some "http://h" ∧
      (ofProperties [] (.ofTexts [] referring)).toOption.map (·.url) = some "http://" := by
  refine ⟨⟨?_, ?_⟩, ?_, ?_, ?_⟩
  · decide +kernel
  · decide +kernel
  · decide +kernel
  · decide +kernel
  · decide +kernel

end Settings

end RavenBinding
