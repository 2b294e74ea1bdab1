import RavenBinding.Log.Context
import RavenBinding.Proofs.FieldMap

/-!
# Log calls and the attributes of their entries

A log call with a context makes one entry with the texts of the values, whatever these are; the call
for an error adds the name of its kind and its text, in place of values under their names. The one
thing that makes a call fail is an attribute that entries have of their own.

## Main definitions

- `LogCall`: a call that logs a message or a handled error
- `LogCall.Makes`: an entry is what the call should make
- `LogCall.LogsSafely`: the call returns, and makes its entry if its level is enabled

## Main statements

- `LogCall.perform_eq`: both calls make an entry with the attributes of the call
- `LogCall.logsSafely_iff_unreserved`: which contexts are logged safely
-/

namespace RavenBinding

/-- A call that logs a message at a level, or a handled error that has a text. -/
inductive LogCall where
  | message (level : Level) (message : Text)
  | error (message errorName errorText : Text)

namespace LogCall

/-- The level that the call logs at. -/
def level : LogCall → Level
  | message level _ => level
  | error _ _ _ => Level.error

/-- The names of the parameters of the call, which no context can use. -/
def parameters : LogCall → List String
  | message _ _ => ["logger", "level", "message"]
  | error _ _ _ => ["logger", "message", "exc"]

/-- The message of the entry. -/
def shown : LogCall → Text
  | message _ text => text
  | error text _ errorText => text ++ Text.ofString ": " ++ errorText

/-- The attributes that the call itself adds. -/
def own : LogCall → FieldMap Text Text
  | message _ _ => []
  | error _ errorName errorText =>
    [(Text.ofString "error_type", errorName), (Text.ofString "error_msg", errorText)]

/-- Performs the call. -/
def perform (call : LogCall) (logger : Logger) (context : FieldMap Text Value) :
    Except Fault (Option LogEntry) :=
  match call with
  | message level text => logger.logWithContext (.int level) text context
  | error text errorName errorText =>
    logger.logErrorWithContext text errorName (.ok errorText) context

/-- An entry is what the call should make: it has the level and the message of the call, and its
attributes are those of the call itself, and under all other names of the context the texts of the
values. -/
structure Makes (call : LogCall) (logger : Logger) (context : FieldMap Text Value)
    (entry : LogEntry) : Prop where
  logger : entry.logger = logger.name
  level : entry.level = call.level
  message : entry.message = call.shown
  attributes : ∀ name, entry.context.get? name =
    (call.own.get? name).or ((context.get? name).map (Value.logText Value.logLength))

/-- The call returns. It makes one entry if its level is enabled, and none if not. -/
def LogsSafely (call : LogCall) (logger : Logger) (context : FieldMap Text Value) : Prop :=
  ∃ logged, call.perform logger context = .ok logged ∧
    (logger.isEnabled call.level = true → ∃ entry, logged = some entry ∧
      call.Makes logger context entry) ∧
    (logger.isEnabled call.level = false → logged = none)

/-! ### Attributes -/

/-- The attributes that the entry is made with. -/
def attributes (call : LogCall) (context : FieldMap Text Value) : FieldMap Text Text :=
  match call with
  | message _ _ => Logger.contextTexts context
  | error _ errorName errorText =>
    ((Logger.contextTexts context).insert (Text.ofString "error_type") errorName).insert
      (Text.ofString "error_msg") errorText

variable {call : LogCall} {logger : Logger} {context : FieldMap Text Value}

theorem contextTexts_eq (context : FieldMap Text Value) :
    Logger.contextTexts context = FieldMap.mapValues (Value.logText Value.logLength) context := rfl

theorem get?_attributes (call : LogCall) (context : FieldMap Text Value) (name : Text) :
    (call.attributes context).get? name =
      (call.own.get? name).or ((context.get? name).map (Value.logText Value.logLength)) := by
  have htexts : (Logger.contextTexts context).get? name =
      (context.get? name).map (Value.logText Value.logLength) := by
    rw [contextTexts_eq, FieldMap.get?_mapValues]
  cases call with
  | message level text => exact htexts
  | error text errorName errorText =>
    have hne : Text.ofString "error_type" ≠ Text.ofString "error_msg" := by decide
    rw [attributes, own]
    by_cases hmessage : Text.ofString "error_msg" = name
    · subst hmessage
      rw [FieldMap.get?_insert_self, FieldMap.get?, if_neg (by simpa using hne), FieldMap.get?,
        if_pos BEq.rfl, Option.some_or]
    · rw [FieldMap.get?_insert_of_ne _ _ hmessage]
      by_cases htype : Text.ofString "error_type" = name
      · subst htype
        rw [FieldMap.get?_insert_self, FieldMap.get?, if_pos BEq.rfl, Option.some_or]
      · rw [FieldMap.get?_insert_of_ne _ _ htype, FieldMap.get?, if_neg (by simpa using htype),
          FieldMap.get?, if_neg (by simpa using hmessage), FieldMap.get?, Option.none_or, htexts]

/-- The call itself adds no attribute that entries have of their own. -/
theorem reserved_attributes_iff (call : LogCall) (context : FieldMap Text Value) :
    (∀ name ∈ (call.attributes context).keys, name ∉ Logger.reservedNames) ↔
      ∀ name ∈ context.keys, name ∉ Logger.reservedNames := by
  cases call with
  | message level text =>
    rw [attributes, contextTexts_eq, FieldMap.keys_mapValues]
  | error text errorName errorText =>
    have hown : Text.ofString "error_msg" ∉ Logger.reservedNames ∧
        Text.ofString "error_type" ∉ Logger.reservedNames := by decide
    simp only [attributes, contextTexts_eq, FieldMap.mem_keys_insert, FieldMap.keys_mapValues]
    constructor
    · exact fun h name hname => h name (Or.inr (Or.inr hname))
    · rintro h name (rfl | rfl | hname)
      · exact hown.1
      · exact hown.2
      · exact h name hname

/-! ### Entries -/

theorem checkParameters_eq_ok {parameters : List String}
    (h : ∀ name ∈ context.keys, name ∉ parameters.map Text.ofString) (function : String) :
    Logger.checkParameters function parameters context = .ok () := by
  have hnone : (context.find? fun e => (parameters.map Text.ofString).contains e.1) = none := by
    refine List.find?_eq_none.2 fun e he => ?_
    rw [List.contains_iff_mem]
    exact h e.1 (List.mem_map_of_mem he)
  rw [Logger.checkParameters, hnone]

/-- A call whose context names none of its parameters makes an entry with its attributes. -/
theorem perform_eq (h : ∀ name ∈ context.keys, name ∉ call.parameters.map Text.ofString)
    (logger : Logger) :
    call.perform logger context =
      logger.log call.level (Level.name call.level) call.shown (call.attributes context) := by
  cases call with
  | message level text =>
    have hnames : Logger.checkParameters "log_with_context" ["logger", "level", "message"] context =
        .ok () := checkParameters_eq_ok h _
    rw [perform, Logger.logWithContext, hnames]
    rfl
  | error text errorName errorText =>
    have hnames : Logger.checkParameters "log_error_with_context" ["logger", "message", "exc"]
        context = .ok () := checkParameters_eq_ok h _
    rw [perform, Logger.logErrorWithContext, hnames]
    rfl

end LogCall

namespace Logger

variable {logger : Logger} {level : Level} {levelName message : Text}
  {attributes : FieldMap Text Text}

theorem log_of_disabled (h : logger.isEnabled level = false) :
    logger.log level levelName message attributes = .ok none := by
  rw [log, h, if_neg Bool.false_ne_true]

theorem log_of_unreserved (h : logger.isEnabled level = true)
    (hnames : ∀ name ∈ attributes.keys, name ∉ reservedNames) :
    logger.log level levelName message attributes =
      .ok (some ⟨level, logger.name, message, attributes, levelName⟩) := by
  have hnone : (attributes.find? fun e => reservedNames.contains e.1) = none := by
    refine List.find?_eq_none.2 fun e he => ?_
    rw [List.contains_iff_mem]
    exact hnames e.1 (List.mem_map_of_mem he)
  rw [log, if_pos h, hnone]

/-- An attribute that entries have of their own is refused as a key. -/
theorem log_of_reserved (h : logger.isEnabled level = true)
    (hnames : ¬∀ name ∈ attributes.keys, name ∉ reservedNames) :
    ∃ f, logger.log level levelName message attributes = .error f ∧ f.kind = .keyError := by
  cases hfound : attributes.find? fun e => reservedNames.contains e.1 with
  | some e =>
    rw [log, if_pos h, hfound]
    exact ⟨_, rfl, rfl⟩
  | none =>
    refine absurd (fun name hname hreserved => ?_) hnames
    obtain ⟨e, he, rfl⟩ := List.mem_map.1 hname
    exact List.find?_eq_none.1 hfound e he (List.contains_iff_mem.2 hreserved)

end Logger

namespace LogCall

variable {call : LogCall} {logger : Logger} {context : FieldMap Text Value}

theorem logsSafely_of_disabled
    (h : ∀ name ∈ context.keys, name ∉ call.parameters.map Text.ofString)
    (hlevel : logger.isEnabled call.level = false) : call.LogsSafely logger context := by
  refine ⟨none, ?_, fun henabled => ?_, fun _ => rfl⟩
  · rw [perform_eq h, Logger.log_of_disabled hlevel]
  · rw [hlevel] at henabled
    cases henabled

theorem logsSafely_of_unreserved
    (h : ∀ name ∈ context.keys, name ∉ call.parameters.map Text.ofString)
    (hlevel : logger.isEnabled call.level = true)
    (hnames : ∀ name ∈ context.keys, name ∉ Logger.reservedNames) :
    call.LogsSafely logger context := by
  have hattributes := (reserved_attributes_iff call context).2 hnames
  refine ⟨_, (perform_eq h logger).trans (Logger.log_of_unreserved hlevel hattributes),
    fun _ => ⟨_, rfl, rfl, rfl, rfl, get?_attributes call context⟩, fun hdisabled => ?_⟩
  rw [hlevel] at hdisabled
  cases hdisabled

theorem perform_of_reserved
    (h : ∀ name ∈ context.keys, name ∉ call.parameters.map Text.ofString)
    (hlevel : logger.isEnabled call.level = true)
    (hnames : ¬∀ name ∈ context.keys, name ∉ Logger.reservedNames) :
    ∃ f, call.perform logger context = .error f ∧ f.kind = .keyError := by
  rw [perform_eq h]
  exact Logger.log_of_reserved hlevel (mt (reserved_attributes_iff call context).1 hnames)

/-- A log call whose context names none of the parameters of the call, with any values in it,
returns and makes its one entry with the texts of all of them if its level is enabled, exactly
unless the level is enabled and the context names an attribute that entries have of their own. In
that case the call raises the fault of a key. -/
theorem logsSafely_iff_unreserved (call : LogCall) (logger : Logger)
    (context : FieldMap Text Value)
    (h : ∀ name ∈ context.keys, name ∉ call.parameters.map Text.ofString) :
    (call.LogsSafely logger context ↔ (logger.isEnabled call.level = true →
      ∀ name ∈ context.keys, name ∉ Logger.reservedNames)) ∧
    (¬call.LogsSafely logger context →
      ∃ f, call.perform logger context = .error f ∧ f.kind = .keyError) := by
  cases hlevel : logger.isEnabled call.level with
  | false =>
    have hsafe := logsSafely_of_disabled h hlevel
    exact ⟨iff_of_true hsafe nofun, absurd hsafe⟩
  | true =>
    by_cases hnames : ∀ name ∈ context.keys, name ∉ Logger.reservedNames
    · have hsafe := logsSafely_of_unreserved h hlevel hnames
      exact ⟨iff_of_true hsafe fun _ => hnames, absurd hsafe⟩
    · obtain ⟨f, hf, hkind⟩ := perform_of_reserved h hlevel hnames
      refine ⟨iff_of_false ?_ fun hall => hnames (hall rfl), fun _ => ⟨f, hf, hkind⟩⟩
      rintro ⟨logged, hlogged, -⟩
      rw [hf] at hlogged
      cases hlogged

/-- A value without a text and one with a lone surrogate are logged beside the text of an error that
the context names too. -/
theorem logsSafely_unprintable :
    let call := error (Text.ofString "Read failed") (Text.ofString "ValueError") [0xD800]
    let logger : Logger := ⟨Text.ofString "binding", Level.debug⟩
    let context : FieldMap Text Value :=
      [(Text.ofString "key", .text [0xD800]), (Text.ofString "error_msg", .none),
        (Text.ofString "result", .unprintable ⟨.valueError, []⟩)]
    (∀ name ∈ context.keys, name ∉ call.parameters.map Text.ofString) ∧
      call.LogsSafely logger context := by
  intro call logger context
  have hparameters : ∀ name ∈ context.keys, name ∉ call.parameters.map Text.ofString := by decide
  have hnames : ∀ name ∈ context.keys, name ∉ Logger.reservedNames := by decide
  exact ⟨hparameters,
    (logsSafely_iff_unreserved call logger context hparameters).1.2 fun _ => hnames⟩

/-- A context that names the attribute for the name of the logger makes the call fail. -/
theorem perform_refuses_name :
    let call := message Level.info (Text.ofString "stored")
    let logger : Logger := ⟨Text.ofString "binding", Level.debug⟩
    let context : FieldMap Text Value := [(Text.ofString "name", .text (Text.ofString "user1"))]
    (∀ name ∈ context.keys, name ∉ call.parameters.map Text.ofString) ∧
      logger.isEnabled call.level = true ∧
      ∃ f, call.perform logger context = .error f ∧ f.kind = .keyError := by
  intro call logger context
  exact ⟨by decide, by decide, _, rfl, rfl⟩

end LogCall

end RavenBinding
