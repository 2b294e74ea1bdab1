import RavenBinding.Log.SafeText
import RavenBinding.Proofs.Attempt
import RavenBinding.Proofs.Number.DecimalRoundTrip

/-!
# What log texts disclose

Every value has a log text, which is little longer than the length it is cut to. Of a byte string, a
list, a tuple, a set or a map it tells the kind and the number of elements and nothing else. A
frozen set does not count as a set there: its members are shown as far as the length goes.

## Main definitions

- `Outline`: a byte string or a collection without its contents
- `Value.outline?`: the outline of a value
- `Value.glimpse`: what can be told of a value from its text as it is cut

## Main statements

- `Value.cutForLog_eq_iff`: cutting keeps the beginning and the length of a text and nothing else
- `Value.logText_of_outline`: the log text of a collection is that of its outline
- `Value.logText_frozenset_eq_iff`: the log texts of frozen sets differ as what can be told of them
- `Value.logText_hides_contents_iff`: log texts are bounded, and which of them hide contents
-/

namespace RavenBinding

/-- A byte string or a collection without its contents: the kind and the number of elements. -/
inductive Outline where
  | bytes (length : Nat)
  | bytearray (length : Nat)
  | sequence (kind : SequenceKind) (length : Nat)
  | map (length : Nat)
  deriving DecidableEq, Repr

namespace Outline

/-- The kind is that of sets that cannot be changed. -/
def isFrozenset : Outline → Bool
  | sequence .frozenset _ => true
  | _ => false

/-- The summary of a byte string or a collection. -/
def text : Outline → Text
  | bytes length | bytearray length =>
    Text.ofString "bytes(" ++ Text.ofNat length ++ Text.ofString ")"
  | sequence kind length =>
    (Value.sequence kind []).typeName ++ Text.ofString "(" ++ Text.ofNat length
      ++ Text.ofString " items)"
  | map length => Text.ofString "dict(" ++ Text.ofNat length ++ Text.ofString " keys)"

end Outline

/-- What the log shows of a value that raises a fault of the kind. -/
def FaultKind.logNote (kind : FaultKind) : Text :=
  Text.ofString "<unable to log: " ++ kind.name ++ Text.ofString ">"

namespace Value

variable {v w : Value} {outline : Outline} {maxLength : Nat} {s t : Text} {f : Fault}

/-- The kind of a byte string or a collection and the number of its elements. -/
def outline? : Value → Option Outline
  | bytes .bytes b => some (.bytes b.length)
  | bytes .bytearray b => some (.bytearray b.length)
  | sequence kind items => some (.sequence kind items.length)
  | map entries => some (.map entries.length)
  | _ => Option.none

/-- What can be told of a value from its text as it is cut: how the text begins and how long it is,
or the kind of the fault that the value raises. -/
def glimpse (maxLength : Nat) (v : Value) : Except FaultKind (Text × Nat) :=
  match v.logSummary with
  | .ok t => .ok (t.take maxLength, t.length)
  | .error f => .error f.kind

/-! ### Texts that are cut -/

/-- The note at the end of a text that is cut. -/
def cutNote (length : Nat) : Text :=
  Text.ofString "... (truncated, " ++ Text.ofNat length ++ Text.ofString " total)"

theorem length_cutNote (n : Nat) : (cutNote n).length = 23 + (Nat.toDigits 10 n).length := by
  have hstart : (Text.ofString "... (truncated, ").length = 16 := by decide +kernel
  have hend : (Text.ofString " total)").length = 7 := by decide +kernel
  rw [cutNote, List.length_append, List.length_append, hstart, hend, Text.ofNat, List.length_map]
  omega

theorem cutNote_injective : Function.Injective cutNote := by
  intro m n h
  exact Text.ofNat_injective (List.append_cancel_left (List.append_cancel_right h))

theorem cutForLog_of_le (h : t.length ≤ maxLength) : cutForLog maxLength t = t := by
  rw [cutForLog, if_neg]
  omega

theorem cutForLog_of_lt (h : maxLength < t.length) :
    cutForLog maxLength t = t.take maxLength ++ cutNote t.length := by
  rw [cutForLog, if_pos (Int.ofNat_lt.2 h), Text.upTo, if_pos (Int.natCast_nonneg maxLength),
    Int.toNat_natCast, cutNote, List.append_assoc, List.append_assoc, List.append_assoc]

theorem length_cutForLog_of_lt (h : maxLength < t.length) :
    (cutForLog maxLength t).length = maxLength + 23 + (Nat.toDigits 10 t.length).length := by
  rw [cutForLog_of_lt h, List.length_append, List.length_take_of_le (Nat.le_of_lt h),
    length_cutNote, Nat.add_assoc]

theorem take_cutForLog (maxLength : Nat) (t : Text) :
    (cutForLog maxLength t).take maxLength = t.take maxLength := by
  by_cases h : t.length ≤ maxLength
  · rw [cutForLog_of_le h]
  · have hlt : maxLength < t.length := Nat.lt_of_not_le h
    exact (congrArg (List.take maxLength) (cutForLog_of_lt hlt)).trans
      (List.take_left' (List.length_take_of_le (Nat.le_of_lt hlt)))

theorem length_cutForLog_le_iff : (cutForLog maxLength t).length ≤ maxLength ↔
    t.length ≤ maxLength := by
  by_cases h : t.length ≤ maxLength
  · rw [cutForLog_of_le h]
  · have hlength := length_cutForLog_of_lt (Nat.lt_of_not_le h)
    omega

/-- Cutting keeps how a text begins and how long it is, and nothing else. -/
theorem cutForLog_eq_iff : cutForLog maxLength s = cutForLog maxLength t ↔
    s.take maxLength = t.take maxLength ∧ s.length = t.length := by
  constructor
  · intro h
    have htake : s.take maxLength = t.take maxLength := by
      rw [← take_cutForLog, h, take_cutForLog]
    have hfits : s.length ≤ maxLength ↔ t.length ≤ maxLength := by
      rw [← length_cutForLog_le_iff, h, length_cutForLog_le_iff]
    refine ⟨htake, ?_⟩
    by_cases hs : s.length ≤ maxLength
    · rw [cutForLog_of_le hs, cutForLog_of_le (hfits.1 hs)] at h
      rw [h]
    · have ht := mt hfits.2 hs
      rw [cutForLog_of_lt (Nat.lt_of_not_le hs), cutForLog_of_lt (Nat.lt_of_not_le ht), htake] at h
      exact cutNote_injective (List.append_cancel_left h)
  · rintro ⟨htake, hlength⟩
    by_cases hs : s.length ≤ maxLength
    · have ht : t.length ≤ maxLength := hlength ▸ hs
      rw [List.take_of_length_le hs, List.take_of_length_le ht] at htake
      rw [htake]
    · have ht : ¬t.length ≤ maxLength := hlength ▸ hs
      rw [cutForLog_of_lt (Nat.lt_of_not_le hs), cutForLog_of_lt (Nat.lt_of_not_le ht), htake,
        hlength]

/-! ### Log texts -/

theorem logText_of_ok (h : v.logSummary = .ok t) (hv : v ≠ none) :
    v.logText maxLength = cutForLog maxLength t := by
  cases v with
  | none => exact absurd rfl hv
  | _ => simp only [logText, h]

theorem logText_of_error (h : v.logSummary = .error f) :
    v.logText maxLength = f.kind.logNote := by
  cases v with
  | none => cases h
  | _ => simp only [logText, h, FaultKind.logNote]

/-- A byte string or a collection other than a frozen set is summarised by its outline. -/
theorem logSummary_of_outline (h : v.outline? = some outline)
    (hkind : outline.isFrozenset = false) : v.logSummary = .ok outline.text := by
  cases v with
  | bytes kind b =>
    cases kind with
    | bytes | bytearray =>
      obtain rfl := Option.some.inj h
      rfl
    | memoryview => cases h
  | sequence kind items =>
    obtain rfl := Option.some.inj h
    cases kind with
    | list | tuple | set => rfl
    | frozenset => cases hkind
  | map entries =>
    obtain rfl := Option.some.inj h
    rfl
  | _ => cases h

theorem ne_none_of_outline (h : v.outline? = some outline) : v ≠ none := by
  rintro rfl
  cases h

/-- The log text of a byte string or of a collection other than a frozen set is that of its
outline. -/
theorem logText_of_outline (h : v.outline? = some outline) (hkind : outline.isFrozenset = false) :
    v.logText maxLength = cutForLog maxLength outline.text :=
  logText_of_ok (logSummary_of_outline h hkind) (ne_none_of_outline h)

/-! ### Frozen sets -/

theorem exists_of_isFrozenset (h : v.outline? = some outline)
    (hkind : outline.isFrozenset = true) : ∃ items, v = sequence .frozenset items := by
  cases v with
  | sequence kind items =>
    obtain rfl := Option.some.inj h
    cases kind with
    | frozenset => exact ⟨items, rfl⟩
    | _ => cases hkind
  | bytes kind b =>
    cases kind with
    | memoryview => cases h
    | _ =>
      obtain rfl := Option.some.inj h
      cases hkind
  | map entries =>
    obtain rfl := Option.some.inj h
    cases hkind
  | _ => cases h

/-- The text of a frozen set begins with the name of its kind; one without a text is nested too
deeply or holds an integer with too many digits. -/
theorem logSummary_frozenset_cases (items : List Value) :
    (∃ t, (sequence .frozenset items).logSummary = .ok t ∧
      t.head? = some (CodePoint.ofChar 'f')) ∨
    ∃ f, (sequence .frozenset items).logSummary = .error f ∧
      (f.kind = .recursionError ∨ f.kind = .valueError) := by
  have hquoted : (sequence .frozenset items).logSummary = (sequence .frozenset items).quoted? := rfl
  rw [hquoted, quoted?]
  split
  · exact Or.inr ⟨_, rfl, Or.inl rfl⟩
  · split
    · exact Or.inr ⟨_, rfl, Or.inr rfl⟩
    · refine Or.inl ⟨_, rfl, ?_⟩
      cases items <;> rfl

theorem logNote_eq_iff {a b : FaultKind} (ha : a = .recursionError ∨ a = .valueError)
    (hb : b = .recursionError ∨ b = .valueError) : a.logNote = b.logNote ↔ a = b := by
  have hne : FaultKind.recursionError.logNote ≠ FaultKind.valueError.logNote := by decide +kernel
  obtain rfl | rfl := ha <;> obtain rfl | rfl := hb
  · exact iff_of_true rfl rfl
  · exact iff_of_false hne nofun
  · exact iff_of_false hne.symm nofun
  · exact iff_of_true rfl rfl

/-- A text with another beginning is not taken for the note on a fault, however it is cut. -/
theorem cutForLog_ne_logNote (h : t.head? = some (CodePoint.ofChar 'f')) (kind : FaultKind) :
    cutForLog maxLength t ≠ kind.logNote := by
  intro heq
  have hnote : (cutForLog maxLength t).head? = some (CodePoint.ofChar '<') := by
    rw [heq]
    rfl
  by_cases hfits : t.length ≤ maxLength
  · rw [cutForLog_of_le hfits, h] at hnote
    cases hnote
  · rw [cutForLog_of_lt (Nat.lt_of_not_le hfits)] at hnote
    -- if nothing is left of the text, the note on the cut comes first
    cases maxLength with
    | zero => cases hnote
    | succ n =>
      cases t with
      | nil => cases h
      | cons c t =>
        obtain rfl := Option.some.inj h
        cases hnote

theorem glimpse_of_ok (h : v.logSummary = .ok t) :
    v.glimpse maxLength = .ok (t.take maxLength, t.length) := by
  rw [glimpse, h]

theorem glimpse_of_error (h : v.logSummary = .error f) :
    v.glimpse maxLength = .error f.kind := by
  rw [glimpse, h]

/-- The log texts of two frozen sets are the same exactly if their members cannot be told apart by
the beginning of their texts, the lengths of these and the faults of having none. -/
theorem logText_frozenset_eq_iff {xs ys : List Value} :
    (sequence .frozenset xs).logText maxLength = (sequence .frozenset ys).logText maxLength ↔
      (sequence .frozenset xs).glimpse maxLength = (sequence .frozenset ys).glimpse maxLength := by
  obtain ⟨s, hx, hs⟩ | ⟨f, hx, hf⟩ := logSummary_frozenset_cases xs
  · rw [logText_of_ok hx nofun, glimpse_of_ok hx]
    obtain ⟨t, hy, -⟩ | ⟨g, hy, -⟩ := logSummary_frozenset_cases ys
    · rw [logText_of_ok hy nofun, glimpse_of_ok hy, cutForLog_eq_iff, Except.ok.injEq,
        Prod.mk.injEq]
    · rw [logText_of_error hy, glimpse_of_error hy]
      exact iff_of_false (cutForLog_ne_logNote hs g.kind) nofun
  · rw [logText_of_error hx, glimpse_of_error hx]
    obtain ⟨t, hy, ht⟩ | ⟨g, hy, hg⟩ := logSummary_frozenset_cases ys
    · rw [logText_of_ok hy nofun, glimpse_of_ok hy]
      exact iff_of_false (cutForLog_ne_logNote ht f.kind).symm nofun
    · rw [logText_of_error hy, glimpse_of_error hy, Except.error.injEq, logNote_eq_iff hf hg]

/-! ### All values -/

theorem take_logText (h : v.logSummary = .ok t) :
    (v.logText maxLength).take maxLength = t.take maxLength := by
  by_cases hv : v = none
  · -- this text is never cut
    subst hv
    obtain rfl := Except.ok.inj h
    rfl
  · rw [logText_of_ok h hv, take_cutForLog]

theorem length_logText_le (h : v.logSummary = .ok t) :
    (v.logText maxLength).length ≤ maxLength + 23 + (Nat.toDigits 10 t.length).length := by
  by_cases hv : v = none
  · subst hv
    have hnone : (none.logText maxLength).length = 4 := rfl
    omega
  · rw [logText_of_ok h hv]
    by_cases hfits : t.length ≤ maxLength
    · rw [cutForLog_of_le hfits]
      omega
    · exact Nat.le_of_eq (length_cutForLog_of_lt (Nat.lt_of_not_le hfits))

/-- Every value has a log text. Unless the value raises a fault, which is then named, the log text
begins as the text of the value does, and exceeds the length that it is cut to by 23 and the digits
of the length of that text at most. Those of two byte strings or two collections of one kind and
with the same number of elements are the same, exactly unless these are frozen sets that can be told
apart by what is shown of their members. -/
theorem logText_hides_contents_iff (maxLength : Nat) (v : Value) :
    (∀ t, v.logSummary = .ok t →
      (v.logText maxLength).take maxLength = t.take maxLength ∧
      (v.logText maxLength).length ≤ maxLength + 23 + (Nat.toDigits 10 t.length).length) ∧
    (∀ f, v.logSummary = .error f → v.logText maxLength = f.kind.logNote) ∧
    ∀ (w : Value) outline, v.outline? = some outline → w.outline? = some outline →
      (v.logText maxLength = w.logText maxLength ↔
        (outline.isFrozenset = true → v.glimpse maxLength = w.glimpse maxLength)) := by
  refine ⟨fun t h => ⟨take_logText h, length_logText_le h⟩, fun f h => logText_of_error h, ?_⟩
  intro w outline hv hw
  cases hkind : outline.isFrozenset with
  | false =>
    refine iff_of_true ?_ nofun
    rw [logText_of_outline hv hkind, logText_of_outline hw hkind]
  | true =>
    obtain ⟨xs, rfl⟩ := exists_of_isFrozenset hv hkind
    obtain ⟨ys, rfl⟩ := exists_of_isFrozenset hw hkind
    rw [logText_frozenset_eq_iff]
    exact ⟨fun h _ => h, fun h => h rfl⟩

/-- Two frozen sets whose texts are cut before they differ look the same in the log, where two digits
and 23 other code points follow what is left. A value that raises a fault is shown by its kind. -/
theorem logText_hides_contents_cut :
    let v := sequence .frozenset [text (Text.ofString "user1")]
    let w := sequence .frozenset [text (Text.ofString "user2")]
    let broken := unprintable ⟨.keyError, []⟩
    let members := Text.ofString "frozenset(\x7b'user1'\x7d)"
    (v.logSummary = .ok members ∧ (v.logText (16 : Nat)).length ≤ 16 + 23 + 2) ∧
    (broken.logSummary = .error ⟨.keyError, []⟩ ∧
      broken.logText (16 : Nat) = FaultKind.keyError.logNote) ∧
    v.outline? = some (.sequence .frozenset 1) ∧ w.outline? = some (.sequence .frozenset 1) ∧
      v.logText (16 : Nat) = w.logText (16 : Nat) := by
  intro v w broken members
  have hsummary : v.logSummary = .ok members :=
    Attempt.toOption_eq_some_iff.1 (by decide +kernel)
  have hdigits : (Nat.toDigits 10 members.length).length = 2 := by decide +kernel
  have hv : v.glimpse 16 = .ok (Text.ofString "frozenset(\x7b'user", 20) :=
    Attempt.toOption_eq_some_iff.1 (by decide +kernel)
  have hw : w.glimpse 16 = .ok (Text.ofString "frozenset(\x7b'user", 20) :=
    Attempt.toOption_eq_some_iff.1 (by decide +kernel)
  have hsame := (logText_hides_contents_iff 16 v).2.2 w (.sequence .frozenset 1) rfl rfl
  have hlength := ((logText_hides_contents_iff 16 v).1 _ hsummary).2
  rw [hdigits] at hlength
  exact ⟨⟨hsummary, hlength⟩, ⟨rfl, (logText_hides_contents_iff 16 broken).2.1 _ rfl⟩, rfl, rfl,
    hsame.2 fun _ => hv.trans hw.symm⟩

/-- At the length that log texts are cut to, the members of two frozen sets of the same size are
shown. -/
theorem logText_shows_members :
    let v := sequence .frozenset [text (Text.ofString "user1")]
    let w := sequence .frozenset [text (Text.ofString "user2")]
    v.outline? = some (.sequence .frozenset 1) ∧ w.outline? = some (.sequence .frozenset 1) ∧
      v.logText logLength ≠ w.logText logLength := by
  intro v w
  have hdiffer : v.logText logLength ≠ w.logText logLength := by decide +kernel
  exact ⟨rfl, rfl, hdiffer⟩

end Value

end RavenBinding
