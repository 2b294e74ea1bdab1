import RavenBinding.Json.Body
import RavenBinding.Proofs.FieldMap
import RavenBinding.Proofs.Number.DecimalRoundTrip

/-!
# Bounds of what is read

Whatever a reader of JSON makes of a text, its integers are not too long, and it is nested no more
deeply than the reader allows. Such a value can be written again.

## Main definitions

- `Json.Bounded`: these bounds

## Main statements

- `Json.bounded_readValue`, `Json.bounded_parse`: what is read keeps the bounds
- `Json.Bounded.toJson?_ofJson`: a bounded value is its own JSON form
- `Json.Bounded.exists_display`: a bounded value can be shown
-/

namespace RavenBinding

namespace Json

/-- The bounds of a value that was read. -/
inductive Bounded : Nat → Json → Prop where
  | null (depth : Nat) : Bounded depth .null
  | bool (depth : Nat) (b : Bool) : Bounded depth (.bool b)
  | int (depth : Nat) {i : Int} (few : tooManyDigits i = false) : Bounded depth (.int i)
  | float (depth : Nat) (x : Binary64) : Bounded depth (.float x)
  | text (depth : Nat) (t : Text) : Bounded depth (.text t)
  | array {depth : Nat} {items : List Json} (inside : ∀ x ∈ items, Bounded depth x) :
    Bounded (depth + 1) (.array items)
  | object {depth : Nat} {members : List (Text × Json)}
    (inside : ∀ e ∈ members, Bounded depth e.2) : Bounded (depth + 1) (.object members)

/-- The members of a bounded object are bounded. -/
theorem Bounded.members {depth : Nat} {members : List (Text × Json)}
    (h : Bounded depth (.object members)) :
    ∃ inner, inner ≤ depth ∧ ∀ m ∈ members, Bounded inner m.2 := by
  cases h with
  | object inside => exact ⟨_, Nat.le_succ _, inside⟩

/-! ### Leaves -/

theorem bounded_of_mem_words {w : Text × Json} (h : w ∈ words) (depth : Nat) :
    Bounded depth w.2 := by
  simp only [words, List.mem_cons, List.not_mem_nil, or_false] at h
  rcases h with rfl | rfl | rfl | rfl | rfl | rfl
  · exact .null depth
  · exact .bool depth true
  · exact .bool depth false
  · exact .float depth _
  · exact .float depth _
  · exact .float depth _

theorem decimal_of_readWhole? {t rest : Text} {whole : List Nat}
    (h : readWhole? t = some (whole, rest)) : ∀ d ∈ whole, d < 10 := by
  cases t with
  | nil => cases h
  | cons c t =>
    rw [readWhole?] at h
    split at h
    · obtain ⟨rfl, -⟩ := Prod.mk.inj (Option.some.inj h)
      simp
    · split at h
      · obtain ⟨rfl, -⟩ := Prod.mk.inj (Option.some.inj h)
        intro d hd
        obtain ⟨e, he, rfl⟩ := List.mem_map.1 hd
        exact CodePoint.decimal_lt (List.all_eq_true.1 (List.all_takeWhile) e he)
      · cases h

/-- An integer of few digits is not too long. -/
theorem tooManyDigits_of_few {whole : List Nat} (h : ∀ d ∈ whole, d < 10)
    (hfew : ¬Numeral.maxDigits < whole.length) (negative : Bool) :
    tooManyDigits (if negative then -(Numeral.ofDigits whole : Int) else Numeral.ofDigits whole) =
      false := by
  have hpow : ∀ k, whole.length ≤ k → Nat.pow 10 whole.length ≤ Nat.pow 10 k :=
    fun _ hk => Nat.pow_le_pow_right (by decide) hk
  have hlt := Nat.lt_of_lt_of_le (Numeral.ofDigits_lt h) (hpow _ (Nat.not_lt.1 hfew))
  have habs : (if negative then -(Numeral.ofDigits whole : Int)
      else Numeral.ofDigits whole).natAbs = Numeral.ofDigits whole := by
    cases negative with
    | true => simp
    | false => simp
  rw [tooManyDigits, habs, decide_eq_false_iff_not]
  omega

theorem bounded_readNumber? {t rest : Text} {j : Json} (h : readNumber? t = some (.ok (j, rest)))
    (depth : Nat) : Bounded depth j := by
  rw [readNumber?.eq_def] at h
  obtain ⟨⟨whole, after⟩, hwhole, h⟩ := Option.bind_eq_some_iff.1 h
  dsimp only at h
  split at h
  · split at h
    · cases Option.some.inj h
    · next hfew =>
      obtain ⟨rfl, -⟩ := Prod.mk.inj (Except.ok.inj (Option.some.inj h))
      exact .int depth (tooManyDigits_of_few (decimal_of_readWhole? hwhole) hfew _)
  · obtain ⟨rfl, -⟩ := Prod.mk.inj (Except.ok.inj (Option.some.inj h))
    exact .float depth _

theorem bounded_readPlain {t rest : Text} {j : Json} (h : readPlain t = .ok (j, rest))
    (depth : Nat) : Bounded depth j := by
  rw [readPlain] at h
  cases hword : readWord? t with
  | some found =>
    rw [hword] at h
    obtain rfl := Except.ok.inj h
    rw [readWord?] at hword
    obtain ⟨w, hw, he⟩ := Option.map_eq_some_iff.1 hword
    obtain ⟨rfl, -⟩ := Prod.mk.inj he
    exact bounded_of_mem_words (List.mem_of_find?_eq_some hw) depth
  | none =>
    rw [hword] at h
    cases hnumber : readNumber? t with
    | none =>
      rw [hnumber] at h
      cases h
    | some read =>
      rw [hnumber] at h
      change read = .ok (j, rest) at h
      exact bounded_readNumber? (hnumber.trans (congrArg some h)) depth

/-! ### Collections -/

/-- The bounds that the three readers keep with a number of steps. -/
def ReadsBounded (fuel : Nat) : Prop :=
  (∀ {depth t j rest}, readValue fuel depth t = .ok (j, rest) → Bounded depth j) ∧
  (∀ {depth found t j rest}, readItems fuel depth found t = .ok (j, rest) →
    (∀ x ∈ found, Bounded depth x) → Bounded (depth + 1) j) ∧
  (∀ {depth found t j rest}, readMembers fuel depth found t = .ok (j, rest) →
    (∀ e ∈ found, Bounded depth e.2) → Bounded (depth + 1) j)

theorem bounded_value_succ {fuel : Nat} (ih : ReadsBounded fuel) {depth : Nat} {t rest : Text}
    {j : Json} (h : readValue (fuel + 1) depth t = .ok (j, rest)) : Bounded depth j := by
  obtain ⟨-, hitems, hmembers⟩ := ih
  cases t with
  | nil => cases h
  | cons c t =>
    rw [readValue.eq_def] at h
    dsimp only at h
    -- a string, an object, an array, or a word or number, by the first character
    split at h
    · split at h
      · obtain ⟨rfl, -⟩ := Prod.mk.inj (Except.ok.inj h)
        exact .text depth _
      · cases h
    · split at h
      · split at h
        · cases h
        · split at h
          · obtain ⟨rfl, -⟩ := Prod.mk.inj (Except.ok.inj h)
            exact .object (by simp)
          · exact hmembers h (by simp)
        · exact hmembers h (by simp)
      · split at h
        · split at h
          · cases h
          · split at h
            · obtain ⟨rfl, -⟩ := Prod.mk.inj (Except.ok.inj h)
              exact .array (by simp)
            · exact hitems h (by simp)
          · exact hitems h (by simp)
        · exact bounded_readPlain h depth

theorem bounded_items_succ {fuel : Nat} (ih : ReadsBounded fuel) {depth : Nat} {found : List Json}
    {t rest : Text} {j : Json} (h : readItems (fuel + 1) depth found t = .ok (j, rest))
    (hfound : ∀ x ∈ found, Bounded depth x) : Bounded (depth + 1) j := by
  obtain ⟨hvalue, hitems, -⟩ := ih
  rw [readItems] at h
  split at h
  · cases h
  · next item after hitem =>
    -- what was found stays bounded with the item that was just read
    have hmore : ∀ x ∈ item :: found, Bounded depth x := by
      intro x hx
      rcases List.mem_cons.1 hx with rfl | hx
      · exact hvalue hitem
      · exact hfound x hx
    split at h
    · cases h
    · split at h
      · obtain ⟨rfl, -⟩ := Prod.mk.inj (Except.ok.inj h)
        exact .array fun x hx => hmore x (List.mem_reverse.1 hx)
      · split at h
        · exact hitems h hmore
        · cases h

theorem bounded_members_succ {fuel : Nat} (ih : ReadsBounded fuel) {depth : Nat}
    {found : FieldMap Text Json} {t rest : Text} {j : Json}
    (h : readMembers (fuel + 1) depth found t = .ok (j, rest))
    (hfound : ∀ e ∈ found, Bounded depth e.2) : Bounded (depth + 1) j := by
  obtain ⟨hvalue, -, hmembers⟩ := ih
  cases t with
  | nil => cases h
  | cons q t =>
    rw [readMembers] at h
    split at h
    · cases h
    · split at h
      · cases h
      · next name afterName _ =>
        split at h
        · cases h
        · split at h
          · cases h
          · split at h
            · cases h
            · next value afterValue hread =>
              -- a repeated name takes the place of the member that was found before
              have hmore : ∀ e ∈ found.insert name value, Bounded depth e.2 := by
                intro e he
                rcases FieldMap.mem_insert he with he | rfl
                · exact hfound e he
                · exact hvalue hread
              split at h
              · cases h
              · split at h
                · obtain ⟨rfl, -⟩ := Prod.mk.inj (Except.ok.inj h)
                  exact .object hmore
                · split at h
                  · exact hmembers h hmore
                  · cases h

theorem readsBounded (fuel : Nat) : ReadsBounded fuel := by
  induction fuel with
  | zero =>
    refine ⟨fun h => ?_, fun h _ => ?_, fun h _ => ?_⟩
    · rw [readValue] at h
      cases h
    · rw [readItems] at h
      cases h
    · rw [readMembers] at h
      cases h
  | succ fuel ih =>
    -- each reader takes a step and leaves the rest to all three
    exact ⟨bounded_value_succ ih, bounded_items_succ ih, bounded_members_succ ih⟩

/-- What is read is nested no more deeply than the reader allows, and has no integer that is too
long. -/
theorem bounded_readValue {fuel depth : Nat} {t rest : Text} {j : Json}
    (h : readValue fuel depth t = .ok (j, rest)) : Bounded depth j :=
  (readsBounded fuel).1 h

theorem bounded_parse {t : Text} {j : Json} (h : parse t = .ok j) : Bounded Value.maxDepth j := by
  rw [parse, readDocument] at h
  split at h
  · next value hread =>
    split at hread
    · cases hread
    · next hvalue =>
      split at hread
      · obtain rfl := Except.ok.inj hread
        obtain rfl := Except.ok.inj h
        exact bounded_readValue hvalue
      · cases hread
  · cases h

theorem bounded_parseBody {bytes : Bytes} {j : Json} (h : parseBody bytes = .ok j) :
    Bounded Value.maxDepth j := by
  rw [parseBody] at h
  split at h
  · cases h
  · split at h
    · cases h
    · next hparse =>
      obtain rfl := Except.ok.inj h
      exact bounded_parse hparse

/-! ### Writing what was read -/

mutual

theorem Bounded.toJson_ofJson {depth : Nat} {j : Json} (h : Bounded depth j) :
    Value.toJson true (Value.ofJson j) = .ok j := by
  cases h with
  | null | bool | text => rfl
  | int _ few => simp [Value.ofJson, Value.toJson, Value.intToJson, few]
  | float => simp [Value.ofJson, Value.toJson, Value.floatToJson]
  | array inside =>
    rw [Value.ofJson, Value.toJson, itemsToJson_ofItems inside]
    rfl
  | object inside =>
    rw [Value.ofJson, Value.toJson, entriesToJson_ofMembers inside]
    rfl

theorem itemsToJson_ofItems {depth : Nat} {items : List Json}
    (h : ∀ x ∈ items, Bounded depth x) :
    Value.itemsToJson true (Value.ofItems items) = .ok items := by
  cases items with
  | nil => rfl
  | cons x xs =>
    rw [Value.ofItems, Value.itemsToJson, (h x List.mem_cons_self).toJson_ofJson,
      itemsToJson_ofItems fun y hy => h y (List.mem_cons_of_mem x hy)]
    rfl

theorem entriesToJson_ofMembers {depth : Nat} {members : List (Text × Json)}
    (h : ∀ e ∈ members, Bounded depth e.2) :
    Value.entriesToJson true (Value.ofMembers members) = .ok members := by
  cases members with
  | nil => rfl
  | cons e rest =>
    rw [Value.ofMembers, Value.entriesToJson, Value.keyToJson,
      (h e List.mem_cons_self).toJson_ofJson,
      entriesToJson_ofMembers fun y hy => h y (List.mem_cons_of_mem e hy)]
    rfl

end

theorem exists_of_mem_ofItems {v : Value} {items : List Json} (h : v ∈ Value.ofItems items) :
    ∃ x ∈ items, v = Value.ofJson x := by
  induction items with
  | nil => cases h
  | cons x xs ih =>
    rcases List.mem_cons.1 h with rfl | h
    · exact ⟨x, List.mem_cons_self, rfl⟩
    · obtain ⟨y, hy, rfl⟩ := ih h
      exact ⟨y, List.mem_cons_of_mem x hy, rfl⟩

theorem exists_of_mem_ofMembers {e : Value × Value} {members : List (Text × Json)}
    (h : e ∈ Value.ofMembers members) :
    ∃ m ∈ members, e = (Value.text m.1, Value.ofJson m.2) := by
  induction members with
  | nil => cases h
  | cons m rest ih =>
    rcases List.mem_cons.1 h with rfl | h
    · exact ⟨m, List.mem_cons_self, rfl⟩
    · obtain ⟨n, hn, rfl⟩ := ih h
      exact ⟨n, List.mem_cons_of_mem m hn, rfl⟩

theorem deeperThan_text (bound : Nat) (t : Text) : (Value.text t).deeperThan bound = false := by
  cases bound with
  | zero => rfl
  | succ bound => rfl

theorem Bounded.deeperThan_ofJson {depth bound : Nat} {j : Json} (h : Bounded depth j)
    (hle : depth ≤ bound) : (Value.ofJson j).deeperThan bound = false := by
  -- both bounds go down by one at every collection
  induction bound generalizing depth j with
  | zero =>
    obtain rfl := Nat.le_zero.1 hle
    cases h with
    | null | bool | int | float | text => rfl
  | succ bound ih =>
    cases h with
    | null | bool | int | float | text => rfl
    | array inside =>
      rw [Value.ofJson, Value.deeperThan, List.any_eq_false]
      intro v hv
      obtain ⟨x, hx, rfl⟩ := exists_of_mem_ofItems hv
      simp [ih (inside x hx) (Nat.le_of_succ_le_succ hle)]
    | object inside =>
      rw [Value.ofJson, Value.deeperThan, List.any_eq_false]
      intro e he
      obtain ⟨m, hm, rfl⟩ := exists_of_mem_ofMembers he
      simp [deeperThan_text, ih (inside m hm) (Nat.le_of_succ_le_succ hle)]

mutual

theorem Bounded.holdsTooManyDigits_ofJson {depth : Nat} {j : Json} (h : Bounded depth j) :
    (Value.ofJson j).holdsTooManyDigits = false := by
  cases h with
  | null | bool | float | text => rfl
  | int _ few => exact few
  | array inside => exact itemsHoldTooManyDigits_ofItems inside
  | object inside => exact entriesHoldTooManyDigits_ofMembers inside

theorem itemsHoldTooManyDigits_ofItems {depth : Nat} {items : List Json}
    (h : ∀ x ∈ items, Bounded depth x) :
    Value.itemsHoldTooManyDigits (Value.ofItems items) = false := by
  cases items with
  | nil => rfl
  | cons x xs =>
    rw [Value.ofItems, Value.itemsHoldTooManyDigits,
      (h x List.mem_cons_self).holdsTooManyDigits_ofJson,
      itemsHoldTooManyDigits_ofItems fun y hy => h y (List.mem_cons_of_mem x hy)]
    rfl

theorem entriesHoldTooManyDigits_ofMembers {depth : Nat} {members : List (Text × Json)}
    (h : ∀ e ∈ members, Bounded depth e.2) :
    Value.entriesHoldTooManyDigits (Value.ofMembers members) = false := by
  cases members with
  | nil => rfl
  | cons e rest =>
    rw [Value.ofMembers, Value.entriesHoldTooManyDigits,
      (h e List.mem_cons_self).holdsTooManyDigits_ofJson,
      entriesHoldTooManyDigits_ofMembers fun y hy => h y (List.mem_cons_of_mem e hy)]
    rfl

end

/-- A bounded value can be shown. -/
theorem Bounded.exists_display {depth : Nat} {j : Json} (h : Bounded depth j)
    (hdepth : depth ≤ Value.maxDepth) : ∃ t, (Value.ofJson j).display = .ok t := by
  have hquoted : (Value.ofJson j).quoted? = .ok (Value.ofJson j).quoted := by
    rw [Value.quoted?, Value.isDeep, h.deeperThan_ofJson hdepth, if_neg Bool.false_ne_true,
      h.holdsTooManyDigits_ofJson, if_neg Bool.false_ne_true]
  cases h with
  | text => exact ⟨_, rfl⟩
  | null | bool | int | float | array | object => exact ⟨_, hquoted⟩

/-- A bounded value is its own JSON form. -/
theorem Bounded.toJson?_ofJson {depth : Nat} {j : Json} (h : Bounded depth j)
    (hdepth : depth ≤ Value.maxDepth) : Value.toJson? true (Value.ofJson j) = .ok j := by
  rw [Value.toJson?, Value.isDeep, h.deeperThan_ofJson hdepth, if_neg Bool.false_ne_true]
  exact h.toJson_ofJson

end Json

end RavenBinding
