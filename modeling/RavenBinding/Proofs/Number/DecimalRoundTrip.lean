import RavenBinding.Number.Numeral

/-!
# Reading back decimal numerals

The numeral of a natural number is made of ASCII digits that spell the number. That of an integer is
read as the integer as long as it is not too long.

## Main statements

- `Text.ofDigits_ofNat`: the digits of a numeral spell its number
- `Text.length_ofNat_le_iff`: how long a numeral is
- `Numeral.readInt?_of_digits`, `Numeral.readInt?_ofNat`: reading ASCII digits
- `Numeral.readInt?_ofInt`: reading the numeral of an integer
-/

namespace RavenBinding

/-- The value of an ASCII digit. -/
def CodePoint.decimal (c : CodePoint) : Nat := c.val - 0x30

theorem CodePoint.decimal_lt {c : CodePoint} (h : c.isDigit = true) : c.decimal < 10 := by
  simp only [isDigit, Bool.and_eq_true, decide_eq_true_eq] at h
  rw [decimal]
  omega

namespace Text

theorem isDigit_of_mem_ofNat {n : Nat} {c : CodePoint} (h : c ∈ ofNat n) : c.isDigit = true := by
  obtain ⟨d, hd, rfl⟩ := List.mem_map.1 h
  have hdigit := Nat.isDigit_of_mem_toDigits (by decide) (by decide) hd
  simp only [Char.isDigit, ge_iff_le, Bool.and_eq_true, decide_eq_true_eq, UInt32.le_iff_toNat_le]
    at hdigit
  rw [CodePoint.isDigit, Bool.and_eq_true]
  exact ⟨decide_eq_true hdigit.1, decide_eq_true hdigit.2⟩

theorem ofNat_ne_nil (n : Nat) : ofNat n ≠ [] := by
  simp [ofNat]

/-- The digits of a numeral spell its number. -/
theorem ofDigits_ofNat (n : Nat) : Numeral.ofDigits ((ofNat n).map CodePoint.decimal) = n := by
  have h := Nat.ofDigitChars_ten_toDigits (n := n)
  rw [Nat.ofDigitChars_eq_foldl] at h
  rw [Numeral.ofDigits, ofNat, List.map_map, List.foldl_map]
  exact h

theorem ofNat_injective : Function.Injective ofNat := by
  intro m n h
  rw [← ofDigits_ofNat m, ← ofDigits_ofNat n, h]

theorem length_ofNat_le_iff {n k : Nat} (h : 0 < k) :
    (ofNat n).length ≤ k ↔ n < Nat.pow 10 k := by
  rw [ofNat, List.length_map]
  exact Nat.length_toDigits_le_iff (by decide) h

theorem trimLeft_of_forall {p : CodePoint → Bool} {t : Text} (h : ∀ c ∈ t, p c = false) :
    trimLeft p t = t := by
  cases t with
  | nil => rfl
  | cons c t =>
    rw [trimLeft, List.dropWhile_cons, h c List.mem_cons_self, if_neg Bool.false_ne_true]

theorem trim_of_forall {p : CodePoint → Bool} {t : Text} (h : ∀ c ∈ t, p c = false) :
    trim p t = t := by
  have hr : ∀ c ∈ t.reverse, p c = false := fun c hc => h c (List.mem_reverse.1 hc)
  have hl : t.reverse.dropWhile p = t.reverse := trimLeft_of_forall hr
  rw [trim, trimLeft_of_forall h, trimRight, hl, List.reverse_reverse]

end Text

namespace Numeral

theorem ofDigits_append_singleton (ds : List Nat) (d : Nat) :
    ofDigits (ds ++ [d]) = 10 * ofDigits ds + d := by
  simp [ofDigits]

/-- Digits below ten spell a number below the power of ten with as many zeros. -/
theorem ofDigits_lt {ds : List Nat} (h : ∀ d ∈ ds, d < 10) :
    ofDigits ds < Nat.pow 10 ds.length := by
  -- on the digits from the last one on
  suffices hr : ∀ ds : List Nat, (∀ d ∈ ds, d < 10) →
      ofDigits ds.reverse < Nat.pow 10 ds.length by
    have := hr ds.reverse fun d hd => h d (List.mem_reverse.1 hd)
    simpa using this
  intro ds
  induction ds with
  | nil => intro _; decide
  | cons d ds ih =>
    intro h
    have hd := h d List.mem_cons_self
    have hds := ih fun e he => h e (List.mem_cons_of_mem _ he)
    have hpow : Nat.pow 10 (d :: ds).length = Nat.pow 10 ds.length * 10 := rfl
    rw [List.reverse_cons, ofDigits_append_singleton, hpow]
    omega

theorem isBlank_of_graphic {c : CodePoint} (h : 0x20 < c.val) (h' : c.val < 0x7F) :
    c.isBlank = false := by
  -- the first ranges of white space end below the graphic characters, the next begins above
  have hspace : c.isSpace = false := by
    rw [CodePoint.isSpace, inRanges, spaceRanges, rangeOf?, if_neg (by omega), if_neg (by omega),
      rangeOf?, if_neg (by omega), if_neg (by omega), rangeOf?, if_pos (by omega)]
    rfl
  rw [CodePoint.isBlank, hspace]
  simp
  omega

theorem isBlank_of_isDigit {c : CodePoint} (h : c.isDigit = true) : c.isBlank = false := by
  simp only [CodePoint.isDigit, Bool.and_eq_true, decide_eq_true_eq] at h
  exact isBlank_of_graphic (by omega) (by omega)

theorem digitValue?_of_isDigit {c : CodePoint} (h : c.isDigit = true) :
    c.digitValue? = some c.decimal := by
  simp only [CodePoint.isDigit, Bool.and_eq_true, decide_eq_true_eq] at h
  rw [CodePoint.digitValue?, digitRanges, rangeOf?, if_neg (by omega), if_pos (by omega),
    Option.map_some, CodePoint.decimal, Nat.mod_eq_of_lt (by omega)]

theorem digitsLoop_of_digits {t : Text} (h : ∀ c ∈ t, c.isDigit = true) (found : List Nat) :
    digitsLoop CodePoint.digitValue? true found t =
      some (found.reverse ++ t.map CodePoint.decimal) := by
  induction t generalizing found with
  | nil => simp [digitsLoop]
  | cons c t ih =>
    rw [digitsLoop, digitValue?_of_isDigit (h c List.mem_cons_self)]
    simp only
    rw [ih fun d hd => h d (List.mem_cons_of_mem _ hd)]
    simp

theorem digits?_of_digits {t : Text} (hne : t ≠ []) (h : ∀ c ∈ t, c.isDigit = true) :
    digits? CodePoint.digitValue? t = some (t.map CodePoint.decimal) := by
  cases t with
  | nil => exact absurd rfl hne
  | cons c t =>
    rw [digits?, digitsLoop, digitValue?_of_isDigit (h c List.mem_cons_self)]
    exact digitsLoop_of_digits (fun d hd => h d (List.mem_cons_of_mem _ hd)) _

theorem sign_of_digits {t : Text} (h : ∀ c ∈ t, c.isDigit = true) : sign t = (false, t) := by
  cases t with
  | nil => rfl
  | cons c t =>
    have hc := h c List.mem_cons_self
    have hm : (c == CodePoint.ofChar '-') = false := by
      refine beq_eq_false_iff_ne.2 ?_
      rintro rfl
      revert hc
      decide
    have hp : (c == CodePoint.ofChar '+') = false := by
      refine beq_eq_false_iff_ne.2 ?_
      rintro rfl
      revert hc
      decide
    simp [sign, hm, hp]

/-- ASCII digits that are not too many are read as the number that they spell. -/
theorem readInt?_of_digits {t : Text} (hne : t ≠ []) (h : ∀ c ∈ t, c.isDigit = true)
    (hlen : t.length ≤ maxDigits) :
    readInt? t = some (ofDigits (t.map CodePoint.decimal) : Int) := by
  have hblank : ∀ c ∈ t, c.isBlank = false := fun c hc => isBlank_of_isDigit (h c hc)
  simp only [readInt?, Text.trim_of_forall hblank, sign_of_digits h, digits?_of_digits hne h,
    List.length_map]
  rw [if_neg (by omega)]
  rfl

theorem readInt?_ofNat {n : Nat} (h : n < Nat.pow 10 maxDigits) :
    readInt? (Text.ofNat n) = some (n : Int) := by
  rw [readInt?_of_digits (Text.ofNat_ne_nil n) (fun c hc => Text.isDigit_of_mem_ofNat hc)
    ((Text.length_ofNat_le_iff (by decide)).2 h), Text.ofDigits_ofNat]

/-- An integer that is not too long is read from its numeral. -/
theorem readInt?_ofInt {i : Int} (h : i.natAbs < Nat.pow 10 maxDigits) :
    readInt? (Text.ofInt i) = some i := by
  cases i with
  | ofNat n => exact readInt?_ofNat h
  | negSucc n =>
    have hdigits : ∀ c ∈ Text.ofNat (n + 1), c.isDigit = true :=
      fun c hc => Text.isDigit_of_mem_ofNat hc
    have hblank : ∀ c ∈ Text.ofInt (.negSucc n), c.isBlank = false := by
      intro c hc
      rcases List.mem_cons.1 hc with rfl | hc
      · exact isBlank_of_graphic (by decide) (by decide)
      · exact isBlank_of_isDigit (hdigits c hc)
    have hsign : sign (Text.ofInt (.negSucc n)) = (true, Text.ofNat (n + 1)) := rfl
    have hlen : (Text.ofNat (n + 1)).length ≤ maxDigits := (Text.length_ofNat_le_iff (by decide)).2 h
    simp only [readInt?, Text.trim_of_forall hblank, hsign,
      digits?_of_digits (Text.ofNat_ne_nil (n + 1)) hdigits, List.length_map]
    rw [if_neg (Nat.not_lt.2 hlen), Text.ofDigits_ofNat]
    rfl

end Numeral

end RavenBinding
