import RavenBinding.Json.Parse
import RavenBinding.Json.Render

/-!
# Reading back JSON strings

A text that was written between double quotes is read back as it was. In ASCII the one exception is
a high surrogate with a low one after it, because their escapes are those of one code point; such a
text is written as one without pairs is.

## Main definitions

- `Text.Unpaired`: no high surrogate has a low one after it

## Main statements

- `Json.hexUnit?_hex`: the digits of a unit spell it
- `Json.readString_quote`: reading what was written
- `Json.exists_unpaired`: texts without pairs are enough
-/

namespace RavenBinding

/-- No high surrogate has a low one right after it. -/
def Text.Unpaired : Text → Prop
  | [] => True
  | [_] => True
  | c :: d :: rest => ¬(c.isHighSurrogate = true ∧ d.isLowSurrogate = true) ∧ Unpaired (d :: rest)

theorem Text.unpaired_cons_iff {c : CodePoint} {t : Text} :
    Text.Unpaired (c :: t) ↔
      (∀ d ∈ t.head?, ¬(c.isHighSurrogate = true ∧ d.isLowSurrogate = true)) ∧ t.Unpaired := by
  cases t with
  | nil => simp [Text.Unpaired]
  | cons d t => simp [Text.Unpaired]

namespace Json

/-! ### Escapes by number -/

theorem hexValue?_hexDigit {n : Nat} (h : n < 16) : (CodePoint.hexDigit n).hexValue? = some n := by
  have hall : ∀ n : Fin 16, (CodePoint.hexDigit n.val).hexValue? = some n.val := by decide
  exact hall ⟨n, h⟩

/-- The four digits of a unit. -/
theorem hex_four (n : Nat) :
    Text.hex 4 n = [CodePoint.hexDigit (n / 0x1000 % 16), CodePoint.hexDigit (n / 0x100 % 16),
      CodePoint.hexDigit (n / 0x10 % 16), CodePoint.hexDigit (n % 16)] := by
  change [CodePoint.hexDigit (n / 0x1000 % 16), CodePoint.hexDigit (n / 0x100 % 16),
    CodePoint.hexDigit (n / 0x10 % 16), CodePoint.hexDigit (n / 1 % 16)] = _
  rw [Nat.div_one]

theorem exists_hexDigit {digits n : Nat} {c : CodePoint} (h : c ∈ Text.hex digits n) :
    ∃ m : Fin 16, c = CodePoint.hexDigit m := by
  obtain ⟨i, -, rfl⟩ := List.mem_map.1 h
  exact ⟨⟨_, Nat.mod_lt _ (by decide)⟩, rfl⟩

/-- The digits of a unit spell it. -/
theorem hexUnit?_hex {n : Nat} (h : n < 0x10000) :
    hexUnit? (CodePoint.hexDigit (n / 0x1000 % 16)) (CodePoint.hexDigit (n / 0x100 % 16))
      (CodePoint.hexDigit (n / 0x10 % 16)) (CodePoint.hexDigit (n % 16)) =
        some (CodePoint.ofNat n) := by
  have hsum : n / 0x1000 % 16 * 0x1000 + n / 0x100 % 16 * 0x100 + n / 0x10 % 16 * 0x10 + n % 16
      = n := by omega
  rw [hexUnit?, hexValue?_hexDigit (by omega), hexValue?_hexDigit (by omega),
    hexValue?_hexDigit (by omega), hexValue?_hexDigit (by omega)]
  exact congrArg (fun m => some (CodePoint.ofNat m)) hsum

/-- An escape by number in its six code points. -/
theorem unitEscape_eq (n : Nat) :
    unitEscape n = CodePoint.ofChar '\\' :: CodePoint.ofChar 'u' ::
      [CodePoint.hexDigit (n / 0x1000 % 16), CodePoint.hexDigit (n / 0x100 % 16),
        CodePoint.hexDigit (n / 0x10 % 16), CodePoint.hexDigit (n % 16)] := by
  rw [unitEscape, hex_four]
  rfl

/-! ### One code point -/

variable (start found : Text)

theorem readStringLoop_end (rest : Text) :
    readStringLoop start found (CodePoint.ofChar '"' :: rest) = .ok (found.reverse, rest) := by
  rw [readStringLoop.eq_def]
  exact if_pos rfl

theorem readStringLoop_raw {c : CodePoint} (h : 0x20 ≤ c.val) (hquote : c.val ≠ 0x22)
    (hslash : c.val ≠ 0x5C) (rest : Text) :
    readStringLoop start found (c :: rest) = readStringLoop start (c :: found) rest := by
  have hcontrol : ¬c.val ≤ 0x1F := by omega
  rw [readStringLoop.eq_def]
  exact (if_neg hquote).trans ((if_neg hcontrol).trans (if_pos hslash))

/-- What a backslash does: it looks at the letter after it. -/
theorem readStringLoop_letter {d u : CodePoint} (hd : d.val ≠ 0x75) (hu : unescape? d = some u)
    (rest : Text) :
    readStringLoop start found (CodePoint.ofChar '\\' :: d :: rest) =
      readStringLoop start (u :: found) rest := by
  have hslash : ¬(CodePoint.ofChar '\\').val ≠ 0x5C := fun h => h rfl
  rw [readStringLoop.eq_def]
  simp only
  rw [if_neg (by decide), if_neg (by decide), if_neg hslash, if_pos hd, hu]

/-- A short escape is a backslash and a letter other than the one of escapes by number. It stands
for a code point of ASCII. -/
theorem exists_letter {c : CodePoint} {e : Text} (h : shortEscape? c = some e) :
    c.val < 0x80 ∧ ∃ d : CodePoint, e = [CodePoint.ofChar '\\', d] ∧
      (0x20 ≤ d.val ∧ d.val < 0x7F ∧ d.val ≠ 0x75) ∧ unescape? d = some c := by
  simp only [shortEscape?] at h
  split at h
  · next hc => exact ⟨by omega, CodePoint.ofChar '"', (Option.some.inj h).symm, by decide,
      congrArg some (Fin.ext hc.symm)⟩
  · next hc => exact ⟨by omega, CodePoint.ofChar '\\', (Option.some.inj h).symm, by decide,
      congrArg some (Fin.ext hc.symm)⟩
  · next hc => exact ⟨by omega, CodePoint.ofChar 'b', (Option.some.inj h).symm, by decide,
      congrArg some (Fin.ext hc.symm)⟩
  · next hc => exact ⟨by omega, CodePoint.ofChar 't', (Option.some.inj h).symm, by decide,
      congrArg some (Fin.ext hc.symm)⟩
  · next hc => exact ⟨by omega, CodePoint.ofChar 'n', (Option.some.inj h).symm, by decide,
      congrArg some (Fin.ext hc.symm)⟩
  · next hc => exact ⟨by omega, CodePoint.ofChar 'f', (Option.some.inj h).symm, by decide,
      congrArg some (Fin.ext hc.symm)⟩
  · next hc => exact ⟨by omega, CodePoint.ofChar 'r', (Option.some.inj h).symm, by decide,
      congrArg some (Fin.ext hc.symm)⟩
  · cases h

theorem readStringLoop_short {c : CodePoint} {e : Text} (h : shortEscape? c = some e)
    (rest : Text) :
    readStringLoop start found (e ++ rest) = readStringLoop start (c :: found) rest := by
  obtain ⟨-, d, rfl, ⟨-, -, hd⟩, hu⟩ := exists_letter h
  exact readStringLoop_letter start found hd hu rest

/-- No escape of a low surrogate comes first. -/
def NoLowFirst (rest : Text) : Prop :=
  secondUnit? rest = none ∨ ∃ v, secondUnit? rest = some (.ok v) ∧ v.isLowSurrogate = false

/-- An escape by number stands for its code point, unless it is the first half of a pair. -/
theorem readStringLoop_unit {n : Nat} (h : n < 0x10000) {rest : Text} (hne : rest ≠ [])
    (hsecond : (CodePoint.ofNat n).isHighSurrogate = true → NoLowFirst rest) :
    readStringLoop start found (unitEscape n ++ rest) =
      readStringLoop start (CodePoint.ofNat n :: found) rest := by
  have hslash : ¬(CodePoint.ofChar '\\').val ≠ 0x5C := fun h => h rfl
  have hletter : ¬(CodePoint.ofChar 'u').val ≠ 0x75 := fun h => h rfl
  have hempty : ¬rest.isEmpty = true := by simpa using hne
  rw [unitEscape_eq]
  simp only [List.cons_append, List.nil_append]
  rw [readStringLoop.eq_def]
  simp only
  rw [if_neg (by decide), if_neg (by decide), if_neg hslash, if_neg hletter, if_neg hempty,
    hexUnit?_hex h]
  cases hhigh : (CodePoint.ofNat n).isHighSurrogate with
  | false => simp [hhigh]
  | true =>
    -- the reader looks ahead for a low half and finds none
    rcases hsecond hhigh with hs | ⟨v, hs, hlow⟩
    · simp [hhigh, hs]
    · simp [hhigh, hs, hlow]

/-- The unit of an escape by number, as long as something follows it. -/
theorem secondUnit?_unitEscape {n : Nat} (h : n < 0x10000) {rest : Text} (hne : rest ≠ []) :
    secondUnit? (unitEscape n ++ rest) = some (.ok (CodePoint.ofNat n)) := by
  cases rest with
  | nil => exact absurd rfl hne
  | cons c rest =>
    have hmark : ((CodePoint.ofChar '\\').val = 0x5C && (CodePoint.ofChar 'u').val = 0x75 : Bool)
        = true := rfl
    rw [unitEscape_eq]
    simp only [List.cons_append, List.nil_append, secondUnit?]
    rw [if_pos hmark, hexUnit?_hex h]

theorem val_highHalf_lt (c : CodePoint) (h : 0x10000 ≤ c.val) :
    0xD800 ≤ Units.highHalf c ∧ Units.highHalf c ≤ 0xDBFF := by
  have hc := c.isLt
  rw [Units.highHalf]
  omega

theorem val_lowHalf_lt (c : CodePoint) : 0xDC00 ≤ Units.lowHalf c ∧ Units.lowHalf c ≤ 0xDFFF := by
  rw [Units.lowHalf]
  omega

/-- The halves of a code point above U+FFFF are the halves of its pair. -/
theorem pair_halves {c : CodePoint} (h : 0x10000 ≤ c.val) :
    Units.pair (CodePoint.ofNat (Units.highHalf c)) (CodePoint.ofNat (Units.lowHalf c)) = c := by
  have hhigh := val_highHalf_lt c h
  have hlow := val_lowHalf_lt c
  have hsum : 0x10000 + (Units.highHalf c - 0xD800) * 0x400 + (Units.lowHalf c - 0xDC00)
      = c.val := by
    rw [Units.highHalf, Units.lowHalf]
    omega
  rw [Units.pair, CodePoint.val_ofNat (by omega), CodePoint.val_ofNat (by omega), hsum,
    CodePoint.ofNat_val]

theorem isHighSurrogate_highHalf {c : CodePoint} (h : 0x10000 ≤ c.val) :
    (CodePoint.ofNat (Units.highHalf c)).isHighSurrogate = true := by
  have := val_highHalf_lt c h
  rw [CodePoint.isHighSurrogate, CodePoint.val_ofNat (by omega)]
  simpa using this

theorem isLowSurrogate_lowHalf (c : CodePoint) :
    (CodePoint.ofNat (Units.lowHalf c)).isLowSurrogate = true := by
  have := val_lowHalf_lt c
  rw [CodePoint.isLowSurrogate, CodePoint.val_ofNat (by omega)]
  simpa using this

/-- The escapes of a pair stand for one code point. -/
theorem readStringLoop_pair {c : CodePoint} (h : 0x10000 ≤ c.val) {rest : Text}
    (hne : rest ≠ []) :
    readStringLoop start found
        (unitEscape (Units.highHalf c) ++ (unitEscape (Units.lowHalf c) ++ rest)) =
      readStringLoop start (c :: found) rest := by
  have hhigh := val_highHalf_lt c h
  have hlow := val_lowHalf_lt c
  have hsecond := secondUnit?_unitEscape (n := Units.lowHalf c) (by omega) hne
  have hslash : ¬(CodePoint.ofChar '\\').val ≠ 0x5C := fun h => h rfl
  have hletter : ¬(CodePoint.ofChar 'u').val ≠ 0x75 := fun h => h rfl
  have hempty : ¬(unitEscape (Units.lowHalf c) ++ rest).isEmpty = true := by
    rw [unitEscape_eq]
    exact Bool.false_ne_true
  rw [unitEscape_eq (Units.highHalf c)]
  simp only [List.cons_append, List.nil_append]
  rw [readStringLoop.eq_def]
  simp only
  rw [if_neg (by decide), if_neg (by decide), if_neg hslash, if_neg hletter, if_neg hempty,
    hexUnit?_hex (by omega)]
  simp only [isHighSurrogate_highHalf h, hsecond, isLowSurrogate_lowHalf, Bool.not_true,
    Bool.false_eq_true, if_false, pair_halves h]
  rw [unitEscape_eq]
  rfl

/-! ### Written code points -/

theorem noLowFirst_of_head {rest : Text} (h : ∀ c ∈ rest.head?, c.val ≠ 0x5C) :
    NoLowFirst rest := by
  left
  unfold secondUnit?
  split
  · next s u a b c d e more =>
    have hs : ¬(s.val = 0x5C && u.val = 0x75 : Bool) = true := by simp [h s rfl]
    rw [if_neg hs]
  · rfl

theorem noLowFirst_short {d : CodePoint} {e : Text} (h : shortEscape? d = some e) (rest : Text) :
    NoLowFirst (e ++ rest) := by
  have hletter : ∃ u : CodePoint, e = [CodePoint.ofChar '\\', u] ∧ u.val ≠ 0x75 := by
    obtain ⟨-, u, he, ⟨-, -, hu⟩, -⟩ := exists_letter h
    exact ⟨u, he, hu⟩
  obtain ⟨u, rfl, hu⟩ := hletter
  left
  unfold secondUnit?
  split
  · next s v a b c d e more heq =>
    obtain rfl : u = v := (List.cons.inj (List.cons.inj heq).2).1
    have hs : ¬(s.val = 0x5C && u.val = 0x75 : Bool) = true := by simp [hu]
    rw [if_neg hs]
  · rfl

/-- What is written for anything but a low surrogate does not begin with the escape of one. -/
theorem noLowFirst_escape (ascii : Bool) {d : CodePoint} (hd : d.isLowSurrogate = false)
    {rest : Text} (hne : rest ≠ []) : NoLowFirst (escape ascii d ++ rest) := by
  rw [escape]
  cases hshort : shortEscape? d with
  | some e => exact noLowFirst_short hshort rest
  | none =>
    have hself : ∀ h : d.val < 0x10000, NoLowFirst (unitEscape d.val ++ rest) := by
      intro h
      refine Or.inr ⟨_, secondUnit?_unitEscape h hne, ?_⟩
      rw [CodePoint.ofNat_val, hd]
    simp only
    split
    · exact hself (by omega)
    · split
      · split
        · next h => exact hself h
        · next h =>
          have hhigh := val_highHalf_lt d (by omega)
          rw [List.append_assoc]
          refine Or.inr ⟨_, secondUnit?_unitEscape (by omega) ?_, ?_⟩
          · rw [unitEscape_eq]
            exact List.cons_ne_nil _ _
          · rw [CodePoint.isLowSurrogate, CodePoint.val_ofNat (by omega)]
            simp
            omega
      · refine noLowFirst_of_head fun c hc => ?_
        obtain rfl : d = c := Option.some.inj hc
        intro hslash
        rw [shortEscape?, hslash] at hshort
        cases hshort

/-- What is written for a code point is read as it, unless two escapes make up a pair. -/
theorem readStringLoop_escape (ascii : Bool) (c : CodePoint) {rest : Text} (hne : rest ≠ [])
    (hnext : ascii = true → c.isHighSurrogate = true → NoLowFirst rest) :
    readStringLoop start found (escape ascii c ++ rest) =
      readStringLoop start (c :: found) rest := by
  rw [escape]
  cases hshort : shortEscape? c with
  | some e => exact readStringLoop_short start found hshort rest
  | none =>
    simp only
    split
    · next h =>
      have hunit := readStringLoop_unit start found (n := c.val) (by omega) hne
      rw [CodePoint.ofNat_val] at hunit
      refine hunit fun hhigh => ?_
      simp [CodePoint.isHighSurrogate] at hhigh
      omega
    · -- beyond ASCII there is one escape, or two for a code point with two halves
      split
      · next hascii =>
        have hascii : ascii = true := (Bool.and_eq_true_iff.1 hascii).1
        split
        · next h =>
          have hunit := readStringLoop_unit start found h hne
          rw [CodePoint.ofNat_val] at hunit
          exact hunit (hnext hascii)
        · next h =>
          rw [List.append_assoc]
          exact readStringLoop_pair start found (by omega) hne
      · next h _ =>
        refine readStringLoop_raw start found (by omega) ?_ ?_ rest
        · intro hq
          rw [shortEscape?, hq] at hshort
          cases hshort
        · intro hs
          rw [shortEscape?, hs] at hshort
          cases hshort

/-! ### Written texts -/

/-- The escapes of a text in front of a closing quote are read as the text. -/
theorem readStringLoop_flatMap (ascii : Bool) {t : Text} (h : ascii = true → Text.Unpaired t)
    (rest : Text) :
    readStringLoop start found (t.flatMap (escape ascii) ++ CodePoint.ofChar '"' :: rest) =
      .ok (found.reverse ++ t, rest) := by
  induction t generalizing found with
  | nil =>
    rw [List.append_nil]
    exact readStringLoop_end start found rest
  | cons c t ih =>
    have htail : ascii = true → Text.Unpaired t := by
      intro hascii
      cases t with
      | nil => trivial
      | cons d t => exact (h hascii).2
    -- what remains is that no low surrogate follows a high one
    rw [List.flatMap_cons, List.append_assoc, readStringLoop_escape start found ascii c (by simp),
      ih (c :: found) htail, List.reverse_cons, List.append_assoc, List.singleton_append]
    intro hascii hhigh
    cases t with
    | nil =>
      refine noLowFirst_of_head fun d hd => ?_
      obtain rfl := Option.some.inj hd
      decide
    | cons d t =>
      have hlow : d.isLowSurrogate = false := by
        cases hl : d.isLowSurrogate with
        | false => rfl
        | true => exact absurd ⟨hhigh, hl⟩ (h hascii).1
      rw [List.flatMap_cons, List.append_assoc]
      exact noLowFirst_escape ascii hlow (by simp)

/-- A text between double quotes is read back as it was written. -/
theorem readString_quote (ascii : Bool) {t : Text} (h : ascii = true → Text.Unpaired t)
    (rest : Text) :
    readString start (t.flatMap (escape ascii) ++ CodePoint.ofChar '"' :: rest) = .ok (t, rest) :=
  readStringLoop_flatMap start [] ascii h rest

/-! ### Surrogate pairs -/

/-- A surrogate is written by its number. -/
theorem escape_of_surrogate {c : CodePoint} (h : 0xD800 ≤ c.val) (h' : c.val < 0x10000) :
    escape true c = unitEscape c.val := by
  rw [escape]
  cases hshort : shortEscape? c with
  | some e =>
    have := (exists_letter hshort).1
    omega
  | none => simp only [Bool.true_and, decide_eq_true_eq, if_neg (show ¬c.val < 0x20 by omega),
      if_pos (show 0x7F ≤ c.val by omega), if_pos h']

theorem escape_of_pair {c : CodePoint} (h : 0x10000 ≤ c.val) :
    escape true c = unitEscape (Units.highHalf c) ++ unitEscape (Units.lowHalf c) := by
  rw [escape]
  cases hshort : shortEscape? c with
  | some e =>
    have := (exists_letter hshort).1
    omega
  | none => simp only [Bool.true_and, decide_eq_true_eq, if_neg (show ¬c.val < 0x20 by omega),
      if_pos (show 0x7F ≤ c.val by omega), if_neg (show ¬c.val < 0x10000 by omega)]

/-- A pair of surrogates is written as its code point is. -/
theorem escape_pair {c d : CodePoint} (hc : c.isHighSurrogate = true)
    (hd : d.isLowSurrogate = true) :
    0x10000 ≤ (Units.pair c d).val ∧
      escape true (Units.pair c d) = escape true c ++ escape true d := by
  simp only [CodePoint.isHighSurrogate, CodePoint.isLowSurrogate, Bool.and_eq_true,
    decide_eq_true_eq] at hc hd
  have hval : (Units.pair c d).val = 0x10000 + (c.val - 0xD800) * 0x400 + (d.val - 0xDC00) :=
    CodePoint.val_ofNat (by omega)
  have hhigh : Units.highHalf (Units.pair c d) = c.val := by
    rw [Units.highHalf, hval]
    omega
  have hlow : Units.lowHalf (Units.pair c d) = d.val := by
    rw [Units.lowHalf, hval]
    omega
  refine ⟨by omega, ?_⟩
  rw [escape_of_pair (by omega), hhigh, hlow, escape_of_surrogate hc.1 (by omega),
    escape_of_surrogate (by omega) (by omega)]

/-- Every text is written in ASCII as a text without surrogate pairs is. -/
theorem exists_unpaired : ∀ t : Text, ∃ u : Text, u.Unpaired ∧
    u.flatMap (escape true) = t.flatMap (escape true) ∧
    ∀ d ∈ u.head?, d.isLowSurrogate = true → d ∈ t.head?
  | [] => ⟨[], trivial, rfl, by simp⟩
  | [c] => ⟨[c], trivial, rfl, by simp⟩
  | c :: d :: t => by
    by_cases hpair : c.isHighSurrogate = true ∧ d.isLowSurrogate = true
    · obtain ⟨u, hu, hescape, -⟩ := exists_unpaired t
      obtain ⟨hge, hsame⟩ := escape_pair hpair.1 hpair.2
      have hhigh : (Units.pair c d).isHighSurrogate = false := by
        simp [CodePoint.isHighSurrogate]
        omega
      have hlow : (Units.pair c d).isLowSurrogate = false := by
        simp [CodePoint.isLowSurrogate]
        omega
      refine ⟨Units.pair c d :: u, Text.unpaired_cons_iff.2 ⟨fun e _ => by simp [hhigh], hu⟩, ?_,
        ?_⟩
      · rw [List.flatMap_cons, List.flatMap_cons, List.flatMap_cons, hescape, hsame,
          List.append_assoc]
      · intro e he hlow'
        obtain rfl := Option.some.inj he
        rw [hlow] at hlow'
        cases hlow'
    · obtain ⟨u, hu, hescape, hhead⟩ := exists_unpaired (d :: t)
      refine ⟨c :: u, Text.unpaired_cons_iff.2 ⟨fun e he hboth => ?_, hu⟩, ?_, fun e he _ => he⟩
      · -- a low surrogate at the head was there before
        obtain rfl := Option.some.inj (hhead e he hboth.2)
        exact hpair hboth
      · rw [List.flatMap_cons, hescape]
        rfl

end Json

end RavenBinding
