import RavenBinding.Proofs.FieldMap
import RavenBinding.Proofs.Json.StringRoundTrip
import RavenBinding.Proofs.Number.DecimalRoundTrip

/-!
# Reading back JSON text

A JSON value without decimals, with integers that are not too long, and with members of different
names is read back from its text as it was. So is a value that was written before other text, as
long as that does not go on with a number.

## Main definitions

- `Json.Plain`: values that read back, with a bound on how deep they are nested
- `Json.IsDelimiter`: what follows a value inside another one

## Main statements

- `Json.readValue_render`: reading what was written
- `Json.parse_render`: reading a text that was written
-/

namespace RavenBinding

namespace Json

/-- Values that read back: the texts of ASCII have no surrogate pairs in two halves. -/
inductive Plain (ascii : Bool) : Nat → Json → Prop where
  | null (depth : Nat) : Plain ascii depth .null
  | bool (depth : Nat) (b : Bool) : Plain ascii depth (.bool b)
  | int (depth : Nat) {i : Int} (few : tooManyDigits i = false) : Plain ascii depth (.int i)
  | text (depth : Nat) {t : Text} (unpaired : ascii = true → t.Unpaired) :
    Plain ascii depth (.text t)
  | array {depth : Nat} {items : List Json} (inside : ∀ x ∈ items, Plain ascii depth x) :
    Plain ascii (depth + 1) (.array items)
  | object {depth : Nat} {members : List (Text × Json)}
    (distinct : FieldMap.NodupKeys members)
    (unpaired : ascii = true → ∀ e ∈ members, Text.Unpaired e.1)
    (inside : ∀ e ∈ members, Plain ascii depth e.2) : Plain ascii (depth + 1) (.object members)

/-- What may follow a value inside another one. -/
def IsDelimiter (c : CodePoint) : Prop := c.val = 0x2C ∨ c.val = 0x5D ∨ c.val = 0x7D

/-- A text that a value may stand before. -/
def Delimits (rest : Text) : Prop := ∀ c ∈ rest.head?, IsDelimiter c

theorem delimits_cons {c : CodePoint} (h : IsDelimiter c) (rest : Text) : Delimits (c :: rest) :=
  fun _ hd => Option.some.inj hd ▸ h

theorem isDelimiter_comma : IsDelimiter (CodePoint.ofChar ',') := Or.inl rfl

theorem isDelimiter_bracket : IsDelimiter (CodePoint.ofChar ']') := Or.inr (Or.inl rfl)

theorem isDelimiter_brace : IsDelimiter (CodePoint.ofChar '}') := Or.inr (Or.inr rfl)

/-! ### Numbers -/

theorem spanDigits_append {digits rest : Text} (h : ∀ c ∈ digits, c.isDigit = true)
    (hr : Delimits rest) : spanDigits (digits ++ rest) = (digits.map CodePoint.decimal, rest) := by
  have hdecimal : (fun c : CodePoint => c.val - 0x30) = CodePoint.decimal := rfl
  rw [spanDigits, List.takeWhile_append_of_pos h, List.dropWhile_append_of_pos h, hdecimal]
  cases rest with
  | nil => simp
  | cons c rest =>
    have hc : c.isDigit = false := by
      have := hr c rfl
      simp only [IsDelimiter] at this
      simp [CodePoint.isDigit]
      omega
    rw [List.takeWhile_cons, List.dropWhile_cons, hc]
    simp

theorem readFraction_of_delimits {rest : Text} (hr : Delimits rest) :
    readFraction rest = (none, rest) := by
  cases rest with
  | nil => rfl
  | cons c rest =>
    have hc : c.val ≠ 0x2E := by
      have := hr c rfl
      simp only [IsDelimiter] at this
      omega
    simp [readFraction, hc]

theorem readExponent_of_delimits {rest : Text} (hr : Delimits rest) :
    readExponent rest = (none, rest) := by
  cases rest with
  | nil => rfl
  | cons c rest =>
    have hc : c.val ≠ 0x65 ∧ c.val ≠ 0x45 := by
      have := hr c rfl
      simp only [IsDelimiter] at this
      omega
    simp [readExponent, hc.1, hc.2]

/-- Only the numeral of zero begins with a zero. -/
theorem eq_zero_of_head {n : Nat} {ds : Text} (h : Text.ofNat n = CodePoint.ofChar '0' :: ds) :
    n = 0 ∧ ds = [] := by
  have hspell := Text.ofDigits_ofNat n
  have hdigits : ∀ d ∈ ds.map CodePoint.decimal, d < 10 := by
    intro d hd
    obtain ⟨c, hc, rfl⟩ := List.mem_map.1 hd
    exact CodePoint.decimal_lt (Text.isDigit_of_mem_ofNat (n := n) (h ▸ List.mem_cons_of_mem _ hc))
  have hlt := Numeral.ofDigits_lt hdigits
  have hzero : (CodePoint.ofChar '0').decimal = 0 := rfl
  have hn : n = Numeral.ofDigits (ds.map CodePoint.decimal) := by
    rw [h, List.map_cons, hzero] at hspell
    exact hspell.symm
  cases ds with
  | nil => exact ⟨hn, rfl⟩
  | cons d ds =>
    -- A numeral without its leading zero would be shorter than its number needs.
    have hpos : 0 < (d :: ds).length := Nat.succ_pos _
    rw [List.length_map, ← hn] at hlt
    have hlen := (Text.length_ofNat_le_iff hpos).2 hlt
    rw [h] at hlen
    exact absurd hlen (by simp)

/-- The whole part of a number is its numeral. -/
theorem readWhole?_ofNat (n : Nat) {rest : Text} (hr : Delimits rest) :
    readWhole? (Text.ofNat n ++ rest) = some ((Text.ofNat n).map CodePoint.decimal, rest) := by
  have hdigit : ∀ c ∈ Text.ofNat n, c.isDigit = true := fun c hc => Text.isDigit_of_mem_ofNat hc
  cases ht : Text.ofNat n with
  | nil => exact absurd ht (Text.ofNat_ne_nil n)
  | cons c ds =>
    rw [ht] at hdigit
    rw [List.cons_append, readWhole?]
    by_cases hzero : c.val = 0x30
    · obtain rfl : c = CodePoint.ofChar '0' := Fin.ext hzero
      obtain ⟨rfl, rfl⟩ := eq_zero_of_head ht
      rw [if_pos hzero]
      rfl
    · rw [if_neg hzero, if_pos (hdigit c List.mem_cons_self), ← List.cons_append,
        spanDigits_append hdigit hr]

/-- A numeral after its sign is read as its number, if it is not too long. -/
theorem readNumber?_of_sign (negative : Bool) {t body : Text}
    (ht : t = if negative then CodePoint.ofChar '-' :: body else body)
    (hbody : negative = false → ∀ c ∈ body.head?, c.val ≠ 0x2D) {whole : List Nat} {rest : Text}
    (hwhole : readWhole? body = some (whole, rest)) (hfew : whole.length ≤ Numeral.maxDigits)
    (hr : Delimits rest) :
    readNumber? t = some (.ok (.int
      (if negative then -(Numeral.ofDigits whole : Int) else Numeral.ofDigits whole), rest)) := by
  have hlong : ¬Numeral.maxDigits < whole.length := Nat.not_lt.2 hfew
  cases negative with
  | true =>
    rw [ht]
    simp [readNumber?, CodePoint.val_ofChar, hwhole, readFraction_of_delimits hr,
      readExponent_of_delimits hr, hlong]
  | false =>
    rw [ht]
    cases body with
    | nil => cases hwhole
    | cons c body =>
      have hc : c.val ≠ 0x2D := hbody rfl c rfl
      simp [readNumber?, hc, hwhole, readFraction_of_delimits hr, readExponent_of_delimits hr,
        hlong]

/-- The numeral of an integer that is not too long is read as it. -/
theorem readNumber?_ofInt {i : Int} (h : tooManyDigits i = false) {rest : Text}
    (hr : Delimits rest) : readNumber? (Text.ofInt i ++ rest) = some (.ok (.int i, rest)) := by
  have hlt : i.natAbs < Nat.pow 10 Numeral.maxDigits := by
    rw [tooManyDigits, decide_eq_false_iff_not] at h
    omega
  have hfew : ∀ n : Nat, n < Nat.pow 10 Numeral.maxDigits →
      ((Text.ofNat n).map CodePoint.decimal).length ≤ Numeral.maxDigits := by
    intro n hn
    rw [List.length_map]
    exact (Text.length_ofNat_le_iff (by decide)).2 hn
  cases i with
  | ofNat n =>
    have hread := readNumber?_of_sign false (t := Text.ofNat n ++ rest) rfl ?_
      (readWhole?_ofNat n hr) (hfew n hlt) hr
    · rw [Text.ofDigits_ofNat] at hread
      exact hread
    · intro _ c hc hminus
      have hdigit : c.isDigit = true := by
        refine Text.isDigit_of_mem_ofNat (n := n) ?_
        cases hn : Text.ofNat n with
        | nil => exact absurd hn (Text.ofNat_ne_nil n)
        | cons d ds =>
          rw [hn] at hc
          exact (Option.some.inj hc) ▸ List.mem_cons_self
      simp [CodePoint.isDigit, hminus] at hdigit
  | negSucc n =>
    have hread := readNumber?_of_sign true rfl (fun h => absurd h Bool.noConfusion)
      (readWhole?_ofNat (n + 1) hr) (hfew (n + 1) hlt) hr
    rw [Text.ofDigits_ofNat] at hread
    exact hread

/-! ### Values that are no collections -/

/-- No word begins with a digit, or with a minus and a digit. -/
def isWordStart : Text → Bool
  | c :: d :: _ => !c.isDigit && (c != CodePoint.ofChar '-' || !d.isDigit)
  | _ => false

theorem isWordStart_of_mem_words {w : Text × Json} (h : w ∈ words) : isWordStart w.1 = true := by
  have hall : words.all (fun w => isWordStart w.1) = true := by decide
  exact List.all_eq_true.1 hall w h

theorem readWord?_eq_none {t : Text} (h : ∀ w : Text, isWordStart w = true → w <+: t → False) :
    readWord? t = none := by
  have hnone : ∀ w ∈ words, ¬w.1.isPrefixOf t = true := fun w hw hp =>
    h w.1 (isWordStart_of_mem_words hw) (List.isPrefixOf_iff_prefix.1 hp)
  rw [readWord?, List.find?_eq_none.2 hnone]
  rfl

theorem readWord?_of_digit {c : CodePoint} (h : c.isDigit = true) (rest : Text) :
    readWord? (c :: rest) = none := by
  refine readWord?_eq_none fun w hw hp => ?_
  cases w with
  | nil => cases hw
  | cons d w =>
    cases w with
    | nil => cases hw
    | cons e w =>
      obtain ⟨rfl, -⟩ := List.cons_prefix_cons.1 hp
      simp [isWordStart, h] at hw

theorem readWord?_of_minus {c : CodePoint} (h : c.isDigit = true) (rest : Text) :
    readWord? (CodePoint.ofChar '-' :: c :: rest) = none := by
  refine readWord?_eq_none fun w hw hp => ?_
  cases w with
  | nil => cases hw
  | cons d w =>
    cases w with
    | nil => cases hw
    | cons e w =>
      obtain ⟨rfl, htail⟩ := List.cons_prefix_cons.1 hp
      obtain ⟨rfl, -⟩ := List.cons_prefix_cons.1 htail
      simp [isWordStart, h] at hw

/-- The numeral of an integer begins with a digit or with a minus and a digit. -/
theorem exists_ofInt (i : Int) :
    ∃ c digits, c.isDigit = true ∧
      (Text.ofInt i = c :: digits ∨ Text.ofInt i = CodePoint.ofChar '-' :: c :: digits) := by
  have hnat : ∀ n : Nat, ∃ c digits, c.isDigit = true ∧ Text.ofNat n = c :: digits := by
    intro n
    cases hn : Text.ofNat n with
    | nil => exact absurd hn (Text.ofNat_ne_nil n)
    | cons c digits =>
      exact ⟨c, digits, Text.isDigit_of_mem_ofNat (n := n) (hn ▸ List.mem_cons_self), rfl⟩
  cases i with
  | ofNat n =>
    obtain ⟨c, digits, hc, hn⟩ := hnat n
    exact ⟨c, digits, hc, Or.inl hn⟩
  | negSucc n =>
    obtain ⟨c, digits, hc, hn⟩ := hnat (n + 1)
    exact ⟨c, digits, hc, Or.inr (by rw [← hn]; rfl)⟩

theorem readPlain_ofInt {i : Int} (h : tooManyDigits i = false) {rest : Text}
    (hr : Delimits rest) : readPlain (Text.ofInt i ++ rest) = .ok (.int i, rest) := by
  have hword : readWord? (Text.ofInt i ++ rest) = none := by
    obtain ⟨c, digits, hc, hi | hi⟩ := exists_ofInt i
    · rw [hi]
      exact readWord?_of_digit hc _
    · rw [hi]
      exact readWord?_of_minus hc _
  rw [readPlain, hword, readNumber?_ofInt h hr]
  rfl

/-- Every text of a plain value begins with a character that is no white space and ends no
collection. -/
theorem exists_render {ascii : Bool} {depth : Nat} {j : Json} (h : Plain ascii depth j) :
    ∃ c t, render ascii j = c :: t ∧ 0x20 < c.val ∧ c.val ≠ 0x5D ∧ c.val ≠ 0x7D := by
  cases h with
  | null => exact ⟨_, _, rfl, by decide, by decide, by decide⟩
  | bool depth b =>
    cases b with
    | true => exact ⟨_, _, rfl, by decide, by decide, by decide⟩
    | false => exact ⟨_, _, rfl, by decide, by decide, by decide⟩
  | int depth few =>
    obtain ⟨c, digits, hc, hi | hi⟩ := exists_ofInt _
    · refine ⟨c, digits, hi, ?_⟩
      simp only [CodePoint.isDigit, Bool.and_eq_true, decide_eq_true_eq] at hc
      omega
    · exact ⟨_, _, hi, by decide, by decide, by decide⟩
  | text => exact ⟨_, _, rfl, by decide, by decide, by decide⟩
  | array => exact ⟨_, _, rfl, by decide, by decide, by decide⟩
  | object => exact ⟨_, _, rfl, by decide, by decide, by decide⟩

theorem skipWhitespace_cons {c : CodePoint} (h : 0x20 < c.val) (t : Text) :
    skipWhitespace (c :: t) = c :: t := by
  have hc : isWhitespace c = false := by
    simp [isWhitespace]
    omega
  rw [skipWhitespace, List.dropWhile_cons, hc, if_neg Bool.false_ne_true]

/-! ### Collections -/

/-- Reading takes a value off the front of a text, whatever delimits it. The number of steps may be
twice the length of the text, and the bound on nesting at least the depth of the value. -/
def ReadsBack (ascii : Bool) (depth : Nat) (j : Json) : Prop :=
  ∀ fuel bound rest, depth ≤ bound → Delimits rest →
    2 * (render ascii j ++ rest).length ≤ fuel →
    readValue fuel bound (render ascii j ++ rest) = .ok (j, rest)

variable {ascii : Bool} {depth : Nat}

theorem readValue_plain {t rest : Text} {j : Json} {c : CodePoint} (hc : c.val ≠ 0x22)
    (hbrace : c.val ≠ 0x7B) (hbracket : c.val ≠ 0x5B) (h : readPlain (c :: t) = .ok (j, rest))
    {fuel : Nat} (hf : 2 * (c :: t).length ≤ fuel) (bound : Nat) :
    readValue fuel bound (c :: t) = .ok (j, rest) := by
  cases fuel with
  | zero => simp at hf
  | succ fuel =>
    rw [readValue.eq_def]
    simp only [if_neg hc, if_neg hbrace, if_neg hbracket, h]

/-- Items are read up to the closing bracket. -/
theorem readItems_renderItems {x : Json} {xs : List Json}
    (hplain : ∀ y ∈ x :: xs, Plain ascii depth y) (hback : ∀ y ∈ x :: xs, ReadsBack ascii depth y)
    {bound : Nat} (hb : depth ≤ bound) {fuel : Nat} {rest : Text}
    (hf : 2 * (renderItems ascii true (x :: xs) ++ CodePoint.ofChar ']' :: rest).length + 1 ≤ fuel)
    (found : List Json) :
    readItems fuel bound found (renderItems ascii true (x :: xs) ++ CodePoint.ofChar ']' :: rest) =
      .ok (.array (found.reverse ++ x :: xs), rest) := by
  -- on the items after the first one, each of which takes one step and a comma
  induction xs generalizing x fuel found with
  | nil =>
    cases fuel with
    | zero => simp at hf
    | succ fuel =>
      have htext : renderItems ascii true [x] ++ CodePoint.ofChar ']' :: rest =
          render ascii x ++ CodePoint.ofChar ']' :: rest := by simp [renderItems]
      rw [htext] at hf ⊢
      have hread := hback x List.mem_cons_self fuel bound (CodePoint.ofChar ']' :: rest) hb
        (delimits_cons isDelimiter_bracket rest) (by omega)
      have hend : (CodePoint.ofChar ']').val = 0x5D := rfl
      rw [readItems, hread]
      simp only [skipWhitespace_cons (show 0x20 < (CodePoint.ofChar ']').val by decide)]
      rw [if_pos hend, List.reverse_cons]
  | cons y ys ih =>
    cases fuel with
    | zero => simp at hf
    | succ fuel =>
      have htext : renderItems ascii true (x :: y :: ys) ++ CodePoint.ofChar ']' :: rest =
          render ascii x ++ CodePoint.ofChar ',' ::
            (renderItems ascii true (y :: ys) ++ CodePoint.ofChar ']' :: rest) := by
        simp [renderItems]
      rw [htext] at hf ⊢
      have hread := hback x List.mem_cons_self fuel bound (CodePoint.ofChar ',' ::
        (renderItems ascii true (y :: ys) ++ CodePoint.ofChar ']' :: rest)) hb
        (delimits_cons isDelimiter_comma _) (by omega)
      have hcomma : (CodePoint.ofChar ',').val = 0x2C := rfl
      obtain ⟨c, t, hc, hspace, -, -⟩ := exists_render (hplain y (by simp))
      have hskip : skipWhitespace
          (renderItems ascii true (y :: ys) ++ CodePoint.ofChar ']' :: rest) =
            renderItems ascii true (y :: ys) ++ CodePoint.ofChar ']' :: rest := by
        have hhead : renderItems ascii true (y :: ys) = c :: (t ++ renderItems ascii false ys) := by
          simp [renderItems, hc]
        rw [hhead]
        exact skipWhitespace_cons hspace _
      have hlen : 2 * (renderItems ascii true (y :: ys) ++ CodePoint.ofChar ']' :: rest).length + 1
          ≤ fuel := by
        simp only [List.length_append, List.length_cons] at hf ⊢
        omega
      rw [readItems, hread]
      simp only [skipWhitespace_cons (show 0x20 < (CodePoint.ofChar ',').val by decide)]
      rw [if_neg (by decide), if_pos hcomma, hskip,
        ih (fun z hz => hplain z (List.mem_cons_of_mem _ hz))
          (fun z hz => hback z (List.mem_cons_of_mem _ hz)) hlen (x :: found)]
      simp

theorem skipWhitespace_render {j : Json} (h : Plain ascii depth j) (rest : Text) :
    skipWhitespace (render ascii j ++ rest) = render ascii j ++ rest := by
  obtain ⟨c, t, hc, hspace, -, -⟩ := exists_render h
  rw [hc]
  exact skipWhitespace_cons hspace _

/-- One member up to what follows its value. -/
theorem readMembers_member {e : Text × Json} (hkey : ascii = true → Text.Unpaired e.1)
    (hplain : Plain ascii depth e.2) (hback : ReadsBack ascii depth e.2) {bound fuel : Nat}
    (hb : depth ≤ bound) {d : CodePoint} {rest : Text} (hd : IsDelimiter d)
    (hf : 2 * (quote ascii e.1 ++ CodePoint.ofChar ':' :: (render ascii e.2 ++ d :: rest)).length
      ≤ fuel) (found : FieldMap Text Json) :
    readMembers (fuel + 1) bound found
        (quote ascii e.1 ++ CodePoint.ofChar ':' :: (render ascii e.2 ++ d :: rest)) =
      if d.val = 0x7D then .ok (.object (found.insert e.1 e.2), rest)
      else if d.val = 0x2C then
        readMembers fuel bound (found.insert e.1 e.2) (skipWhitespace rest)
      else haltAt .expectingComma (d :: rest) := by
  have hquote : quote ascii e.1 ++ CodePoint.ofChar ':' :: (render ascii e.2 ++ d :: rest) =
      CodePoint.ofChar '"' :: (e.1.flatMap (escape ascii) ++ CodePoint.ofChar '"' ::
        (CodePoint.ofChar ':' :: (render ascii e.2 ++ d :: rest))) := by
    simp [quote]
  have hread := hback fuel bound (d :: rest) hb (delimits_cons hd rest) (by
    simp only [List.length_append, List.length_cons] at hf ⊢
    omega)
  have hspace : 0x20 < d.val := by
    simp only [IsDelimiter] at hd
    omega
  have hmark : ¬(CodePoint.ofChar '"').val ≠ 0x22 := fun h => h rfl
  have hcolon : ¬(CodePoint.ofChar ':').val ≠ 0x3A := fun h => h rfl
  rw [hquote, readMembers.eq_def]
  simp only [if_neg hmark, readString_quote _ ascii hkey,
    skipWhitespace_cons (show 0x20 < (CodePoint.ofChar ':').val by decide), if_neg hcolon,
    skipWhitespace_render hplain, hread, skipWhitespace_cons hspace]

/-- Members are read up to the closing brace, and written over the ones that were found before. -/
theorem readMembers_renderMembers {e : Text × Json} {es : List (Text × Json)}
    (hkeys : ascii = true → ∀ f ∈ e :: es, Text.Unpaired f.1)
    (hplain : ∀ f ∈ e :: es, Plain ascii depth f.2)
    (hback : ∀ f ∈ e :: es, ReadsBack ascii depth f.2) {bound : Nat} (hb : depth ≤ bound)
    {fuel : Nat} {rest : Text}
    (hf : 2 * (renderMembers ascii true (e :: es) ++ CodePoint.ofChar '}' :: rest).length + 1
      ≤ fuel) (found : FieldMap Text Json) :
    readMembers fuel bound found
        (renderMembers ascii true (e :: es) ++ CodePoint.ofChar '}' :: rest) =
      .ok (.object (found.insertAll (e :: es)), rest) := by
  -- on the members after the first one, each of which takes one step and a comma
  induction es generalizing e fuel found with
  | nil =>
    cases fuel with
    | zero => simp at hf
    | succ fuel =>
      have htext : renderMembers ascii true [e] ++ CodePoint.ofChar '}' :: rest =
          quote ascii e.1 ++ CodePoint.ofChar ':' ::
            (render ascii e.2 ++ CodePoint.ofChar '}' :: rest) := by
        simp [renderMembers]
      rw [htext] at hf ⊢
      have hend : (CodePoint.ofChar '}').val = 0x7D := rfl
      rw [readMembers_member (fun h => hkeys h e List.mem_cons_self) (hplain e List.mem_cons_self)
        (hback e List.mem_cons_self) hb isDelimiter_brace (by omega) found, if_pos hend]
      rfl
  | cons f es ih =>
    cases fuel with
    | zero => simp at hf
    | succ fuel =>
      have htext : renderMembers ascii true (e :: f :: es) ++ CodePoint.ofChar '}' :: rest =
          quote ascii e.1 ++ CodePoint.ofChar ':' :: (render ascii e.2 ++ CodePoint.ofChar ',' ::
            (renderMembers ascii true (f :: es) ++ CodePoint.ofChar '}' :: rest)) := by
        simp [renderMembers]
      have hskip : skipWhitespace
          (renderMembers ascii true (f :: es) ++ CodePoint.ofChar '}' :: rest) =
            renderMembers ascii true (f :: es) ++ CodePoint.ofChar '}' :: rest :=
        skipWhitespace_cons (show 0x20 < (CodePoint.ofChar '"').val by decide) _
      have hcomma : (CodePoint.ofChar ',').val = 0x2C := rfl
      rw [htext] at hf ⊢
      have hlen : 2 * (renderMembers ascii true (f :: es) ++ CodePoint.ofChar '}' :: rest).length
          + 1 ≤ fuel := by
        simp only [List.length_append, List.length_cons] at hf ⊢
        omega
      rw [readMembers_member (fun h => hkeys h e List.mem_cons_self) (hplain e List.mem_cons_self)
        (hback e List.mem_cons_self) hb isDelimiter_comma (by omega) found, if_neg (by decide),
        if_pos hcomma, hskip,
        ih (fun h g hg => hkeys h g (List.mem_cons_of_mem _ hg))
          (fun g hg => hplain g (List.mem_cons_of_mem _ hg))
          (fun g hg => hback g (List.mem_cons_of_mem _ hg)) hlen (found.insert e.1 e.2)]
      rfl

theorem readsBack_int (depth : Nat) {i : Int} (few : tooManyDigits i = false) :
    ReadsBack ascii depth (.int i) := by
  intro fuel bound rest _ hr hf
  have hread := readPlain_ofInt few hr
  change 2 * (Text.ofInt i ++ rest).length ≤ fuel at hf
  change readValue fuel bound (Text.ofInt i ++ rest) = _
  obtain ⟨c, digits, hc, hi | hi⟩ := exists_ofInt i
  · rw [hi] at hread hf ⊢
    simp only [CodePoint.isDigit, Bool.and_eq_true, decide_eq_true_eq] at hc
    exact readValue_plain (by omega) (by omega) (by omega) hread hf bound
  · rw [hi] at hread hf ⊢
    exact readValue_plain (by decide) (by decide) (by decide) hread hf bound

theorem readsBack_text (depth : Nat) {t : Text} (unpaired : ascii = true → t.Unpaired) :
    ReadsBack ascii depth (.text t) := by
  intro fuel bound rest _ _ hf
  have htext : render ascii (.text t) ++ rest = CodePoint.ofChar '"' ::
      (t.flatMap (escape ascii) ++ CodePoint.ofChar '"' :: rest) := by
    simp [render, quote]
  rw [htext] at hf ⊢
  cases fuel with
  | zero => simp at hf
  | succ fuel =>
    have hmark : (CodePoint.ofChar '"').val = 0x22 := rfl
    rw [readValue.eq_def]
    simp only [if_pos hmark, readString_quote _ ascii unpaired]

/-- Reading an array comes down to reading its items. -/
theorem readsBack_array {items : List Json} (inside : ∀ x ∈ items, Plain ascii depth x)
    (ih : ∀ x ∈ items, ReadsBack ascii depth x) : ReadsBack ascii (depth + 1) (.array items) := by
  intro fuel bound rest hb hr hf
  obtain ⟨bound, rfl⟩ : ∃ n, bound = n + 1 := ⟨bound - 1, by omega⟩
  cases fuel with
  | zero => simp [render] at hf
  | succ fuel =>
    have hopen : (CodePoint.ofChar '[').val = 0x5B := rfl
    cases items with
    | nil =>
      have hclose : (CodePoint.ofChar ']').val = 0x5D := rfl
      change readValue (fuel + 1) (bound + 1) (CodePoint.ofChar '[' :: CodePoint.ofChar ']' :: rest)
        = _
      rw [readValue.eq_def]
      simp only [if_neg (show ¬(CodePoint.ofChar '[').val = 0x22 by decide),
        if_neg (show ¬(CodePoint.ofChar '[').val = 0x7B by decide), if_pos hopen,
        skipWhitespace_cons (show 0x20 < (CodePoint.ofChar ']').val by decide), if_pos hclose]
    | cons x xs =>
      have htext : render ascii (.array (x :: xs)) ++ rest = CodePoint.ofChar '[' ::
          (renderItems ascii true (x :: xs) ++ CodePoint.ofChar ']' :: rest) := by
        simp [render]
      obtain ⟨c, t, hc, hspace, hbracket, -⟩ := exists_render (inside x List.mem_cons_self)
      have hhead : renderItems ascii true (x :: xs) ++ CodePoint.ofChar ']' :: rest =
          c :: (t ++ renderItems ascii false xs ++ CodePoint.ofChar ']' :: rest) := by
        simp [renderItems, hc]
      rw [htext] at hf ⊢
      have hlen : 2 * (renderItems ascii true (x :: xs) ++ CodePoint.ofChar ']' :: rest).length + 1
          ≤ fuel := by
        simp only [List.length_cons] at hf
        omega
      have hitems := readItems_renderItems inside ih (Nat.le_of_succ_le_succ hb) hlen []
      rw [hhead] at hitems ⊢
      rw [readValue.eq_def]
      simp only [if_neg (show ¬(CodePoint.ofChar '[').val = 0x22 by decide),
        if_neg (show ¬(CodePoint.ofChar '[').val = 0x7B by decide), if_pos hopen,
        skipWhitespace_cons hspace, if_neg hbracket, hitems, List.reverse_nil, List.nil_append]

/-- Reading an object comes down to reading its members, whose keys are different. -/
theorem readsBack_object {members : List (Text × Json)}
    (distinct : FieldMap.NodupKeys members)
    (unpaired : ascii = true → ∀ e ∈ members, Text.Unpaired e.1)
    (inside : ∀ e ∈ members, Plain ascii depth e.2)
    (ih : ∀ e ∈ members, ReadsBack ascii depth e.2) :
    ReadsBack ascii (depth + 1) (.object members) := by
  intro fuel bound rest hb hr hf
  obtain ⟨bound, rfl⟩ : ∃ n, bound = n + 1 := ⟨bound - 1, by omega⟩
  cases fuel with
  | zero => simp [render] at hf
  | succ fuel =>
    have hopen : (CodePoint.ofChar '{').val = 0x7B := rfl
    cases members with
    | nil =>
      have hclose : (CodePoint.ofChar '}').val = 0x7D := rfl
      change readValue (fuel + 1) (bound + 1) (CodePoint.ofChar '{' :: CodePoint.ofChar '}' :: rest)
        = _
      rw [readValue.eq_def]
      simp only [if_neg (show ¬(CodePoint.ofChar '{').val = 0x22 by decide), if_pos hopen,
        skipWhitespace_cons (show 0x20 < (CodePoint.ofChar '}').val by decide), if_pos hclose]
    | cons e es =>
      have htext : render ascii (.object (e :: es)) ++ rest = CodePoint.ofChar '{' ::
          (renderMembers ascii true (e :: es) ++ CodePoint.ofChar '}' :: rest) := by
        simp [render]
      have hhead : ∃ t, renderMembers ascii true (e :: es) ++ CodePoint.ofChar '}' :: rest =
          CodePoint.ofChar '"' :: t := ⟨_, rfl⟩
      obtain ⟨t, hhead⟩ := hhead
      rw [htext] at hf ⊢
      have hlen : 2 * (renderMembers ascii true (e :: es) ++ CodePoint.ofChar '}' :: rest).length
          + 1 ≤ fuel := by
        simp only [List.length_cons] at hf
        omega
      have hmembers := readMembers_renderMembers unpaired inside ih (Nat.le_of_succ_le_succ hb)
        hlen []
      -- keys that are all different are inserted in their order
      have hlist : FieldMap.insertAll [] (e :: es) = e :: es := FieldMap.ofList_of_nodup distinct
      rw [hhead] at hmembers ⊢
      rw [readValue.eq_def]
      simp only [if_neg (show ¬(CodePoint.ofChar '{').val = 0x22 by decide), if_pos hopen,
        skipWhitespace_cons (show 0x20 < (CodePoint.ofChar '"').val by decide),
        if_neg (show ¬(CodePoint.ofChar '"').val = 0x7D by decide), hmembers, hlist]

/-- A plain value is read back from its text. -/
theorem readValue_render {j : Json} (h : Plain ascii depth j) : ReadsBack ascii depth j := by
  induction h with
  | null depth => exact fun fuel bound rest _ _ hf =>
      readValue_plain (by decide) (by decide) (by decide) rfl hf bound
  | bool depth b =>
    cases b with
    | true => exact fun fuel bound rest _ _ hf =>
        readValue_plain (by decide) (by decide) (by decide) rfl hf bound
    | false => exact fun fuel bound rest _ _ hf =>
        readValue_plain (by decide) (by decide) (by decide) rfl hf bound
  | int depth few => exact readsBack_int depth few
  | text depth unpaired => exact readsBack_text depth unpaired
  | array inside ih => exact readsBack_array inside ih
  | object distinct unpaired inside ih => exact readsBack_object distinct unpaired inside ih

/-- The text of a plain value that is not nested too deeply is read as the value. -/
theorem parse_render {j : Json} (h : Plain ascii depth j) (hd : depth ≤ Value.maxDepth) :
    parse (render ascii j) = .ok j := by
  have hread := readValue_render h (2 * (render ascii j).length + 2) Value.maxDepth [] hd
    (fun _ hc => nomatch hc) (by rw [List.append_nil]; omega)
  have hskip := skipWhitespace_render h []
  rw [List.append_nil] at hread hskip
  rw [parse, readDocument, hskip, hread]
  rfl

end Json

end RavenBinding
