import RavenBinding.Http.Url
import RavenBinding.Proofs.Http.PercentRoundTrip
import RavenBinding.Proofs.Number.DecimalRoundTrip
import RavenBinding.Proofs.Text.Cutting

/-!
# Plain hosts and ports

A plain host is a name in ASCII, an address of four numbers, or an address of groups in square
brackets. It is read without an error, and what it settles to, a name in lower case, is plain again
and settles to itself. The same goes for a port in digits.

## Main definitions

- `PlainHost`: hosts as they are written in a URL
- `PlainHost.settled`, `PlainHost.bare`: the host after reading, as it is written and as it is kept
- `PlainPort`: ports as they are written in a URL

## Main statements

- `PlainHost.readHost_eq`, `PlainPort.readPort_eq`: reading succeeds
- `PlainHost.cutHost_append`: host and port come apart
-/

namespace RavenBinding

namespace Url

/-- What a host name may be made of. -/
def IsNameCharacter (c : CodePoint) : Prop :=
  (Percent.isUnreserved c || isHostSafe c) = true

instance (c : CodePoint) : Decidable (IsNameCharacter c) :=
  inferInstanceAs (Decidable (_ = true))

/-- What an address of groups may be made of. -/
def IsAddressCharacter (c : CodePoint) : Prop :=
  c.hexValue?.isSome = true ∨ c = CodePoint.ofChar ':' ∨ c = CodePoint.ofChar '.'

instance (c : CodePoint) : Decidable (IsAddressCharacter c) :=
  inferInstanceAs (Decidable (_ ∨ _ ∨ _))

/-- A graphic ASCII character other than the marks between the components of a URL. -/
def IsInAuthority (c : CodePoint) : Prop :=
  0x20 < c.val ∧ c.val < 0x7F ∧ c.val ≠ 0x23 ∧ c.val ≠ 0x2F ∧ c.val ≠ 0x3F ∧ c.val ≠ 0x40

theorem IsNameCharacter.bounds {c : CodePoint} (h : IsNameCharacter c) :
    IsInAuthority c ∧ c.val ≠ 0x3A ∧ c.val ≠ 0x5B ∧ c.val ≠ 0x5D := by
  simp only [IsNameCharacter, Percent.isUnreserved, isHostSafe, graphicExcept, CodePoint.isLetter,
    CodePoint.isDigit, Bool.or_eq_true, Bool.and_eq_true, decide_eq_true_eq] at h
  simp [IsInAuthority] at h ⊢
  omega

theorem hexValue?_bounds {c : CodePoint} (h : c.hexValue?.isSome = true) :
    0x30 ≤ c.val ∧ c.val ≤ 0x39 ∨ 0x41 ≤ c.val ∧ c.val ≤ 0x46 ∨ 0x61 ≤ c.val ∧ c.val ≤ 0x66 := by
  by_cases hd : c.isDigit = true
  · exact Or.inl (by simpa [CodePoint.isDigit] using hd)
  · by_cases hu : (0x41 ≤ c.val && c.val ≤ 0x46) = true
    · exact Or.inr (Or.inl (by simpa using hu))
    · by_cases hl : (0x61 ≤ c.val && c.val ≤ 0x66) = true
      · exact Or.inr (Or.inr (by simpa using hl))
      · rw [CodePoint.hexValue?, if_neg hd, if_neg hu, if_neg hl] at h
        cases h

theorem IsAddressCharacter.bounds {c : CodePoint} (h : IsAddressCharacter c) :
    IsInAuthority c ∧ c.val ≠ 0x25 ∧ c.val ≠ 0x5B ∧ c.val ≠ 0x5D ∧ c.val ≠ 0x76 ∧ c.val ≠ 0x78 := by
  rcases h with h | rfl | rfl
  · have := hexValue?_bounds h
    simp only [IsInAuthority]
    omega
  · simp only [IsInAuthority]; decide
  · simp only [IsInAuthority]; decide

end Url

open Url

/-- A host that is written plainly. -/
inductive PlainHost where
  /-- A name, or an address of four numbers. A name with the mark of other scripts has to be one
  that reads back. -/
  | name (host : Text) (ne_nil : host ≠ []) (characters : ∀ c ∈ host, IsNameCharacter c)
      (numeric : Address.looksNumeric host = true → Address.isVersion4 host = true)
      (marked : HostName.mark.isPrefixOf host.toLowerAscii = true →
        ∃ t, HostName.toUnicode host.toLowerAscii = .ok t)
  /-- An address of groups, which is written in square brackets. -/
  | groups (address : Text) (version6 : Address.isVersion6 address = true)
      (characters : ∀ c ∈ address, IsAddressCharacter c)

namespace PlainHost

/-- The host as it is written. -/
def text : PlainHost → Text
  | name host _ _ _ _ => host
  | groups address _ _ => CodePoint.ofChar '[' :: (address ++ [CodePoint.ofChar ']'])

/-- The host as a URL keeps it. -/
def bare : PlainHost → Text
  | name host _ _ _ _ => host.toLowerAscii
  | groups address _ _ => address

theorem isInAuthority_of_mem_text {p : PlainHost} {c : CodePoint} (h : c ∈ p.text) :
    IsInAuthority c := by
  cases p with
  | name host hne hc hn hm => exact (hc c h).bounds.1
  | groups address hv hc =>
    simp only [text, List.mem_cons, List.mem_append, List.not_mem_nil, or_false] at h
    rcases h with rfl | h | rfl
    · simp only [IsInAuthority]; decide
    · exact (hc c h).bounds.1
    · simp only [IsInAuthority]; decide

end PlainHost

/-! ### Lower case -/

namespace Text

theorem val_toLowerAscii (c : CodePoint) :
    c.toLowerAscii.val = if 0x41 ≤ c.val ∧ c.val ≤ 0x5A then c.val + 0x20 else c.val := by
  have hc := c.isLt
  by_cases h : 0x41 ≤ c.val ∧ c.val ≤ 0x5A
  · rw [CodePoint.toLowerAscii, if_pos (by simpa using h), if_pos h, CodePoint.val_ofNat (by omega)]
  · rw [CodePoint.toLowerAscii, if_neg (by simpa using h), if_neg h]

theorem toLowerAscii_toLowerAscii (t : Text) : t.toLowerAscii.toLowerAscii = t.toLowerAscii := by
  simp only [toLowerAscii, List.map_map]
  refine List.map_congr_left fun c _ => Fin.ext ?_
  rw [Function.comp_apply, val_toLowerAscii, val_toLowerAscii]
  split
  · rw [if_neg (by omega)]
  · rfl

/-- A text whose lower case has no letters is in lower case. -/
theorem toLowerAscii_of_no_letters {t : Text}
    (h : ∀ c ∈ t.toLowerAscii, c.isLetter = false) : t.toLowerAscii = t := by
  refine (List.map_congr_left fun c hc => ?_).trans (List.map_id t)
  have hl := h c.toLowerAscii (List.mem_map.2 ⟨c, hc, rfl⟩)
  simp only [CodePoint.isLetter, val_toLowerAscii, Bool.or_eq_false_iff, Bool.and_eq_false_iff,
    decide_eq_false_iff_not] at hl
  refine Fin.ext ?_
  rw [val_toLowerAscii, if_neg, id]
  intro hu
  rw [if_pos hu] at hl
  omega

end Text

theorem Url.IsNameCharacter.toLowerAscii {c : CodePoint} (h : IsNameCharacter c) :
    IsNameCharacter c.toLowerAscii := by
  by_cases hu : 0x41 ≤ c.val ∧ c.val ≤ 0x5A
  · have hv : c.toLowerAscii.val = c.val + 0x20 := by rw [Text.val_toLowerAscii, if_pos hu]
    have hl : c.toLowerAscii.isLetter = true := by
      simp only [CodePoint.isLetter, hv, Bool.or_eq_true, Bool.and_eq_true, decide_eq_true_eq]
      omega
    simp [IsNameCharacter, Percent.isUnreserved, hl]
  · have he : c.toLowerAscii = c := Fin.ext (by rw [Text.val_toLowerAscii, if_neg hu])
    rwa [he]

/-- Four runs of digits hold digits and full stops. -/
theorem Address.isDigit_of_looksNumeric {t : Text} (h : looksNumeric t = true) {c : CodePoint}
    (hc : c ∈ t) : c.isDigit = true ∨ c = CodePoint.ofChar '.' := by
  by_cases hd : c = CodePoint.ofChar '.'
  · exact Or.inr hd
  · obtain ⟨run, hrun, hm⟩ := Text.mem_of_mem_splitOn hc hd
    simp only [looksNumeric, Bool.and_eq_true, List.all_eq_true] at h
    exact Or.inl ((h.2 run hrun).2 c hm)

/-- Digits and full stops are in lower case. -/
theorem Address.toLowerAscii_of_looksNumeric {t : Text} (h : looksNumeric t.toLowerAscii = true) :
    t.toLowerAscii = t := by
  refine Text.toLowerAscii_of_no_letters fun c hc => ?_
  rcases isDigit_of_looksNumeric h hc with hd | rfl
  · simp only [CodePoint.isDigit, Bool.and_eq_true, decide_eq_true_eq] at hd
    simp [CodePoint.isLetter]
    omega
  · decide

namespace PlainHost

/-- The host in its final form. -/
def settled : PlainHost → PlainHost
  | name host hne hc hn hm =>
    name host.toLowerAscii (by simpa [Text.toLowerAscii] using hne)
      (by
        intro c h
        obtain ⟨d, hd, rfl⟩ := List.mem_map.1 h
        exact (hc d hd).toLowerAscii)
      (by
        intro h
        have he := Address.toLowerAscii_of_looksNumeric h
        rw [he] at h ⊢
        exact hn h)
      (by rwa [Text.toLowerAscii_toLowerAscii])
  | groups address hv hc => groups address hv hc

theorem bare_settled (p : PlainHost) : p.settled.bare = p.bare := by
  cases p with
  | name host hne hc hn hm => exact Text.toLowerAscii_toLowerAscii host
  | groups address hv hc => rfl

theorem length_text_settled (p : PlainHost) : p.settled.text.length = p.text.length := by
  cases p with
  | name host hne hc hn hm => exact List.length_map _
  | groups address hv hc => rfl

/-- An address of groups holds a colon. -/
theorem colon_mem {address : Text} (h : Address.isVersion6 address = true)
    (hc : ∀ c ∈ address, IsAddressCharacter c) : CodePoint.ofChar ':' ∈ address := by
  have hp : CodePoint.ofChar '%' ∉ address := fun hm => (hc _ hm).bounds.2.1 rfl
  by_cases hm : CodePoint.ofChar ':' ∈ address
  · exact hm
  · -- without a colon there is a single group, which is none of eight
    rw [Address.isVersion6, Text.cut_of_not_mem hp] at h
    simp [Address.groups?, Text.splitOn_of_not_mem hm] at h

theorem bare_ne_nil (p : PlainHost) : p.bare ≠ [] := by
  cases p with
  | name host hne hc hn hm => simpa [bare, Text.toLowerAscii] using hne
  | groups address hv hc => exact List.ne_nil_of_mem (colon_mem hv hc)

theorem text_ne_nil (p : PlainHost) : p.text ≠ [] := by
  cases p with
  | name host hne hc hn hm => exact hne
  | groups address hv hc => exact List.cons_ne_nil _ _

/-- The form in which the host of a URL is written again. -/
theorem bracketed_bare (p : PlainHost) :
    (if p.bare.contains (CodePoint.ofChar ':') then
        Text.ofString "[" ++ p.bare ++ Text.ofString "]"
      else p.bare) = p.settled.text := by
  cases p with
  | name host hne hc hn hm =>
    rw [if_neg]
    · rfl
    · intro h
      obtain ⟨d, hd, he⟩ := List.mem_map.1 (List.contains_iff_mem.1 h)
      exact ((hc d hd).toLowerAscii).bounds.2.1 (he ▸ rfl)
  | groups address hv hc =>
    exact if_pos (List.contains_iff_mem.2 (colon_mem hv hc))

/-! ### Reading a host -/

theorem looksNumeric_groups {address : Text} :
    Address.looksNumeric (CodePoint.ofChar '[' :: address) = false := by
  cases h : Address.looksNumeric (CodePoint.ofChar '[' :: address) with
  | false => rfl
  | true =>
    rcases Address.isDigit_of_looksNumeric h List.mem_cons_self with hd | hd
    · exact absurd hd (by decide)
    · exact absurd hd (by decide)

theorem readHost_name {host : Text} (hne : host ≠ []) (hc : ∀ c ∈ host, IsNameCharacter c)
    (hn : Address.looksNumeric host = true → Address.isVersion4 host = true) :
    readHost host = .ok host.toLowerAscii := by
  have hempty : ¬host.isEmpty = true := by simpa using hne
  rw [readHost, if_neg hempty]
  by_cases hnum : Address.looksNumeric host = true
  · -- digits and full stops have no lower case
    have hlower : host.toLowerAscii = host := by
      refine Text.toLowerAscii_of_no_letters fun c h => ?_
      obtain ⟨d, hd, rfl⟩ := List.mem_map.1 h
      rcases Address.isDigit_of_looksNumeric hnum hd with hd | rfl
      · simp only [CodePoint.isDigit, Bool.and_eq_true, decide_eq_true_eq] at hd
        have hv : d.toLowerAscii.val = d.val := by rw [Text.val_toLowerAscii, if_neg (by omega)]
        simp [CodePoint.isLetter, hv]
        omega
      · decide
    rw [if_pos hnum, if_pos (hn hnum), hlower]
  · have hbracket : ¬((host.head? = some (CodePoint.ofChar '[')
        && host.getLast? = some (CodePoint.ofChar ']')) = true) := by
      simp only [Bool.and_eq_true, decide_eq_true_eq, not_and]
      intro hh
      exact absurd rfl (hc _ (List.mem_of_head? hh)).bounds.2.2.1
    have hascii : Text.isAscii host = true := by
      rw [Text.isAscii, List.all_eq_true]
      intro c h
      have := (hc c h).bounds.1
      simp only [IsInAuthority] at this
      simp [CodePoint.isAscii]
      omega
    rw [if_neg hnum, if_neg hbracket, if_pos hascii, Percent.flatMap_encodeUnless_of_safe]
    intro c h
    obtain ⟨d, hd, rfl⟩ := List.mem_map.1 h
    exact (hc d hd).toLowerAscii

theorem readHost_groups {address : Text} (hv : Address.isVersion6 address = true) :
    readHost (CodePoint.ofChar '[' :: (address ++ [CodePoint.ofChar ']'])) = .ok address := by
  have hinner : ((CodePoint.ofChar '[' :: (address ++ [CodePoint.ofChar ']'])).drop 1).dropLast
      = address := by simp
  have hlast : (CodePoint.ofChar '[' :: (address ++ [CodePoint.ofChar ']'])).getLast?
      = some (CodePoint.ofChar ']') := by simp [List.getLast?_cons]
  rw [readHost, if_neg (by simp), looksNumeric_groups, if_neg Bool.false_ne_true,
    if_pos (by rw [hlast]; simp), hinner]
  simp only [hv, if_true]

/-- A plain host is read as it is kept. -/
theorem readHost_eq (p : PlainHost) : readHost p.text = .ok p.bare := by
  cases p with
  | name host hne hc hn hm => exact readHost_name hne hc hn
  | groups address hv hc => exact readHost_groups hv

/-! ### Host and port -/

theorem takeWhile_name {host : Text} (hc : ∀ c ∈ host, IsNameCharacter c) {rest : Text}
    (hr : ∀ c ∈ rest.head?, c = CodePoint.ofChar ':') :
    (host ++ rest).takeWhile (fun c => !(c.val = 0x3A || c.val = 0x40 : Bool)) = host
      ∧ (host ++ rest).dropWhile (fun c => !(c.val = 0x3A || c.val = 0x40 : Bool)) = rest := by
  have hall : ∀ c ∈ host, (!(c.val = 0x3A || c.val = 0x40 : Bool)) = true := by
    intro c h
    have hb := (hc c h).bounds
    simp [hb.2.1, hb.1.2.2.2.2.2]
  rw [List.takeWhile_append_of_pos hall, List.dropWhile_append_of_pos hall]
  cases rest with
  | nil => simp
  | cons c rest =>
    obtain rfl := hr c rfl
    rw [List.takeWhile_cons, List.dropWhile_cons]
    exact ⟨List.append_nil host, rfl⟩

/-- What follows a host, without its colon. -/
theorem drop_colon (host rest : Text) :
    (∀ c ∈ rest.head?, c = CodePoint.ofChar ':') →
      (match rest with
        | c :: port => (host, if c.val = 0x3A then port else rest)
        | [] => (host, [])) = (host, rest.drop 1) := by
  intro hr
  cases rest with
  | nil => rfl
  | cons c port =>
    obtain rfl := hr c rfl
    rfl

/-- A plain host comes apart from what follows it, which begins with a colon if there is any. -/
theorem cutHost_append (p : PlainHost) {rest : Text}
    (hr : ∀ c ∈ rest.head?, c = CodePoint.ofChar ':') (hb : CodePoint.ofChar ']' ∉ rest) :
    cutHost (p.text ++ rest) = (p.text, rest.drop 1) := by
  cases p with
  | name host hne hc hn hm =>
    obtain ⟨htake, hdrop⟩ := takeWhile_name hc hr
    have hbracket : ¬(host ++ rest).head? = some (CodePoint.ofChar '[') := by
      cases host with
      | nil => exact absurd rfl hne
      | cons c host =>
        intro h
        exact absurd rfl ((Option.some.inj h) ▸ hc c List.mem_cons_self).bounds.2.2.1
    change cutHost (host ++ rest) = (host, rest.drop 1)
    simp only [cutHost, if_neg hbracket, Option.getD_none, htake, hdrop]
    exact drop_colon host rest hr
  | groups address hv hc =>
    have ha : text (groups address hv hc) ++ rest =
        CodePoint.ofChar '[' :: address ++ CodePoint.ofChar ']' :: rest := by
      simp [text]
    have hcut := Text.cutLast_append_cons hb (CodePoint.ofChar '[' :: address)
    have hhead : (CodePoint.ofChar '[' :: address ++ CodePoint.ofChar ']' :: rest).head?
        = some (CodePoint.ofChar '[') := rfl
    rw [ha]
    simp only [cutHost, hcut, if_pos hhead, Option.getD_some]
    exact drop_colon _ rest hr

end PlainHost

/-! ### Ports -/

/-- A port that is written in digits. -/
structure PlainPort where
  digits : Text
  isDigit : ∀ c ∈ digits, c.isDigit = true
  ne_nil : digits ≠ []
  few : digits.length ≤ Numeral.maxDigits

namespace PlainPort

/-- The number of the port. -/
def number (q : PlainPort) : Nat := Numeral.ofDigits (q.digits.map CodePoint.decimal)

/-- The port as a URL with the scheme `http` keeps it. -/
def kept (q : PlainPort) : Option Nat := if q.number = 80 then none else some q.number

theorem number_lt_pow_length (q : PlainPort) : q.number < Nat.pow 10 q.digits.length := by
  rw [number, ← List.length_map CodePoint.decimal]
  refine Numeral.ofDigits_lt fun d hd => ?_
  obtain ⟨c, hc, rfl⟩ := List.mem_map.1 hd
  exact CodePoint.decimal_lt (q.isDigit c hc)

theorem number_lt (q : PlainPort) : q.number < Nat.pow 10 Numeral.maxDigits := by
  have hpow : ∀ k, q.digits.length ≤ k → Nat.pow 10 q.digits.length ≤ Nat.pow 10 k :=
    fun _ hk => Nat.pow_le_pow_right (by decide) hk
  exact Nat.lt_of_lt_of_le q.number_lt_pow_length (hpow _ q.few)

/-- The port of a number that is not too long. -/
def ofNumber (n : Nat) (h : n < Nat.pow 10 Numeral.maxDigits) : PlainPort where
  digits := Text.ofNat n
  isDigit _ hc := Text.isDigit_of_mem_ofNat hc
  ne_nil := Text.ofNat_ne_nil n
  few := (Text.length_ofNat_le_iff (by decide)).2 h

theorem number_ofNumber {n : Nat} (h : n < Nat.pow 10 Numeral.maxDigits) :
    (ofNumber n h).number = n := Text.ofDigits_ofNat n

/-- A port without leading zeros is not longer than it was with them. -/
theorem length_ofNumber (q : PlainPort) :
    (ofNumber q.number q.number_lt).digits.length ≤ q.digits.length := by
  have hpos : 0 < q.digits.length := List.length_pos_iff.2 q.ne_nil
  exact (Text.length_ofNat_le_iff hpos).2 q.number_lt_pow_length

theorem defaultPort?_http : defaultPort? (Text.ofString "http") = some 80 := rfl

/-- A plain port is read as its number, and the default one is left out. -/
theorem readPort_eq (q : PlainPort) :
    readPort (Text.ofString "http") q.digits = .ok (q.kept.map Int.ofNat) := by
  have hempty : ¬q.digits.isEmpty = true := by simpa using q.ne_nil
  rw [readPort, if_neg hempty, Numeral.readInt?_of_digits q.ne_nil q.isDigit q.few]
  change Except.ok (if defaultPort? (Text.ofString "http") = some (q.number : Int) then none
    else some (q.number : Int)) = _
  rw [defaultPort?_http, kept]
  by_cases h : q.number = 80
  · rw [h]
    rfl
  · have hi : ¬(some 80 = some (q.number : Int)) := by
      intro he
      have := Option.some.inj he
      omega
    rw [if_neg hi, if_neg h]
    rfl

theorem isInAuthority_of_mem {q : PlainPort} {c : CodePoint} (h : c ∈ q.digits) :
    IsInAuthority c := by
  have hd := q.isDigit c h
  simp only [CodePoint.isDigit, Bool.and_eq_true, decide_eq_true_eq] at hd
  simp only [IsInAuthority]
  omega

theorem not_mem_digits {q : PlainPort} {c : CodePoint} (h : c.isDigit = false) :
    c ∉ q.digits := by
  intro hc
  rw [q.isDigit c hc] at h
  cases h

end PlainPort

end RavenBinding
