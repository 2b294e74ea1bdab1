import RavenBinding.Proofs.Json.Written
import RavenBinding.Proofs.Record.ReadBack

/-!
# Stored values that are no texts

A document may hold any JSON value. One that is no text is given to the record as its JSON text: in
printable ASCII, without white space between its parts, and such that it reads back as the value.

## Main definitions

- `Json.Place`: where a code point of JSON text stands, outside strings or inside one
- `Json.Place.outsiders`: the code points outside strings
- `Json.Compact`: a stretch of JSON text without white space outside strings

## Main statements

- `Json.compact_quote`, `Json.compact_render`: texts and values are written as compact stretches
- `Record.fieldBytes_jsonText`: the bytes of a value that is no text
-/

namespace RavenBinding

namespace Json

/-- Where a code point of JSON text stands: outside strings, inside one, or there behind a
backslash. -/
inductive Place where
  | outside
  | inside
  | escaped
  deriving DecidableEq, Repr

namespace Place

/-- Where the code point after `c` stands. -/
def next (place : Place) (c : CodePoint) : Place :=
  match place with
  | outside => if c.val = 0x22 then inside else outside
  | inside => if c.val = 0x22 then outside else if c.val = 0x5C then escaped else inside
  | escaped => inside

/-- The code points that stand outside strings, with the quotes that open them. -/
def outsiders (place : Place) : Text → Text
  | [] => []
  | c :: t => if place = outside then c :: outsiders (place.next c) t else outsiders (place.next c) t

theorem outsiders_append (place : Place) (s t : Text) :
    place.outsiders (s ++ t) = place.outsiders s ++ (s.foldl next place).outsiders t := by
  induction s generalizing place with
  | nil => rfl
  | cons c s ih =>
    rw [List.cons_append, outsiders, outsiders, List.foldl_cons, ih]
    split
    · rfl
    · rfl

end Place

/-- A stretch of JSON text that begins and ends at the same place and has no white space outside
strings. -/
structure Compact (place : Place) (t : Text) : Prop where
  returns : t.foldl Place.next place = place
  close : ∀ c ∈ place.outsiders t, isWhitespace c = false

variable {place : Place} {s t : Text} {ascii : Bool} {depth : Nat}

theorem Compact.nil (place : Place) : Compact place [] := ⟨rfl, List.forall_mem_nil _⟩

theorem Compact.append (hs : Compact place s) (ht : Compact place t) : Compact place (s ++ t) where
  returns := by rw [List.foldl_append, hs.returns, ht.returns]
  close c hc := by
    rw [Place.outsiders_append, hs.returns, List.mem_append] at hc
    exact hc.elim (hs.close c) (ht.close c)

theorem Compact.flatMap {f : CodePoint → Text} (h : ∀ c ∈ t, Compact place (f c)) :
    Compact place (t.flatMap f) := by
  induction t with
  | nil => exact .nil place
  | cons c t ih =>
    rw [List.flatMap_cons]
    exact (h c List.mem_cons_self).append (ih fun d hd => h d (List.mem_cons_of_mem c hd))

theorem Compact.of_forall (h : ∀ c ∈ t, Compact place [c]) : Compact place t := by
  simpa using Compact.flatMap h

/-! ### Inside strings -/

theorem compact_inside_of_forall (h : ∀ c ∈ t, c.val ≠ 0x22 ∧ c.val ≠ 0x5C) : Compact .inside t := by
  refine .of_forall fun c hc => ?_
  obtain ⟨hquote, hslash⟩ := h c hc
  exact ⟨by simp [Place.next, hquote, hslash], by simp [Place.outsiders]⟩

/-- A backslash takes the code point behind it along. -/
theorem compact_inside_backslash (c : CodePoint) :
    Compact .inside [CodePoint.ofChar '\\', c] :=
  ⟨rfl, by simp [Place.outsiders, Place.next, CodePoint.val_ofChar]⟩

theorem compact_unitEscape (n : Nat) : Compact .inside (unitEscape n) := by
  have hdigit : ∀ m : Fin 16, (CodePoint.hexDigit m).val ≠ 0x22 ∧
      (CodePoint.hexDigit m).val ≠ 0x5C := by decide
  refine (compact_inside_backslash _).append (compact_inside_of_forall fun c hc => ?_)
  obtain ⟨m, rfl⟩ := exists_hexDigit hc
  exact hdigit m

/-- No escape ends the string. -/
theorem compact_escape (c : CodePoint) : Compact .inside (escape ascii c) := by
  rw [escape]
  cases hshort : shortEscape? c with
  | some e =>
    obtain ⟨-, d, rfl, -, -⟩ := exists_letter hshort
    exact compact_inside_backslash d
  | none =>
    simp only
    split
    · exact compact_unitEscape _
    · split
      · split
        · exact compact_unitEscape _
        · exact (compact_unitEscape _).append (compact_unitEscape _)
      · refine compact_inside_of_forall fun d hd => ?_
        obtain rfl := List.mem_singleton.1 hd
        refine ⟨fun hquote => ?_, fun hslash => ?_⟩
        · rw [shortEscape?, hquote] at hshort
          cases hshort
        · rw [shortEscape?, hslash] at hshort
          cases hshort

/-! ### Outside strings -/

theorem compact_outside_of_forall (h : ∀ c ∈ t, 0x20 < c.val ∧ c.val ≠ 0x22) :
    Compact .outside t := by
  refine .of_forall fun c hc => ?_
  obtain ⟨hspace, hquote⟩ := h c hc
  refine ⟨by simp [Place.next, hquote], ?_⟩
  simp [Place.outsiders, isWhitespace]
  omega

/-- A text between double quotes is passed as a whole, whatever is in it. -/
theorem compact_quote (ascii : Bool) (t : Text) : Compact .outside (quote ascii t) := by
  have hinside : Compact .inside (t.flatMap (escape ascii)) :=
    Compact.flatMap fun c _ => compact_escape c
  have hopen : Place.outside.next (CodePoint.ofChar '"') = .inside := rfl
  have hclose : [CodePoint.ofChar '"'].foldl Place.next .inside = .outside := rfl
  refine ⟨?_, fun c hc => ?_⟩
  · rw [quote, List.foldl_cons, hopen, List.foldl_append, hinside.returns, hclose]
  · rw [quote, Place.outsiders, if_pos rfl, hopen, Place.outsiders_append, hinside.returns,
      List.mem_cons, List.mem_append] at hc
    rcases hc with rfl | hc | hc
    · rfl
    · exact hinside.close c hc
    · cases hc

theorem compact_mark (char : Char) (h : char ∈ ['[', ']', '{', '}', ',', ':']) :
    Compact .outside [CodePoint.ofChar char] := by
  have hmark : ∀ char ∈ ['[', ']', '{', '}', ',', ':'],
      0x20 < (CodePoint.ofChar char).val ∧ (CodePoint.ofChar char).val ≠ 0x22 := by
    simp [CodePoint.val_ofChar]
  refine compact_outside_of_forall fun c hc => ?_
  obtain rfl := List.mem_singleton.1 hc
  exact hmark char h

theorem compact_separator (first : Bool) :
    Compact .outside (if first then [] else [CodePoint.ofChar ',']) := by
  cases first with
  | true => exact .nil _
  | false => exact compact_mark ',' (by simp)

theorem compact_renderItems {items : List Json}
    (h : ∀ x ∈ items, Compact .outside (render ascii x)) (first : Bool) :
    Compact .outside (renderItems ascii first items) := by
  induction items generalizing first with
  | nil => exact .nil _
  | cons x xs ih =>
    rw [renderItems]
    exact ((compact_separator first).append (h x List.mem_cons_self)).append
      (ih (fun y hy => h y (List.mem_cons_of_mem x hy)) false)

theorem compact_renderMembers {members : List (Text × Json)}
    (h : ∀ e ∈ members, Compact .outside (render ascii e.2)) (first : Bool) :
    Compact .outside (renderMembers ascii first members) := by
  induction members generalizing first with
  | nil => exact .nil _
  | cons e rest ih =>
    rw [renderMembers]
    have hname := ((compact_separator first).append (compact_quote ascii e.1)).append
      (compact_mark ':' (by simp))
    exact (hname.append (h e List.mem_cons_self)).append
      (ih (fun f hf => h f (List.mem_cons_of_mem e hf)) false)

/-- A plain value is written without white space between its parts. -/
theorem compact_render {j : Json} (h : Plain ascii depth j) : Compact .outside (render ascii j) := by
  have hword : ∀ t ∈ [Text.ofString "null", Text.ofString "true", Text.ofString "false"],
      Compact .outside t := by
    refine fun t ht => compact_outside_of_forall ?_
    revert t
    simp [Text.ofString, CodePoint.val_ofChar]
  induction h with
  | null => exact hword (Text.ofString "null") (by simp)
  | bool depth b =>
    cases b with
    | true => exact hword (Text.ofString "true") (by simp)
    | false => exact hword (Text.ofString "false") (by simp)
  | int =>
    refine compact_outside_of_forall fun c hc => ?_
    rcases mem_ofInt hc with rfl | hc
    · decide
    · simp only [CodePoint.isDigit, Bool.and_eq_true, decide_eq_true_eq] at hc
      omega
  | text => exact compact_quote _ _
  | array inside ih =>
    rw [render]
    exact (compact_mark '[' (by simp)).append
      ((compact_renderItems ih true).append (compact_mark ']' (by simp)))
  | object distinct unpaired inside ih =>
    rw [render]
    exact (compact_mark '{' (by simp)).append
      ((compact_renderMembers ih true).append (compact_mark '}' (by simp)))

end Json

namespace Record

/-- A code point of ASCII is its own byte. -/
theorem mem_encodeAll_ascii {t : Text} (h : ∀ c ∈ t, c.val < 0x80) {b : UInt8}
    (hb : b ∈ Utf8.encodeAll t) : ∃ c ∈ t, b.toNat = c.val := by
  obtain ⟨c, hc, hb⟩ := List.mem_flatMap.1 hb
  have hlt := h c hc
  simp only [Utf8.encodeOne, if_pos hlt, List.mem_singleton] at hb
  exact ⟨c, hc, by rw [hb, UInt8.toNat_ofNat', Nat.mod_eq_of_lt (by omega)]⟩

/-- A stored value that is no text, without decimals, without integers that are too long, without
the two halves of a surrogate pair side by side in a text or a name, and not nested too deeply, has
bytes: they are printable ASCII without white space outside strings, and read back as the value,
with all members in order. -/
theorem fieldBytes_jsonText {depth : Nat} {j : Json} (h : Json.Plain true depth j)
    (hd : depth ≤ Value.maxDepth) (hother : ∀ t, j ≠ .text t) :
    ∃ bytes t, fieldBytes (Value.ofJson j) = .ok bytes ∧
      (∀ b ∈ bytes, 0x20 ≤ b.toNat ∧ b.toNat ≤ 0x7E) ∧
      Utf8.decode bytes = .ok t ∧
      (∀ c ∈ Json.Place.outside.outsiders t, Json.isWhitespace c = false) ∧
      Json.parseBody bytes = .ok j := by
  have hbytes : j.isReadable = true ∧ j.bytes = Utf8.encodeAll (j.render true) := by
    cases j with
    | text t => exact absurd rfl (hother t)
    | null | bool | int | float | array | object => exact ⟨rfl, rfl⟩
  have hprinted : ∀ c ∈ j.render true, 0x20 ≤ c.val ∧ c.val < 0x7F := fun c hc =>
    have hwritten := Json.isWritten_of_mem_render h hc
    ⟨hwritten.1, hwritten.2 rfl⟩
  refine ⟨Utf8.encodeAll (j.render true), j.render true, ?_, fun b hb => ?_,
    Utf8.decode_encodeAll _, (Json.compact_render h).close, Json.parseBody_render h hd⟩
  · rw [← hbytes.2]
    exact (fieldBytes_ofJson h.bounded hd).1 hbytes.1
  · obtain ⟨c, hc, hval⟩ := mem_encodeAll_ascii
      (fun c hc => Nat.lt_trans (hprinted c hc).2 (by decide)) hb
    have := hprinted c hc
    omega

/-- A name of two surrogates in the wrong order, a text that ends in a high one, a character that is
written as a pair, and nested collections. -/
theorem fieldBytes_jsonText_surrogates :
    let j := Json.object [
      ([CodePoint.ofNat 0xDC00, CodePoint.ofNat 0xD800], .array [.null, .bool true, .int (-7)]),
      (Text.ofString "😀\x7f", .text [CodePoint.ofChar '"', CodePoint.ofNat 0xD800]),
      ([], .object [])]
    ∃ bytes t, fieldBytes (Value.ofJson j) = .ok bytes ∧
      (∀ b ∈ bytes, 0x20 ≤ b.toNat ∧ b.toNat ≤ 0x7E) ∧
      Utf8.decode bytes = .ok t ∧
      (∀ c ∈ Json.Place.outside.outsiders t, Json.isWhitespace c = false) ∧
      Json.parseBody bytes = .ok j := by
  intro j
  have hplain : Json.Plain true 2 j := by
    refine .object (by decide) (fun _ e he => ?_) fun e he => ?_
    · simp only [List.mem_cons, List.not_mem_nil, or_false] at he
      rcases he with rfl | rfl | rfl
      · exact ⟨by decide, trivial⟩
      · exact ⟨by decide, trivial⟩
      · trivial
    · simp only [List.mem_cons, List.not_mem_nil, or_false] at he
      rcases he with rfl | rfl | rfl
      · refine .array fun x hx => ?_
        simp only [List.mem_cons, List.not_mem_nil, or_false] at hx
        rcases hx with rfl | rfl | rfl
        · exact .null 0
        · exact .bool 0 true
        · exact .int 0 (@Json.tooManyDigits_of_few [7] (by decide) (by decide) true)
      · exact .text 1 fun _ => ⟨by decide, trivial⟩
      · exact .object (by decide) (fun _ e he => absurd he List.not_mem_nil)
          fun e he => absurd he List.not_mem_nil
  exact fieldBytes_jsonText hplain (by decide) fun t => Json.noConfusion

end Record

end RavenBinding
