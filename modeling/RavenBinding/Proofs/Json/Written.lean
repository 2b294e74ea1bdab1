import RavenBinding.Proofs.Json.ReadBounds
import RavenBinding.Proofs.Record.Stored
import RavenBinding.Proofs.Text.Scalar

/-!
# Writing plain values

A plain value is its own JSON form. It has a body exactly if no text and no name in it holds a lone
surrogate, and the body is then read back as the value.

## Main definitions

- `Json.isScalar`: no text and no name at any depth holds a lone surrogate
- `Json.body`: the bytes of a value

## Main statements

- `Json.isScalar_render`: which values have a text without surrogates
- `Json.requestBody_ofJson`, `Json.exists_requestBody_ofJson_error`: which values have a body
-/

namespace RavenBinding

namespace Json

mutual

/-- No text and no name at any depth holds a lone surrogate. -/
def isScalar : Json → Bool
  | text t => t.isScalar
  | array items => itemsScalar items
  | object members => membersScalar members
  | null | bool _ | int _ | float _ => true

/-- No item holds a lone surrogate at any depth. -/
def itemsScalar : List Json → Bool
  | [] => true
  | x :: xs => isScalar x && itemsScalar xs

/-- No member holds a lone surrogate at any depth, its name included. -/
def membersScalar : List (Text × Json) → Bool
  | [] => true
  | (name, value) :: rest => name.isScalar && isScalar value && membersScalar rest

end

/-- The body of a value. -/
def body (j : Json) : Bytes := Utf8.encodeAll (j.render false)

/-! ### The text of a value -/

variable {ascii : Bool} {depth : Nat}

theorem isScalar_separator (first : Bool) :
    Text.isScalar (if first then [] else [CodePoint.ofChar ',']) = true := by
  cases first with
  | true => rfl
  | false => decide

theorem isScalar_renderItems {items : List Json}
    (h : ∀ x ∈ items, Text.isScalar (render false x) = x.isScalar) (first : Bool) :
    Text.isScalar (renderItems false first items) = itemsScalar items := by
  induction items generalizing first with
  | nil => rfl
  | cons x xs ih =>
    have hxs := ih (fun y hy => h y (List.mem_cons_of_mem x hy)) false
    rw [renderItems, Text.isScalar_append, Text.isScalar_append, isScalar_separator,
      h x List.mem_cons_self, hxs, Bool.true_and, itemsScalar]

theorem isScalar_renderPairs {members : List (Text × Json)}
    (h : ∀ e ∈ members, Text.isScalar (render false e.2) = e.2.isScalar) (first : Bool) :
    Text.isScalar (renderMembers false first members) = membersScalar members := by
  induction members generalizing first with
  | nil => rfl
  | cons e rest ih =>
    have hcolon : Text.isScalar [CodePoint.ofChar ':'] = true := by decide
    have hrest := ih (fun f hf => h f (List.mem_cons_of_mem e hf)) false
    rw [renderMembers, Text.isScalar_append, Text.isScalar_append, Text.isScalar_append,
      Text.isScalar_append, isScalar_separator, hcolon, Record.isScalar_quote,
      h e List.mem_cons_self, hrest, Bool.true_and, Bool.and_true, membersScalar]

/-- The text of a plain value has no surrogate unless a text or a name in the value has one. -/
theorem isScalar_render {j : Json} (h : Plain ascii depth j) :
    Text.isScalar (render false j) = j.isScalar := by
  induction h with
  | null => decide
  | bool depth b =>
    cases b with
    | true => decide
    | false => decide
  | int depth few => exact Text.isScalar_ofInt _
  | text depth unpaired => exact Record.isScalar_quote _
  | array inside ih =>
    have hopen : (CodePoint.ofChar '[').isSurrogate = false := by decide
    have hclose : Text.isScalar [CodePoint.ofChar ']'] = true := by decide
    rw [render, Text.isScalar_cons, Text.isScalar_append, isScalar_renderItems ih, hopen, hclose,
      isScalar, Bool.and_true]
    rfl
  | object distinct unpaired inside ih =>
    have hopen : (CodePoint.ofChar '\x7b').isSurrogate = false := by decide
    have hclose : Text.isScalar [CodePoint.ofChar '\x7d'] = true := by decide
    rw [render, Text.isScalar_cons, Text.isScalar_append, isScalar_renderPairs ih, hopen, hclose,
      isScalar, Bool.and_true]
    rfl

/-! ### The JSON form -/

theorem Plain.bounded {j : Json} (h : Plain ascii depth j) : Bounded depth j := by
  induction h with
  | null depth => exact .null depth
  | bool depth b => exact .bool depth b
  | int depth few => exact .int depth few
  | text depth unpaired => exact .text depth _
  | array inside ih => exact .array ih
  | object distinct unpaired inside ih => exact .object ih

theorem itemsToJson_of_forall {allowNan : Bool} {items : List Json}
    (h : ∀ x ∈ items, (Value.ofJson x).toJson allowNan = .ok x) :
    Value.itemsToJson allowNan (Value.ofItems items) = .ok items := by
  induction items with
  | nil => rfl
  | cons x xs ih =>
    rw [Value.ofItems, Value.itemsToJson, h x List.mem_cons_self,
      ih fun y hy => h y (List.mem_cons_of_mem x hy)]
    rfl

theorem entriesToJson_of_forall {allowNan : Bool} {members : List (Text × Json)}
    (h : ∀ e ∈ members, (Value.ofJson e.2).toJson allowNan = .ok e.2) :
    Value.entriesToJson allowNan (Value.ofMembers members) = .ok members := by
  induction members with
  | nil => rfl
  | cons e rest ih =>
    rw [Value.ofMembers, Value.entriesToJson, Value.keyToJson, h e List.mem_cons_self,
      ih fun f hf => h f (List.mem_cons_of_mem e hf)]
    rfl

/-- A plain value is its own JSON form: it has no decimals, so it does not matter which of them may
be written. -/
theorem Plain.toJson_ofJson {j : Json} (h : Plain ascii depth j) (allowNan : Bool) :
    (Value.ofJson j).toJson allowNan = .ok j := by
  induction h with
  | null => rfl
  | bool => rfl
  | int depth few => simp [Value.ofJson, Value.toJson, Value.intToJson, few]
  | text => rfl
  | array inside ih =>
    rw [Value.ofJson, Value.toJson, itemsToJson_of_forall ih]
    rfl
  | object distinct unpaired inside ih =>
    rw [Value.ofJson, Value.toJson, entriesToJson_of_forall ih]
    rfl

/-! ### The body -/

theorem requestBody_eq {j : Json} (h : Plain ascii depth j) (hd : depth ≤ Value.maxDepth) :
    requestBody (Value.ofJson j) = (Utf8.encode (j.render false)).mapError .encoding := by
  have hdepth : (Value.ofJson j).isDeep = false := h.bounded.deeperThan_ofJson hd
  rw [requestBody, Value.toJson?, hdepth, if_neg Bool.false_ne_true, h.toJson_ofJson]
  rfl

/-- A plain value without lone surrogates has a body. -/
theorem requestBody_ofJson {j : Json} (h : Plain ascii depth j) (hd : depth ≤ Value.maxDepth)
    (hscalar : j.isScalar = true) : requestBody (Value.ofJson j) = .ok j.body := by
  have htext := (isScalar_render h).trans hscalar
  rw [requestBody_eq h hd, Utf8.encode_of_isScalar htext]
  rfl

/-- A plain value with a lone surrogate has none. -/
theorem exists_requestBody_ofJson_error {j : Json} (h : Plain ascii depth j)
    (hd : depth ≤ Value.maxDepth) (hscalar : j.isScalar = false) :
    ∃ error, requestBody (Value.ofJson j) = .error (.encoding error) := by
  have htext := (isScalar_render h).trans hscalar
  obtain ⟨error, he⟩ := Utf8.encode_of_not_isScalar htext
  exact ⟨error, by rw [requestBody_eq h hd, he]; rfl⟩

end Json

end RavenBinding
