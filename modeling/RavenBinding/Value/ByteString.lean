import RavenBinding.Value.Basic

/-!
# Values as byte strings

Byte strings stand for themselves, a number for as many zeros, and a collection for the bytes that
its items are.

## Main definitions

- `Value.toByteString`: the bytes of a value, or the fault of having none
-/

namespace RavenBinding

namespace Value

/-- The limit of the size of a collection. -/
def sizeLimit : Int := 0x8000000000000000

/-- The byte that an item of a collection is. -/
def toByte (v : Value) : Except Fault UInt8 :=
  let inRange (i : Int) : Except Fault UInt8 :=
    if 0 ≤ i ∧ i < 256 then .ok (UInt8.ofNat i.toNat)
    else .error ⟨.valueError, "bytes must be in range(0, 256)"⟩
  match v with
  | bool b => inRange (if b then 1 else 0)
  | int i => inRange i
  | v => .error ⟨.typeError, Text.ofString "'" ++ v.typeName
      ++ Text.ofString "' object cannot be interpreted as an integer"⟩

/-- As many zeros as a number says. -/
def zeros (i : Int) : Except Fault Bytes :=
  if i < -sizeLimit ∨ sizeLimit ≤ i then
    .error ⟨.overflowError, "cannot fit 'int' into an index-sized integer"⟩
  else if i < 0 then .error ⟨.valueError, "negative count"⟩
  else .ok (List.replicate i.toNat 0)

/-- The least of the items under an order on numbers, for the members of a set. -/
def insertSorted (v : Value) : List Value → List Value
  | [] => [v]
  | w :: rest =>
    match v.numericInt?, w.numericInt? with
    | some i, some j => if i ≤ j then v :: w :: rest else w :: insertSorted v rest
    | _, _ => v :: w :: rest

/-- The items of a collection in the order in which they are visited: the numbers of a set by
size. -/
def visited (kind : SequenceKind) (items : List Value) : List Value :=
  if isSetKind kind then items.foldr insertSorted [] else items

/-- The bytes of a value. -/
def toByteString : Value → Except Fault Bytes
  | bytes _ b => .ok b
  | bool b => zeros (if b then 1 else 0)
  | int i => zeros i
  | sequence kind items => (visited kind items).mapM toByte
  | map entries => (entries.map Prod.fst).mapM toByte
  | v => .error ⟨.typeError, Text.ofString "cannot convert '" ++ v.typeName
      ++ Text.ofString "' object to bytes"⟩

end Value

end RavenBinding
