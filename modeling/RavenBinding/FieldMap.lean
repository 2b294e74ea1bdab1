/-!
# Ordered maps

A field map is a list of entries in the order in which their keys were first written. Writing to a
key that is there keeps its place.

## Main definitions

- `FieldMap`: the type
- `FieldMap.get?`, `FieldMap.insert`, `FieldMap.erase`, `FieldMap.ofList`
-/

namespace RavenBinding

/-- Entries in the order of their first writing. -/
abbrev FieldMap (κ α : Type) := List (κ × α)

namespace FieldMap

variable {κ α β : Type} [BEq κ]

/-- The value of the first entry under a key. -/
def get? : FieldMap κ α → κ → Option α
  | [], _ => none
  | (k, v) :: rest, key => if k == key then some v else get? rest key

/-- Whether a key has an entry. -/
def hasKey (m : FieldMap κ α) (key : κ) : Bool := m.any fun e => e.1 == key

/-- The map with a value under a key: in the place of the key if it has one, at the end if not. -/
def insert : FieldMap κ α → κ → α → FieldMap κ α
  | [], key, value => [(key, value)]
  | (k, v) :: rest, key, value =>
    if k == key then (k, value) :: rest else (k, v) :: insert rest key value

/-- The map without the entries under a key. -/
def erase (m : FieldMap κ α) (key : κ) : FieldMap κ α := m.filter fun e => !(e.1 == key)

/-- The map with all entries of a list written in order. -/
def insertAll (m : FieldMap κ α) (entries : List (κ × α)) : FieldMap κ α :=
  entries.foldl (fun m e => insert m e.1 e.2) m

/-- The map that a list of entries writes: of equal keys the first place and the last value. -/
def ofList (entries : List (κ × α)) : FieldMap κ α := insertAll [] entries

/-- The keys in order. -/
def keys (m : FieldMap κ α) : List κ := m.map Prod.fst

/-- No two entries have one key. -/
def NodupKeys (m : FieldMap κ α) : Prop := (keys m).Nodup

omit [BEq κ] in
theorem keys_cons (e : κ × α) (m : FieldMap κ α) : keys (e :: m) = e.1 :: keys m := rfl

theorem get?_insert_self [LawfulBEq κ] (m : FieldMap κ α) (key : κ) (value : α) :
    get? (insert m key value) key = some value := by
  induction m with
  | nil => simp [insert, get?]
  | cons e m ih =>
    by_cases h : e.1 == key
    · simp [insert, get?, h]
    · simp [insert, get?, h, ih]

theorem get?_insert_of_ne [LawfulBEq κ] (m : FieldMap κ α) {key other : κ} (value : α)
    (h : key ≠ other) : get? (insert m key value) other = get? m other := by
  induction m with
  | nil => simp [insert, get?, h]
  | cons e m ih =>
    by_cases hk : e.1 == key
    · have he : e.1 = key := by simpa using hk
      simp [insert, get?, he, h]
    · simp [insert, get?, hk, ih]

end FieldMap

end RavenBinding
