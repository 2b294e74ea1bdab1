import RavenBinding.FieldMap
import RavenBinding.Value.Basic

/-!
# Ordered maps whose keys differ

Writing to a map keeps its keys apart, and entries with different keys are written as they are.
Writing, erasing and looking up commute with a change of the values.

## Main statements

- `FieldMap.insertAll_of_nodup`, `FieldMap.ofList_of_nodup`: writing entries with different keys
- `FieldMap.nodupKeys_insert`, `FieldMap.nodupKeys_ofList`: keys stay apart
- `FieldMap.insert_mapValues`, `FieldMap.get?_mapValues`: another form of the values
- `FieldMap.filter_insert`, `FieldMap.filter_insertAll`: what is written under some keys
- `Value.beq_text`: keys that are texts
-/

namespace RavenBinding

theorem Value.beq_text (t u : Text) : (Value.text t == Value.text u) = (t == u) := by
  show Value.equal _ _ = _
  rw [Value.equal]

namespace FieldMap

variable {κ α β : Type}

/-- The map with every value in another form. -/
def mapValues (f : α → β) (m : FieldMap κ α) : FieldMap κ β := m.map fun e => (e.1, f e.2)

theorem keys_mapValues (f : α → β) (m : FieldMap κ α) : keys (mapValues f m) = keys m := by
  rw [keys, keys, mapValues, List.map_map]
  rfl

theorem keys_append (m entries : FieldMap κ α) : keys (m ++ entries) = keys m ++ keys entries :=
  List.map_append

instance [DecidableEq κ] (m : FieldMap κ α) : Decidable (NodupKeys m) :=
  inferInstanceAs (Decidable (keys m).Nodup)

variable [BEq κ]

/-! ### Another form of the values -/

theorem insert_mapValues (f : α → β) (m : FieldMap κ α) (key : κ) (value : α) :
    insert (mapValues f m) key (f value) = mapValues f (insert m key value) := by
  induction m with
  | nil => rfl
  | cons e m ih =>
    change insert ((e.1, f e.2) :: mapValues f m) key (f value) = _
    by_cases he : (e.1 == key) = true
    · rw [insert, insert, if_pos he, if_pos he]
      rfl
    · rw [insert, insert, if_neg he, if_neg he, ih]
      rfl

theorem get?_mapValues (f : α → β) (m : FieldMap κ α) (key : κ) :
    get? (mapValues f m) key = (get? m key).map f := by
  induction m with
  | nil => rfl
  | cons e m ih =>
    change get? ((e.1, f e.2) :: mapValues f m) key = _
    by_cases he : (e.1 == key) = true
    · rw [get?, get?, if_pos he, if_pos he]
      rfl
    · rw [get?, get?, if_neg he, if_neg he, ih]

theorem erase_mapValues (f : α → β) (m : FieldMap κ α) (key : κ) :
    erase (mapValues f m) key = mapValues f (erase m key) := by
  rw [erase, erase, mapValues, List.filter_map]
  rfl

theorem insertAll_mapValues (f : α → β) (m : FieldMap κ α) (entries : List (κ × α)) :
    insertAll (mapValues f m) (mapValues f entries) = mapValues f (insertAll m entries) := by
  induction entries generalizing m with
  | nil => rfl
  | cons e entries ih =>
    change insertAll (insert (mapValues f m) e.1 (f e.2)) (mapValues f entries) = _
    rw [insert_mapValues, ih]
    rfl

/-! ### Writing and erasing -/

/-- Writing the value that is there changes nothing. -/
theorem insert_of_get? {m : FieldMap κ α} {key : κ} {value : α} (h : get? m key = some value) :
    insert m key value = m := by
  induction m with
  | nil => cases h
  | cons e m ih =>
    by_cases he : (e.1 == key) = true
    · rw [get?, if_pos he] at h
      rw [insert, if_pos he, ← Option.some.inj h]
    · rw [get?, if_neg he] at h
      rw [insert, if_neg he, ih h]

theorem get?_erase_self (m : FieldMap κ α) (key : κ) : get? (erase m key) key = none := by
  induction m with
  | nil => rfl
  | cons e m ih =>
    by_cases h : e.1 == key
    · simpa [erase, h] using ih
    · simpa [erase, get?, h] using ih

variable [LawfulBEq κ]

theorem insert_of_not_mem {m : FieldMap κ α} {key : κ} (h : key ∉ keys m) (value : α) :
    insert m key value = m ++ [(key, value)] := by
  induction m with
  | nil => rfl
  | cons e m ih =>
    have hne : ¬(e.1 == key) = true := fun he => h (eq_of_beq he ▸ List.mem_cons_self)
    rw [insert, if_neg hne, ih fun hm => h (List.mem_cons_of_mem _ hm)]
    rfl

theorem insert_insert (m : FieldMap κ α) (key : κ) (first second : α) :
    insert (insert m key first) key second = insert m key second := by
  induction m with
  | nil => simp [insert]
  | cons e m ih =>
    by_cases he : (e.1 == key) = true
    · rw [insert, if_pos he, insert, if_pos he, insert, if_pos he]
    · rw [insert, if_neg he, insert, if_neg he, insert, if_neg he, ih]

theorem get?_erase_of_ne (m : FieldMap κ α) {key other : κ} (h : key ≠ other) :
    get? (erase m key) other = get? m other := by
  induction m with
  | nil => rfl
  | cons e m ih =>
    by_cases hk : e.1 == key
    · have he : e.1 = key := by simpa using hk
      simpa [erase, get?, he, h] using ih
    · have hcons : erase (e :: m) key = e :: erase m key := List.filter_cons_of_pos (by simp [hk])
      simp only [hcons, get?, ih]

/-- A key is written into its place or behind all others. -/
theorem keys_insert (m : FieldMap κ α) (key : κ) (value : α) :
    (key ∈ keys m → keys (insert m key value) = keys m) ∧
      (key ∉ keys m → keys (insert m key value) = keys m ++ [key]) := by
  constructor
  · intro h
    induction m with
    | nil => exact absurd h List.not_mem_nil
    | cons e m ih =>
      by_cases he : (e.1 == key) = true
      · rw [insert, if_pos he, keys_cons, keys_cons, eq_of_beq he]
      · rw [insert, if_neg he, keys_cons, keys_cons]
        refine congrArg (e.1 :: ·) (ih ((List.mem_cons.1 h).resolve_left fun hk => he ?_))
        exact beq_iff_eq.2 hk.symm
  · intro h
    rw [insert_of_not_mem h, keys_append]
    rfl

theorem mem_keys_insert {m : FieldMap κ α} {key name : κ} {value : α} :
    name ∈ keys (insert m key value) ↔ name = key ∨ name ∈ keys m := by
  by_cases hk : key ∈ keys m
  · rw [(keys_insert m key value).1 hk, or_iff_right_of_imp]
    exact fun h => h ▸ hk
  · rw [(keys_insert m key value).2 hk, List.mem_append, List.mem_singleton, or_comm]

theorem nodupKeys_insert {m : FieldMap κ α} (h : NodupKeys m) (key : κ) (value : α) :
    NodupKeys (insert m key value) := by
  by_cases hk : key ∈ keys m
  · rw [NodupKeys, (keys_insert m key value).1 hk]
    exact h
  · rw [NodupKeys, (keys_insert m key value).2 hk, List.nodup_append]
    refine ⟨h, List.nodup_cons.2 ⟨List.not_mem_nil, List.nodup_nil⟩, ?_⟩
    rintro a ha b hb rfl
    exact hk (List.mem_singleton.1 hb ▸ ha)

theorem nodupKeys_insertAll {m : FieldMap κ α} (h : NodupKeys m) (entries : List (κ × α)) :
    NodupKeys (insertAll m entries) := by
  induction entries generalizing m with
  | nil => exact h
  | cons e entries ih => exact ih (nodupKeys_insert h e.1 e.2)

theorem nodupKeys_ofList (entries : List (κ × α)) : NodupKeys (ofList entries) :=
  nodupKeys_insertAll (m := []) List.nodup_nil entries

/-- Entries whose keys differ from each other and from those of a map are put behind it. -/
theorem insertAll_of_nodup {m : FieldMap κ α} {entries : List (κ × α)}
    (h : (keys m ++ keys entries).Nodup) : insertAll m entries = m ++ entries := by
  -- each entry moves from the front of the rest to the end of the map
  induction entries generalizing m with
  | nil => exact (List.append_nil m).symm
  | cons e entries ih =>
    have hkey : e.1 ∉ keys m := by
      intro hm
      exact (List.nodup_append.1 h).2.2 e.1 hm e.1 List.mem_cons_self rfl
    have hrest : (keys (m ++ [e]) ++ keys entries).Nodup := by
      rw [keys_append, List.append_assoc]
      exact h
    have hinsert : insert m e.1 e.2 = m ++ [e] := insert_of_not_mem hkey e.2
    change insertAll (insert m e.1 e.2) entries = _
    rw [hinsert, ih hrest, List.append_assoc]
    rfl

theorem ofList_of_nodup {entries : List (κ × α)} (h : NodupKeys entries) :
    ofList entries = entries :=
  insertAll_of_nodup (m := []) h

/-! ### Entries with some keys -/

/-- Entries with some keys are written among themselves. -/
theorem filter_insert (p : κ → Bool) (m : FieldMap κ α) (key : κ) (value : α) :
    (insert m key value).filter (fun e => p e.1) =
      if p key then insert (m.filter fun e => p e.1) key value else m.filter fun e => p e.1 := by
  induction m with
  | nil =>
    cases hp : p key with
    | true => simp [insert, hp]
    | false => simp [insert, hp]
  | cons e m ih =>
    by_cases he : (e.1 == key) = true
    · obtain rfl := eq_of_beq he
      cases hp : p e.1 with
      | true => simp [insert, hp]
      | false => simp [insert, hp]
    · rw [insert, if_neg he]
      cases hp : p e.1 with
      | true =>
        rw [List.filter_cons_of_pos (by simpa using hp), List.filter_cons_of_pos (by simpa using hp),
          ih, insert, if_neg he]
        split
        · rfl
        · rfl
      | false =>
        rw [List.filter_cons_of_neg (by simp [hp]), List.filter_cons_of_neg (by simp [hp]), ih]

theorem filter_insertAll (p : κ → Bool) (m : FieldMap κ α) (entries : List (κ × α)) :
    (insertAll m entries).filter (fun e => p e.1) =
      insertAll (m.filter fun e => p e.1) (entries.filter fun e => p e.1) := by
  induction entries generalizing m with
  | nil => rfl
  | cons e entries ih =>
    have hinsert := ih (insert m e.1 e.2)
    rw [filter_insert] at hinsert
    cases hp : p e.1 with
    | true =>
      rw [List.filter_cons_of_pos (by simpa using hp)]
      rw [hp, if_pos rfl] at hinsert
      exact hinsert
    | false =>
      rw [List.filter_cons_of_neg (by simp [hp])]
      rw [hp, if_neg Bool.false_ne_true] at hinsert
      exact hinsert

/-! ### Entries one by one -/

theorem mem_of_get? {m : FieldMap κ α} {key : κ} {value : α} (h : get? m key = some value) :
    (key, value) ∈ m := by
  induction m with
  | nil => cases h
  | cons d m ih =>
    rw [get?] at h
    split at h
    · next hd =>
      obtain rfl := Option.some.inj h
      exact List.mem_cons.2 (Or.inl (by rw [← eq_of_beq hd]))
    · exact List.mem_cons_of_mem d (ih h)

theorem get?_eq_none_iff {m : FieldMap κ α} {key : κ} : get? m key = none ↔ key ∉ keys m := by
  induction m with
  | nil => exact ⟨fun _ => List.not_mem_nil, fun _ => rfl⟩
  | cons e m ih =>
    rw [get?, keys_cons, List.mem_cons, not_or]
    by_cases he : (e.1 == key) = true
    · rw [if_pos he]
      exact iff_of_false (Option.some_ne_none _) fun h => h.1 (eq_of_beq he).symm
    · rw [if_neg he, ih]
      exact ⟨fun h => ⟨fun hk => he (beq_iff_eq.2 hk.symm), h⟩, And.right⟩

theorem get?_of_mem {m : FieldMap κ α} (h : NodupKeys m) {e : κ × α} (he : e ∈ m) :
    get? m e.1 = some e.2 := by
  induction m with
  | nil => cases he
  | cons first m ih =>
    rw [NodupKeys, keys_cons, List.nodup_cons] at h
    rw [get?]
    rcases List.mem_cons.1 he with rfl | he
    · exact if_pos BEq.rfl
    · have hne : ¬(first.1 == e.1) = true := fun heq =>
        h.1 (eq_of_beq heq ▸ List.mem_map_of_mem he)
      rw [if_neg hne, ih h.2 he]

/-- What was written first, or what is written over it, or what is new. -/
theorem mem_insert {m : FieldMap κ α} {key : κ} {value : α} {e : κ × α}
    (h : e ∈ insert m key value) : e ∈ m ∨ e = (key, value) := by
  induction m with
  | nil => exact Or.inr (List.mem_singleton.1 h)
  | cons d m ih =>
    by_cases hd : (d.1 == key) = true
    · rw [insert, if_pos hd] at h
      rcases List.mem_cons.1 h with rfl | h
      · exact Or.inr (by rw [← eq_of_beq hd])
      · exact Or.inl (List.mem_cons_of_mem _ h)
    · rw [insert, if_neg hd] at h
      rcases List.mem_cons.1 h with rfl | h
      · exact Or.inl List.mem_cons_self
      · exact (ih h).imp_left (List.mem_cons_of_mem _)

end FieldMap

end RavenBinding
