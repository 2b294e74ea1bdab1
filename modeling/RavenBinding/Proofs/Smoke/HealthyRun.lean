import RavenBinding.Proofs.Binding.Refinement
import RavenBinding.Proofs.Record.Restored
import RavenBinding.Proofs.Smoke.Verdict
import RavenBinding.Proofs.Text.Scalar

/-!
# The smoke workload on a server that works

On a plain URL, with its database on a server that answers for itself, every workload passes. What
it inserts it reads back, and what it inserted it deletes; apart from the documents under its own
keys the database holds afterwards what it held before.

## Main definitions

- `Workload.IsFaithful`: a record that comes back as it is
- `Table.IsServed`: a world whose server has the documents of a table
- `Tally.only`: the tally of one status

## Main statements

- `Workload.read_inserted`: a record that was inserted is read back
- `Workload.exec_mapM`: a loop, from what one step of it keeps
- `Workload.passes_on_healthy_server`: the run of every drawn workload
-/

namespace RavenBinding

open AdapterAction

/-! ### Entries beside the own keys -/

namespace FieldMap

variable {κ α : Type} [BEq κ] [LawfulBEq κ]

theorem filter_erase {p : κ → Bool} {key : κ} (h : p key = false) (m : FieldMap κ α) :
    (erase m key).filter (fun e => p e.1) = m.filter fun e => p e.1 := by
  rw [erase, List.filter_filter]
  refine List.filter_congr fun e _ => ?_
  by_cases he : (e.1 == key) = true
  · rw [eq_of_beq he, h, Bool.false_and]
  · rw [Bool.eq_false_iff.2 he, Bool.not_false, Bool.and_true]

end FieldMap

/-! ### Records that come back -/

namespace Workload

/-- The record is handed over and comes back as it is: its fields differ and none is named like the
metadata, their names have no surrogates, and their bytes are well formed. -/
structure IsFaithful (record : ResultMap) : Prop where
  nodupKeys : record.NodupKeys
  names : ∀ field ∈ record, field.1.isScalar = true ∧ field.1 ≠ metadataKey
  wellFormed : ∀ field ∈ record, Utf8.WellFormed field.2

/-- The values of a record as a table takes them. -/
def fieldValues (record : ResultMap) : FieldMap Text FieldValue :=
  FieldMap.mapValues (FieldValue.bytes .bytes) record

theorem values_eq (record : ResultMap) :
    values record = FieldMap.mapValues FieldValue.toValue (fieldValues record) := by
  rw [fieldValues, FieldMap.mapValues, FieldMap.mapValues, List.map_map]
  rfl

variable {record : ResultMap}

theorem ofList_fieldValues (h : record.NodupKeys) :
    FieldMap.ofList (fieldValues record) = fieldValues record := by
  refine FieldMap.ofList_of_nodup ?_
  rw [FieldMap.NodupKeys, fieldValues, FieldMap.keys_mapValues]
  exact h

theorem IsFaithful.isStorable (h : IsFaithful record) :
    Record.isStorable (fieldValues record) = true := by
  rw [Record.isStorable, ofList_fieldValues h.nodupKeys, List.all_eq_true]
  intro e he
  obtain ⟨field, hfield, rfl⟩ := List.mem_map.1 he
  exact Bool.and_eq_true_iff.2 ⟨(h.names field hfield).1, rfl⟩

/-- A record that was inserted is read back. -/
theorem read_inserted (h : IsFaithful record) (t : Table) (settings : Settings) (key : Text) :
    (t.insert key (.ofValues (fieldValues record) h.isStorable)).read settings key none [] =
      ⟨record, .ok .ok⟩ := by
  have hkept : (StoredRecord.ofValues (fieldValues record) h.isStorable).fields =
      FieldMap.mapValues Utf8.decodeReplacing record := by
    have hcompose : FieldMap.mapValues FieldValue.kept (fieldValues record) =
        FieldMap.mapValues Utf8.decodeReplacing record := by
      rw [fieldValues, FieldMap.mapValues, FieldMap.mapValues, List.map_map]
      rfl
    refine (congrArg FieldMap.ofList hcompose).trans (FieldMap.ofList_of_nodup ?_)
    rw [FieldMap.NodupKeys, FieldMap.keys_mapValues]
    exact h.nodupKeys
  have hsought : Adapter.membersSought settings none
      (FieldMap.mapValues Utf8.decodeReplacing record) =
        FieldMap.mapValues Utf8.decodeReplacing record := by
    have hwanted : Adapter.wanted settings none = none := ite_self none
    rw [Adapter.membersSought, hwanted, Record.wantedMembers, FieldMap.erase, List.filter_filter]
    refine List.filter_eq_self.2 fun e he => ?_
    obtain ⟨field, hfield, rfl⟩ := List.mem_map.1 he
    simpa using (h.names field hfield).2
  have hback : FieldMap.mapValues Utf8.encodeAll
      (FieldMap.mapValues Utf8.decodeReplacing record) = record := by
    rw [FieldMap.mapValues, FieldMap.mapValues, List.map_map]
    refine (List.map_congr_left fun field hfield => ?_).trans (List.map_id record)
    exact Prod.ext rfl (Utf8.encodeAll_decodeReplacing_eq_iff.2 (h.wellFormed field hfield))
  have hentry : (t.insert key (.ofValues (fieldValues record) h.isStorable)).entries.get? key =
      some ⟨.record (.ofValues (fieldValues record) h.isStorable), t.nextNumber⟩ :=
    FieldMap.get?_insert_self _ _ _
  rw [Table.read, hentry]
  dsimp only
  rw [hkept, hsought, hback]
  exact congrArg (Outcome.mk · _) (FieldMap.ofList_of_nodup h.nodupKeys)

theorem read_congr {t t' : Table} {key : Text} (h : t'.entries.get? key = t.entries.get? key)
    (settings : Settings) (fields : Option (List Text)) (result : ResultMap) :
    t'.read settings key fields result = t.read settings key fields result := by
  rw [Table.read, Table.read, h]

end Workload

/-! ### Drawn records -/

namespace RecordShape

/-- Letters and digits are ASCII. -/
theorem letter_lt {i : Nat} (h : i < 62) : (letter i).toNat < 0x80 := by
  have hall : ∀ i : Fin 62, (letter i.val).toNat < 0x80 := by decide
  exact hall ⟨i, h⟩

theorem wellFormed_of_ascii {b : Bytes} (h : ∀ byte ∈ b, byte.toNat < 0x80) :
    Utf8.WellFormed b := by
  induction b with
  | nil => exact .nil
  | cons byte b ih =>
    have hbyte := h byte List.mem_cons_self
    refine .append (u := [byte]) ⟨byte.toNat, .one hbyte, Nat.zero_le _, ?_, ?_⟩
      (ih fun other hother => h other (List.mem_cons_of_mem _ hother))
    · omega
    · omega

theorem isScalar_fieldName (i : Nat) : (fieldName i).isScalar = true := by
  rw [fieldName, Text.isScalar_append, Text.isScalar_ofString, Text.isScalar_ofNat]
  rfl

theorem isScalar_recordKey (i : Nat) : (recordKey i).isScalar = true := by
  rw [recordKey, Text.isScalar_append, Text.isScalar_ofString, Text.isScalar_ofNat]
  rfl

theorem not_isDotSegment_recordKey (i : Nat) : ¬(recordKey i).IsDotSegment := by
  have hhead : (recordKey i).head? = some (CodePoint.ofChar 'u') := rfl
  rintro (heq | heq)
  · exact absurd (hhead.symm.trans (congrArg List.head? heq)) (by decide)
  · exact absurd (hhead.symm.trans (congrArg List.head? heq)) (by decide)

/-- A drawn record comes back as it is. -/
theorem IsDrawn.isFaithful {shape : RecordShape} {record : ResultMap} (h : shape.IsDrawn record) :
    Workload.IsFaithful record where
  nodupKeys := h.nodupKeys
  names := by
    intro field hfield
    have hname := List.mem_map_of_mem (f := Prod.fst) hfield
    change field.1 ∈ FieldMap.keys record at hname
    rw [h.keys] at hname
    obtain ⟨i, -, hi⟩ := List.mem_map.1 hname
    rw [← hi]
    have hhead : (fieldName i).head? = some (CodePoint.ofChar 'f') := rfl
    exact ⟨isScalar_fieldName i, fun heq =>
      absurd (hhead.symm.trans (congrArg List.head? heq)) (by decide)⟩
  wellFormed := fun field hfield => wellFormed_of_ascii fun byte hbyte => by
    obtain ⟨i, hi, rfl⟩ := h.letters field hfield byte hbyte
    exact letter_lt hi

end RecordShape

/-! ### Running a workload on an adapter -/

/-- The tally of one status that was seen a number of times. -/
def Tally.only (status : Status) (n : Nat) : Tally := if n = 0 then [] else [(status, n)]

theorem Tally.ofStatuses_replicate (status : Status) (n : Nat) :
    ofStatuses (List.replicate n status) = only status n := by
  have hadd : ∀ n k : Nat, (List.replicate k status).foldl add [(status, n + 1)] =
      [(status, n + 1 + k)] := by
    intro n k
    induction k generalizing n with
    | zero => rfl
    | succ k ih =>
      have hone : add [(status, n + 1)] status = [(status, n + 1 + 1)] := by
        simp [add, FieldMap.insert, FieldMap.get?]
      rw [List.replicate_succ, List.foldl_cons, hone, ih (n + 1), Nat.add_right_comm, Nat.add_assoc]
  cases n with
  | zero => rfl
  | succ n =>
    rw [ofStatuses, List.replicate_succ, List.foldl_cons]
    refine (hadd 0 n).trans ?_
    rw [only, if_neg (Nat.succ_ne_zero n), Nat.zero_add, Nat.add_comm]

/-- The server of the world has the documents of a table, and answers for itself. -/
structure Table.IsServed (t : Table) (others : FieldMap Text Documents) (database : Text)
    (w : World) : Prop where
  replies : w.replies = []
  server : w.server = t.server others database

namespace Workload

section Run

variable {α β : Type} {a a' : Adapter} {w w' : World}

theorem exec_run_bind {x : ExceptT Failure AdapterAction α} {r : α}
    (h : exec x.run a w = ((.ok r, a'), w')) (f : α → ExceptT Failure AdapterAction β) :
    exec (x >>= f).run a w = exec (f r).run a' w' := by
  rw [ExceptT.run_bind, exec_bind, h]

theorem exec_run_lift {x : AdapterAction α} {r : α} (h : exec x a w = ((r, a'), w')) :
    exec (ExceptT.lift x : ExceptT Failure AdapterAction α).run a w = ((.ok r, a'), w') := by
  rw [ExceptT.run_lift, ← bind_pure_comp, exec_bind, h]
  rfl

theorem exec_of_performed {x : AdapterAction (Except Failure Status)}
    {status : Except Failure Status}
    (h : exec (x >>= fun status => pure ⟨[], status⟩) a w =
      (((⟨[], status⟩ : Outcome ResultMap), a'), w')) :
    exec x a w = ((status, a'), w') := by
  rw [exec_bind, exec_pure] at h
  obtain ⟨hended, hworld⟩ := Prod.mk.inj h
  obtain ⟨houtcome, hadapter⟩ := Prod.mk.inj hended
  exact Prod.ext (Prod.ext (congrArg Outcome.status houtcome) hadapter) hworld

/-- A loop reports one status for all its items, if every step reports it and keeps what holds
before the items that are left. -/
theorem exec_mapM {f : α → ExceptT Failure AdapterAction Status} {status : Status}
    (before : List α → World → Prop)
    (h : ∀ x rest w, before (x :: rest) w →
      ∃ w', exec (f x).run a w = ((.ok status, a), w') ∧ before rest w')
    {l : List α} (hl : before l w) :
    ∃ w', exec (l.mapM f).run a w = ((.ok (List.replicate l.length status), a), w') ∧
      before [] w' := by
  induction l generalizing w with
  | nil => exact ⟨w, rfl, hl⟩
  | cons x l ih =>
    obtain ⟨w₁, hx, hrest⟩ := h x l w hl
    obtain ⟨w₂, hall, hend⟩ := ih hrest
    refine ⟨w₂, ?_, hend⟩
    rw [List.mapM_cons, exec_run_bind hx, exec_run_bind hall]
    rfl

/-- A loop whose steps keep what holds of the world. -/
theorem exec_mapM_of_kept {f : α → ExceptT Failure AdapterAction Status} {status : Status}
    {P : World → Prop} {l : List α}
    (h : ∀ x ∈ l, ∀ w, P w → ∃ w', exec (f x).run a w = ((.ok status, a), w') ∧ P w') (hP : P w) :
    ∃ w', exec (l.mapM f).run a w = ((.ok (List.replicate l.length status), a), w') ∧ P w' := by
  obtain ⟨w', hexec, -, hkept⟩ := exec_mapM (fun rest w => rest ⊆ l ∧ P w)
    (fun x rest w ⟨hsubset, hw⟩ => by
      obtain ⟨w', hexec, hw'⟩ := h x (hsubset List.mem_cons_self) w hw
      exact ⟨w', hexec, fun y hy => hsubset (List.mem_cons_of_mem x hy), hw'⟩)
    ⟨List.Subset.refl l, hP⟩
  exact ⟨w', hexec, hkept⟩

end Run

section Phases

variable {p : PlainUrl} {settings : Settings} {store : Store} {session : Session} {a : Adapter}
  {others : FieldMap Text Documents} {t : Table} {w : World} {key : Text}

variable (h : a.Ready settings store session) (hb : session.base = p.url)
  (hdot : ¬store.database.IsDotSegment)

/-- The key reaches a document of the store. -/
structure IsReached (store : Store) (key : Text) : Prop where
  database : store.database.isScalar = true
  address : Store.IsAddress store.database key

include h hb hdot in
theorem exec_insert (hk : IsReached store key) {record : ResultMap} (hr : IsFaithful record)
    (hs : t.IsServed others store.database w) :
    ∃ w', exec (Adapter.binding.insert table key (values record)) a w = ((.ok .ok, a), w') ∧
      (t.insert key (.ofValues (fieldValues record) hr.isStorable)).IsServed others
        store.database w' := by
  obtain ⟨w', hexec, hreplies, hserver⟩ := TableCall.exec_step hb hk.database hdot hs.replies
    hs.server h (.insert table key (fieldValues record))
  have hstep : (TableCall.insert table key (fieldValues record)).step settings store.database t =
      (⟨[], .ok .ok⟩, t.insert key (.ofValues (fieldValues record) hr.isStorable)) :=
    dif_pos ⟨hk.address, hr.isStorable⟩
  rw [hstep] at hexec hserver
  refine ⟨w', ?_, hreplies, hserver⟩
  rw [values_eq]
  exact exec_of_performed hexec

include h hb hdot in
theorem exec_delete (hk : IsReached store key) (hs : t.IsServed others store.database w) :
    ∃ w', exec (Adapter.binding.delete table key) a w = ((.ok .ok, a), w') ∧
      (t.delete key).IsServed others store.database w' := by
  obtain ⟨w', hexec, hreplies, hserver⟩ := TableCall.exec_step hb hk.database hdot hs.replies
    hs.server h (.delete table key)
  have hstep : (TableCall.delete table key).step settings store.database t =
      (⟨[], .ok .ok⟩, t.delete key) := dif_pos hk.address
  rw [hstep] at hexec hserver
  exact ⟨w', exec_of_performed hexec, hreplies, hserver⟩

include h hb hdot in
theorem exec_read (hk : IsReached store key) (hs : t.IsServed others store.database w) :
    ∃ w', exec (Adapter.binding.read table key none []) a w =
        ((t.read settings key none [], a), w') ∧
      t.IsServed others store.database w' := by
  obtain ⟨w', hexec, hreplies, hserver⟩ := TableCall.exec_step hb hk.database hdot hs.replies
    hs.server h (.read table key none [])
  have hstep : (TableCall.read table key none []).step settings store.database t =
      (t.read settings key none [], t) := dif_pos hk.address
  rw [hstep] at hexec hserver
  exact ⟨w', hexec, hreplies, hserver⟩

include h hb hdot in
/-- A record that is there as it was inserted is read back without a complaint. -/
theorem exec_readBack (hk : IsReached store key) {record : ResultMap} (hr : IsFaithful record)
    (hread : t.read settings key none [] = ⟨record, .ok .ok⟩)
    (hs : t.IsServed others store.database w) :
    ∃ w', exec (readBack Adapter.binding key record).run a w = ((.ok .ok, a), w') ∧
      t.IsServed others store.database w' := by
  obtain ⟨w', hexec, hserved⟩ := exec_read h hb hdot hk hs
  rw [hread] at hexec
  refine ⟨w', ?_, hserved⟩
  have hsame : sameRecord record record = true :=
    (sameRecord_iff hr.nodupKeys hr.nodupKeys).2 fun _ => rfl
  have hreported : exec (reported (.ok .ok) : ExceptT Failure AdapterAction Status).run a w' =
      ((.ok .ok, a), w') := rfl
  rw [readBack, read, exec_run_bind (exec_run_lift hexec)]
  dsimp only
  rw [exec_run_bind hreported, hsame]
  rfl

include h hb hdot in
theorem exec_readDeleted (hk : IsReached store key)
    (hread : t.read settings key none [] = ⟨[], .ok .notFound⟩)
    (hs : t.IsServed others store.database w) :
    ∃ w', exec (readDeleted Adapter.binding key).run a w = ((.ok .notFound, a), w') ∧
      t.IsServed others store.database w' := by
  obtain ⟨w', hexec, hserved⟩ := exec_read h hb hdot hk hs
  rw [hread] at hexec
  refine ⟨w', ?_, hserved⟩
  rw [readDeleted, read, exec_run_bind (exec_run_lift hexec)]
  rfl

end Phases

/-! ### All phases -/

/-- The entries that do not belong to the workload. -/
def beside {α : Type} (load : Workload) (entries : FieldMap Text α) : FieldMap Text α :=
  entries.filter fun e => !load.keys.contains e.1

theorem contains_key {load : Workload} {key : Text} (h : key ∈ load.keys) :
    (!load.keys.contains key) = false := by
  rw [List.contains_iff_mem.2 h]
  rfl

/-- While records are inserted: those that are not left are read back, and nothing else changes. -/
structure IsInserting (load : Workload) (settings : Settings) (t : Table)
    (rest : List (Text × ResultMap)) (t' : Table) : Prop where
  subset : rest ⊆ load.records
  read : ∀ r ∈ load.records, r ∈ rest ∨ t'.read settings r.1 none [] = ⟨r.2, .ok .ok⟩
  beside : load.beside t'.entries = load.beside t.entries

/-- While records are deleted: those that are not left are gone, and nothing else changes. -/
structure IsDeleting (load : Workload) (t : Table) (rest : List Text) (t' : Table) : Prop where
  subset : rest ⊆ load.keys
  gone : ∀ key ∈ load.keys, key ∈ rest ∨ t'.entries.get? key = none
  beside : load.beside t'.entries = load.beside t.entries

variable {load : Workload} {settings : Settings} {t t' : Table}

theorem IsInserting.insert {r : Text × ResultMap} {rest : List (Text × ResultMap)}
    (h : load.IsInserting settings t (r :: rest) t') (hkeys : FieldMap.NodupKeys load.records)
    (hr : IsFaithful r.2) :
    load.IsInserting settings t rest
      (t'.insert r.1 (.ofValues (fieldValues r.2) hr.isStorable)) where
  subset := fun other hother => h.subset (List.mem_cons_of_mem r hother)
  read := by
    intro other hother
    have hmem : r ∈ load.records := h.subset List.mem_cons_self
    by_cases hsame : other.1 = r.1
    · -- the keys differ, so it is the record that is inserted
      have hother' := FieldMap.get?_of_mem hkeys hother
      rw [hsame, FieldMap.get?_of_mem hkeys hmem] at hother'
      rw [hsame, ← Option.some.inj hother']
      exact Or.inr (read_inserted hr t' settings r.1)
    · refine (h.read other hother).imp (fun hleft => ?_) fun hread => ?_
      · exact (List.mem_cons.1 hleft).resolve_left fun heq => hsame (congrArg Prod.fst heq)
      · rw [read_congr (FieldMap.get?_insert_of_ne _ _ (Ne.symm hsame)), hread]
  beside := by
    have hkey : r.1 ∈ load.keys := List.mem_map_of_mem (h.subset List.mem_cons_self)
    refine (FieldMap.filter_insert (fun key => !load.keys.contains key) _ _ _).trans ?_
    rw [contains_key hkey, if_neg Bool.false_ne_true]
    exact h.beside

theorem IsDeleting.delete {key : Text} {rest : List Text}
    (h : load.IsDeleting t (key :: rest) t') : load.IsDeleting t rest (t'.delete key) where
  subset := fun other hother => h.subset (List.mem_cons_of_mem key hother)
  gone := by
    intro other hother
    by_cases hsame : other = key
    · rw [hsame]
      exact Or.inr (FieldMap.get?_erase_self _ _)
    · refine (h.gone other hother).imp (fun hleft => ?_) fun hgone => ?_
      · exact (List.mem_cons.1 hleft).resolve_left hsame
      · exact (FieldMap.get?_erase_of_ne _ (Ne.symm hsame)).trans hgone
  beside := (FieldMap.filter_erase (p := fun key => !load.keys.contains key)
    (contains_key (h.subset List.mem_cons_self)) _).trans h.beside

/-- When all records are deleted, only what does not belong to the workload is left. -/
theorem IsDeleting.entries_eq (h : load.IsDeleting t [] t') :
    t'.entries = load.beside t.entries := by
  rw [← h.beside]
  refine (List.filter_eq_self.2 fun e he => ?_).symm
  rw [Bool.not_eq_true', Bool.eq_false_iff]
  intro hcontains
  have hgone := (h.gone e.1 (List.contains_iff_mem.1 hcontains)).resolve_left List.not_mem_nil
  exact FieldMap.get?_eq_none_iff.1 hgone (List.mem_map_of_mem he)

/-- The tallies of a workload in which every operation did what it is to do. -/
def passed (n : Nat) : List (Phase × Tally) :=
  [(.insert, .only .ok n), (.read, .only .ok n), (.update, .only .notImplemented n),
    (.scan, .only .notImplemented 1), (.delete, .only .ok n), (.readDeleted, .only .notFound n)]

theorem unexpected_passed (n : Nat) : Phase.unexpected (passed n) = [] := by
  cases n with
  | zero => rfl
  | succ n => rfl

section Run

variable {p : PlainUrl} {store : Store} {session : Session} {a : Adapter}
  {others : FieldMap Text Documents} {w : World}

/-- On a server that works, all records are inserted, read back, and deleted, and nothing else
changes. -/
theorem exec_run (h : a.Ready settings store session) (hb : session.base = p.url)
    (hdot : ¬store.database.IsDotSegment) (hkeys : FieldMap.NodupKeys load.records)
    (hfaithful : ∀ r ∈ load.records, IsFaithful r.2)
    (hreached : ∀ key ∈ load.keys, IsReached store key)
    (hs : t.IsServed others store.database w) :
    ∃ (t' : Table) (w' : World), exec (load.run Adapter.binding).run a w =
        ((.ok (passed load.records.length), a), w') ∧
      t'.IsServed others store.database w' ∧ t'.entries = load.beside t.entries := by
  have hkey : ∀ r ∈ load.records, IsReached store r.1 :=
    fun r hr => hreached r.1 (List.mem_map_of_mem hr)
  obtain ⟨w₁, hinserted, t₁, hs₁, ht₁⟩ := exec_mapM
    (fun rest w => ∃ t₁ : Table, t₁.IsServed others store.database w ∧
      load.IsInserting settings t rest t₁)
    (f := fun r => ExceptT.mk (Adapter.binding.insert table r.1 (values r.2)))
    (fun r rest w ⟨t₁, hs₁, ht₁⟩ => by
      have hmem := ht₁.subset List.mem_cons_self
      obtain ⟨w', hexec, hs'⟩ := exec_insert h hb hdot (hkey r hmem) (hfaithful r hmem) hs₁
      exact ⟨w', hexec, _, hs', ht₁.insert hkeys (hfaithful r hmem)⟩)
    ⟨t, hs, fun _ hr => hr, fun _ hr => Or.inl hr, rfl⟩
  have hread : ∀ r ∈ load.records, t₁.read settings r.1 none [] = ⟨r.2, .ok .ok⟩ :=
    fun r hr => (ht₁.read r hr).resolve_left List.not_mem_nil
  -- until the first record is deleted the table stays as it is
  obtain ⟨w₂, hback, hs₂⟩ := exec_mapM_of_kept
    (f := fun r : Text × ResultMap => readBack Adapter.binding r.1 r.2)
    (fun r hr _ => exec_readBack h hb hdot (hkey r hr) (hfaithful r hr) (hread r hr)) hs₁
  obtain ⟨w₃, hupdated, hs₃⟩ := exec_mapM_of_kept (a := a)
    (f := fun r : Text × ResultMap =>
      ExceptT.mk (Adapter.binding.update table r.1 (values r.2)))
    (fun _ _ w hs => ⟨w, rfl, hs⟩) hs₂
  have hscanned : exec (load.scan Adapter.binding).run a w₃ = ((.ok .notImplemented, a), w₃) := rfl
  obtain ⟨w₄, hdeleted, t₄, hs₄, ht₄⟩ := exec_mapM
    (fun rest w => ∃ t₄ : Table, t₄.IsServed others store.database w ∧ load.IsDeleting t₁ rest t₄)
    (f := fun key => ExceptT.mk (Adapter.binding.delete table key))
    (fun key rest w ⟨t₄, hs₄, ht₄⟩ => by
      obtain ⟨w', hexec, hs'⟩ :=
        exec_delete h hb hdot (hreached key (ht₄.subset List.mem_cons_self)) hs₄
      exact ⟨w', hexec, _, hs', ht₄.delete⟩)
    ⟨t₁, hs₃, fun _ hkey => hkey, fun _ hkey => Or.inl hkey, rfl⟩
  have hgone : ∀ key ∈ load.keys, t₄.read settings key none [] = ⟨[], .ok .notFound⟩ :=
    fun key hkey => by
      rw [Table.read, (ht₄.gone key hkey).resolve_left List.not_mem_nil]
  obtain ⟨w₅, hagain, hs₅⟩ := exec_mapM_of_kept
    (f := fun key : Text => readDeleted Adapter.binding key)
    (fun key hkey _ => exec_readDeleted h hb hdot (hreached key hkey) (hgone key hkey)) hs₄
  have hlength : load.keys.length = load.records.length := List.length_map _
  refine ⟨t₄, w₅, ?_, hs₅, ht₄.entries_eq.trans ht₁.beside⟩
  rw [run, exec_run_bind hinserted, exec_run_bind hback, exec_run_bind hupdated,
    exec_run_bind hscanned, exec_run_bind hdeleted, exec_run_bind hagain]
  simp only [Tally.ofStatuses_replicate, hlength]
  rfl

/-- The key of a drawn record is reached as soon as its path can be built and is short enough. -/
theorem isReached_recordKey {i : Nat} {path : Text}
    (h : store.documentPath .get (RecordShape.recordKey i) = .ok path)
    (hshort : path.length ≤ Url.maxLength) : IsReached store (RecordShape.recordKey i) := by
  have hscalar := RecordShape.isScalar_recordKey i
  obtain ⟨database, hdatabase, -⟩ := Attempt.bind_eq_ok_iff.1 (Attempt.mapError_eq_ok_iff.1 h)
  have hd := (Percent.encodeSegment_eq_ok hdatabase).1
  rw [Store.documentPath_of_isScalar store .get hd hscalar] at h
  obtain rfl := Except.ok.inj h
  exact ⟨hd, hscalar, RecordShape.not_isDotSegment_recordKey i, hshort⟩

/-- On a plain URL, with its database on a server that works, every drawn workload passes, whatever
else the server holds: all records are inserted, read back, and deleted. Afterwards the database
holds what it held before except under the keys of the workload, and the other databases are as they
were. -/
theorem passes_on_healthy_server (shape : RecordShape) (count : Int)
    (h : a.Ready settings store session) (hb : session.base = p.url)
    (hdot : ¬store.database.IsDotSegment)
    (hshort : ∀ i < count.toNat, ∃ path,
      store.documentPath .get (RecordShape.recordKey i) = .ok path ∧ path.length ≤ Url.maxLength)
    (hw : w.replies = []) {documents : Documents}
    (hosted : w.server.databases.get? store.database = some documents) :
    (∀ seed, (ofSeed shape count seed).IsDrawn shape count) ∧
    ∀ load : Workload, load.IsDrawn shape count →
      ∃ w', exec (load.run Adapter.binding).run a w = ((.ok (passed count.toNat), a), w') ∧
        Phase.unexpected (passed count.toNat) = [] ∧
        w'.server.databases = w.server.databases.insert store.database
          (documents.filter fun d =>
            !((List.range count.toNat).map RecordShape.recordKey).contains d.1) := by
  refine ⟨isDrawn_ofSeed shape count, fun load hload => ?_⟩
  have hreached : ∀ key ∈ load.keys, IsReached store key := by
    rw [hload.keys]
    intro key hkey
    obtain ⟨i, hi, rfl⟩ := List.mem_map.1 hkey
    obtain ⟨path, hpath, hlength⟩ := hshort i (List.mem_range.1 hi)
    exact isReached_recordKey hpath hlength
  obtain ⟨t', w', hexec, hserved, hentries⟩ := exec_run h hb hdot hload.nodupKeys_records
    (fun r hr => (hload.records r hr).isFaithful) hreached
    ⟨hw, (Table.server_ofDocuments hosted).symm⟩
  rw [hload.length_records] at hexec
  refine ⟨w', hexec, unexpected_passed _, ?_⟩
  have hdocuments : t'.documents = load.beside documents := by
    rw [Table.documents, hentries, beside, beside, Table.ofDocuments, FieldMap.mapValues,
      FieldMap.mapValues, List.filter_map, List.map_map]
    exact List.map_id _
  rw [hserved.server, Table.server, hdocuments, beside, hload.keys]

/-- Two records come and go beside a document of another client; a document that was there under a
key of the workload is gone. -/
theorem passes_on_healthy_server_beside_others :
    let old : Documents := [(Text.ofString "user1", ⟨[0x5B], 0⟩), (Text.ofString "user2", ⟨[], 0⟩)]
    let server : Server :=
      { databases := [(Text.ofString "System", []), (Text.ofString "YCSB", old)] }
    ∃ w', exec ((ofSeed ⟨1, 5⟩ 2 0).run Adapter.binding).run Adapter.localhost
        { server := server } = ((.ok (passed 2), Adapter.localhost), w') ∧
      w'.server.databases = [(Text.ofString "System", []),
        (Text.ofString "YCSB", [(Text.ofString "user2", ⟨[], 0⟩)])] := by
  intro old server
  have hshort : ∀ i < (2 : Int).toNat, ∃ path,
      Store.localhost.documentPath .get (RecordShape.recordKey i) = .ok path ∧
        path.length ≤ Url.maxLength := by
    intro i hi
    have hi : i = 0 ∨ i = 1 := by omega
    obtain rfl | rfl := hi
    · exact ⟨_, rfl, by decide⟩
    · exact ⟨_, rfl, by decide⟩
  obtain ⟨hdrawn, hpasses⟩ := passes_on_healthy_server (w := { server := server }) ⟨1, 5⟩ 2
    Adapter.ready_localhost Session.base_localhost (by decide) hshort rfl rfl
  obtain ⟨w', hexec, -, hserver⟩ := hpasses _ (hdrawn 0)
  exact ⟨w', hexec, hserver⟩

end Run

end Workload

end RavenBinding
