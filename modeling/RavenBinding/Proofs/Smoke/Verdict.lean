import Mathlib.Data.List.Perm.Subperm
import RavenBinding.Proofs.Smoke.Drawn
import RavenBinding.Proofs.Smoke.Recording

/-!
# The verdict of the smoke workload

Whatever a binding does, the tallies of a workload that ends count every operation once, and the
phases that are reported are those with an operation that did not do what it is to do. For a read of
a record that is to give back what was inserted.

## Main definitions

- `Workload.schedule`: the calls that a workload makes, and the phases that they belong to
- `Workload.Step`, `Workload.Meets`: a call that was made, and whether it did what it is to do
- `Binding.FillsMaps`: reads leave a map in their result
- `Workload.Judges`: what the tallies of a run say of its steps

## Main statements

- `Workload.sameRecord_iff`: two maps have the same fields
- `Tally.total_ofStatuses`, `Phase.surprises_eq_nil_iff`: what a tally keeps of the statuses
- `Workload.exists_judged_steps`: every run that ends judges its steps
-/

namespace RavenBinding

/-! ### Maps with the same fields -/

namespace Workload

theorem sameRecord_iff {a b : ResultMap} (ha : a.NodupKeys) (hb : b.NodupKeys) :
    sameRecord a b = true ↔ ∀ field, a.get? field = b.get? field := by
  rw [sameRecord, Bool.and_eq_true, beq_iff_eq, List.all_eq_true]
  constructor
  · rintro ⟨hlength, hall⟩ field
    have hmem : ∀ e ∈ a, b.get? e.1 = some e.2 := fun e he => beq_iff_eq.1 (hall e he)
    cases hfield : a.get? field with
    | some value => exact (hmem _ (FieldMap.mem_of_get? hfield)).symm
    | none =>
      -- as many different names, and all those of one map in the other one
      have hsub : a.keys ⊆ b.keys := fun name hname => by
        obtain ⟨e, he, rfl⟩ := List.mem_map.1 hname
        exact List.mem_map_of_mem (FieldMap.mem_of_get? (hmem e he))
      have hperm : a.keys.Perm b.keys :=
        (List.subperm_of_subset ha hsub).perm_of_length_le (by
          rw [FieldMap.keys, FieldMap.keys, List.length_map, List.length_map, hlength])
      rw [FieldMap.get?_eq_none_iff, hperm.mem_iff] at hfield
      exact (FieldMap.get?_eq_none_iff.2 hfield).symm
  · intro h
    have hkeys : ∀ name, name ∈ a.keys ↔ name ∈ b.keys := fun name => by
      rw [← not_iff_not, ← FieldMap.get?_eq_none_iff, ← FieldMap.get?_eq_none_iff, h name]
    have hperm : a.keys.Perm b.keys := (List.perm_ext_iff_of_nodup ha hb).2 hkeys
    refine ⟨?_, fun e he => ?_⟩
    · have := hperm.length_eq
      rwa [FieldMap.keys, FieldMap.keys, List.length_map, List.length_map] at this
    · rw [← h, FieldMap.get?_of_mem ha he]
      exact beq_self_eq_true _

end Workload

/-! ### Tallies -/

namespace Tally

/-- How many statuses were counted. -/
def total (tally : Tally) : Nat := (tally.map Prod.snd).sum

theorem total_insert (tally : Tally) (status : Status) (n : Nat) :
    total (FieldMap.insert tally status n) + (FieldMap.get? tally status).getD 0 =
      total tally + n := by
  induction tally with
  | nil => simp [total, FieldMap.insert, FieldMap.get?]
  | cons e tally ih =>
    rw [FieldMap.insert, FieldMap.get?]
    simp only [total] at ih ⊢
    split
    · simp only [List.map_cons, List.sum_cons, Option.getD_some]
      omega
    · simp only [List.map_cons, List.sum_cons]
      omega

theorem total_add (tally : Tally) (status : Status) :
    (tally.add status).total = tally.total + 1 := by
  have h := total_insert tally status ((FieldMap.get? tally status).getD 0 + 1)
  rw [add]
  omega

theorem total_ofStatuses (statuses : List Status) :
    (ofStatuses statuses).total = statuses.length := by
  suffices h : ∀ tally : Tally, (statuses.foldl add tally).total = tally.total + statuses.length by
    rw [ofStatuses, h]
    exact Nat.zero_add _
  intro tally
  induction statuses generalizing tally with
  | nil => rfl
  | cons status statuses ih =>
    rw [List.foldl_cons, ih, total_add, List.length_cons]
    omega

/-- The entries of a tally are the statuses that were seen. -/
theorem mem_keys_ofStatuses {statuses : List Status} {status : Status} :
    status ∈ FieldMap.keys (ofStatuses statuses) ↔ status ∈ statuses := by
  suffices h : ∀ tally : Tally, status ∈ FieldMap.keys (statuses.foldl add tally) ↔
      status ∈ FieldMap.keys tally ∨ status ∈ statuses by
    rw [ofStatuses, h]
    exact or_iff_right List.not_mem_nil
  intro tally
  induction statuses generalizing tally with
  | nil => exact (or_iff_left List.not_mem_nil).symm
  | cons first statuses ih =>
    have hadd : status ∈ FieldMap.keys (tally.add first) ↔
        status ∈ FieldMap.keys tally ∨ status = first := by
      obtain ⟨hold, hnew⟩ := FieldMap.keys_insert tally first
        ((FieldMap.get? tally first).getD 0 + 1)
      rw [add]
      by_cases hfirst : first ∈ FieldMap.keys tally
      · rw [hold hfirst]
        exact ⟨Or.inl, fun h => h.elim id fun heq => heq ▸ hfirst⟩
      · rw [hnew hfirst, List.mem_append, List.mem_singleton]
    rw [List.foldl_cons, ih, hadd, List.mem_cons, or_assoc]

end Tally

/-- A phase has no surprises exactly if all its statuses are the expected one. -/
theorem Phase.surprises_eq_nil_iff {phase : Phase} {statuses : List Status} :
    phase.surprises (Tally.ofStatuses statuses) = [] ↔ ∀ s ∈ statuses, s = phase.expected := by
  rw [surprises, List.filter_eq_nil_iff]
  constructor
  · intro h s hs
    simpa using h s (Tally.mem_keys_ofStatuses.2 hs)
  · intro h s hs
    simpa using h s (Tally.mem_keys_ofStatuses.1 hs)

/-! ### Calls and what is made of them -/

/-- Reads leave a map in their result. -/
def Binding.FillsMaps {σ : Type} (b : Binding (StateT σ Program)) : Prop :=
  ∀ table key fields (result : ResultMap) (s : σ) (w : World), result.NodupKeys →
    (((b.read table key fields result).run s).run w).1.1.written.NodupKeys

namespace Workload

/-- The calls of a workload in order, each with its phase. -/
def schedule (load : Workload) : List (Phase × AdapterCall) :=
  load.records.map (fun r => (.insert, .record (.insert table r.1 (values r.2)))) ++
  load.records.map (fun r => (.read, .record (.read table r.1 none []))) ++
  load.records.map (fun r => (.update, .update table r.1 (values r.2))) ++
  [(.scan, .scan table (load.keys.headD []) load.count none [])] ++
  load.keys.map (fun key => (.delete, .record (.delete table key))) ++
  load.keys.map (fun key => (.readDeleted, .record (.read table key none [])))

/-- A call that was made in a phase, and its answer. -/
structure Step where
  phase : Phase
  call : AdapterCall
  answer : Outcome (List ResultMap)

/-- The operation did what it is to do. A record that is read back is in the result as it was
inserted. -/
def Meets (load : Workload) (step : Step) : Prop :=
  match step.phase with
  | .insert | .delete => step.answer.status = .ok .ok
  | .update | .scan => step.answer.status = .ok .notImplemented
  | .readDeleted => step.answer.status = .ok .notFound
  | .read =>
    step.answer.status = .ok .ok ∧
      ∃ key record written, step.call = .record (.read table key none []) ∧
        (key, record) ∈ load.records ∧ step.answer.written = [written] ∧
        ∀ field, FieldMap.get? written field = FieldMap.get? record field

/-- The steps of a phase, with the statuses that were counted for them. -/
structure PhaseRecord (load : Workload) where
  phase : Phase
  statuses : List Status
  steps : List Step
  phase_eq : ∀ step ∈ steps, step.phase = phase
  /-- The status that is expected is counted for the steps that meet what they are to do. -/
  judged : List.Forall₂ (fun status step => status = phase.expected ↔ load.Meets step)
    statuses steps

variable {load : Workload}

/-- What is counted in a phase. -/
def PhaseRecord.tally (r : PhaseRecord load) : Tally := Tally.ofStatuses r.statuses

theorem PhaseRecord.surprises_eq_nil_iff (r : PhaseRecord load) :
    r.phase.surprises r.tally = [] ↔ ∀ step ∈ r.steps, load.Meets step := by
  rw [tally, Phase.surprises_eq_nil_iff]
  have hjudged := r.judged
  generalize r.statuses = statuses, r.steps = steps at hjudged ⊢
  induction hjudged with
  | nil => exact iff_of_true (fun _ hs => nomatch hs) (fun _ hs => nomatch hs)
  | cons hstep _ ih =>
    rw [List.forall_mem_cons, List.forall_mem_cons]
    exact and_congr hstep ih

/-- The phases that are reported are those with a step that does not meet what it is to do. -/
theorem mem_unexpected_iff (records : List (PhaseRecord load)) (phase : Phase) :
    phase ∈ Phase.unexpected (records.map fun r => (r.phase, r.tally)) ↔
      ∃ step ∈ records.flatMap PhaseRecord.steps, step.phase = phase ∧ ¬load.Meets step := by
  have hreported : phase ∈ Phase.unexpected (records.map fun r => (r.phase, r.tally)) ↔
      ∃ r ∈ records, r.phase = phase ∧ r.phase.surprises r.tally ≠ [] := by
    simp only [Phase.unexpected, List.mem_map, List.mem_filter, Bool.not_eq_true',
      List.isEmpty_eq_false_iff]
    constructor
    · rintro ⟨_, ⟨⟨r, hr, rfl⟩, hsurprises⟩, hphase⟩
      exact ⟨r, hr, hphase, hsurprises⟩
    · rintro ⟨r, hr, hphase, hsurprises⟩
      exact ⟨_, ⟨⟨r, hr, rfl⟩, hsurprises⟩, hphase⟩
  rw [hreported]
  constructor
  · rintro ⟨r, hr, rfl, hsurprises⟩
    rw [Ne, r.surprises_eq_nil_iff] at hsurprises
    push Not at hsurprises
    obtain ⟨step, hstep, hnot⟩ := hsurprises
    exact ⟨step, List.mem_flatMap.2 ⟨r, hr, hstep⟩, r.phase_eq step hstep, hnot⟩
  · rintro ⟨step, hstep, rfl, hnot⟩
    obtain ⟨r, hr, hstep⟩ := List.mem_flatMap.1 hstep
    exact ⟨r, hr, (r.phase_eq step hstep).symm,
      fun hnil => hnot (r.surprises_eq_nil_iff.1 hnil step hstep)⟩

/-- The steps of a list, each of which notes its call, make a record of their phase. -/
theorem exists_record {σ α : Type} (load : Workload) (phase : Phase) {call : α → AdapterCall}
    {f : α → ExceptT Failure (StateT CallHistory (StateT σ Program)) Status} {l : List α}
    (h : ∀ a ∈ l, ∀ c status c', play (f a) c = (.ok status, c') →
      ∃ answer, c'.history = c.history ++ [(call a, answer)] ∧
        (status = phase.expected ↔ load.Meets ⟨phase, call a, answer⟩))
    {c c' : Standing σ} {statuses : List Status} (hl : play (l.mapM f) c = (.ok statuses, c')) :
    ∃ r : PhaseRecord load, r.phase = phase ∧ r.statuses = statuses ∧
      statuses.length = l.length ∧
      r.steps.map (fun step => (step.phase, step.call)) = l.map (fun a => (phase, call a)) ∧
      c'.history = c.history ++ r.steps.map fun step => (step.call, step.answer) := by
  induction l generalizing c statuses with
  | nil =>
    rw [List.mapM_nil, play_pure] at hl
    obtain ⟨hstatuses, rfl⟩ := Prod.mk.inj hl
    obtain rfl := Except.ok.inj hstatuses
    exact ⟨⟨phase, [], [], fun _ hs => (nomatch hs), .nil⟩, rfl, rfl, rfl, rfl,
      (List.append_nil _).symm⟩
  | cons a l ih =>
    rw [List.mapM_cons] at hl
    obtain ⟨status, d, hfirst, hl⟩ := exists_play_of_bind hl
    obtain ⟨rest, d', hrest, hl⟩ := exists_play_of_bind hl
    rw [play_pure] at hl
    obtain ⟨hstatuses, rfl⟩ := Prod.mk.inj hl
    obtain rfl := Except.ok.inj hstatuses
    obtain ⟨answer, hnoted, hmeets⟩ := h a List.mem_cons_self c status d hfirst
    obtain ⟨r, hphase, rfl, hlength, hcalls, hhistory⟩ :=
      ih (fun b hb => h b (List.mem_cons_of_mem _ hb)) hrest
    have hone : ∀ step ∈ ⟨phase, call a, answer⟩ :: r.steps, step.phase = phase := fun step hs => by
      rcases List.mem_cons.1 hs with rfl | hs
      · rfl
      · exact (r.phase_eq step hs).trans hphase
    refine ⟨⟨phase, status :: r.statuses, ⟨phase, call a, answer⟩ :: r.steps, hone,
      .cons hmeets (hphase ▸ r.judged)⟩, rfl, rfl, congrArg (· + 1) hlength, ?_, ?_⟩
    · rw [List.map_cons, List.map_cons, hcalls]
    · rw [hhistory, hnoted, List.append_assoc]
      rfl

/-! ### The phases of a run -/

section Run

variable {σ : Type} {b : Binding (StateT σ Program)} {c c' : Standing σ} {status : Status}

theorem meets_iff_of_ne {step : Step} (h : step.phase ≠ .read) :
    load.Meets step ↔ step.answer.status = .ok step.phase.expected := by
  rw [Meets]
  cases hphase : step.phase with
  | read => exact absurd hphase h
  | _ => exact Iff.rfl

theorem eq_expected_iff {phase : Phase} {call : AdapterCall} {answer : Outcome (List ResultMap)}
    (hphase : phase ≠ .read) (hstatus : answer.status = .ok status) :
    status = phase.expected ↔ load.Meets ⟨phase, call, answer⟩ := by
  rw [meets_iff_of_ne hphase, hstatus, Except.ok.injEq]

theorem noted_status {phase : Phase} (hphase : phase ≠ .read) {call : AdapterCall}
    {x : StateT σ Program (Except Failure Status)}
    (h : play (ExceptT.mk (Binding.noting call (fun status => ⟨[], status⟩) x)) c =
      (.ok status, c')) :
    ∃ answer, c'.history = c.history ++ [(call, answer)] ∧
      (status = phase.expected ↔ load.Meets ⟨phase, call, answer⟩) := by
  rw [play_mk_noting] at h
  obtain ⟨hstatus, rfl⟩ := Prod.mk.inj h
  exact ⟨_, rfl, eq_expected_iff hphase hstatus⟩

theorem noted_outcome {α : Type} {phase : Phase} (hphase : phase ≠ .read) {call : AdapterCall}
    {answer : Outcome α → Outcome (List ResultMap)} (hanswer : ∀ o, (answer o).status = o.status)
    {x : StateT σ Program (Outcome α)}
    (h : play (ExceptT.lift (Binding.noting call answer x) >>= fun o => reported o.status) c =
      (.ok status, c')) :
    ∃ answer, c'.history = c.history ++ [(call, answer)] ∧
      (status = phase.expected ↔ load.Meets ⟨phase, call, answer⟩) := by
  obtain ⟨d, hhistory, h⟩ := exists_play_of_lift_noting h
  rw [play_reported] at h
  obtain ⟨hstatus, rfl⟩ := Prod.mk.inj h
  exact ⟨_, hhistory, eq_expected_iff hphase ((hanswer _).trans hstatus)⟩

theorem noted_readDeleted {key : Text}
    (h : play (readDeleted b.recorded key) c = (.ok status, c')) :
    ∃ answer, c'.history = c.history ++ [(.record (.read table key none []), answer)] ∧
      (status = Phase.readDeleted.expected ↔
        load.Meets ⟨.readDeleted, .record (.read table key none []), answer⟩) := by
  refine noted_outcome (by decide) ?_ h
  exact fun _ => rfl

theorem noted_scan (h : play (load.scan b.recorded) c = (.ok status, c')) :
    ∃ answer, c'.history = c.history ++
        [(.scan table (load.keys.headD []) load.count none [], answer)] ∧
      (status = Phase.scan.expected ↔
        load.Meets ⟨.scan, .scan table (load.keys.headD []) load.count none [], answer⟩) := by
  refine noted_outcome (by decide) ?_ h
  exact fun _ => rfl

/-- A record that is read back is counted as expected exactly if the result is the record. -/
theorem noted_readBack (hb : b.FillsMaps) (hkeys : FieldMap.NodupKeys load.records)
    {key : Text} {record : ResultMap} (hmem : (key, record) ∈ load.records)
    (hrecord : record.NodupKeys)
    (h : play (readBack b.recorded key record) c = (.ok status, c')) :
    ∃ answer, c'.history = c.history ++ [(.record (.read table key none []), answer)] ∧
      (status = Phase.read.expected ↔
        load.Meets ⟨.read, .record (.read table key none []), answer⟩) := by
  obtain ⟨d, hhistory, h⟩ := exists_play_of_lift_noting h
  have hwritten := hb table key none [] c.state c.world List.nodup_nil
  generalize (((b.read table key none []).run c.state).run c.world).1.1 = outcome at *
  obtain ⟨seen, hstatus, h⟩ := exists_play_of_reported h
  have hmeets : load.Meets ⟨.read, .record (.read table key none []),
      ⟨[outcome.written], outcome.status⟩⟩ ↔
      seen = .ok ∧ sameRecord outcome.written record = true := by
    rw [Meets, sameRecord_iff hwritten hrecord]
    dsimp only
    rw [hstatus, Except.ok.injEq]
    refine and_congr_right fun _ => ⟨?_, fun hsame => ⟨key, record, _, rfl, hmem, rfl, hsame⟩⟩
    rintro ⟨key', record', written, hcall, hmem', hanswer, hsame⟩
    obtain ⟨-, rfl, -, -⟩ := RecordCall.read.inj (AdapterCall.record.inj hcall)
    obtain rfl := List.singleton_inj.1 hanswer
    obtain rfl : record = record' := Option.some.inj
      ((FieldMap.get?_of_mem hkeys hmem).symm.trans (FieldMap.get?_of_mem hkeys hmem'))
    exact hsame
  refine ⟨⟨[outcome.written], outcome.status⟩, ?_⟩
  rw [hmeets, ← hhistory]
  split at h
  · next hother =>
    obtain ⟨_, e, hlog, h⟩ := exists_play_of_bind h
    obtain ⟨world, hworld⟩ := play_log (mismatch key) d
    obtain ⟨-, rfl⟩ := Prod.mk.inj (hworld.symm.trans hlog)
    obtain ⟨herror, rfl⟩ := Prod.mk.inj h
    obtain rfl := Except.ok.inj herror
    rw [Bool.and_eq_true, Bool.not_eq_true'] at hother
    exact ⟨rfl, iff_of_false (fun heq => nomatch heq) fun hsame =>
      Bool.false_ne_true (hother.2.symm.trans hsame.2)⟩
  · next hsame =>
    obtain ⟨hseen, rfl⟩ := Prod.mk.inj h
    obtain rfl := Except.ok.inj hseen
    refine ⟨rfl, fun hok => ⟨hok, ?_⟩, And.left⟩
    obtain rfl : seen = .ok := hok
    simpa [Status.isOk] using hsame

/-- A run that ends is made of one record for each phase. -/
theorem exists_records_of_run (hb : b.FillsMaps) (hkeys : FieldMap.NodupKeys load.records)
    (hrecords : ∀ r ∈ load.records, FieldMap.NodupKeys r.2) {counts : List (Phase × Tally)}
    (h : play (load.run b.recorded) c = (.ok counts, c')) :
    ∃ records : List (PhaseRecord load), counts = records.map (fun r => (r.phase, r.tally)) ∧
      records.map PhaseRecord.phase = Phase.all ∧
      (∀ r ∈ records, r.statuses.length =
        if r.phase = .scan then 1 else load.records.length) ∧
      (records.flatMap PhaseRecord.steps).map (fun step => (step.phase, step.call)) =
        load.schedule ∧
      c'.history = c.history ++
        (records.flatMap PhaseRecord.steps).map fun step => (step.call, step.answer) := by
  obtain ⟨inserted, d₁, hinserted, h⟩ := exists_play_of_bind h
  obtain ⟨readBack, d₂, hread, h⟩ := exists_play_of_bind h
  obtain ⟨updated, d₃, hupdated, h⟩ := exists_play_of_bind h
  obtain ⟨scanned, d₄, hscanned, h⟩ := exists_play_of_bind h
  obtain ⟨deleted, d₅, hdeleted, h⟩ := exists_play_of_bind h
  obtain ⟨again, d₆, hagain, h⟩ := exists_play_of_bind h
  rw [play_pure] at h
  obtain ⟨hcounts, rfl⟩ := Prod.mk.inj h
  obtain rfl := Except.ok.inj hcounts
  obtain ⟨r₁, hp₁, hs₁, hl₁, hc₁, hh₁⟩ := exists_record load .insert
    (fun r _ _ _ _ hr => noted_status (by decide) hr) hinserted
  obtain ⟨r₂, hp₂, hs₂, hl₂, hc₂, hh₂⟩ := exists_record load .read
    (fun r hmem _ _ _ hr => noted_readBack hb hkeys hmem (hrecords r hmem) hr) hread
  obtain ⟨r₃, hp₃, hs₃, hl₃, hc₃, hh₃⟩ := exists_record load .update
    (fun r _ _ _ _ hr => noted_status (by decide) hr) hupdated
  obtain ⟨answer₄, hh₄, hmeets₄⟩ := noted_scan hscanned
  obtain ⟨r₅, hp₅, hs₅, hl₅, hc₅, hh₅⟩ := exists_record load .delete
    (fun r _ _ _ _ hr => noted_status (by decide) hr) hdeleted
  obtain ⟨r₆, hp₆, hs₆, hl₆, hc₆, hh₆⟩ := exists_record load .readDeleted
    (fun _ _ _ _ _ hr => noted_readDeleted hr) hagain
  let r₄ : PhaseRecord load := ⟨.scan, [scanned], [⟨.scan, _, answer₄⟩],
    fun step hs => by rw [List.mem_singleton.1 hs], .cons hmeets₄ .nil⟩
  have hcount : load.keys.length = load.records.length := List.length_map _
  refine ⟨[r₁, r₂, r₃, r₄, r₅, r₆], ?_, ?_, ?_, ?_, ?_⟩
  · simp only [List.map_cons, List.map_nil, PhaseRecord.tally, hp₁, hp₂, hp₃, hp₅, hp₆, hs₁, hs₂,
      hs₃, hs₅, hs₆, r₄]
  · simp only [List.map_cons, List.map_nil, hp₁, hp₂, hp₃, hp₅, hp₆, r₄]
    rfl
  · simp only [List.forall_mem_cons, hp₁, hp₂, hp₃, hp₅, hp₆, hs₁, hs₂, hs₃, hs₅, hs₆, r₄,
      reduceCtorEq, if_false, if_true]
    exact ⟨hl₁, hl₂, hl₃, rfl, hl₅.trans hcount, hl₆.trans hcount, fun _ hr => nomatch hr⟩
  · simp only [List.flatMap_cons, List.flatMap_nil, List.append_nil, List.map_append, hc₁, hc₂, hc₃,
      hc₅, hc₆, schedule, r₄, List.append_assoc]
    rfl
  · simp only [List.flatMap_cons, List.flatMap_nil, List.append_nil, List.map_append, hh₁, hh₂, hh₃,
      hh₄, hh₅, hh₆, List.append_assoc, r₄]
    rfl

end Run

end Workload

/-! ### The verdict -/

namespace Workload

/-- What a run makes of its steps: their calls are those of the schedule, the tallies count all of
them, and the phases that are reported, in order, are those with a step that does not meet what it
is to do. -/
structure Judges (load : Workload) (counts : List (Phase × Tally)) (steps : List Step) : Prop where
  calls : steps.map (fun step => (step.phase, step.call)) = load.schedule
  phases : counts.map Prod.fst = Phase.all
  totals : ∀ c ∈ counts, c.2.total = if c.1 = .scan then 1 else load.count.toNat
  ordered : (Phase.unexpected counts).Sublist Phase.all
  mem_unexpected_iff : ∀ phase, phase ∈ Phase.unexpected counts ↔
    ∃ step ∈ steps, step.phase = phase ∧ ¬load.Meets step

/-- No phase is reported exactly if all steps meet what they are to do. -/
theorem Judges.unexpected_eq_nil_iff {load : Workload} {counts : List (Phase × Tally)}
    {steps : List Step} (h : load.Judges counts steps) :
    Phase.unexpected counts = [] ↔ ∀ step ∈ steps, load.Meets step := by
  constructor
  · intro hnil step hstep
    refine Classical.byContradiction fun hnot => ?_
    have hreported := (h.mem_unexpected_iff step.phase).2 ⟨step, hstep, rfl, hnot⟩
    rw [hnil] at hreported
    cases hreported
  · intro hall
    refine List.eq_nil_iff_forall_not_mem.2 fun phase hphase => ?_
    obtain ⟨step, hstep, -, hnot⟩ := (h.mem_unexpected_iff phase).1 hphase
    exact hnot (hall step hstep)

/-- A run of a drawn workload that ends judges its steps. -/
theorem exists_judged_steps {σ : Type} {b : Binding (StateT σ Program)} (hb : b.FillsMaps)
    (shape : RecordShape) (count seed : Int) {s s' : σ} {w w' : World}
    {counts : List (Phase × Tally)}
    (h : (((ofSeed shape count seed).run b).run.run s).run w = ((.ok counts, s'), w')) :
    ∃ steps : List Step,
      ((((ofSeed shape count seed).run b.recorded).run.run []).run s).run w =
        (((.ok counts, steps.map fun step => (step.call, step.answer)), s'), w') ∧
      (ofSeed shape count seed).Judges counts steps := by
  have hdrawn := isDrawn_ofSeed shape count seed
  have herased := (erases_run (ofSeed shape count seed) b).run_eq [] s w
  rw [h] at herased
  obtain ⟨hended, hworld⟩ := Prod.mk.inj herased
  obtain ⟨hcounts, hstate⟩ := Prod.mk.inj hended
  rcases hplay : play ((ofSeed shape count seed).run b.recorded) ⟨[], s, w⟩ with ⟨ending, c⟩
  rw [hplay] at hcounts hstate hworld
  obtain rfl : ending = .ok counts := hcounts.symm
  obtain ⟨records, hrecords, hphases, hlength, hschedule, hhistory⟩ :=
    exists_records_of_run hb hdrawn.nodupKeys_records
      (fun r hr => (hdrawn.records r hr).nodupKeys) hplay
  have hnames : counts.map Prod.fst = Phase.all := by
    rw [hrecords, List.map_map]
    exact hphases
  refine ⟨records.flatMap PhaseRecord.steps, ?_, hschedule, hnames, ?_,
    hnames ▸ List.filter_sublist.map _, ?_⟩
  · rw [run_of_play hplay, hhistory, List.nil_append]
    exact congrArg₂ (fun state world => (((_, _), state), world)) hstate.symm hworld.symm
  · rw [hrecords]
    intro entry hentry
    obtain ⟨r, hr, rfl⟩ := List.mem_map.1 hentry
    rw [PhaseRecord.tally, Tally.total_ofStatuses, hlength r hr, hdrawn.length_records]
    rfl
  · rw [hrecords]
    exact mem_unexpected_iff records

end Workload

end RavenBinding
