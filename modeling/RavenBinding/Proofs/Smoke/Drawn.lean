import Mathlib.Data.List.Forall2
import Mathlib.Data.List.Nodup
import RavenBinding.Proofs.FieldMap
import RavenBinding.Proofs.Number.DecimalRoundTrip
import RavenBinding.Proofs.Number.Rounding
import RavenBinding.Smoke.Workload

/-!
# The records that are drawn

Whatever the seed, the generator chooses among 62 letters and digits, the records have numbered keys
and fields, which differ, and every value has the length that was asked for.

## Main definitions

- `RecordShape.IsDrawn`, `Workload.IsDrawn`: what drawn records look like

## Main statements

- `Generator.nextBelow_lt`: a choice stays below its bound
- `Workload.isDrawn_ofSeed`: the workload of a seed is drawn
- `Workload.IsDrawn.nodupKeys_records`, `RecordShape.IsDrawn.nodupKeys`: keys and fields differ
-/

namespace RavenBinding

/-! ### Choices of the generator -/

namespace Generator

variable {α β : Type}

theorem run_bind_pure (x : StateM Generator α) (h : α → β) (g : Generator) :
    ((x >>= fun a => pure (h a)).run g).1 = h (x.run g).1 := rfl

/-- What a list of steps gives, if every step gives something of its kind. -/
theorem forall₂_mapM {f : α → StateM Generator β} {P : α → β → Prop}
    (h : ∀ a g, P a ((f a).run g).1) (l : List α) (g : Generator) :
    List.Forall₂ P l ((l.mapM f).run g).1 := by
  induction l generalizing g with
  | nil => exact .nil
  | cons a l ih =>
    rw [List.mapM_cons]
    exact .cons (h a g) (ih _)

/-- The high bits of two words make a number of 53 bits. -/
theorem shifted_lt (high low : UInt32) :
    (high >>> 5).toNat * 0x4000000 + (low >>> 6).toNat < 0x20000000000000 := by
  have hhigh := high.toNat_lt
  have hlow := low.toNat_lt
  simp only [UInt32.toNat_shiftRight, UInt32.reduceToNat, Nat.reduceMod, Nat.shiftRight_eq_div_pow,
    Nat.reducePow] at hhigh hlow ⊢
  omega

theorem nextFraction_lt (g : Generator) : (nextFraction.run g).1 < 0x20000000000000 :=
  shifted_lt _ _

/-- A letter or digit is chosen among 62. -/
theorem nextBelow_lt (g : Generator) : ((nextBelow 62).run g).1 < 62 := by
  obtain ⟨drawn, hdrawn⟩ : ∃ drawn : Nat × Generator, nextFraction.run g = (pure drawn : Id _) :=
    ⟨_, rfl⟩
  have hlt : drawn.1 < 0x20000000000000 := by
    have := nextFraction_lt g
    rw [hdrawn] at this
    exact this
  have h := Binary64.ratio_ofRatio_lt hlt
  rw [nextBelow, StateT.run_bind, hdrawn, pure_bind]
  -- the ratio is a variable from here on, so that nobody computes it
  generalize (Binary64.ofRatio false (drawn.1 * 62) 0x20000000000000).ratio = ratio at h ⊢
  exact h

end Generator

/-! ### Names -/

namespace RecordShape

theorem fieldName_injective : Function.Injective fieldName :=
  fun _ _ h => Text.ofNat_injective (List.append_cancel_left h)

theorem recordKey_injective : Function.Injective recordKey :=
  fun _ _ h => Text.ofNat_injective (List.append_cancel_left h)

/-! ### Records -/

/-- The record has the fields of the shape, with letters and digits in them. -/
structure IsDrawn (shape : RecordShape) (record : ResultMap) : Prop where
  keys : FieldMap.keys record = (List.range shape.fieldCount.toNat).map fieldName
  length : ∀ field ∈ record, field.2.length = shape.fieldLength.toNat
  letters : ∀ field ∈ record, ∀ byte ∈ field.2, ∃ i < 62, byte = letter i

variable {shape : RecordShape}

theorem IsDrawn.nodupKeys {record : ResultMap} (h : shape.IsDrawn record) : record.NodupKeys := by
  rw [FieldMap.NodupKeys, h.keys]
  exact List.Nodup.map fieldName_injective List.nodup_range

/-- What a list of numbered steps gives has the numbers of the steps. -/
theorem map_fst_of_forall₂ {α : Type} {name : Nat → Text} {P : α → Prop} {numbers : List Nat}
    {entries : List (Text × α)}
    (h : List.Forall₂ (fun i e => e.1 = name i ∧ P e.2) numbers entries) :
    entries.map Prod.fst = numbers.map name ∧ ∀ e ∈ entries, P e.2 := by
  induction h with
  | nil => exact ⟨rfl, fun _ he => nomatch he⟩
  | cons hstep _ ih =>
    refine ⟨by rw [List.map_cons, List.map_cons, hstep.1, ih.1], fun e he => ?_⟩
    rcases List.mem_cons.1 he with rfl | he
    · exact hstep.2
    · exact ih.2 e he

theorem drawValue_letters (length : Int) (g : Generator) :
    ((drawValue length).run g).1.length = length.toNat ∧
      ∀ byte ∈ ((drawValue length).run g).1, ∃ i < 62, byte = letter i := by
  have h : List.Forall₂ (fun _ byte => ∃ i < 62, byte = letter i) (List.range length.toNat)
      ((drawValue length).run g).1 :=
    Generator.forall₂_mapM (fun _ g => by
      rw [Generator.run_bind_pure]
      exact ⟨_, Generator.nextBelow_lt g, rfl⟩) _ g
  refine ⟨by rw [← h.length_eq, List.length_range], fun byte hbyte => ?_⟩
  obtain ⟨i, hi, rfl⟩ := List.mem_iff_getElem.1 hbyte
  exact h.get (by rw [h.length_eq]; exact hi) hi

theorem isDrawn_draw (shape : RecordShape) (g : Generator) :
    shape.IsDrawn ((shape.draw).run g).1 := by
  have h : List.Forall₂ (fun i e => e.1 = fieldName i ∧ (e.2.length = shape.fieldLength.toNat ∧
      ∀ byte ∈ e.2, ∃ i < 62, byte = letter i)) (List.range shape.fieldCount.toNat)
      ((shape.draw).run g).1 :=
    Generator.forall₂_mapM (fun i g => by
      rw [Generator.run_bind_pure]
      exact ⟨rfl, drawValue_letters shape.fieldLength g⟩) _ g
  obtain ⟨hkeys, hvalues⟩ := map_fst_of_forall₂
    (P := fun value : Bytes => value.length = shape.fieldLength.toNat ∧
      ∀ byte ∈ value, ∃ i < 62, byte = letter i) h
  exact ⟨hkeys, fun field hfield => (hvalues field hfield).1,
    fun field hfield => (hvalues field hfield).2⟩

end RecordShape

/-! ### Workloads -/

namespace Workload

/-- The workload has as many records of the shape as were asked for, under numbered keys. -/
structure IsDrawn (load : Workload) (shape : RecordShape) (count : Int) : Prop where
  count_eq : load.count = count
  keys : load.keys = (List.range count.toNat).map RecordShape.recordKey
  records : ∀ r ∈ load.records, shape.IsDrawn r.2

variable {load : Workload} {shape : RecordShape} {count : Int}

theorem IsDrawn.length_records (h : load.IsDrawn shape count) :
    load.records.length = count.toNat := by
  have hlength := congrArg List.length h.keys
  rw [List.length_map, List.length_range] at hlength
  exact (List.length_map _).symm.trans hlength

theorem IsDrawn.nodupKeys_records (h : load.IsDrawn shape count) :
    FieldMap.NodupKeys load.records := by
  change load.keys.Nodup
  rw [h.keys]
  exact List.Nodup.map RecordShape.recordKey_injective List.nodup_range

theorem isDrawn_ofSeed (shape : RecordShape) (count seed : Int) :
    (ofSeed shape count seed).IsDrawn shape count := by
  have h : List.Forall₂ (fun i e => e.1 = RecordShape.recordKey i ∧ shape.IsDrawn e.2)
      (List.range count.toNat) (ofSeed shape count seed).records :=
    Generator.forall₂_mapM (fun i g => by
      rw [Generator.run_bind_pure]
      exact ⟨rfl, RecordShape.isDrawn_draw shape g⟩) _ _
  obtain ⟨hkeys, hrecords⟩ := RecordShape.map_fst_of_forall₂ h
  exact ⟨rfl, hkeys, hrecords⟩

end Workload

end RavenBinding
