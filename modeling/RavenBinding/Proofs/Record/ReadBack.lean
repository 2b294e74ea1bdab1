import Mathlib.Data.List.Forall2
import RavenBinding.Proofs.FieldMap
import RavenBinding.Proofs.Json.ReadBounds
import RavenBinding.Proofs.Text.Utf8RoundTrip
import RavenBinding.Record.Codec

/-!
# Reading fields back

Of the members of a document that was read, only a text with a lone surrogate has no bytes. A result
takes the wanted members up to the first such text.

## Main definitions

- `Json.isReadable`, `Json.bytes`: whether a member has bytes, and these bytes
- `Record.wantedMembers`, `Record.readable`: the members that are asked for, and those that are
  written
- `Record.IsReadAs`: a member and the entry that is written for it

## Main statements

- `Record.fieldBytes_ofJson`: the bytes of one member
- `Record.fill_cases`, `Record.fill_ofJson`: what a document writes into a result
-/

namespace RavenBinding

namespace Json

/-- Every value has bytes but a text with a lone surrogate. -/
def isReadable : Json → Bool
  | .text t => t.isScalar
  | _ => true

/-- The bytes of a member: of a text its encoding, and of any other value that of its JSON text. -/
def bytes : Json → Bytes
  | .text t => Utf8.encodeAll t
  | j => Utf8.encodeAll (j.render true)

end Json

namespace Record

theorem fieldBytes_ofJson {depth : Nat} {j : Json} (h : Json.Bounded depth j)
    (hd : depth ≤ Value.maxDepth) :
    (j.isReadable = true → fieldBytes (Value.ofJson j) = .ok j.bytes) ∧
      (j.isReadable = false → ∃ error, fieldBytes (Value.ofJson j) = .error (.encoding error)) := by
  have hjson := h.toJson?_ofJson hd
  have hother : ∀ v, Value.ofJson j = v → (∀ t, v ≠ .text t) →
      fieldBytes v = .ok (Utf8.encodeAll (j.render true)) := by
    rintro v rfl hv
    rw [fieldBytes, hjson]
    · rfl
    · exact hv
  cases j with
  | text t =>
    refine ⟨fun ht => ?_, fun ht => ?_⟩
    · rw [Value.ofJson, fieldBytes, Utf8.encode_of_isScalar ht]
      rfl
    · obtain ⟨error, he⟩ := Utf8.encode_of_not_isScalar ht
      exact ⟨error, by rw [Value.ofJson, fieldBytes, he]; rfl⟩
  | null | bool | int | float | array | object =>
    refine ⟨fun _ => hother _ rfl fun t => ?_, Bool.noConfusion⟩
    rw [Value.ofJson]
    exact Value.noConfusion

/-- The members that are asked for, all of them if none are named. -/
def wantedMembers {α : Type} (wanted : Option (List Text)) (members : FieldMap Text α) :
    FieldMap Text α :=
  members.filter fun m => wanted.all fun names => names.contains m.1

theorem wantedMembers_mapValues {α β : Type} (wanted : Option (List Text)) (f : α → β)
    (members : FieldMap Text α) :
    wantedMembers wanted (FieldMap.mapValues f members) =
      FieldMap.mapValues f (wantedMembers wanted members) := by
  rw [wantedMembers, FieldMap.mapValues, List.filter_map]
  rfl

/-- The members before the first one without bytes. -/
def readable (members : FieldMap Text Json) : FieldMap Text Json :=
  members.takeWhile fun m => m.2.isReadable

theorem readable_of_forall {members : FieldMap Text Json}
    (h : ∀ m ∈ members, m.2.isReadable = true) : readable members = members := by
  have htake : (members ++ []).takeWhile (fun m => m.2.isReadable) = members ++ [] :=
    List.takeWhile_append_of_pos h
  rw [List.append_nil] at htake
  exact htake

theorem readable_of_split {before after : FieldMap Text Json} {m : Text × Json}
    (h : ∀ n ∈ before, n.2.isReadable = true) (hm : m.2.isReadable = false) :
    readable (before ++ m :: after) = before := by
  rw [readable, List.takeWhile_append_of_pos h, List.takeWhile_cons_of_neg (by simp [hm]),
    List.append_nil]

/-! ### Writing members -/

/-- A member and the entry that is written for it. -/
def IsReadAs (m : Text × Json) (e : Text × Bytes) : Prop :=
  e.1 = m.1 ∧ fieldBytes (Value.ofJson m.2) = .ok e.2

/-- The members that are asked for are written one after the other, all of them or up to the first
one that has no bytes. -/
theorem fill_cases (wanted : Option (List Text)) (result : FieldMap Text Bytes)
    (members : FieldMap Text Json) :
    (∃ entries, List.Forall₂ IsReadAs (wantedMembers wanted members) entries ∧
      fill wanted result (members.map fun m => (m.1, Value.ofJson m.2)) =
        (FieldMap.insertAll result entries, .ok ())) ∨
    ∃ before m after entries error, wantedMembers wanted members = before ++ m :: after ∧
      List.Forall₂ IsReadAs before entries ∧ fieldBytes (Value.ofJson m.2) = .error error ∧
      fill wanted result (members.map fun m => (m.1, Value.ofJson m.2)) =
        (FieldMap.insertAll result entries, .error error) := by
  -- on the members, each of which is left out, written, or the end
  induction members generalizing result with
  | nil => exact Or.inl ⟨[], .nil, rfl⟩
  | cons m rest ih =>
    rw [List.map_cons, fill]
    by_cases hw : (wanted.all fun names => names.contains m.1) = true
    · have hcons : wantedMembers wanted (m :: rest) = m :: wantedMembers wanted rest :=
        List.filter_cons_of_pos hw
      rw [if_pos hw, hcons]
      cases hbytes : fieldBytes (Value.ofJson m.2) with
      | error error => exact Or.inr ⟨[], m, _, [], error, rfl, .nil, hbytes, rfl⟩
      | ok bytes =>
        rcases ih (result.insert m.1 bytes) with
          ⟨entries, hread, hfill⟩ | ⟨before, n, after, entries, error, hsplit, hread, herror, hfill⟩
        · exact Or.inl ⟨(m.1, bytes) :: entries, .cons ⟨rfl, hbytes⟩ hread, hfill⟩
        · exact Or.inr ⟨m :: before, n, after, (m.1, bytes) :: entries, error, by rw [hsplit]; rfl,
            .cons ⟨rfl, hbytes⟩ hread, herror, hfill⟩
    · have hskip : wantedMembers wanted (m :: rest) = wantedMembers wanted rest :=
        List.filter_cons_of_neg hw
      rw [if_neg hw, hskip]
      exact ih result

section Bounded

variable {depth : Nat} {members : FieldMap Text Json} (hd : depth ≤ Value.maxDepth)

include hd

/-- Members that entries are written for have bytes, and these are written. -/
theorem IsReadAs.entries_eq {entries : List (Text × Bytes)}
    (h : List.Forall₂ IsReadAs members entries) (hbounded : ∀ m ∈ members, Json.Bounded depth m.2) :
    (∀ m ∈ members, m.2.isReadable = true) ∧ entries = FieldMap.mapValues Json.bytes members := by
  induction h with
  | nil => exact ⟨List.forall_mem_nil _, rfl⟩
  | @cons m e rest entries he _ ih =>
    obtain ⟨hall, rfl⟩ := ih fun n hn => hbounded n (List.mem_cons_of_mem m hn)
    obtain ⟨hok, herror⟩ := fieldBytes_ofJson (hbounded m List.mem_cons_self) hd
    obtain ⟨hname, hbytes⟩ := he
    cases hm : m.2.isReadable with
    | false =>
      obtain ⟨error, hnone⟩ := herror hm
      cases hnone.symm.trans hbytes
    | true =>
      have hwritten : e = (m.1, m.2.bytes) :=
        Prod.ext hname (Except.ok.inj (hbytes.symm.trans (hok hm)))
      exact ⟨List.forall_mem_cons.2 ⟨hm, hall⟩, by rw [hwritten]; rfl⟩

/-- The fields of a document are written up to the first one that has no bytes, and all of them
unless there is one. -/
theorem fill_ofJson (wanted : Option (List Text)) (result : FieldMap Text Bytes)
    (h : ∀ m ∈ members, Json.Bounded depth m.2) :
    ∃ ending : Except WriteError Unit,
      fill wanted result (members.map fun m => (m.1, Value.ofJson m.2)) =
        (FieldMap.insertAll result
          (FieldMap.mapValues Json.bytes (readable (wantedMembers wanted members))), ending) ∧
      ((∀ m ∈ wantedMembers wanted members, m.2.isReadable = true) → ending = .ok ()) ∧
      ((∃ m ∈ wantedMembers wanted members, m.2.isReadable = false) →
        ∃ error, ending = .error (.encoding error)) := by
  have hwanted : ∀ m ∈ wantedMembers wanted members, Json.Bounded depth m.2 :=
    fun m hm => h m (List.mem_filter.1 hm).1
  rcases fill_cases wanted result members with
    ⟨entries, hread, hfill⟩ | ⟨before, m, after, entries, error, hsplit, hread, hstop, hfill⟩
  · obtain ⟨hall, rfl⟩ := IsReadAs.entries_eq hd hread hwanted
    refine ⟨.ok (), by rw [readable_of_forall hall]; exact hfill, fun _ => rfl, ?_⟩
    rintro ⟨m, hm, hbad⟩
    rw [hall m hm] at hbad
    cases hbad
  · rw [hsplit] at hwanted ⊢
    obtain ⟨hall, rfl⟩ := IsReadAs.entries_eq hd hread
      fun n hn => hwanted n (List.mem_append_left _ hn)
    have hmem : m ∈ before ++ m :: after := List.mem_append_right _ List.mem_cons_self
    obtain ⟨hok, herror⟩ := fieldBytes_ofJson (hwanted m hmem) hd
    cases hm : m.2.isReadable with
    | true => cases hstop.symm.trans (hok hm)
    | false =>
      refine ⟨.error error, by rw [readable_of_split hall hm]; exact hfill, fun hgood => ?_,
        fun _ => ?_⟩
      · have := hgood m hmem
        rw [hm] at this
        cases this
      · obtain ⟨failed, hfailed⟩ := herror hm
        exact ⟨failed, congrArg Except.error (Except.error.inj (hstop.symm.trans hfailed))⟩

end Bounded

/-- The members of an object in a body have bounds that let them be written. -/
theorem exists_fill_of_parseBody (wanted : Option (List Text)) (result : FieldMap Text Bytes)
    {body : Bytes} {members : FieldMap Text Json}
    (h : Json.parseBody body = .ok (.object members)) (left : Text) :
    ∃ ending : Except WriteError Unit,
      fill wanted result ((FieldMap.erase members left).map fun m => (m.1, Value.ofJson m.2)) =
        (FieldMap.insertAll result (FieldMap.mapValues Json.bytes
          (readable (wantedMembers wanted (FieldMap.erase members left)))), ending) ∧
      ((∀ m ∈ wantedMembers wanted (FieldMap.erase members left), m.2.isReadable = true) →
        ending = .ok ()) ∧
      ((∃ m ∈ wantedMembers wanted (FieldMap.erase members left), m.2.isReadable = false) →
        ∃ error, ending = .error (.encoding error)) := by
  obtain ⟨depth, hd, hinside⟩ := (Json.bounded_parseBody h).members
  exact fill_ofJson hd wanted result fun m hm => hinside m (List.mem_filter.1 hm).1

end Record

end RavenBinding
