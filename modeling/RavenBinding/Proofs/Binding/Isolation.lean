import Mathlib.Logic.Function.Basic
import RavenBinding.Proofs.Binding.KeyLocality

/-!
# Workers with keys of their own

Workers share a server and a database. Each of them makes its calls with an adapter of its own, and
the calls of all workers come in any order. As long as no two workers use the same key, none of them
notices the others: everyone gets the outcomes that it would get alone, and leaves the documents that
it would leave alone.

## Main definitions

- `Crew`, `Crew.run`: workers in one world, and calls that they make
- `Crew.HaveOwnKeys`: no two workers use the same key
- `World.Agrees`: two worlds show the same under some keys

## Main statements

- `AdapterCall.agrees_of_exec`, `AdapterCall.exists_exec`: one call, for its worker and for others
- `Crew.run_agrees`: any number of calls
- `Crew.isolated`: workers with keys of their own work as if they were alone
-/

namespace RavenBinding

open AdapterAction

/-- Performs calls in order. -/
def AdapterCall.performAll : List AdapterCall → AdapterAction (List (Outcome (List ResultMap)))
  | [] => pure []
  | c :: cs => do
    let outcome ← c.perform
    let outcomes ← performAll cs
    pure (outcome :: outcomes)

/-- Workers, each with an adapter, in one world. -/
structure Crew (ι : Type) where
  adapters : ι → Adapter
  world : World

namespace Crew

variable {ι : Type} [DecidableEq ι]

/-- The entries of one worker, in order. -/
def entriesOf {β : Type} (i : ι) (entries : List (ι × β)) : List β :=
  (entries.filter fun e => e.1 = i).map Prod.snd

/-- The keys of the documents that a worker's calls may reach. -/
def keysOf (i : ι) (calls : List (ι × AdapterCall)) : List Text :=
  (entriesOf i calls).filterMap AdapterCall.key?

/-- No two workers use the same key. -/
def HaveOwnKeys (calls : List (ι × AdapterCall)) : Prop :=
  ∀ i j, i ≠ j → ∀ key ∈ keysOf i calls, key ∉ keysOf j calls

/-- A worker makes a call with its adapter. -/
def step (crew : Crew ι) (i : ι) (c : AdapterCall) : Outcome (List ResultMap) × Crew ι :=
  let ((outcome, a), w) := exec c.perform (crew.adapters i) crew.world
  (outcome, ⟨Function.update crew.adapters i a, w⟩)

/-- Workers make calls in the order given. -/
def run : List (ι × AdapterCall) → Crew ι → List (ι × Outcome (List ResultMap)) × Crew ι
  | [], crew => ([], crew)
  | (i, c) :: calls, crew =>
    let (outcome, crew) := crew.step i c
    let (outcomes, crew) := run calls crew
    ((i, outcome) :: outcomes, crew)

end Crew

/-- Both worlds host the database, and documents under some keys have the same bodies in them. -/
structure World.Agrees (w v : World) (database : Text) (owned : Text → Prop) : Prop where
  left : w.Hosts database
  right : v.Hosts database
  body : ∀ key, owned key → w.server.bodyAt database key = v.server.bodyAt database key

/-! ### One call -/

namespace AdapterCall

variable {a : Adapter} {database : Text} {w v w' : World} {owned : Text → Prop}

/-- A call leaves its adapter as it is, and every document but the one that it may reach. -/
theorem exists_exec (ha : a.WorksOn database) (c : AdapterCall) (hw : w.Hosts database) :
    ∃ outcome w', exec c.perform a w = ((outcome, a), w') ∧ w'.Hosts database ∧
      ∀ d key, (d = database → c.key? ≠ some key) →
        w'.server.bodyAt d key = w.server.bodyAt d key := by
  rcases c.isLocal_or_idle ha with ⟨key, hkey, result, left, hlocal⟩ | ⟨-, outcome, hidle⟩
  · obtain ⟨w', hexec, hreplies, hsets⟩ := hlocal w hw
    refine ⟨_, w', hexec, ⟨hreplies, hsets.hosted⟩, fun d k hne => hsets.others d k ?_⟩
    rintro hd rfl
    exact hne hd hkey
  · exact ⟨outcome, w, hidle w, hw, fun _ _ _ => rfl⟩

/-- In worlds that agree on the key of a call, it comes to one outcome, and they agree afterwards. -/
theorem agrees_of_exec (ha : a.WorksOn database) {c : AdapterCall}
    (hkey : ∀ key, c.key? = some key → owned key) (h : w.Agrees v database owned)
    {outcome : Outcome (List ResultMap)} (hexec : exec c.perform a w = ((outcome, a), w')) :
    ∃ v', exec c.perform a v = ((outcome, a), v') ∧ w'.Agrees v' database owned := by
  rcases c.isLocal_or_idle ha with ⟨key, hk, result, left, hlocal⟩ | ⟨-, constant, hidle⟩
  · obtain ⟨w₁, hw, hwreplies, hwsets⟩ := hlocal w h.left
    obtain ⟨v₁, hv, hvreplies, hvsets⟩ := hlocal v h.right
    -- both worlds show the call the same body
    rw [← h.body key (hkey key hk)] at hv hvsets
    rw [hw] at hexec
    cases hexec
    refine ⟨v₁, hv, ⟨hwreplies, hwsets.hosted⟩, ⟨hvreplies, hvsets.hosted⟩, fun other hother => ?_⟩
    by_cases hsame : other = key
    · rw [hsame, hwsets.body, hvsets.body]
    · rw [hwsets.others _ _ fun _ => hsame, hvsets.others _ _ fun _ => hsame, h.body other hother]
  · rw [hidle w] at hexec
    cases hexec
    exact ⟨v, hidle v, h⟩

theorem exec_performAll_cons {c : AdapterCall} {cs : List AdapterCall}
    {outcome : Outcome (List ResultMap)} {outcomes : List (Outcome (List ResultMap))}
    (h : exec c.perform a w = ((outcome, a), w'))
    (hrest : exec (performAll cs) a w' = ((outcomes, a), v)) :
    exec (performAll (c :: cs)) a w = ((outcome :: outcomes, a), v) := by
  rw [performAll, exec_bind, h]
  show exec (do
    let outcomes ← performAll cs
    pure (outcome :: outcomes)) a w' = _
  rw [exec_bind, hrest]
  rfl

end AdapterCall

/-! ### Any number of calls -/

namespace Crew

variable {ι : Type} [DecidableEq ι]

theorem entriesOf_cons_self {β : Type} (i : ι) (b : β) (entries : List (ι × β)) :
    entriesOf i ((i, b) :: entries) = b :: entriesOf i entries := by
  simp [entriesOf]

theorem entriesOf_cons_of_ne {β : Type} {i j : ι} (h : i ≠ j) (b : β) (entries : List (ι × β)) :
    entriesOf j ((i, b) :: entries) = entriesOf j entries := by
  simp [entriesOf, h]

theorem mem_keysOf_iff {i : ι} {key : Text} {calls : List (ι × AdapterCall)} :
    key ∈ keysOf i calls ↔ ∃ c, (i, c) ∈ calls ∧ c.key? = some key := by
  rw [keysOf, entriesOf, List.mem_filterMap]
  constructor
  · rintro ⟨c, hc, hkey⟩
    obtain ⟨e, he, rfl⟩ := List.mem_map.1 hc
    obtain ⟨hcall, hi⟩ := List.mem_filter.1 he
    obtain rfl := of_decide_eq_true hi
    exact ⟨e.2, hcall, hkey⟩
  · rintro ⟨c, hc, hkey⟩
    exact ⟨c, List.mem_map.2 ⟨(i, c), List.mem_filter.2 ⟨hc, decide_eq_true rfl⟩, rfl⟩, hkey⟩

theorem step_eq {crew : Crew ι} {i : ι} {c : AdapterCall} {outcome : Outcome (List ResultMap)}
    {w : World}
    (h : exec c.perform (crew.adapters i) crew.world = ((outcome, crew.adapters i), w)) :
    crew.step i c = (outcome, ⟨crew.adapters, w⟩) := by
  rw [step, h]
  simp only [Function.update_eq_self]

theorem run_cons {crew : Crew ι} {i : ι} {c : AdapterCall} {outcome : Outcome (List ResultMap)}
    {w : World}
    (h : exec c.perform (crew.adapters i) crew.world = ((outcome, crew.adapters i), w))
    (calls : List (ι × AdapterCall)) :
    run ((i, c) :: calls) crew =
      ((i, outcome) :: (run calls ⟨crew.adapters, w⟩).1, (run calls ⟨crew.adapters, w⟩).2) := by
  rw [run, step_eq h]

section Runs

variable {database : Text} {adapters : ι → Adapter}
  (hworks : ∀ i, (adapters i).WorksOn database)

include hworks in
/-- Documents that no call may reach keep their bodies, and all adapters stay as they are. -/
theorem run_others (calls : List (ι × AdapterCall)) {w : World} (hw : w.Hosts database) :
    ∃ outcomes w', run calls ⟨adapters, w⟩ = (outcomes, ⟨adapters, w'⟩) ∧
      ∀ d key, (d = database → ∀ i, key ∉ keysOf i calls) →
        w'.server.bodyAt d key = w.server.bodyAt d key := by
  induction calls generalizing w with
  | nil => exact ⟨[], w, rfl, fun _ _ _ => rfl⟩
  | cons m calls ih =>
    obtain ⟨i, c⟩ := m
    obtain ⟨outcome, w₁, hexec, hw₁, hstep⟩ := c.exists_exec (hworks i) hw
    obtain ⟨outcomes, w', hrun, hothers⟩ := ih hw₁
    refine ⟨(i, outcome) :: outcomes, w', ?_, fun d key hne => ?_⟩
    · rw [run_cons hexec, hrun]
    · rw [hothers d key, hstep d key]
      · intro hd hkey
        exact hne hd i (mem_keysOf_iff.2 ⟨c, List.mem_cons_self, hkey⟩)
      · intro hd j hj
        obtain ⟨c', hc', hkey⟩ := mem_keysOf_iff.1 hj
        exact hne hd j (mem_keysOf_iff.2 ⟨c', List.mem_cons_of_mem _ hc', hkey⟩)

include hworks in
/-- A worker whose keys nobody else uses gets the outcomes that it gets alone, in a world that agrees
on its keys; afterwards the worlds agree again. -/
theorem run_agrees (i : ι) (owned : Text → Prop) (calls : List (ι × AdapterCall))
    (hown : ∀ c, (i, c) ∈ calls → ∀ key, c.key? = some key → owned key)
    (hothers : ∀ j c, (j, c) ∈ calls → j ≠ i → ∀ key, c.key? = some key → ¬owned key)
    {w alone : World} (h : w.Agrees alone database owned) :
    ∃ outcomes w' alone', run calls ⟨adapters, w⟩ = (outcomes, ⟨adapters, w'⟩) ∧
      exec (AdapterCall.performAll (entriesOf i calls)) (adapters i) alone =
        ((entriesOf i outcomes, adapters i), alone') ∧
      w'.Agrees alone' database owned := by
  induction calls generalizing w alone with
  | nil => exact ⟨[], w, alone, rfl, rfl, h⟩
  | cons m calls ih =>
    obtain ⟨j, c⟩ := m
    have ih := @ih (fun c hc => hown c (List.mem_cons_of_mem _ hc))
      fun j c hc => hothers j c (List.mem_cons_of_mem _ hc)
    obtain ⟨outcome, w₁, hexec, hw₁, hstep⟩ := c.exists_exec (hworks j) h.left
    by_cases hj : j = i
    · -- the worker makes the call in its own world as well
      subst hj
      obtain ⟨alone₁, halone, h₁⟩ := AdapterCall.agrees_of_exec (hworks j)
        (hown c List.mem_cons_self) h hexec
      obtain ⟨outcomes, w', alone', hrun, hrest, h'⟩ := ih h₁
      refine ⟨(j, outcome) :: outcomes, w', alone', ?_, ?_, h'⟩
      · rw [run_cons hexec, hrun]
      · rw [entriesOf_cons_self, entriesOf_cons_self]
        exact AdapterCall.exec_performAll_cons halone hrest
    · have h₁ : w₁.Agrees alone database owned := by
        refine ⟨hw₁, h.right, fun key hkey => ?_⟩
        rw [hstep database key fun _ hc => hothers j c List.mem_cons_self hj key hc hkey]
        exact h.body key hkey
      obtain ⟨outcomes, w', alone', hrun, hrest, h'⟩ := ih h₁
      refine ⟨(j, outcome) :: outcomes, w', alone', ?_, ?_, h'⟩
      · rw [run_cons hexec, hrun]
      · rw [entriesOf_cons_of_ne hj, entriesOf_cons_of_ne hj]
        exact hrest

end Runs

/-- Workers on one database, with adapters that are ready on plain URLs and keys of their own, work
as if they were alone, in whatever order their calls are made. Each of them gets the outcomes of its
own calls in the world that all start from, and leaves the documents under its keys with the bodies
that these calls leave. No other document changes. -/
theorem isolated {crew : Crew ι} {database : Text}
    (hworks : ∀ i, (crew.adapters i).WorksOn database) (hhosts : crew.world.Hosts database)
    (calls : List (ι × AdapterCall)) (hkeys : HaveOwnKeys calls) :
    (∀ i,
      let alone := exec (AdapterCall.performAll (entriesOf i calls)) (crew.adapters i) crew.world
      entriesOf i (run calls crew).1 = alone.1.1 ∧
        ∀ key ∈ keysOf i calls, (run calls crew).2.world.server.bodyAt database key =
          alone.2.server.bodyAt database key) ∧
      ∀ d key, (d = database → ∀ i, key ∉ keysOf i calls) →
        (run calls crew).2.world.server.bodyAt d key = crew.world.server.bodyAt d key := by
  obtain ⟨outcomes, w', hrun, hothers⟩ := run_others hworks calls hhosts
  rw [show run calls crew = (outcomes, ⟨crew.adapters, w'⟩) from hrun]
  refine ⟨fun i => ?_, hothers⟩
  obtain ⟨outcomes', w'', alone, hrun', halone, hagrees⟩ :=
    run_agrees hworks i (· ∈ keysOf i calls) calls
      (fun c hc key hkey => mem_keysOf_iff.2 ⟨c, hc, hkey⟩)
      (fun j c hc hj key hkey => hkeys j i hj key (mem_keysOf_iff.2 ⟨c, hc, hkey⟩))
      (w := crew.world) ⟨hhosts, hhosts, fun key _ => rfl⟩
  rw [hrun] at hrun'
  cases hrun'
  rw [halone]
  exact ⟨rfl, hagrees.body⟩

/-- Two workers write keys that differ in an escape, one of them also deletes the key `..`, and the
other reads its own record back. -/
theorem isolated_escaped_keys :
    let table := Text.ofString "usertable"
    let field := Text.ofString "f"
    let crew : Crew Bool :=
      ⟨fun _ => Adapter.localhost, { server := Server.ofNames [Text.ofString "YCSB"] }⟩
    let calls : List (Bool × AdapterCall) :=
      [(false, .record (.insert table (Text.ofString "a/b") [(field, .text (Text.ofString "1"))])),
        (true, .record (.insert table (Text.ofString "a%2Fb") [(field, .text (Text.ofString "2"))])),
        (true, .record (.delete table (Text.ofString ".."))),
        (false, .record (.read table (Text.ofString "a/b") none []))]
    HaveOwnKeys calls ∧ (entriesOf false (run calls crew).1).map Outcome.written =
      [[[]], [[(field, [0x31])]]] := by
  intro table field crew calls
  have hworks : ∀ i, (crew.adapters i).WorksOn (Text.ofString "YCSB") := fun _ =>
    ⟨PlainUrl.localhost, _, _, _, Adapter.ready_localhost, Session.base_localhost, rfl⟩
  have hkeys : HaveOwnKeys calls := by
    unfold HaveOwnKeys
    decide
  refine ⟨hkeys, ?_⟩
  obtain ⟨hfalse, -⟩ := (isolated hworks ⟨rfl, [], rfl⟩ calls hkeys).1 false
  rw [hfalse]
  decide +kernel

end Crew

end RavenBinding
