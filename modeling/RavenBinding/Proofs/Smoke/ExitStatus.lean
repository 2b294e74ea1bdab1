import RavenBinding.Proofs.Smoke.Verdict
import RavenBinding.Smoke.Command

/-!
# The exit status of the smoke command

The command makes the calls of its workload between setting up a binding and giving it up. It ends
with a status exactly if all three go well; the status is 0 if every operation did what it is to do,
and 1 if one did not.

## Main definitions

- `SmokePlan.Performs`: the command comes to the end of its workload

## Main statements

- `Adapter.fillsMaps_binding`: the adapter leaves maps in the results of its reads
- `SmokePlan.run_eq_ok_iff`: when the command ends with a status, and with which one
- `Workload.verdict`: the tallies and the verdict of every run, and the status of the command
-/

namespace RavenBinding

open AdapterAction

/-! ### Reads of the adapter -/

theorem Record.nodupKeys_fill (wanted : Option (List Text)) {result : ResultMap}
    (h : result.NodupKeys) (fields : List (Text × Value)) :
    (Record.fill wanted result fields).1.NodupKeys := by
  induction fields generalizing result with
  | nil => exact h
  | cons field fields ih =>
    rw [fill]
    split
    · split
      · exact ih (FieldMap.nodupKeys_insert h _ _)
      · exact h
    · exact ih h

/-- Whatever an adapter holds, its reads leave a map in the result. -/
theorem Adapter.fillsMaps_binding : Adapter.binding.FillsMaps := by
  intro table key fields result a w h
  change (exec (Adapter.read table key fields result) a w).1.1.written.NodupKeys
  rw [Adapter.read, exec_bind, exec_get]
  dsimp only
  cases a.store? with
  | none => exact h
  | some store =>
    dsimp only
    rw [exec_bind]
    generalize exec (Adapter.onStore store (Store.get key)) a w = ended
    obtain ⟨⟨ending, a'⟩, w'⟩ := ended
    dsimp only
    split
    · exact h
    · exact h
    · exact h
    · split
      · exact h
      · split
        · exact Record.nodupKeys_fill _ h _
        · exact Record.nodupKeys_fill _ h _

/-! ### The command -/

/-- Steps with the same phases, calls and answers are the same. -/
theorem Workload.steps_ext {steps steps' : List Step}
    (hcalls : steps.map (fun step => (step.phase, step.call)) =
      steps'.map fun step => (step.phase, step.call))
    (hanswers : steps.map (fun step => (step.call, step.answer)) =
      steps'.map fun step => (step.call, step.answer)) : steps = steps' := by
  induction steps generalizing steps' with
  | nil => exact (List.map_eq_nil_iff.1 hcalls.symm).symm
  | cons step steps ih =>
    cases steps' with
    | nil => cases hcalls
    | cons step' steps' =>
      obtain ⟨hcall, hcalls⟩ := List.cons.inj hcalls
      obtain ⟨hanswer, hanswers⟩ := List.cons.inj hanswers
      obtain ⟨hphase, hcall⟩ := Prod.mk.inj hcall
      have hstep : step = step' := by
        cases step
        cases step'
        rw [Workload.Step.mk.injEq]
        exact ⟨hphase, hcall, (Prod.mk.inj hanswer).2⟩
      rw [hstep, ih hcalls hanswers]

/-- The status of a command with these tallies says whether all steps meet what they are to do. -/
theorem Workload.Judges.status_eq_iff {load : Workload} {counts : List (Phase × Tally)}
    {steps : List Step} (h : load.Judges counts steps) (code : Nat) :
    (code = if Phase.unexpected counts = [] then 0 else 1) ↔
      (code = 0 ∧ ∀ step ∈ steps, load.Meets step) ∨
        (code = 1 ∧ ∃ step ∈ steps, ¬load.Meets step) := by
  by_cases hall : ∀ step ∈ steps, load.Meets step
  · rw [if_pos (h.unexpected_eq_nil_iff.2 hall)]
    refine ⟨fun hcode => Or.inl ⟨hcode, hall⟩, ?_⟩
    rintro (⟨hcode, -⟩ | ⟨-, step, hstep, hnot⟩)
    · exact hcode
    · exact absurd (hall step hstep) hnot
  · rw [if_neg fun hnil => hall (h.unexpected_eq_nil_iff.1 hnil)]
    push Not at hall
    refine ⟨fun hcode => Or.inr ⟨hcode, hall⟩, ?_⟩
    rintro (⟨-, hmeets⟩ | ⟨hcode, -⟩)
    · obtain ⟨step, hstep, hnot⟩ := hall
      exact absurd (hmeets step hstep) hnot
    · exact hcode

namespace SmokePlan

/-- The command ends with status 1 exactly if there are phases to report. -/
theorem run_report (counts : List (Phase × Tally)) (w : World) :
    ((report counts).run w).1 = if Phase.unexpected counts = [] then 0 else 1 := by
  rw [report]
  simp only [Program.run_bind]
  cases Phase.unexpected counts with
  | nil => rfl
  | cons phase failed =>
    rw [if_neg (List.cons_ne_nil _ _)]
    rfl

/-- What is done before the binding is given up ends well if both do. -/
theorem exec_givenUp_eq_ok_iff {α : Type} {x : AdapterAction (Except Failure α)} {a a' : Adapter}
    {v v' : World} {result : α} :
    exec (do
      let ending ← x
      match ← Adapter.cleanUp with
      | .error failure => pure (.error failure)
      | .ok () => pure ending) a v = ((.ok result, a'), v') ↔
      ∃ a₁ v₁, exec x a v = ((.ok result, a₁), v₁) ∧
        exec Adapter.cleanUp a₁ v₁ = ((.ok (), a'), v') := by
  rw [exec_bind]
  rcases exec x a v with ⟨⟨ending, a₁⟩, v₁⟩
  dsimp only
  rw [exec_bind]
  rcases hclosed : exec Adapter.cleanUp a₁ v₁ with ⟨⟨closed, a₂⟩, v₂⟩
  cases closed with
  | error f =>
    constructor
    · exact fun h => nomatch congrArg (·.1.1) h
    · rintro ⟨_, _, ⟨⟩, h⟩
      exact nomatch hclosed.symm.trans h
  | ok _ =>
    constructor
    · rintro ⟨⟩
      exact ⟨a₁, v₁, rfl, hclosed⟩
    · rintro ⟨_, _, ⟨⟩, h⟩
      obtain ⟨⟩ := hclosed.symm.trans h
      rfl

theorem exec_runBinding_eq_ok_iff {plan : SmokePlan} {a a' : Adapter} {v v' : World}
    {counts : List (Phase × Tally)} :
    exec plan.runBinding a v = ((.ok counts, a'), v') ↔
      ∃ load a₁ v₁, plan.workload = .ok load ∧
        exec (load.run Adapter.binding).run a v = ((.ok counts, a₁), v₁) ∧
        exec Adapter.cleanUp a₁ v₁ = ((.ok (), a'), v') := by
  rw [runBinding]
  cases plan.workload with
  | error f =>
    refine exec_givenUp_eq_ok_iff.trans ?_
    constructor
    · rintro ⟨_, _, h, -⟩
      exact nomatch congrArg (·.1.1) h
    · rintro ⟨_, _, _, h, -⟩
      cases h
  | ok load =>
    refine exec_givenUp_eq_ok_iff.trans ?_
    constructor
    · rintro ⟨a₁, v₁, h⟩
      exact ⟨load, a₁, v₁, rfl, h⟩
    · rintro ⟨_, a₁, v₁, ⟨⟩, h⟩
      exact ⟨a₁, v₁, h⟩

/-- The command ends with a status exactly if its binding can be created and set up, its workload
comes to an end, and the binding can be given up. -/
theorem run_eq_ok_iff {plan : SmokePlan} {env : Environment} {w : World} {code : Nat} :
    ((plan.run env).run.run w).1 = .ok code ↔
      ∃ a a₁ a₂ w₁ w₂ w₃ counts,
        (createBinding bindingName plan.properties).run.run w = (.ok a, w₁) ∧
        exec (Adapter.setUp env) a w₁ = ((.ok (), a₁), w₂) ∧
        exec plan.runBinding a₁ w₂ = ((.ok counts, a₂), w₃) ∧
        code = if Phase.unexpected counts = [] then 0 else 1 := by
  have hends : ((plan.run env).run.run w).1 = .ok code ↔
      ∃ w', (plan.run env).run.run w = (.ok code, w') :=
    ⟨fun h => ⟨_, Prod.ext h rfl⟩, fun ⟨_, h⟩ => congrArg Prod.fst h⟩
  rw [hends]
  simp only [run, Action.run_bind_eq_ok_iff, Action.run_ofProgram_eq_ok_iff,
    Action.run_ofExcept_eq_ok_iff]
  constructor
  · rintro ⟨w', a, w₁, hcreated, ⟨_, a₁⟩, w₂, hready, _, _, ⟨rfl, rfl⟩, ⟨_, a₂⟩, w₃, hbound, counts,
      _, ⟨rfl, rfl⟩, hreport⟩
    exact ⟨a, a₁, a₂, w₁, w₂, w₃, counts, hcreated, hready, hbound,
      (congrArg Prod.fst hreport).symm.trans (run_report counts w₃)⟩
  · rintro ⟨a, a₁, a₂, w₁, w₂, w₃, counts, hcreated, hready, hbound, rfl⟩
    exact ⟨_, a, w₁, hcreated, _, w₂, hready, (), w₂, ⟨rfl, rfl⟩, _, w₃, hbound, counts, w₃,
      ⟨rfl, rfl⟩, Prod.ext (run_report counts w₃) rfl⟩

/-- The records of a command are drawn from its seed. -/
theorem exists_ofSeed_of_workload {plan : SmokePlan} {load : Workload}
    (h : plan.workload = .ok load) : ∃ shape count seed, load = Workload.ofSeed shape count seed := by
  obtain ⟨seed, -, h⟩ := Attempt.bind_eq_ok_iff.1 h
  obtain ⟨count, -, h⟩ := Attempt.bind_eq_ok_iff.1 h
  dsimp only at h
  split at h
  all_goals
    obtain ⟨fieldCount, -, h⟩ := Attempt.bind_eq_ok_iff.1 h
    split at h
    all_goals
      obtain ⟨fieldLength, -, h⟩ := Attempt.bind_eq_ok_iff.1 h
      exact ⟨⟨fieldCount, fieldLength⟩, count, seed, (Except.ok.inj h).symm⟩

/-- The command, started in a world, makes the steps of a workload: it creates a binding, sets it
up, runs the workload on it to the end, and gives it up. -/
inductive Performs (plan : SmokePlan) (env : Environment) (w : World) (load : Workload)
    (steps : List Workload.Step) : Prop where
  | intro {a a₁ a₂ a₃ : Adapter} {w₁ w₂ w₃ w₄ : World} {counts : List (Phase × Tally)}
    (created : (createBinding bindingName plan.properties).run.run w = (.ok a, w₁))
    (ready : exec (Adapter.setUp env) a w₁ = ((.ok (), a₁), w₂))
    (drawn : plan.workload = .ok load)
    (ran : (((load.run Adapter.binding.recorded).run.run []).run a₁).run w₂ =
      (((.ok counts, steps.map fun step => (step.call, step.answer)), a₂), w₃))
    (scheduled : steps.map (fun step => (step.phase, step.call)) = load.schedule)
    (givenUp : exec Adapter.cleanUp a₂ w₃ = ((.ok (), a₃), w₄))

/-- The command ends with a status exactly if it performs a workload. The status is 0 if all steps
meet what they are to do, and 1 if one does not. -/
theorem run_eq_ok_iff_meets (plan : SmokePlan) (env : Environment) (w : World) (code : Nat) :
    ((plan.run env).run.run w).1 = .ok code ↔
      ∃ load steps, plan.Performs env w load steps ∧
        ((code = 0 ∧ ∀ step ∈ steps, load.Meets step) ∨
          (code = 1 ∧ ∃ step ∈ steps, ¬load.Meets step)) := by
  rw [run_eq_ok_iff]
  constructor
  · rintro ⟨a, a₁, a₃, w₁, w₂, w₄, counts, hcreated, hready, hbound, hcode⟩
    obtain ⟨load, a₂, w₃, hload, hran, hgiven⟩ := exec_runBinding_eq_ok_iff.1 hbound
    obtain ⟨shape, count, seed, rfl⟩ := exists_ofSeed_of_workload hload
    obtain ⟨steps, hrecorded, hjudges⟩ :=
      Workload.exists_judged_steps Adapter.fillsMaps_binding shape count seed hran
    exact ⟨_, steps, ⟨hcreated, hready, hload, hrecorded, hjudges.calls, hgiven⟩,
      (hjudges.status_eq_iff code).1 hcode⟩
  · rintro ⟨load, steps, @⟨a, a₁, a₂, a₃, w₁, w₂, w₃, w₄, counts, hcreated, hready, hload, hran,
      hcalls, hgiven⟩, hcode⟩
    obtain ⟨shape, count, seed, rfl⟩ := exists_ofSeed_of_workload hload
    -- without its history, the run is one whose steps are judged; they are the same
    have hplain := (Workload.erases_run (Workload.ofSeed shape count seed) Adapter.binding).run_eq
      [] a₁ w₂
    rw [play, hran] at hplain
    obtain ⟨steps', hrecorded, hjudges⟩ :=
      Workload.exists_judged_steps Adapter.fillsMaps_binding shape count seed hplain
    obtain ⟨hended, -⟩ := Prod.mk.inj (hran.symm.trans hrecorded)
    obtain ⟨hended, -⟩ := Prod.mk.inj hended
    obtain rfl := Workload.steps_ext (hcalls.trans hjudges.calls.symm) (Prod.mk.inj hended).2
    exact ⟨a, a₁, a₃, w₁, w₂, w₄, counts, hcreated, hready,
      exec_runBinding_eq_ok_iff.2 ⟨_, a₂, w₃, hload, hplain, hgiven⟩,
      (hjudges.status_eq_iff code).2 hcode⟩

end SmokePlan

namespace Workload

/-- Whatever a binding does that leaves maps in its results: a run that ends has made the calls of
the schedule, and its tallies count all of them. The phases that are reported, in order, are those
with an operation that does not meet what it is to do. There are none, and a command with these
tallies ends with status 0, exactly if all operations meet it. In particular, the command on the
adapter of the store ends with a status exactly if its workload comes to an end and the binding is
given up, and then with status 0 if all operations of the workload met what they are to do, and with
status 1 if one did not. -/
theorem verdict {σ : Type} {b : Binding (StateT σ Program)} (hb : b.FillsMaps)
    (shape : RecordShape) (count seed : Int) {s s' : σ} {w w' : World}
    {counts : List (Phase × Tally)}
    (h : (((ofSeed shape count seed).run b).run.run s).run w = ((.ok counts, s'), w')) :
    (∃ steps : List Step,
      ((((ofSeed shape count seed).run b.recorded).run.run []).run s).run w =
        (((.ok counts, steps.map fun step => (step.call, step.answer)), s'), w') ∧
      (ofSeed shape count seed).Judges counts steps ∧
      (Phase.unexpected counts = [] ↔ ∀ step ∈ steps, (ofSeed shape count seed).Meets step) ∧
      ∀ world, ((SmokePlan.report counts).run world).1 =
        if Phase.unexpected counts = [] then 0 else 1) ∧
    ∀ (plan : SmokePlan) (env : Environment) (world : World) (code : Nat),
      ((plan.run env).run.run world).1 = .ok code ↔
        ∃ load steps, plan.Performs env world load steps ∧
          ((code = 0 ∧ ∀ step ∈ steps, load.Meets step) ∨
            (code = 1 ∧ ∃ step ∈ steps, ¬load.Meets step)) := by
  obtain ⟨steps, hrecorded, hjudges⟩ := exists_judged_steps hb shape count seed h
  exact ⟨⟨steps, hrecorded, hjudges, hjudges.unexpected_eq_nil_iff, SmokePlan.run_report counts⟩,
    SmokePlan.run_eq_ok_iff_meets⟩

/-- A binding that keeps nothing and says that all went well. -/
def forgetful : Binding (StateT Unit Program) :=
  { read := fun _ _ _ result => pure ⟨result, .ok .ok⟩
    scan := fun _ _ _ _ result => pure ⟨result, .ok .notImplemented⟩
    insert := fun _ _ _ => pure (.ok .ok)
    update := fun _ _ _ => pure (.ok .notImplemented)
    delete := fun _ _ => pure (.ok .ok) }

/-- The binding that keeps nothing is found out: the record does not come back, and the read after
its deletion says that it is there. -/
theorem verdict_forgetful :
    let load := ofSeed ⟨1, 0⟩ 1 0
    ∃ counts w', forgetful.FillsMaps ∧
      (((load.run forgetful).run.run ()).run { server := ⟨[], 0⟩ }) = ((.ok counts, ()), w') ∧
      Phase.unexpected counts = [.read, .readDeleted] ∧
      (∃ steps : List Step,
        ((((load.run forgetful.recorded).run.run []).run ()).run { server := ⟨[], 0⟩ }) =
          (((.ok counts, steps.map fun step => (step.call, step.answer)), ()), w') ∧
        load.Judges counts steps ∧ ∃ step ∈ steps, ¬load.Meets step) ∧
      ∀ world, ((SmokePlan.report counts).run world).1 = 1 := by
  intro load
  have hmaps : forgetful.FillsMaps := fun _ _ _ _ _ _ h => h
  refine ⟨_, _, hmaps, rfl, rfl, ?_⟩
  obtain ⟨⟨steps, hrecorded, hjudges, -, hstatus⟩, -⟩ :=
    verdict (s := ()) (w := { server := ⟨[], 0⟩ }) hmaps ⟨1, 0⟩ 1 0 rfl
  obtain ⟨step, hstep, -, hnot⟩ := (hjudges.mem_unexpected_iff .read).1 List.mem_cons_self
  exact ⟨⟨steps, hrecorded, hjudges, step, hstep, hnot⟩, hstatus⟩

end Workload

end RavenBinding
