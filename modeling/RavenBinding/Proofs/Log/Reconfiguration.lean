import RavenBinding.Log.Configuration

/-!
# Configuring logging again and again

A configuration whose level is known puts one handler and the level into the root. One whose level
is unknown is refused, but by then the handlers are gone. So a process keeps its logging through any
configurations exactly if none of them has an unknown level while there is a handler.

## Main definitions

- `LogTree.run`: the logging after configurations in order
- `LogTree.ConfiguresWhole`: a configuration is done in full, or refused without a trace

## Main statements

- `LogTree.configure_of_known`, `LogTree.configure_of_unknown`: what one configuration comes to
- `LogTree.configuresWhole_iff`: which configurations are whole
- `LogTree.run_configures_whole_iff`: which sequences of configurations are whole throughout
-/

namespace RavenBinding

/-- The level that a name stands for in any case. -/
def Level.known? (name : Text) : Option Level := Level.ofName? name.toUpper

namespace LogTree

/-- The logging after configurations at the levels of some names, refused ones included. -/
def run (start : LogTree) (names : List Text) : LogTree :=
  names.foldl (fun tree name => (tree.configure name).1) start

/-- A configuration is done in full, or refused without a trace. -/
structure ConfiguresWhole (before : LogTree) (name : Text) : Prop where
  /-- If it returns, the root has one handler, which writes to the error stream, and the level of
  the name. -/
  returned : (before.configure name).2 = .ok () →
    (∃ handler, (before.configure name).1.handlers = [handler] ∧ handler.target = .errorStream) ∧
      Level.known? name = some (before.configure name).1.rootLevel
  /-- If it raises a fault, the root has the handlers and the level that it had. -/
  raised : ∀ f, (before.configure name).2 = .error f →
    (before.configure name).1.handlers = before.handlers ∧
      (before.configure name).1.rootLevel = before.rootLevel

variable {before : LogTree} {name : Text} {level : Level}

/-! ### One configuration -/

theorem configure_of_known (h : Level.known? name = some level) (before : LogTree) :
    before.configure name =
      ({ handlers := [LogHandler.standard], rootLevel := level,
         levels := before.levels.insertAll
           (quietLoggers.map fun logger => (logger, Level.warning)) }, .ok ()) := by
  have hname : Level.ofName? name.toUpper = some level := h
  simp only [configure, hname, clear_eq, List.nil_append]

/-- A refusal costs the handlers and nothing else. -/
theorem configure_of_unknown (h : Level.known? name = none) (before : LogTree) :
    before.configure name = ({ before with handlers := [] },
      .error ⟨.valueError, Text.ofString "Unknown level: " ++ name.toUpper.quoted⟩) := by
  have hname : Level.ofName? name.toUpper = none := h
  simp only [configure, hname, clear_eq]

/-- A configuration is whole exactly if its level is known or there is no handler to lose. -/
theorem configuresWhole_iff :
    before.ConfiguresWhole name ↔ (Level.known? name).isSome = true ∨ before.handlers = [] := by
  cases hname : Level.known? name with
  | some level =>
    refine iff_of_true ⟨fun _ => ?_, fun f hf => ?_⟩ (Or.inl rfl)
    · rw [configure_of_known hname]
      exact ⟨⟨LogHandler.standard, rfl, rfl⟩, hname⟩
    · rw [configure_of_known hname] at hf
      cases hf
  | none =>
    constructor
    · intro h
      have hkept := (h.raised _ (congrArg Prod.snd (configure_of_unknown hname before))).1
      rw [configure_of_unknown hname] at hkept
      exact Or.inr hkept.symm
    · rintro (h | h)
      · cases h
      · refine ⟨fun hok => ?_, fun f _ => ?_⟩
        · rw [configure_of_unknown hname] at hok
          cases hok
        · rw [configure_of_unknown hname]
          exact ⟨h.symm, rfl⟩

/-! ### Any number of configurations -/

theorem forall_whole_nil (start : LogTree) : ∀ done name rest, [] = done ++ name :: rest →
    (start.run done).ConfiguresWhole name := fun done name rest h =>
  absurd h.symm (List.append_ne_nil_of_right_ne_nil done (List.cons_ne_nil name rest))

/-- Every configuration of a sequence is whole if the first is and those after it are. -/
theorem forall_whole_cons {start : LogTree} {names : List Text} :
    (∀ done next rest, name :: names = done ++ next :: rest →
        (start.run done).ConfiguresWhole next) ↔
      start.ConfiguresWhole name ∧ ∀ done next rest, names = done ++ next :: rest →
        ((start.configure name).1.run done).ConfiguresWhole next := by
  constructor
  · intro h
    refine ⟨h [] name names rfl, fun done next rest hnames => ?_⟩
    exact h (name :: done) next rest (congrArg (name :: ·) hnames)
  · rintro ⟨hfirst, hrest⟩ done next rest hnames
    cases done with
    | nil =>
      obtain ⟨rfl, rfl⟩ := List.cons.inj hnames
      exact hfirst
    | cons first done =>
      rw [List.cons_append, List.cons.injEq] at hnames
      obtain ⟨rfl, hnames⟩ := hnames
      exact hrest done next rest hnames

theorem handlers_of_known (h : Level.known? name = some level) (before : LogTree) :
    (before.configure name).1.handlers ≠ [] := by
  rw [configure_of_known h]
  exact List.cons_ne_nil _ _

/-- While there is a handler, the first unknown level costs it. -/
theorem forall_whole_of_handlers {start : LogTree} (hstart : start.handlers ≠ [])
    (names : List Text) :
    (∀ done name rest, names = done ++ name :: rest → (start.run done).ConfiguresWhole name) ↔
      ∀ name ∈ names, (Level.known? name).isSome = true := by
  induction names generalizing start with
  | nil => exact iff_of_true (forall_whole_nil start) nofun
  | cons first names ih =>
    rw [forall_whole_cons, configuresWhole_iff, or_iff_left hstart, List.forall_mem_cons]
    cases hfirst : Level.known? first with
    | some level => rw [ih (handlers_of_known hfirst start)]
    | none => exact iff_of_false (fun h => nomatch h.1) (fun h => nomatch h.1)

/-- Without a handler there is nothing to lose until a level is known. -/
theorem forall_whole_of_no_handlers {start : LogTree} (hstart : start.handlers = [])
    (names : List Text) :
    (∀ done name rest, names = done ++ name :: rest → (start.run done).ConfiguresWhole name) ↔
      ∃ refused done, names = refused ++ done ∧
        (∀ name ∈ refused, Level.known? name = none) ∧
        ∀ name ∈ done, (Level.known? name).isSome = true := by
  induction names generalizing start with
  | nil => exact iff_of_true (forall_whole_nil start) ⟨[], [], rfl, nofun, nofun⟩
  | cons first names ih =>
    rw [forall_whole_cons, configuresWhole_iff, and_iff_right (Or.inr hstart)]
    cases hfirst : Level.known? first with
    | some level =>
      rw [forall_whole_of_handlers (handlers_of_known hfirst start)]
      constructor
      · intro hnames
        refine ⟨[], first :: names, rfl, nofun, List.forall_mem_cons.2 ⟨?_, hnames⟩⟩
        rw [hfirst]
        rfl
      · rintro ⟨refused, done, hnames, hrefused, hdone⟩
        cases refused with
        | nil =>
          obtain rfl : first :: names = done := hnames
          exact (List.forall_mem_cons.1 hdone).2
        | cons name refused =>
          obtain ⟨rfl, -⟩ := List.cons.inj hnames
          cases hfirst.symm.trans (hrefused first List.mem_cons_self)
    | none =>
      rw [ih (congrArg (fun result => result.1.handlers) (configure_of_unknown hfirst start))]
      constructor
      · rintro ⟨refused, done, rfl, hrefused, hdone⟩
        exact ⟨first :: refused, done, rfl, List.forall_mem_cons.2 ⟨hfirst, hrefused⟩, hdone⟩
      · rintro ⟨refused, done, hnames, hrefused, hdone⟩
        cases refused with
        | nil =>
          obtain rfl : first :: names = done := hnames
          have hknown := (List.forall_mem_cons.1 hdone).1
          rw [hfirst] at hknown
          cases hknown
        | cons name refused =>
          obtain ⟨rfl, rfl⟩ := List.cons.inj hnames
          exact ⟨refused, done, rfl, (List.forall_mem_cons.1 hrefused).2, hdone⟩

/-- From a root with a handler on, exactly known levels keep a sequence whole; from a root without
one, unknown levels may come first. -/
theorem forall_whole_iff (start : LogTree) (names : List Text) :
    (∀ done name rest, names = done ++ name :: rest → (start.run done).ConfiguresWhole name) ↔
      ∃ refused done, names = refused ++ done ∧
        (∀ name ∈ refused, Level.known? name = none) ∧
        (∀ name ∈ done, (Level.known? name).isSome = true) ∧
        (refused = [] ∨ start.handlers = []) := by
  by_cases hstart : start.handlers = []
  · rw [forall_whole_of_no_handlers hstart]
    simp only [hstart, or_true, and_true]
  · rw [forall_whole_of_handlers hstart]
    constructor
    · exact fun h => ⟨[], names, rfl, nofun, h, Or.inl rfl⟩
    · rintro ⟨refused, done, rfl, -, hdone, hrefused⟩
      obtain rfl := hrefused.resolve_right hstart
      exact hdone

/-- In any sequence of configurations from any logging, a configuration returns exactly if its level
is known, and then the root has one handler, which writes to the error stream, and that level. One
that raises a fault leaves the level of the root and those of the loggers, and no handler. So every
configuration is done in full or refused without a trace exactly if all levels are known, or if the
root had no handlers and the unknown levels come before the known ones. -/
theorem run_configures_whole_iff (start : LogTree) (names : List Text) :
    (∀ done name rest, names = done ++ name :: rest →
      let before := start.run done
      let (after, ending) := before.configure name
      (ending = .ok () ↔ (Level.known? name).isSome = true) ∧
      (ending = .ok () →
        (∃ handler, after.handlers = [handler] ∧ handler.target = .errorStream) ∧
          Level.known? name = some after.rootLevel) ∧
      (∀ f, ending = .error f → f.kind = .valueError ∧ after = { before with handlers := [] })) ∧
    ((∀ done name rest, names = done ++ name :: rest → (start.run done).ConfiguresWhole name) ↔
      ∃ refused done, names = refused ++ done ∧
        (∀ name ∈ refused, Level.known? name = none) ∧
        (∀ name ∈ done, (Level.known? name).isSome = true) ∧
        (refused = [] ∨ start.handlers = [])) := by
  refine ⟨fun done name rest _ => ?_, forall_whole_iff start names⟩
  intro before
  cases hname : Level.known? name with
  | some level =>
    rw [configure_of_known hname]
    exact ⟨iff_of_true rfl rfl, fun _ => ⟨⟨LogHandler.standard, rfl, rfl⟩, rfl⟩, nofun⟩
  | none =>
    rw [configure_of_unknown hname]
    refine ⟨iff_of_false nofun nofun, nofun, fun f hf => ?_⟩
    obtain rfl := Except.error.inj hf
    exact ⟨rfl, rfl⟩

/-- An unknown level costs a process the handler that it has. -/
theorem configure_loses_handlers :
    let tree := ({} : LogTree).run [Text.ofString "info"]
    tree.handlers = [LogHandler.standard] ∧
      (∃ f, (tree.configure (Text.ofString "verbose")).2 = .error f) ∧
      (tree.configure (Text.ofString "verbose")).1.handlers ≠ tree.handlers := by
  intro tree
  have htree : tree.handlers = [LogHandler.standard] := by decide +kernel
  have hunknown : Level.known? (Text.ofString "verbose") = none := by decide +kernel
  refine ⟨htree, ?_, ?_⟩
  · rw [configure_of_unknown hunknown]
    exact ⟨_, rfl⟩
  · rw [configure_of_unknown hunknown, htree]
    exact (List.cons_ne_nil _ _).symm

end LogTree

end RavenBinding
