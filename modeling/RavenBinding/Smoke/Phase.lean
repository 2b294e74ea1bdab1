import RavenBinding.Binding.Status
import RavenBinding.FieldMap

/-!
# Phases of the smoke workload

The workload runs in phases. Each has one status that all its operations are to report, and is
judged by the statuses that were seen in it.

## Main definitions

- `Phase`, `Phase.expected`: the phases and what is expected of them
- `Tally`: how often each status was seen
- `Phase.unexpected`: the phases that saw another status than the expected one
-/

namespace RavenBinding

/-- The phases. -/
inductive Phase where
  | insert
  | read
  | update
  | scan
  | delete
  | readDeleted
  deriving DecidableEq, Repr

/-- How often each status was seen, in the order in which they were first seen. -/
abbrev Tally := FieldMap Status Nat

namespace Tally

/-- The tally with one more of a status. -/
def add (tally : Tally) (status : Status) : Tally :=
  FieldMap.insert tally status ((FieldMap.get? tally status).getD 0 + 1)

/-- The tally of some statuses. -/
def ofStatuses (statuses : List Status) : Tally := statuses.foldl add []

/-- The entries by the names of their statuses. -/
def sorted (tally : Tally) : List (Status × Nat) :=
  tally.mergeSort fun a b => Text.le a.1.name b.1.name

end Tally

namespace Phase

/-- All phases in order. -/
def all : List Phase := [insert, read, update, scan, delete, readDeleted]

/-- The name of a phase. -/
def name : Phase → Text
  | insert => "insert"
  | read => "read"
  | update => "update"
  | scan => "scan"
  | delete => "delete"
  | readDeleted => "read_deleted"

/-- The phase with a given name. -/
def ofName? (name : Text) : Option Phase := all.find? fun phase => phase.name == name

/-- The status that every operation of a phase is to report. -/
def expected : Phase → Status
  | insert | read | delete => .ok
  | update | scan => .notImplemented
  | readDeleted => .notFound

/-- The statuses of a tally that a phase is not to see. -/
def surprises (phase : Phase) (tally : Tally) : List Status :=
  (tally.map Prod.fst).filter fun status => status ≠ phase.expected

/-- The phases that saw another status than the expected one. -/
def unexpected (counts : List (Phase × Tally)) : List Phase :=
  (counts.filter fun c => !(c.1.surprises c.2).isEmpty).map Prod.fst

/-- The phases that some tallies belong to by name. A name that is no phase does not matter as long
as nothing was seen under it. -/
def resolve : FieldMap Text Tally → Except Fault (List (Phase × Tally))
  | [] => .ok []
  | (name, tally) :: rest =>
    match ofName? name, tally with
    | some phase, tally => do
      let others ← resolve rest
      pure ((phase, tally) :: others)
    | none, [] => resolve rest
    | none, _ :: _ => .error ⟨.keyError, name⟩

/-- The names of the phases that saw another status than the expected one. -/
def unexpectedNames (counts : FieldMap Text Tally) : Except Fault (List Text) := do
  let counts ← resolve counts
  pure ((unexpected counts).map name)

end Phase

end RavenBinding
