import RavenBinding.Smoke.Phase
import RavenBinding.Smoke.Record

/-!
# The smoke workload

The workload inserts records, reads them back, updates them, scans once, deletes them, and reads
them again. It works with any binding and counts what the binding reports; a record that is read
back with other contents counts as an error. An operation that fails ends the workload.

## Main definitions

- `Workload`: the records, and how many were asked for
- `Workload.run`: the tallies of all phases
-/

namespace RavenBinding

/-- What the workload works with. The records have different keys. -/
structure Workload where
  /-- The number of records that was asked for, which the scan passes on. -/
  count : Int
  records : List (Text × ResultMap)

namespace Workload

/-- The name under which the workload logs. -/
def loggerName : Text := "ycsb_ravendb.scripts.smoke_workload"

/-- The table of all records. -/
def table : Text := "usertable"

/-- The workload whose records are drawn from the generator of a seed. -/
def ofSeed (shape : RecordShape) (count seed : Int) : Workload :=
  ⟨count, (Id.run ((shape.drawAll count).run (Generator.ofSeed seed))).1⟩

/-- The keys of the records. -/
def keys (w : Workload) : List Text := w.records.map Prod.fst

/-- A record as it is handed to a binding. -/
def values (record : ResultMap) : FieldMap Text Value :=
  record.map fun field => (field.1, .bytes .bytes field.2)

/-- Two records have the same fields with the same bytes, in whatever order. -/
def sameRecord (a b : ResultMap) : Bool :=
  a.length == b.length && a.all fun field => FieldMap.get? b field.1 == some field.2

/-- The entry of the log about a record that was read back with other contents. -/
def mismatch (key : Text) : LogEntry :=
  { level := Level.warning
    logger := loggerName
    message := loggerName
      ++ Text.ofString ":run_smoke_workload - Read back mismatch for " ++ key }

variable {m : Type → Type} [Monad m]

/-- The status of an operation that was run, or its failure. -/
def reported (status : Except Failure Status) : ExceptT Failure m Status := ExceptT.mk (pure status)

/-- Reads a record into a fresh result. -/
def read (binding : Binding m) (key : Text) : ExceptT Failure m (Outcome ResultMap) :=
  ExceptT.lift (binding.read table key none [])

/-- Reads a record that was deleted. -/
def readDeleted (binding : Binding m) (key : Text) : ExceptT Failure m Status := do
  let outcome ← read binding key
  reported outcome.status

/-- Reads a record back; other contents than those given are an error. -/
def readBack [MonadLog m] (binding : Binding m) (key : Text) (record : ResultMap) :
    ExceptT Failure m Status := do
  let outcome ← read binding key
  let status ← reported outcome.status
  if status.isOk && !sameRecord outcome.written record then do
    ExceptT.lift (MonadLog.log (mismatch key))
    pure .error
  else pure status

/-- Scans from the first key. -/
def scan (w : Workload) (binding : Binding m) : ExceptT Failure m Status := do
  let outcome ← ExceptT.lift (binding.scan table (w.keys.headD []) w.count none [])
  reported outcome.status

/-- Runs all phases in order and counts the statuses of each. -/
def run [MonadLog m] (w : Workload) (binding : Binding m) :
    ExceptT Failure m (List (Phase × Tally)) := do
  let inserted ← w.records.mapM fun r => ExceptT.mk (binding.insert table r.1 (values r.2))
  let read ← w.records.mapM fun r => readBack binding r.1 r.2
  let updated ← w.records.mapM fun r => ExceptT.mk (binding.update table r.1 (values r.2))
  let scanned ← w.scan binding
  let deleted ← w.keys.mapM fun key => ExceptT.mk (binding.delete table key)
  let again ← w.keys.mapM fun key => readDeleted binding key
  pure [(.insert, Tally.ofStatuses inserted), (.read, Tally.ofStatuses read),
    (.update, Tally.ofStatuses updated), (.scan, Tally.ofStatuses [scanned]),
    (.delete, Tally.ofStatuses deleted), (.readDeleted, Tally.ofStatuses again)]

end Workload

end RavenBinding
