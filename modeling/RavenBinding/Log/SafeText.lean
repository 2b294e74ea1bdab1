import RavenBinding.Value.Display

/-!
# Texts of values for the log

Logging a value never fails and shows no contents of byte strings and of most collections, only
their size. Long texts are cut.

## Main definitions

- `Value.logText`: the text of a value for the log
-/

namespace RavenBinding

/-- The first part of a text; a length below zero counts from the end. -/
def Text.upTo (length : Int) (t : Text) : Text :=
  if 0 ≤ length then t.take length.toNat else t.take (t.length - length.natAbs)

namespace Value

/-- The size of a collection, or the text of another value. -/
def logSummary : Value → Except Fault Text
  | text t => .ok t
  | bytes .bytes b | bytes .bytearray b =>
    .ok (Text.ofString "bytes(" ++ Text.ofNat b.length ++ Text.ofString ")")
  | sequence .frozenset items => (sequence .frozenset items).display
  | sequence kind items =>
    .ok ((sequence kind items).typeName ++ Text.ofString "(" ++ Text.ofNat items.length
      ++ Text.ofString " items)")
  | map entries =>
    .ok (Text.ofString "dict(" ++ Text.ofNat entries.length ++ Text.ofString " keys)")
  | v => v.display

/-- A text cut to a length, with a note of its full length if it is longer. -/
def cutForLog (maxLength : Int) (t : Text) : Text :=
  if maxLength < t.length then
    t.upTo maxLength ++ Text.ofString "... (truncated, " ++ Text.ofNat t.length
      ++ Text.ofString " total)"
  else t

/-- The text of a value for the log. A value without a text is shown by the fault it raises, and
nothing is never cut. -/
def logText (maxLength : Int) (v : Value) : Text :=
  match v, v.logSummary with
  | none, _ => "None"
  | _, .ok t => cutForLog maxLength t
  | _, .error f => Text.ofString "<unable to log: " ++ f.kind.name ++ Text.ofString ">"

/-- The length that log texts are cut to. -/
def logLength : Int := 500

end Value

end RavenBinding
