import RavenBinding.Text.Basic

/-!
# Numeric addresses

A host of numbers has to be an address: four numbers below 256, or up to eight groups of
hexadecimal digits with at most one gap.

## Main definitions

- `Address.looksNumeric`: four runs of digits with full stops between them
- `Address.isVersion4`, `Address.isVersion6`: the forms that are addresses
-/

namespace RavenBinding

namespace Address

/-- The text is four runs of digits with full stops between them. -/
def looksNumeric (t : Text) : Bool :=
  let runs := Text.splitOn (CodePoint.ofChar '.') t
  runs.length = 4 && runs.all fun run => !run.isEmpty && run.all CodePoint.isDigit

/-- A number below 256 without leading zeros. -/
def isOctet (t : Text) : Bool :=
  !t.isEmpty && t.length ≤ 3 && t.all CodePoint.isDigit
    && (t.length = 1 || t.head? != some (CodePoint.ofChar '0'))
    && t.foldl (fun n c => 10 * n + (c.val - 0x30)) 0 < 256

/-- An address of four octets. -/
def isVersion4 (t : Text) : Bool :=
  let octets := Text.splitOn (CodePoint.ofChar '.') t
  octets.length = 4 && octets.all isOctet

/-- One to four hexadecimal digits. -/
def isGroup (t : Text) : Bool :=
  !t.isEmpty && t.length ≤ 4 && t.all fun c => c.hexValue?.isSome

/-- The places of empty parts other than the first and the last one. -/
def innerGaps (parts : List Text) : List Nat :=
  (List.range (parts.length - 1)).filter fun i => 0 < i && (parts.getD i []).isEmpty

/-- Eight groups, or fewer with one gap; at an end, a gap is two empty parts. -/
def areGroups (parts : List Text) : Bool :=
  match innerGaps parts with
  | [] => parts.length = 8 && parts.all isGroup
  | [gap] =>
    let before := parts.take gap
    let after := parts.drop (gap + 1)
    let before := if before == [[]] then [] else before
    let after := if after == [[]] then [] else after
    before.length + after.length < 8 && before.all isGroup && after.all isGroup
  | _ => false

/-- The parts between colons, with a version 4 address at the end counted as two groups. -/
def groups? (t : Text) : Option (List Text) :=
  let parts := Text.splitOn (CodePoint.ofChar ':') t
  if parts.length < 3 then none
  else
    let last := parts.getLastD []
    if last.contains (CodePoint.ofChar '.') then
      if isVersion4 last then some (parts.dropLast ++ [Text.ofString "0", Text.ofString "0"])
      else none
    else some parts

/-- An address of eight groups; it may name a zone after a percent sign. -/
def isVersion6 (t : Text) : Bool :=
  match Text.cut (CodePoint.ofChar '%') t with
  | (address, zone) =>
    (match zone with
      | none => true
      | some z => !z.isEmpty && !z.contains (CodePoint.ofChar '%'))
    && match groups? address with
      | none => false
      | some parts => parts.length ≤ 9 && areGroups parts

end Address

end RavenBinding
