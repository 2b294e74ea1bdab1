import RavenBinding.Deflate.Bits

/-!
# Prefix codes

A prefix code is given by the lengths of its words: symbols with shorter words come first, and those
with words of one length in their own order. Lengths that leave no room for each other give no code.

## Main definitions

- `PrefixCode`, `PrefixCode.ofLengths`: the code of some lengths
- `PrefixCode.isAdmissible`: whether lengths give a code
- `PrefixCode.symbol?`: reading a symbol
-/

namespace RavenBinding

namespace Deflate

/-- A prefix code. -/
structure PrefixCode where
  /-- How many words there are of each length, from one on. -/
  counts : List Nat
  /-- The symbols in the order of their words. -/
  symbols : Array Nat

namespace PrefixCode

/-- The greatest length of a word. -/
def maxLength : Nat := 15

/-- How many symbols have words of each length from one on. -/
def countsOf (lengths : List Nat) : List Nat :=
  (List.range maxLength).map fun i => lengths.count (i + 1)

/-- The code of some lengths; a symbol of length zero has no word. There is at least one length. -/
def ofLengths (lengths : List Nat) : PrefixCode :=
  let longest := max 1 (lengths.foldl max 0)
  let numbered := (List.range lengths.length).zip lengths
  let symbols := (List.range maxLength).flatMap fun i =>
    (numbered.filter fun s => s.2 = i + 1).map Prod.fst
  ⟨(countsOf lengths).take longest, symbols.toArray⟩

/-- How much room words of some counts leave, in units of the longest word; `none` if there is not
enough. -/
def room? (free : Nat) : List Nat → Option Nat
  | [] => some free
  | count :: rest => if 2 * free < count then none else room? (2 * free - count) rest

/-- Lengths give a code if there is room for all words. No room is to be left over, unless there is
no word at all, or all words have one bit and this is allowed. -/
def isAdmissible (oneBit : Bool) (lengths : List Nat) : Bool :=
  let longest := lengths.foldl max 0
  longest = 0 ||
    match room? 1 ((countsOf lengths).take longest) with
    | none => false
    | some left => left = 0 || (oneBit && longest = 1)

/-- Work of `symbol?`: `word` is what has been read, `first` the first word of the length, and
`index` the number of shorter words. -/
def symbolLoop (symbols : Array Nat) (word first index : Nat) : List Nat → Reader (Option Nat)
  | [] => pure none
  | count :: rest => do
    let b ← Reader.bit
    let word := word + b.toNat
    if word < first + count then pure symbols[index + (word - first)]?
    else symbolLoop symbols (2 * word) (2 * (first + count)) (index + count) rest

/-- Reads a word; `none` if the code has no such word. -/
def symbol? (code : PrefixCode) : Reader (Option Nat) := symbolLoop code.symbols 0 0 0 code.counts

end PrefixCode

end Deflate

end RavenBinding
