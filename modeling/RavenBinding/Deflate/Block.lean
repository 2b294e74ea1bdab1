import RavenBinding.Deflate.Code

/-!
# Blocks of compressed data

Compressed data are blocks. A block holds its bytes as they are, or as words of a code for single
bytes and for copies of what came before. The codes are fixed, or they come first in the block.

## Main definitions

- `Deflate.Item`, `Deflate.readItem`: what the words of a block stand for
- `Deflate.readCodes`: the codes at the start of a block
- `Deflate.inflate`: the bytes of blocks
-/

namespace RavenBinding

namespace Deflate

/-- The codes of a block: for bytes and lengths of copies, and for distances. -/
structure BlockCodes where
  literals : PrefixCode
  distances : PrefixCode

/-- What words stand for. -/
inductive Item where
  | byte (b : UInt8)
  /-- Some of the bytes so far once more, from a distance back. -/
  | copy (length distance : Nat)
  | endOfBlock

/-- The least length of a copy and the number of bits that follow, for each symbol of a length. -/
def lengthForms : List (Nat × Nat) :=
  [(3, 0), (4, 0), (5, 0), (6, 0), (7, 0), (8, 0), (9, 0), (10, 0), (11, 1), (13, 1), (15, 1),
    (17, 1), (19, 2), (23, 2), (27, 2), (31, 2), (35, 3), (43, 3), (51, 3), (59, 3), (67, 4), (83, 4),
    (99, 4), (115, 4), (131, 5), (163, 5), (195, 5), (227, 5), (258, 0)]

/-- The least distance of a copy and the number of bits that follow, for each symbol of a
distance. -/
def distanceForms : List (Nat × Nat) :=
  [(1, 0), (2, 0), (3, 0), (4, 0), (5, 1), (7, 1), (9, 2), (13, 2), (17, 3), (25, 3), (33, 4), (49, 4),
    (65, 5), (97, 5), (129, 6), (193, 6), (257, 7), (385, 7), (513, 8), (769, 8), (1025, 9), (1537, 9),
    (2049, 10), (3073, 10), (4097, 11), (6145, 11), (8193, 12), (12289, 12), (16385, 13),
    (24577, 13)]

/-- Reads the rest of a length or distance. -/
def readForm (forms : List (Nat × Nat)) (symbol : Nat) (problem : Problem) : Reader Nat :=
  match forms[symbol]? with
  | none => Reader.refuse problem
  | some (least, width) => do
    let more ← Reader.number width
    pure (least + more)

/-- The symbol at which a block ends; greater ones are lengths. -/
def endSymbol : Nat := 256

/-- Reads an item. -/
def readItem (codes : BlockCodes) : Reader Item := do
  match ← codes.literals.symbol? with
  | none => Reader.refuse .literal
  | some symbol =>
    if symbol < endSymbol then pure (.byte (UInt8.ofNat symbol))
    else if symbol = endSymbol then pure .endOfBlock
    else do
      let length ← readForm lengthForms (symbol - endSymbol - 1) .literal
      match ← codes.distances.symbol? with
      | none => Reader.refuse .distance
      | some symbol => do
        let distance ← readForm distanceForms symbol .distance
        pure (.copy length distance)

/-- The codes of a block that brings none. -/
def fixedCodes : BlockCodes :=
  { literals := PrefixCode.ofLengths (List.replicate 144 8 ++ List.replicate 112 9
      ++ List.replicate 24 7 ++ List.replicate 8 8)
    distances := PrefixCode.ofLengths (List.replicate 32 5) }

/-- The order in which the lengths of the code for lengths are given. -/
def lengthOrder : List Nat :=
  [16, 17, 18, 0, 8, 7, 9, 6, 10, 5, 11, 4, 12, 3, 13, 2, 14, 1, 15]

/-- Reads the lengths of the code for lengths. -/
def readLengthCode (count : Nat) : Reader (List Nat) := do
  let given ← (List.range count).mapM fun _ => Reader.number 3
  let byPlace := lengthOrder.zip given
  pure ((List.range 19).map fun symbol => ((byPlace.find? fun p => p.1 = symbol).map Prod.snd).getD 0)

/-- Work of `readLengths`: `found` holds the lengths so far, reversed, and `missing` is how many are
still to come. -/
def readLengthsLoop (code : PrefixCode) : Nat → (missing : Nat) → (found : List Nat) →
    Reader (List Nat)
  | _, 0, found => pure found.reverse
  | 0, _, found => pure found.reverse
  | fuel + 1, missing + 1, found => do
    let symbol ← code.symbol?
    let repeated (length count : Nat) : Reader (List Nat) :=
      if missing + 1 < count then Reader.refuse .repetition
      else readLengthsLoop code fuel (missing + 1 - count) (List.replicate count length ++ found)
    match symbol.getD 0 with
    | 16 => do
      let more ← Reader.number 2
      match found with
      | [] => Reader.refuse .repetition
      | last :: _ => repeated last (3 + more)
    | 17 => do
      let more ← Reader.number 3
      repeated 0 (3 + more)
    | 18 => do
      let more ← Reader.number 7
      repeated 0 (11 + more)
    | length => readLengthsLoop code fuel missing (length :: found)

/-- Reads lengths of words; three symbols stand for repeated ones. -/
def readLengths (code : PrefixCode) (count : Nat) : Reader (List Nat) :=
  readLengthsLoop code count count []

/-- Reads the codes at the start of a block. -/
def readCodes : Reader BlockCodes := do
  let literalCount ← Reader.number 5
  let distanceCount ← Reader.number 5
  let lengthCount ← Reader.number 4
  if 286 < literalCount + 257 || 30 < distanceCount + 1 then Reader.refuse .tooManySymbols
  else do
    let lengthCode ← readLengthCode (lengthCount + 4)
    if !PrefixCode.isAdmissible false lengthCode then Reader.refuse .codeLengths
    else do
      let lengths ← readLengths (PrefixCode.ofLengths lengthCode)
        (literalCount + 257 + (distanceCount + 1))
      let literals := lengths.take (literalCount + 257)
      let distances := lengths.drop (literalCount + 257)
      if literals.getD endSymbol 0 = 0 then Reader.refuse .noEnd
      else if !PrefixCode.isAdmissible true literals then Reader.refuse .literalCode
      else if !PrefixCode.isAdmissible true distances then Reader.refuse .distanceCode
      else pure ⟨PrefixCode.ofLengths literals, PrefixCode.ofLengths distances⟩

/-- The bytes so far, and how reading goes on: with the rest of the bits, or not at all. -/
structure Progress where
  output : Array UInt8
  next : Except Halt Bits

/-- Appends the byte at a distance from the end, again and again. -/
def copyBack (distance : Nat) : Nat → Array UInt8 → Array UInt8
  | 0, output => output
  | n + 1, output => copyBack distance n (output.push (output.getD (output.size - distance) 0))

/-- Reads items to the end of a block; every item takes at least one bit of the fuel. -/
def readItems (codes : BlockCodes) : Nat → Array UInt8 → Bits → Progress
  | 0, output, _ => ⟨output, .error .truncated⟩
  | fuel + 1, output, bits =>
    match (readItem codes).run bits with
    | .error halt => ⟨output, .error halt⟩
    | .ok (.byte b, rest) => readItems codes fuel (output.push b) rest
    | .ok (.endOfBlock, rest) => ⟨output, .ok rest⟩
    | .ok (.copy length distance, rest) =>
      if output.size < distance then ⟨output, .error (.invalid .tooFarBack)⟩
      else readItems codes fuel (copyBack distance length output) rest

/-- Reads the length of a block that holds its bytes as they are; it is given twice, the second time
with every bit turned over. -/
def readStoredLength : Reader Nat := do
  Reader.align
  let length ← Reader.number 16
  let turned ← Reader.number 16
  if length + turned = 0xFFFF then pure length else Reader.refuse .storedLength

/-- Reads the bytes of a block. -/
def readBlock (kind : Nat) (output : Array UInt8) (bits : Bits) : Progress :=
  match kind with
  | 0 =>
    match readStoredLength.run bits with
    | .error halt => ⟨output, .error halt⟩
    | .ok (length, rest) =>
      let (bytes, after) := takeBytes output length rest
      ⟨bytes, if bytes.size = output.size + length then .ok after else .error .truncated⟩
  | 1 => readItems fixedCodes (bits.length + 1) output bits
  | 2 =>
    match readCodes.run bits with
    | .error halt => ⟨output, .error halt⟩
    | .ok (codes, rest) => readItems codes (rest.length + 1) output rest
  | _ => ⟨output, .error (.invalid .blockKind)⟩

/-- Reads whether a block is the last one, and its kind. -/
def readBlockStart : Reader (Bool × Nat) := do
  let last ← Reader.bit
  let kind ← Reader.number 2
  pure (last, kind)

/-- Reads blocks up to the last one; every block takes at least one bit of the fuel. -/
def readBlocks : Nat → Array UInt8 → Bits → Progress
  | 0, output, _ => ⟨output, .error .truncated⟩
  | fuel + 1, output, bits =>
    match readBlockStart.run bits with
    | .error halt => ⟨output, .error halt⟩
    | .ok ((last, kind), rest) =>
      let progress := readBlock kind output rest
      match progress.next with
      | .error _ => progress
      | .ok rest => if last then progress else readBlocks fuel progress.output rest

/-- The bytes that compressed bits stand for. -/
def inflate (bits : Bits) : Progress := readBlocks (bits.length + 1) #[] bits

end Deflate

end RavenBinding
