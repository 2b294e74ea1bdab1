import RavenBinding.Deflate.Block

/-!
# Containers of compressed data

Compressed blocks are sent bare or in one of two containers, which begin with a header and end with a
checksum. Data that end too early give what can be read of them, and what follows the end is left
alone.

## Main definitions

- `Deflate.Container`: the forms in which blocks are sent
- `Deflate.sumOfSums`, `Deflate.cyclicSum`: the checksums
- `Deflate.expand`: the bytes that are sent in a form
-/

namespace RavenBinding

namespace Deflate

/-- The forms in which blocks are sent. -/
inductive Container where
  /-- A header of two bytes, and a checksum of sums. -/
  | zlib
  /-- A header with details of a file, and a cyclic checksum and the length. -/
  | gzip
  /-- No container at all. -/
  | bare
  deriving DecidableEq, Repr

/-- The sum of the bytes and the sum of the sums, both to a prime below two bytes' room. -/
def sumOfSums (bytes : Array UInt8) : Nat :=
  let (low, high) := bytes.foldl (fun (s : Nat × Nat) b =>
    let low := (s.1 + b.toNat) % 65521
    (low, (s.2 + low) % 65521)) (1, 0)
  high * 0x10000 + low

/-- One step of a cyclic checksum. -/
def cyclicStep (sum : UInt32) : UInt32 :=
  if sum &&& 1 = 1 then (sum >>> 1) ^^^ 0xEDB88320 else sum >>> 1

/-- A cyclic checksum with one more byte. -/
def cyclicByte (sum : UInt32) (b : UInt8) : UInt32 :=
  (8 : Nat).repeat cyclicStep (sum ^^^ b.toUInt32)

/-- The cyclic checksum of some bytes. -/
def cyclicSum (bytes : Array UInt8) : Nat :=
  (bytes.foldl cyclicByte 0xFFFFFFFF ^^^ 0xFFFFFFFF).toNat

/-- Reads the number of some bytes, the highest one first. -/
def highFirst (count : Nat) : Reader Nat := do
  let bytes ← (List.range count).mapM fun _ => Reader.number 8
  pure (bytes.foldl (fun n b => 256 * n + b) 0)

/-- Reads the header of two bytes: together they are a multiple of 31. A window of more than fifteen
bits is refused, and so is a dictionary, which is not there. -/
def readShortHeader : Reader Unit := do
  let first ← Reader.number 8
  let second ← Reader.number 8
  if (256 * first + second) % 31 ≠ 0 then Reader.refuse .header
  else if first % 16 ≠ 8 then Reader.refuse .method
  else if 7 < first / 16 then Reader.refuse .window
  else if second.testBit 5 then do
    let _ ← highFirst 4
    Reader.refuse .dictionary
  else pure ()

/-- Reads bytes up to one that is zero; `seen` holds those of the header so far, reversed, and every
byte takes one of the fuel. -/
def readName : Nat → Bytes → Reader Bytes
  | 0, _ => Reader.stop .truncated
  | fuel + 1, seen => do
    let b ← Reader.number 8
    let seen := UInt8.ofNat b :: seen
    if b = 0 then pure seen else readName fuel seen

/-- Reads some bytes of a header. -/
def readBytes (count : Nat) (seen : Bytes) : Reader Bytes := do
  let bytes ← (List.range count).mapM fun _ => Reader.number 8
  pure ((bytes.map UInt8.ofNat).reverse ++ seen)

/-- The checksum of a header that covers the bytes seen, which are reversed. -/
def headerSum (seen : Bytes) : Nat := cyclicSum seen.reverse.toArray % 0x10000

/-- Reads the header with details of a file: two marks, the method, flags, a time and two more
details, and then what the flags announce. -/
def readLongHeader : Reader Unit := do
  let bits : Bits ← get
  let fuel := bits.length
  let first ← Reader.number 8
  let second ← Reader.number 8
  if first ≠ 0x1F || second ≠ 0x8B then Reader.refuse .header
  else do
    let method ← Reader.number 8
    let flags ← Reader.number 8
    if method ≠ 8 then Reader.refuse .method
    else if 0x20 ≤ flags then Reader.refuse .headerFlags
    else do
      let seen ← readBytes 6 ([0x1F, 0x8B, 8, UInt8.ofNat flags] : Bytes).reverse
      let seen ← if flags.testBit 2 then do
          let low ← Reader.number 8
          let high ← Reader.number 8
          readBytes (low + 256 * high) (UInt8.ofNat high :: UInt8.ofNat low :: seen)
        else pure seen
      let seen ← if flags.testBit 3 then readName fuel seen else pure seen
      let seen ← if flags.testBit 4 then readName fuel seen else pure seen
      if flags.testBit 1 then do
        let sum ← Reader.number 16
        if sum = headerSum seen then pure () else Reader.refuse .headerChecksum
      else pure ()

/-- Reads what follows the blocks, for the bytes that they stand for. -/
def readTrailer (container : Container) (bytes : Array UInt8) : Reader Unit := do
  Reader.align
  match container with
  | .bare => pure ()
  | .zlib => do
    let sum ← highFirst 4
    if sum = sumOfSums bytes then pure () else Reader.refuse .checksum
  | .gzip => do
    let sum ← Reader.number 32
    if sum ≠ cyclicSum bytes then Reader.refuse .checksum
    else do
      let length ← Reader.number 32
      if length = bytes.size % 0x100000000 then pure () else Reader.refuse .length

/-- Reads the header of a container. -/
def readHeader : Container → Reader Unit
  | .bare => pure ()
  | .zlib => readShortHeader
  | .gzip => readLongHeader

/-- Bytes that were read up to a halt; only a broken rule counts. -/
def settled (bytes : Array UInt8) : Halt → Except Problem Bytes
  | .truncated => .ok bytes.toList
  | .invalid problem => .error problem

/-- The bytes that are sent in a form. -/
def expand (container : Container) (sent : Bytes) : Except Problem Bytes :=
  match (readHeader container).run (bitsOf sent) with
  | .error halt => settled #[] halt
  | .ok ((), bits) =>
    let progress := inflate bits
    match progress.next with
    | .error halt => settled progress.output halt
    | .ok rest =>
      match (readTrailer container progress.output).run rest with
      | .error halt => settled progress.output halt
      | .ok _ => .ok progress.output.toList

end Deflate

end RavenBinding
