import RavenBinding.Text.Basic

/-!
# Reading charsets of more than one byte

Charsets of large scripts number the places of a grid, and a character is written in the one, two or
more bytes that tell its place. Bytes are read character by character, with U+FFFD for every byte
that is out of place and for a character that is not complete.

## Main definitions

- `CharacterRun`, `CharacterTable`: the characters of a grid by their places
- `Reading`: what some bytes begin with
- `Reading.decode`: reading all bytes
-/

namespace RavenBinding

/-- Characters at consecutive places of a grid. -/
inductive CharacterRun where
  /-- The characters from a place on, in order; U+FFFD stands for a place without one. -/
  | listed (first : Nat) (characters : List String)
  /-- As many code points in order as a length says, from a place and a code point on. -/
  | counted (first : Nat) (codePoint : Nat) (length : Nat)

/-- The first place of a run. -/
def CharacterRun.first : CharacterRun → Nat
  | listed first _ => first
  | counted first _ _ => first

/-- The characters of a run. -/
def CharacterRun.characters : CharacterRun → Text
  | listed _ characters => characters.flatMap Text.ofString
  | counted _ codePoint length => (List.range length).map fun i => CodePoint.ofNat (codePoint + i)

/-- The characters of a grid by their places. U+FFFD stands for a place without one. -/
abbrev CharacterTable : Type := Array CodePoint

namespace CharacterTable

/-- The table of runs in the order of their places. -/
def ofRuns (runs : List CharacterRun) : CharacterTable :=
  runs.foldl
    (fun table run =>
      table ++ Array.replicate (run.first - table.size) CodePoint.replacement
        ++ run.characters.toArray)
    #[]

/-- The character at a place. -/
def find? (table : CharacterTable) (place : Nat) : Option CodePoint :=
  (table[place]?).filter fun c => c != CodePoint.replacement

/-- The place in a grid with 94 rows of 94 columns, both numbered from `base` on. -/
def squarePlace? (base row column : Nat) : Option Nat :=
  if base ≤ row && row < base + 94 && base ≤ column && column < base + 94 then
    some ((row - base) * 94 + (column - base))
  else none

/-- The character of a grid with 94 rows of 94 columns, both numbered from `base` on. -/
def findSquare? (table : CharacterTable) (base row column : Nat) : Option CodePoint :=
  (squarePlace? base row column).bind table.find?

end CharacterTable

/-- What some bytes begin with. -/
inductive Reading where
  /-- A character that is written in so many bytes. -/
  | character (c : CodePoint) (length : Nat)
  /-- A byte that is out of place. -/
  | wrong
  /-- The start of a character that ends behind the last byte. -/
  | unfinished
  deriving DecidableEq, Repr

namespace Reading

/-- The character that was found, or a byte out of place. -/
def ofFound (length : Nat) : Option CodePoint → Reading
  | some c => character c length
  | none => wrong

/-- What bytes of a charset begin with that writes ASCII in single bytes and all else in pairs. -/
def ofPair (find? : Nat → Nat → Option CodePoint) : List Nat → Reading
  | [] => unfinished
  | b :: rest =>
    if b < 0x80 then character (CodePoint.ofNat b) 1
    else
      match rest with
      | [] => unfinished
      | c :: _ => ofFound 2 (find? b c)

/-- Reads character by character; `text` holds what was read, reversed. -/
def decodeLoop (read : List Nat → Reading) (text : Text) : List Nat → Text
  | [] => text.reverse
  | b :: rest =>
    match read (b :: rest) with
    | character c length => decodeLoop read (c :: text) (rest.drop (length - 1))
    | wrong => decodeLoop read (CodePoint.replacement :: text) rest
    | unfinished => (CodePoint.replacement :: text).reverse
termination_by bytes => bytes.length
decreasing_by
  · simp only [List.length_drop, List.length_cons]
    omega
  · simp

/-- The text of some bytes, by what bytes begin with. -/
def decode (read : List Nat → Reading) (bytes : Bytes) : Text :=
  decodeLoop read [] (bytes.map UInt8.toNat)

end Reading

end RavenBinding
