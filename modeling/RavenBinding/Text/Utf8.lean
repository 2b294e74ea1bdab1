import RavenBinding.Text.Coding

/-!
# UTF-8

A byte string is cut into pieces: the encodings of single code points, and maximal ill-formed
parts between them. A tolerant reader puts U+FFFD for each ill-formed part; a strict reader stops at
the first one. Lone surrogates are ill formed unless the reader is asked to let them pass.

## Main definitions

- `Utf8.encodeOne`, `Utf8.encode`: writing
- `Utf8.pieces`: the cut
- `Utf8.decodeReplacing`, `Utf8.decode`: the tolerant and the strict reader
-/

namespace RavenBinding

namespace Utf8

/-- The bytes of one code point; a surrogate is written like any other number of its size. -/
def encodeOne (c : CodePoint) : Bytes :=
  let n := c.val
  if n < 0x80 then [UInt8.ofNat n]
  else if n < 0x800 then [UInt8.ofNat (0xC0 + n / 0x40), UInt8.ofNat (0x80 + n % 0x40)]
  else if n < 0x10000 then
    [UInt8.ofNat (0xE0 + n / 0x1000), UInt8.ofNat (0x80 + n / 0x40 % 0x40),
      UInt8.ofNat (0x80 + n % 0x40)]
  else
    [UInt8.ofNat (0xF0 + n / 0x40000), UInt8.ofNat (0x80 + n / 0x1000 % 0x40),
      UInt8.ofNat (0x80 + n / 0x40 % 0x40), UInt8.ofNat (0x80 + n % 0x40)]

/-- The bytes of a text, surrogates included. -/
def encodeAll (t : Text) : Bytes := t.flatMap encodeOne

/-- The bytes of a text without surrogates; the first run of surrogates is refused. -/
def encode (t : Text) : Except EncodeError Bytes :=
  match Text.firstRun? CodePoint.isSurrogate t with
  | some (c, start, stop) => .error ⟨.utf8, c, start, stop⟩
  | none => .ok (encodeAll t)

/-- A byte that continues a code point. -/
def isContinuation (b : UInt8) : Bool := 0x80 ≤ b.toNat && b.toNat ≤ 0xBF

/-- How many bytes a code point takes that starts with `a`; zero if none does. -/
def leadLength (a : UInt8) : Nat :=
  let n := a.toNat
  if n < 0x80 then 1
  else if n < 0xC2 then 0
  else if n < 0xE0 then 2
  else if n < 0xF0 then 3
  else if n < 0xF5 then 4
  else 0

/-- The second bytes that rule out overlong forms, surrogates and numbers above U+10FFFF. -/
def isSecond (a b : UInt8) : Bool :=
  let n := b.toNat
  match a.toNat with
  | 0xE0 => 0xA0 ≤ n && n ≤ 0xBF
  | 0xED => 0x80 ≤ n && n ≤ 0x9F
  | 0xF0 => 0x90 ≤ n && n ≤ 0xBF
  | 0xF4 => 0x80 ≤ n && n ≤ 0x8F
  | _ => 0x80 ≤ n && n ≤ 0xBF

/-- A piece of a byte string. -/
inductive Piece where
  /-- The encoding of a code point. -/
  | scalar (c : CodePoint) (length : Nat)
  /-- A part of some bytes that starts no code point. -/
  | illFormed (length : Nat) (reason : DecodeReason)
  deriving DecidableEq, Repr

/-- How many bytes a piece takes. -/
def Piece.length : Piece → Nat
  | scalar _ n => n
  | illFormed n _ => n

/-- The code point of two bytes. -/
def two (a b : UInt8) : CodePoint := CodePoint.ofNat ((a.toNat - 0xC0) * 0x40 + (b.toNat - 0x80))

/-- The code point of three bytes. -/
def three (a b c : UInt8) : CodePoint :=
  CodePoint.ofNat ((a.toNat - 0xE0) * 0x1000 + (b.toNat - 0x80) * 0x40 + (c.toNat - 0x80))

/-- The code point of four bytes. -/
def four (a b c d : UInt8) : CodePoint :=
  CodePoint.ofNat ((a.toNat - 0xF0) * 0x40000 + (b.toNat - 0x80) * 0x1000
    + (c.toNat - 0x80) * 0x40 + (d.toNat - 0x80))

/-- The first piece of a byte string: its length is the longest that some encoding starts with. -/
def firstPiece (a : UInt8) (rest : Bytes) : Piece :=
  match leadLength a with
  | 0 => .illFormed 1 .invalidStart
  | 1 => .scalar (CodePoint.ofNat a.toNat) 1
  | n =>
    match rest with
    | [] => .illFormed 1 .unexpectedEnd
    | b :: rest =>
      if !isSecond a b then .illFormed 1 .invalidContinuation
      else if n = 2 then .scalar (two a b) 2
      else
        match rest with
        | [] => .illFormed 2 .unexpectedEnd
        | c :: rest =>
          if !isContinuation c then .illFormed 2 .invalidContinuation
          else if n = 3 then .scalar (three a b c) 3
          else
            match rest with
            | [] => .illFormed 3 .unexpectedEnd
            | d :: _ =>
              if !isContinuation d then .illFormed 3 .invalidContinuation
              else .scalar (four a b c d) 4

/-- The surrogate that three bytes would encode if surrogates had encodings. -/
def surrogate? : UInt8 → Bytes → Option CodePoint
  | a, b :: c :: _ =>
    if a.toNat = 0xED && 0xA0 ≤ b.toNat && b.toNat ≤ 0xBF && isContinuation c then
      some (three a b c)
    else none
  | _, _ => none

/-- Like `firstPiece`, but the three bytes of a surrogate are a piece of their own. -/
def firstPieceLoose (a : UInt8) (rest : Bytes) : Piece :=
  match surrogate? a rest with
  | some c => .scalar c 3
  | none => firstPiece a rest

/-- Work of `pieces`: `skip` bytes still belong to the last piece, and `done` holds the pieces so
far, reversed. -/
def piecesLoop (first : UInt8 → Bytes → Piece) : Nat → Bytes → List Piece → List Piece
  | _, [], done => done.reverse
  | skip + 1, _ :: rest, done => piecesLoop first skip rest done
  | 0, a :: rest, done =>
    let piece := first a rest
    piecesLoop first (piece.length - 1) rest (piece :: done)

/-- The pieces of a byte string in order. -/
def pieces (first : UInt8 → Bytes → Piece) (bytes : Bytes) : List Piece :=
  piecesLoop first 0 bytes []

/-- What a tolerant reader shows for a piece. -/
def Piece.shown : Piece → CodePoint
  | scalar c _ => c
  | illFormed _ _ => CodePoint.replacement

/-- Reads bytes, with U+FFFD for every maximal ill-formed part. -/
def decodeReplacing (bytes : Bytes) : Text := (pieces firstPiece bytes).map Piece.shown

/-- Work of `readPieces`: `position` bytes are read and `text` holds their code points, reversed. -/
def readPiecesLoop (position : Nat) (text : Text) :
    List Piece → Except (Nat × Nat × DecodeReason) Text
  | [] => .ok text.reverse
  | .scalar c n :: rest => readPiecesLoop (position + n) (c :: text) rest
  | .illFormed n reason :: _ => .error (position, n, reason)

/-- The code points of the pieces, or the place and length of the first ill-formed one. -/
def readPieces (ps : List Piece) : Except (Nat × Nat × DecodeReason) Text :=
  readPiecesLoop 0 [] ps

/-- Reads bytes in which surrogates may be encoded; the first other ill-formed part is refused. -/
def decode (bytes : Bytes) : Except DecodeError Text :=
  match readPieces (pieces firstPieceLoose bytes) with
  | .ok t => .ok t
  | .error (position, n, reason) =>
    .error ⟨.utf8, bytes.getD position 0, position, position + n, reason⟩

end Utf8

end RavenBinding
