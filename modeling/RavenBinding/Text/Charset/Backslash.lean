import RavenBinding.Text.Basic

/-!
# Backslash sequences

A charset in which a byte is the code point of its number, and sequences behind a backslash stand for
all others. In its plain form only code points are given by number; in its full form there are short
sequences for control characters too. U+FFFD stands for a sequence that is out of order.

## Main definitions

- `Backslash.decode`: reading bytes
-/

namespace RavenBinding

namespace Backslash

/-- The code point that some hexadecimal digits give, and what is behind the digits. -/
def numbered (count : Nat) (t : Text) : CodePoint × Text :=
  let digits := (t.take count).takeWhile fun c => c.hexValue?.isSome
  let value := (digits.filterMap CodePoint.hexValue?).foldl (fun n d => n * 16 + d) 0
  let c := if digits.length = count && value ≤ 0x10FFFF then CodePoint.ofNat value
    else CodePoint.replacement
  (c, t.drop digits.length)

/-- The code point of one to three octal digits, and what is behind them. -/
def octal (t : Text) : CodePoint × Text :=
  let isOctal (c : CodePoint) := c.isDigit && c.val ≤ 0x37
  let digits := (t.take 3).takeWhile isOctal
  (CodePoint.ofNat (digits.foldl (fun n d => n * 8 + (d.val - 0x30)) 0), t.drop digits.length)

/-- What is behind a name in braces. No names are known. -/
def dropName : Text → Text
  | [] => []
  | c :: rest =>
    if c.val = 0x7B then
      match rest.span fun d => d.val ≠ 0x7D with
      | ([], after) => after
      | (_ :: _, after) => after.drop 1
    else c :: rest

/-- The control characters with short sequences. -/
def controls : List (Char × Nat) :=
  [('a', 7), ('b', 8), ('t', 9), ('n', 10), ('v', 11), ('f', 12), ('r', 13), ('\\', 92),
    ('\'', 39), ('"', 34)]

/-- The characters of a sequence in the plain form, and what is behind it. -/
def plainSequence : Text → Text × Text
  | [] => ([CodePoint.ofChar '\\'], [])
  | kind :: rest =>
    let number (count : Nat) := let (c, after) := numbered count rest; ([c], after)
    if kind == CodePoint.ofChar 'u' then number 4
    else if kind == CodePoint.ofChar 'U' then number 8
    else ([CodePoint.ofChar '\\', kind], rest)

/-- The characters of a sequence in the full form, and what is behind it. -/
def fullSequence : Text → Text × Text
  | [] => ([CodePoint.replacement], [])
  | kind :: rest =>
    if kind == CodePoint.ofChar 'x' then
      let (c, after) := numbered 2 rest
      ([c], after)
    else if kind == CodePoint.ofChar 'N' then ([CodePoint.replacement], dropName rest)
    else if kind == CodePoint.ofChar '\n' then ([], rest)
    else if kind.isDigit && kind.val ≤ 0x37 then
      let (c, after) := octal (kind :: rest)
      ([c], after)
    else
      match controls.find? fun control => CodePoint.ofChar control.1 == kind with
      | some (_, value) => ([CodePoint.ofNat value], rest)
      | none => plainSequence (kind :: rest)

/-- Reads the rest of a text by what a sequence stands for; `text` holds what was read, reversed. The
fuel bounds the number of characters and sequences. -/
def readLoop (sequence : Text → Text × Text) (text : Text) : Nat → Text → Text
  | 0, _ => text.reverse
  | _, [] => text.reverse
  | fuel + 1, c :: rest =>
    if c == CodePoint.ofChar '\\' then
      let (characters, after) := sequence rest
      readLoop sequence (characters.reverse ++ text) fuel after
    else readLoop sequence (c :: text) fuel rest

/-- The text of some bytes, by what a sequence stands for. -/
def decode (sequence : Text → Text × Text) (bytes : Bytes) : Text :=
  let t : Text := bytes.map fun b => CodePoint.ofNat b.toNat
  readLoop sequence [] t.length t

end Backslash

end RavenBinding
