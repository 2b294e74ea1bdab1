import RavenBinding.Json.Basic
import RavenBinding.Text.Units

/-!
# Reading JSON text

The reader takes one value with white space around it. Of members with one name, the first place
and the last value count. An error names what was expected and where.

## Main definitions

- `Json.Problem`, `Json.ParseError`: what is wrong and its place
- `Json.readString`, `Json.readNumber?`: the reader's leaves
- `Json.parse`: the reader
-/

namespace RavenBinding

namespace Json

/-- What is wrong with a text. -/
inductive Problem where
  | expectingValue
  | expectingName
  | expectingColon
  | expectingComma
  | unterminatedString
  | controlCharacter
  | invalidEscape
  | invalidUnicodeEscape
  | extraData
  /-- An integer with this many digits, which is too many. -/
  | tooManyDigits (digits : Nat)
  /-- A collection inside too many others. -/
  | tooDeep (fault : Fault)
  deriving DecidableEq, Repr

/-- A problem and the number of code points from its place to the end of the text. -/
structure Halt where
  problem : Problem
  remaining : Nat
  deriving DecidableEq, Repr

/-- A problem and its place: how many code points come before it, and its line and column. -/
structure ParseError where
  problem : Problem
  position : Nat
  line : Nat
  column : Nat
  deriving DecidableEq, Repr

/-- The wording of a problem. -/
def Problem.text : Problem → Text
  | expectingValue => "Expecting value"
  | expectingName => "Expecting property name enclosed in double quotes"
  | expectingColon => "Expecting ':' delimiter"
  | expectingComma => "Expecting ',' delimiter"
  | unterminatedString => "Unterminated string starting at"
  | controlCharacter => "Invalid control character at"
  | invalidEscape => "Invalid \\escape"
  | invalidUnicodeEscape => "Invalid \\uXXXX escape"
  | extraData => "Extra data"
  | tooManyDigits n =>
    Text.ofString "Exceeds the limit (4300 digits) for integer string conversion: value has "
      ++ Text.ofNat n
      ++ Text.ofString " digits; use sys.set_int_max_str_digits() to increase the limit"
  | tooDeep fault => fault.message

/-- A problem is shown with its place, but too many digits and too many collections are not. -/
def ParseError.message (e : ParseError) : Text :=
  match e.problem with
  | .tooManyDigits n => (Problem.tooManyDigits n).text
  | .tooDeep fault => fault.message
  | problem =>
    problem.text ++ Text.ofString ": line " ++ Text.ofNat e.line ++ Text.ofString " column "
      ++ Text.ofNat e.column ++ Text.ofString " (char " ++ Text.ofNat e.position
      ++ Text.ofString ")"

/-- The fault that is raised instead of the error, if there is one. -/
def ParseError.fault? (e : ParseError) : Option Fault :=
  match e.problem with
  | .tooDeep fault => some fault
  | _ => none

/-- White space between the parts of a text. -/
def isWhitespace (c : CodePoint) : Bool :=
  c.val = 0x20 || c.val = 0x09 || c.val = 0x0A || c.val = 0x0D

/-- The text after its leading white space. -/
def skipWhitespace (t : Text) : Text := t.dropWhile isWhitespace

/-- Stops at the first code point of a text. -/
def haltAt {α : Type} (problem : Problem) (t : Text) : Except Halt α :=
  .error ⟨problem, t.length⟩

/-- The letters of short escapes and what they stand for. -/
def shortEscapes : FieldMap CodePoint CodePoint :=
  [('"', '"'), ('\\', '\\'), ('/', '/'), ('b', '\x08'), ('f', '\x0c'), ('n', '\n'), ('r', '\r'),
    ('t', '\t')].map fun e => (CodePoint.ofChar e.1, CodePoint.ofChar e.2)

/-- What an escape with one letter stands for. -/
def unescape? (c : CodePoint) : Option CodePoint := FieldMap.get? shortEscapes c

/-- The number of four hexadecimal digits. -/
def hexUnit? (a b c d : CodePoint) : Option CodePoint := do
  let a ← a.hexValue?
  let b ← b.hexValue?
  let c ← c.hexValue?
  let d ← d.hexValue?
  pure (CodePoint.ofNat (a * 0x1000 + b * 0x100 + c * 0x10 + d))

/-- The unit of an escape by number at the start of a text, unless the text ends with it. -/
def secondUnit? (t : Text) : Option (Except Halt CodePoint) :=
  match t with
  | s :: u :: a :: b :: c :: d :: _ :: _ =>
    if s.val = 0x5C && u.val = 0x75 then
      match hexUnit? a b c d with
      | some v => some (.ok v)
      | none => some (haltAt .invalidUnicodeEscape (t.drop 1))
    else none
  | _ => none

/-- Reads the rest of a string: `start` is the text from its opening quote, and `found` what it
holds so far, reversed. An escape by number is never the last thing of a text, and two of them that
form a surrogate pair are one code point. -/
def readStringLoop (start : Text) (found : Text) : Text → Except Halt (Text × Text)
  | [] => haltAt .unterminatedString start
  | c :: rest =>
    if c.val = 0x22 then .ok (found.reverse, rest)
    else if c.val ≤ 0x1F then haltAt .controlCharacter (c :: rest)
    else if c.val ≠ 0x5C then readStringLoop start (c :: found) rest
    else
      match rest with
      | [] => haltAt .unterminatedString start
      | e :: tail =>
        if e.val ≠ 0x75 then
          match unescape? e with
          | some u => readStringLoop start (u :: found) tail
          | none => haltAt .invalidEscape (c :: rest)
        else
          match tail with
          | a₁ :: a₂ :: a₃ :: a₄ :: more =>
            if more.isEmpty then haltAt .invalidUnicodeEscape rest
            else
              match hexUnit? a₁ a₂ a₃ a₄ with
              | none => haltAt .invalidUnicodeEscape rest
              | some u =>
                if !u.isHighSurrogate then readStringLoop start (u :: found) more
                else
                  match secondUnit? more with
                  | none => readStringLoop start (u :: found) more
                  | some (.error halt) => .error halt
                  | some (.ok v) =>
                    if !v.isLowSurrogate then readStringLoop start (u :: found) more
                    else
                      match more with
                      | _ :: _ :: _ :: _ :: _ :: _ :: last =>
                        readStringLoop start (Units.pair u v :: found) last
                      | _ => haltAt .unterminatedString start
          | _ => haltAt .invalidUnicodeEscape rest

/-- Reads a string after its opening quote, which `start` begins with. -/
def readString (start rest : Text) : Except Halt (Text × Text) := readStringLoop start [] rest

/-- The digits at the start of a text, and what follows them. -/
def spanDigits (t : Text) : List Nat × Text :=
  ((t.takeWhile CodePoint.isDigit).map fun c => c.val - 0x30, t.dropWhile CodePoint.isDigit)

/-- A point with digits after it. -/
def readFraction (t : Text) : Option (List Nat) × Text :=
  match t with
  | p :: rest =>
    let (digits, after) := spanDigits rest
    if p.val = 0x2E && !digits.isEmpty then (some digits, after) else (none, t)
  | [] => (none, t)

/-- An `e` of either case with digits after it, between which a sign may stand. -/
def readExponent (t : Text) : Option Int × Text :=
  match t with
  | e :: rest =>
    let (negative, body) := Numeral.sign rest
    let (digits, after) := spanDigits body
    if (e.val = 0x65 || e.val = 0x45) && !digits.isEmpty then
      (some (if negative then -(Numeral.ofDigits digits : Int) else Numeral.ofDigits digits), after)
    else (none, t)
  | [] => (none, t)

/-- The whole part of a number: a zero alone, or digits that begin with another one. -/
def readWhole? (t : Text) : Option (List Nat × Text) :=
  match t with
  | d :: rest =>
    if d.val = 0x30 then some ([0], rest) else if d.isDigit then some (spanDigits t) else none
  | [] => none

/-- Reads a number: an integer, or a decimal if it has a fraction or an exponent. -/
def readNumber? (t : Text) : Option (Except Halt (Json × Text)) := do
  let (negative, body) := match t with
    | c :: rest => if c.val = 0x2D then (true, rest) else (false, t)
    | [] => (false, t)
  let (whole, afterWhole) ← readWhole? body
  let (part, afterPart) := readFraction afterWhole
  let (exponent, rest) := readExponent afterPart
  match part, exponent with
  | none, none =>
    if Numeral.maxDigits < whole.length then
      pure (haltAt (.tooManyDigits whole.length) t)
    else
      let n := Numeral.ofDigits whole
      pure (.ok (int (if negative then -(n : Int) else n), rest))
  | part, exponent =>
    let digits := part.getD []
    pure (.ok (float (Binary64.ofDecimal negative (Numeral.ofDigits (whole ++ digits))
      (exponent.getD 0 - digits.length)), rest))

/-- The values that are spelled as words. -/
def words : List (Text × Json) :=
  [("null", null), ("true", bool true), ("false", bool false), ("NaN", float Binary64.nan),
    ("Infinity", float (Binary64.infinity false)), ("-Infinity", float (Binary64.infinity true))]

/-- Reads a word. -/
def readWord? (t : Text) : Option (Json × Text) :=
  (words.find? fun w => w.1.isPrefixOf t).map fun w => (w.2, t.drop w.1.length)

/-- Reads a value that is no collection and no string. -/
def readPlain (t : Text) : Except Halt (Json × Text) :=
  match readWord? t with
  | some found => .ok found
  | none => (readNumber? t).getD (haltAt .expectingValue t)

mutual

/-- Reads a value at the start of a text. The first argument bounds the number of steps, and the
second one that of collections inside each other. -/
def readValue : Nat → Nat → Text → Except Halt (Json × Text)
  | 0, _, t => haltAt .expectingValue t
  | _, _, [] => haltAt .expectingValue []
  | fuel + 1, depth, c :: rest =>
    if c.val = 0x22 then
      match readString (c :: rest) rest with
      | .ok (s, after) => .ok (text s, after)
      | .error halt => .error halt
    else if c.val = 0x7B then
      match depth, skipWhitespace rest with
      | 0, _ =>
        haltAt (.tooDeep (depthFault "decoding a JSON object from a unicode string")) (c :: rest)
      | depth + 1, d :: after =>
        if d.val = 0x7D then .ok (object [], after) else readMembers fuel depth [] (d :: after)
      | depth + 1, [] => readMembers fuel depth [] []
    else if c.val = 0x5B then
      match depth, skipWhitespace rest with
      | 0, _ =>
        haltAt (.tooDeep (depthFault "decoding a JSON array from a unicode string")) (c :: rest)
      | depth + 1, d :: after =>
        if d.val = 0x5D then .ok (array [], after) else readItems fuel depth [] (d :: after)
      | depth + 1, [] => readItems fuel depth [] []
    else readPlain (c :: rest)

/-- Reads the items of an array up to its end; `found` holds those before, reversed. -/
def readItems : Nat → Nat → List Json → Text → Except Halt (Json × Text)
  | 0, _, _, t => haltAt .expectingValue t
  | fuel + 1, depth, found, t =>
    match readValue fuel depth t with
    | .error halt => .error halt
    | .ok (item, rest) =>
      match skipWhitespace rest with
      | [] => haltAt .expectingComma []
      | d :: after =>
        if d.val = 0x5D then .ok (array (item :: found).reverse, after)
        else if d.val = 0x2C then readItems fuel depth (item :: found) (skipWhitespace after)
        else haltAt .expectingComma (d :: after)

/-- Reads the members of an object up to its end; `found` holds those before. -/
def readMembers : Nat → Nat → FieldMap Text Json → Text → Except Halt (Json × Text)
  | 0, _, _, t => haltAt .expectingValue t
  | _, _, _, [] => haltAt .expectingName []
  | fuel + 1, depth, found, q :: rest =>
    if q.val ≠ 0x22 then haltAt .expectingName (q :: rest)
    else
      match readString (q :: rest) rest with
      | .error halt => .error halt
      | .ok (name, afterName) =>
        match skipWhitespace afterName with
        | [] => haltAt .expectingColon []
        | d :: afterColon =>
          if d.val ≠ 0x3A then haltAt .expectingColon (d :: afterColon)
          else
            match readValue fuel depth (skipWhitespace afterColon) with
            | .error halt => .error halt
            | .ok (value, afterValue) =>
              match skipWhitespace afterValue with
              | [] => haltAt .expectingComma []
              | d :: after =>
                if d.val = 0x7D then .ok (object (found.insert name value), after)
                else if d.val = 0x2C then
                  readMembers fuel depth (found.insert name value) (skipWhitespace after)
                else haltAt .expectingComma (d :: after)

end

/-- Reads a text that holds one value and white space. -/
def readDocument (t : Text) : Except Halt Json :=
  match readValue (2 * t.length + 2) Value.maxDepth (skipWhitespace t) with
  | .error halt => .error halt
  | .ok (value, rest) =>
    match skipWhitespace rest with
    | [] => .ok value
    | extra => haltAt .extraData extra

/-- The place of a halt in a text. Lines and columns count from one. -/
def Halt.locate (t : Text) (halt : Halt) : ParseError :=
  let position := t.length - halt.remaining
  let before := t.take position
  ⟨halt.problem, position, before.count (CodePoint.ofChar '\n') + 1,
    (before.reverse.takeWhile (· != CodePoint.ofChar '\n')).length + 1⟩

/-- The value of a text. -/
def parse (t : Text) : Except ParseError Json :=
  match readDocument t with
  | .ok value => .ok value
  | .error halt => .error (halt.locate t)

end Json

end RavenBinding
