import RavenBinding.FieldMap
import RavenBinding.Text.Digit

/-!
# Settings files

A settings file has one entry a line: a name and, after an equals sign, a value. The name may follow
the word `export` and may be quoted, and so may the value, which then may go over several lines and
hold escapes. A name by itself is an entry without a value. A line that cannot be read is left out
from the place on where it fails. A value may refer to other entries and to variables by
`${NAME}`, with a default behind `:-`.

## Main definitions

- `FileEntry`, `FileEntry.ofText`: the entries of a file as they are written
- `FileEntry.substitute`: a value with its references replaced
- `FileEntry.resolve`: the values of all entries
-/

namespace RavenBinding

/-- An entry of a settings file. -/
structure FileEntry where
  name : Text
  /-- The value, with escapes read but references kept; a name by itself has none. -/
  value : Option Text
  deriving DecidableEq, Repr

namespace FileEntry

/-- The text with every kind of line end as a line feed. -/
def normalizeLines : Text → Text
  | [] => []
  | c :: rest =>
    if c == CodePoint.ofChar '\r' then
      match rest with
      | d :: after =>
        if d == CodePoint.ofChar '\n' then d :: normalizeLines after
        else CodePoint.ofChar '\n' :: normalizeLines (d :: after)
      | [] => [CodePoint.ofChar '\n']
    else c :: normalizeLines rest

/-- The end of a line. -/
def isLineEnd (c : CodePoint) : Bool := c == CodePoint.ofChar '\n'

/-- White space within a line. -/
def isGap (c : CodePoint) : Bool := c.isBlank && !isLineEnd c

/-- What may be part of a name without quotes. -/
def isNamePart (c : CodePoint) : Bool :=
  !c.isBlank && c != CodePoint.ofChar '=' && c != CodePoint.ofChar '#'

/-- The text without the word `export` and the gap that has to follow it. -/
def skipExport (t : Text) : Text :=
  let word := Text.ofString "export"
  let rest := t.drop word.length
  if word.isPrefixOf t && rest.head?.any isGap then rest.dropWhile isGap else t

/-- The length of the text before the first quotation mark that does not follow a backslash. -/
def closingPlace? (quote : CodePoint) (t : Text) : Option Nat :=
  (List.range t.length).zip (t.zip (CodePoint.ofChar ' ' :: t)) |>.findSome? fun (i, c, before) =>
    if c == quote && before != CodePoint.ofChar '\\' then some i else none

/-- The text up to the closing quotation mark, and what follows it. A mark behind a backslash closes
only if no other one does, and then the last one. -/
def cutQuoted? (quote : CodePoint) (t : Text) : Option (Text × Text) :=
  match closingPlace? quote t with
  | some i => some (t.take i, t.drop (i + 1))
  | none =>
    match Text.cutLast quote t with
    | (some before, after) => some (before, after)
    | (none, _) => none

/-- What a letter behind a backslash stands for, by a list of such letters. -/
def unescape (letters : List (Char × Char)) : Text → Text
  | [] => []
  | [c] => [c]
  | c :: d :: rest =>
    match if c == CodePoint.ofChar '\\' then
        letters.find? fun e => CodePoint.ofChar e.1 == d else none with
    | some (_, meant) => CodePoint.ofChar meant :: unescape letters rest
    | none => c :: unescape letters (d :: rest)

/-- The escapes between single quotation marks. -/
def singleEscapes : List (Char × Char) := [('\\', '\\'), ('\'', '\'')]

/-- The escapes between double quotation marks. -/
def doubleEscapes : List (Char × Char) :=
  singleEscapes ++ [('"', '"'), ('a', '\x07'), ('b', '\x08'), ('f', '\x0c'), ('n', '\n'),
    ('r', '\r'), ('t', '\t'), ('v', '\x0b')]

/-- The line before a comment: a number sign begins one if a gap comes before it. -/
def dropComment (line : Text) : Text :=
  let place := (List.range line.length).zip (line.zip (CodePoint.ofChar '.' :: line)) |>.findSome?
    fun (i, c, before) =>
      if c == CodePoint.ofChar '#' && before.isBlank then some i else none
  match place with
  | some i => line.take i
  | none => line

/-- The value at the beginning of a text, and what follows it. -/
def cutValue? (t : Text) : Option (Text × Text) :=
  match t with
  | [] => some ([], [])
  | c :: rest =>
    if c == CodePoint.ofChar '\'' then
      (cutQuoted? c rest).map fun found => (unescape singleEscapes found.1, found.2)
    else if c == CodePoint.ofChar '"' then
      (cutQuoted? c rest).map fun found => (unescape doubleEscapes found.1, found.2)
    else
      let line := t.takeWhile fun c => !isLineEnd c
      some ((dropComment line).trimRight CodePoint.isBlank, t.drop line.length)

/-- The name at the beginning of a text, and what follows it; before a comment there is none. -/
def cutName (t : Text) : Except Text (Option Text × Text) :=
  match t with
  | [] => .error t
  | c :: rest =>
    if c == CodePoint.ofChar '#' then .ok (none, t)
    else if c == CodePoint.ofChar '\'' then
      match Text.cut c rest with
      | (d :: name, some after) => .ok (some (d :: name), after)
      | _ => .error t
    else
      match t.takeWhile isNamePart with
      | [] => .error t
      | name => .ok (some name, t.drop name.length)

/-- The text behind the end of a line, before which a comment may stand. -/
def skipLineEnd (t : Text) : Except Text Text :=
  let spaced := t.dropWhile isGap
  let rest :=
    if spaced.head? = some (CodePoint.ofChar '#') then spaced.dropWhile fun c => !isLineEnd c
    else t
  match rest.dropWhile isGap with
  | [] => .ok []
  | c :: after => if isLineEnd c then .ok after else .error rest

/-- The entry at the beginning of a text, if it has a name, and what follows its line; or the place
where the line cannot be read. -/
def cutEntry (t : Text) : Except Text (Option FileEntry × Text) := do
  let (name, rest) ← cutName (skipExport t)
  let rest := rest.dropWhile isGap
  let (value, rest) ← match rest with
    | c :: after =>
      if c == CodePoint.ofChar '=' then
        let after := after.dropWhile isGap
        match cutValue? after with
        | some (value, rest) => pure (some value, rest)
        | none => throw after
      else pure (none, rest)
    | [] => pure (none, rest)
  let rest ← skipLineEnd rest
  pure (name.map fun name => ⟨name, value⟩, rest)

/-- Work of `ofText`: at most `lines` lines are read. -/
def ofTextLoop (lines : Nat) (t : Text) : List FileEntry :=
  match lines with
  | 0 => []
  | lines + 1 =>
    match t.dropWhile CodePoint.isBlank with
    | [] => []
    | c :: rest =>
      match cutEntry (c :: rest) with
      | .ok (entry, after) => entry.toList ++ ofTextLoop lines after
      | .error place => ofTextLoop lines (place.dropWhile fun c => !isLineEnd c)

/-- The entries of a file. -/
def ofText (t : Text) : List FileEntry :=
  let t := normalizeLines t
  ofTextLoop t.length t

/-- The reference at the beginning of a text, without the dollar sign and the opening brace: the
name, the default, and what follows the closing brace. -/
def cutReference? (t : Text) : Option (Text × Text × Text) :=
  let close := CodePoint.ofChar '}'
  let isStop (c : CodePoint) : Bool := c == close || c == CodePoint.ofChar ':'
  let name := t.takeWhile fun c => !isStop c
  match t.drop name.length with
  | [] => none
  | c :: rest =>
    if c == close then some (name, [], rest)
    else
      match rest with
      | [] => none
      | d :: rest =>
        if d == CodePoint.ofChar '-' then
          match Text.cut close rest with
          | (default, some after) => some (name, default, after)
          | (_, none) => none
        else none

/-- Work of `substitute`; at most `steps` code points and references are read. -/
def substituteLoop (known : Text → Option (Option Text)) (steps : Nat) (t : Text) : Text :=
  match steps, t with
  | 0, t => t
  | _, [] => []
  | _, [c] => [c]
  | steps + 1, c :: d :: rest =>
    let reference :=
      if c == CodePoint.ofChar '$' && d == CodePoint.ofChar '{' then cutReference? rest else none
    match reference with
    | some (name, default, after) =>
      ((known name).getD (some default)).getD [] ++ substituteLoop known steps after
    | none => c :: substituteLoop known steps (d :: rest)

/-- A value with its references replaced by what is known under their names, or by their defaults.
A name that is known without a value is replaced by nothing. -/
def substitute (known : Text → Option (Option Text)) (t : Text) : Text :=
  substituteLoop known t.length t

/-- The values of all entries by name. References see the entries before them, and the given
variables under names that no entry before them has. -/
def resolve (variableValue : Text → Option Text) (entries : List FileEntry) :
    FieldMap Text (Option Text) :=
  entries.foldl (fun found entry =>
    let known (name : Text) : Option (Option Text) :=
      FieldMap.get? found name <|> (variableValue name).map some
    FieldMap.insert found entry.name (entry.value.map (substitute known))) []

end FileEntry

end RavenBinding
