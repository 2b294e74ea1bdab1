import RavenBinding.Number.Numeral

/-!
# Numbers in settings

A setting may write a number loosely: with white space around it, a plus sign, zeros in front, a
tail of zeros after a point, and single underscores. What these leave has to be a number in the
strict form: an integer without zeros in front, or a decimal of ASCII digits.

## Main definitions

- `NumberText.strictInt`: an integer in the strict form
- `NumberText.tidy?`: the strict form that a loosely written integer stands for
- `NumberText.readInt`, `NumberText.readFloat?`: the numbers of a text
-/

namespace RavenBinding

/-- Why a text is no integer. -/
inductive IntegerProblem where
  | malformed
  | tooLong
  deriving DecidableEq, Repr

namespace NumberText

/-- Splits a minus sign off. -/
def cutMinus : Text → Bool × Text
  | [] => (false, [])
  | c :: rest => if c == CodePoint.ofChar '-' then (true, rest) else (false, c :: rest)

/-- An integer in the strict form: a minus sign, if any, and digits without zeros in front. A run of
digits that is too long is reported whatever follows it. -/
def strictInt (t : Text) : Except IntegerProblem Int :=
  let (negative, body) := cutMinus t
  let digits := body.takeWhile CodePoint.isDigit
  if digits.isEmpty || (digits.head? = some (CodePoint.ofChar '0') && 1 < digits.length) then
    .error .malformed
  else if Numeral.maxDigits < t.length - body.length + digits.length then .error .tooLong
  else
    match Numeral.plainDigits? body with
    | none => .error .malformed
    | some ds =>
      .ok (if negative then -(Numeral.ofDigits ds : Int) else (Numeral.ofDigits ds : Int))

/-- Work of `dropZeros?`: zeros and underscores are left out as long as a digit other than zero, a
minus sign, or nothing follows. Before a point one of them stays. -/
def dropZerosLoop (last : CodePoint) : Text → Option Text
  | [] => some [last]
  | c :: rest =>
    if c == CodePoint.ofChar '0' || c == CodePoint.ofChar '_' then dropZerosLoop c rest
    else if c.isDigit || c == CodePoint.ofChar '-' then some (c :: rest)
    else if c == CodePoint.ofChar '.' then some (last :: c :: rest)
    else none

/-- A text without the zeros in front. Nothing but a digit or a minus sign may stand first. -/
def dropZeros? : Text → Option Text
  | [] => none
  | c :: rest =>
    if c == CodePoint.ofChar '0' then dropZerosLoop c rest
    else if c.isDigit || c == CodePoint.ofChar '-' then some (c :: rest)
    else none

/-- A text without a tail of zeros after a point. -/
def dropZeroTail (t : Text) : Text :=
  match Text.cut (CodePoint.ofChar '.') t with
  | (whole, some tail) =>
    if !tail.isEmpty && tail.all (· == CodePoint.ofChar '0') then whole else t
  | (_, none) => t

/-- Two underscores stand next to each other. -/
def hasTwoUnderscores (t : Text) : Bool :=
  let underscore := CodePoint.ofChar '_'
  (t.zip (t.drop 1)).any fun pair => pair.1 == underscore && pair.2 == underscore

/-- A text without its underscores, if it has some and they are single and inside. -/
def dropUnderscores? (t : Text) : Option Text :=
  let underscore := CodePoint.ofChar '_'
  if t.contains underscore && t.head? != some underscore && t.getLast? != some underscore
      && !hasTwoUnderscores t then
    some (t.filter (· != underscore))
  else none

/-- A text without one plus sign, which no minus sign may follow. -/
def dropPlus? : Text → Option Text
  | [] => some []
  | c :: rest =>
    if c == CodePoint.ofChar '+' then
      if rest.head? = some (CodePoint.ofChar '-') then none else some rest
    else some (c :: rest)

/-- The strict form that a loosely written integer stands for. -/
def tidy? (t : Text) : Option Text := do
  let unsigned ← dropPlus? (t.trim CodePoint.isSpace)
  let (negative, body) := cutMinus unsigned
  let body ← dropZeros? body
  let whole := dropZeroTail (if negative then CodePoint.ofChar '-' :: body else body)
  pure ((dropUnderscores? whole).getD whole)

/-- The integer that a text writes, in the strict form or loosely. -/
def readInt (t : Text) : Except IntegerProblem Int :=
  match strictInt t with
  | .ok i => .ok i
  | .error .tooLong => .error .tooLong
  | .error .malformed =>
    match tidy? t with
    | none => .error .malformed
    | some tidied => strictInt tidied

/-- The number that a text writes: the strict form with white space around it, or with underscores
and nothing around it. -/
def readFloat? (t : Text) : Option Binary64 :=
  match Numeral.float? Numeral.plainDigits? (t.trim CodePoint.isSpace) with
  | some x => some x
  | none => (dropUnderscores? t).bind (Numeral.float? Numeral.plainDigits?)

end NumberText

end RavenBinding
