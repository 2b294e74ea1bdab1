import RavenBinding.Number.Numeral

/-!
# Dates of cookies

A cookie may name the date at which it ends. Dates are read in one exact form and in a loose one:
an optional weekday, day, month and year, an optional time of day, and an optional zone. A date
becomes the number of seconds since the start of 1970; earlier ones count as none.

## Main definitions

- `CookieDate.now`: the time by which cookies are judged
- `CookieDate.civilDays`: the days from the start of 1970 to a date
- `CookieDate.read`: the time that a text names
-/

namespace RavenBinding

namespace CookieDate

/-- The year by which cookies are judged. -/
def currentYear : Int := 2026

/-- The days from the start of 1970 to a day of a month. A day past the end of its month counts into
the next one. -/
def civilDays (year month day : Int) : Int :=
  let y := if month ≤ 2 then year - 1 else year
  let era := y.fdiv 400
  let yearOfEra := y - era * 400
  let dayOfYear := (153 * (if 2 < month then month - 3 else month + 9) + 2).fdiv 5 + day - 1
  era * 146097 + yearOfEra * 365 + yearOfEra.fdiv 4 - yearOfEra.fdiv 100 + dayOfYear - 719468

/-- The time by which cookies are judged: no clock is read, and all is as at the start of a year. -/
def now : Int := civilDays currentYear 1 1 * 86400

/-- A date with a time of day. -/
structure Moment where
  year : Int
  month : Int
  day : Int
  hour : Int := 0
  minute : Int := 0
  second : Int := 0

/-- The seconds from the start of 1970, if all parts are in their range. -/
def Moment.seconds? (m : Moment) : Option Int :=
  if 1970 ≤ m.year && 1 ≤ m.month && m.month ≤ 12 && 1 ≤ m.day && m.day ≤ 31 && m.hour ≤ 24
      && m.minute ≤ 59 && m.second ≤ 61 then
    some (civilDays m.year m.month m.day * 86400 + m.hour * 3600 + m.minute * 60 + m.second)
  else none

/-- The names of months. -/
def months : List Text :=
  ["jan", "feb", "mar", "apr", "may", "jun", "jul", "aug", "sep", "oct", "nov", "dec"].map
    Text.ofString

/-- The number of a month that is named. -/
def monthNumber? (name : Text) : Option Int :=
  (months.findIdx? (· == name.toLowerAscii)).map fun i => (i : Int) + 1

/-- The number of ASCII digits. -/
def number (digits : Text) : Int := Numeral.ofDigits (digits.filterMap Numeral.asciiDigit?)

/-- White space in ASCII. -/
def isSpace (c : CodePoint) : Bool := c.val = 0x20 || (0x09 ≤ c.val && c.val ≤ 0x0D)

/-- Letters, digits and the underscore in ASCII. -/
def isWord (c : CodePoint) : Bool := c.isLetter || c.isDigit || c.val = 0x5F

/-- Splits off the longest run of code points of a class; there has to be one. -/
def run? (p : CodePoint → Bool) (t : Text) : Option (Text × Text) :=
  match t.span p with
  | ([], _) => none
  | found => some found

/-- Splits off one or two digits. -/
def oneOrTwo? (t : Text) : Option (Text × Text) :=
  match t with
  | a :: b :: rest =>
    if a.isDigit && b.isDigit then some ([a, b], rest)
    else if a.isDigit then some ([a], b :: rest) else none
  | [a] => if a.isDigit then some ([a], []) else none
  | [] => none

/-- Splits off two digits. -/
def two? : Text → Option (Text × Text)
  | a :: b :: rest => if a.isDigit && b.isDigit then some ([a, b], rest) else none
  | _ => none

/-- Splits off white space, or one of some marks. -/
def separator? (marks : String) (t : Text) : Option Text :=
  match run? isSpace t with
  | some (_, rest) => some rest
  | none =>
    match t with
    | c :: rest => if (Text.ofString marks).contains c then some rest else none
    | [] => none

/-- Splits off a mark. -/
def mark? (mark : Char) : Text → Option Text
  | c :: rest => if c == CodePoint.ofChar mark then some rest else none
  | [] => none

/-- Text of the exact form by the kinds of its code points: `0` stands for a digit and `a` for a
small letter. -/
def hasForm : List Char → Text → Bool
  | [], [] => true
  | '0' :: form, c :: t => c.isDigit && hasForm form t
  | 'a' :: form, c :: t => (c.isLetter && c.toLowerAscii == c) && hasForm form t
  | k :: form, c :: t => c == CodePoint.ofChar k && hasForm form t
  | _, _ => false

/-- The parts of a date in the exact form, with its month as it is named. -/
def strict? (t : Text) : Option (Text × (Int → Moment)) :=
  match t with
  | weekday :: rest =>
    let month := (rest.drop 7).take 3
    if (Text.ofString "SMTWF").contains weekday
        && month.head?.any (Text.ofString "JFMASOND").contains
        && hasForm "aa, 00 ".toList (rest.take 7) && hasForm "aa".toList (month.drop 1)
        && hasForm " 0000 00:00:00 GMT".toList (rest.drop 10) then
      let part (start length : Nat) := number ((rest.drop start).take length)
      some (month, fun m => ⟨part 11 4, m, part 4 2, part 16 2, part 19 2, part 22 2⟩)
    else none
  | [] => none

/-- A text without a weekday at its start, and without a comma and white space after it. -/
def dropWeekday (t : Text) : Text :=
  let names := ["sun", "mon", "tue", "wed", "thu", "fri", "sat"].map Text.ofString
  if names.contains (Text.toLowerAscii (t.take 3)) then
    let rest := (t.drop 3).dropWhile CodePoint.isLetter
    ((mark? ',' rest).getD rest).dropWhile isSpace
  else t

/-- Splits off the time of day: hours and minutes, and seconds if they are there. -/
def clock? (t : Text) : Option (Int × Int × Int × Text) := do
  let rest ← separator? ":" t
  let (hour, rest) ← oneOrTwo? rest
  let rest ← mark? ':' rest
  let (minute, rest) ← two? rest
  let seconds := do
    let after ← mark? ':' rest
    two? after
  match seconds with
  | some (second, rest) => some (number hour, number minute, number second, rest)
  | none => some (number hour, number minute, 0, rest)

/-- Splits off a zone: a sign if there is one and two to four digits, or letters. The two marks for
the halves of a day are no zones. -/
def zone? (t : Text) : Option (Text × Text) :=
  let (sign, unsigned) := t.span fun c => (Text.ofString "+-").contains c
  let digits := (unsigned.takeWhile CodePoint.isDigit).take 4
  if sign.length ≤ 1 && 2 ≤ digits.length then
    some (sign ++ digits, unsigned.drop digits.length)
  else
    let (letters, rest) := t.span CodePoint.isLetter
    let isHalf := ["am", "pm"].any fun half => Text.toLowerAscii letters == Text.ofString half
    if letters.isEmpty || (isHalf && !(rest.head?.any isWord)) then none else some (letters, rest)

/-- Splits off a word in parentheses and the white space after it. -/
def remark? (t : Text) : Option Text := do
  let rest ← mark? '(' t
  let (_, rest) ← run? isWord rest
  let rest ← mark? ')' rest
  pure (rest.dropWhile isSpace)

/-- Parts of a date in the loose form, as they are written, with the zone. -/
structure Loose where
  day : Int
  month : Text
  year : Int
  clock : Int × Int × Int
  zone : Option Text

/-- The parts of a date in the loose form. -/
def loose? (t : Text) : Option Loose := do
  let (day, rest) ← oneOrTwo? t
  let rest ← separator? "-/" rest
  let (month, rest) ← run? isWord rest
  let rest ← separator? "-/" rest
  let (year, rest) ← run? CodePoint.isDigit rest
  let (hour, minute, second, rest) := (clock? rest).getD (0, 0, 0, rest)
  let rest := rest.dropWhile isSpace
  let (zone, rest) := match zone? rest with
    | some (zone, rest) => (some zone, rest.dropWhile isSpace)
    | none => (none, rest)
  let rest := (remark? rest).getD rest
  if rest.isEmpty then some ⟨number day, month, number year, (hour, minute, second), zone⟩
  else none

/-- The seconds by which a zone is ahead. -/
def offset? (zone : Text) : Option Int :=
  if (["GMT", "UTC", "UT", "Z"].map fun z => (Text.ofString z).toLowerAscii).contains
      zone.toLowerAscii then some 0
  else
    let (sign, digits) := zone.span fun c => !c.isDigit
    let cut := if digits.length = 3 then 1 else 2
    if digits.isEmpty || 1 < sign.length then none
    else
      let ahead := number (digits.take cut) * 3600 + number (digits.drop cut) * 60
      some (if sign == Text.ofString "-" then -ahead else ahead)

/-- A year of less than four digits is put into the century that brings it nearest. -/
def fullYear (year : Int) : Int :=
  if year < 1000 then
    let inCentury := currentYear.fmod 100
    let full := currentYear - inCentury + year
    if 50 < inCentury - year then full + 100
    else if inCentury - year < -50 then full - 100
    else full
  else year

/-- The time of a date in the loose form. -/
def Loose.seconds? (d : Loose) : Option Int := do
  if 9999 < d.year then none
  else
    let month ← match monthNumber? d.month with
      | some month => some month
      | none => (Numeral.readInt? d.month).filter fun m => 1 ≤ m && m ≤ 12
    let (hour, minute, second) := d.clock
    let seconds ← Moment.seconds? ⟨fullYear d.year, month, d.day, hour, minute, second⟩
    let ahead ← offset? (d.zone.getD (Text.ofString "UTC"))
    some (seconds - ahead)

/-- The time that a text names, if it is a date. The month of the exact form has to have a name;
`none` stands for one that has not. -/
def read (t : Text) : Option (Option Int) :=
  match strict? t with
  | some (month, moment) => (monthNumber? month).map fun m => (moment m).seconds?
  | none =>
    some ((loose? (dropWeekday (t.trimLeft CodePoint.isBlank))).bind Loose.seconds?)

end CookieDate

end RavenBinding
