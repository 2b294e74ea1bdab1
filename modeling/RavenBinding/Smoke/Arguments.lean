import RavenBinding.Fault
import RavenBinding.Number.Numeral
import RavenBinding.Text.Quoted

/-!
# Arguments of the smoke command

The command takes long options, each with one value, and an option for help. A long name may be cut
short as long as it fits one option only. A value stands behind an equals sign or is the argument
that follows, which must not look like an option itself; a negative number does not. Behind an equals
sign, two minus signs are no value, but the option counts as set. Arguments that belong to no option
are refused together in the end.

## Main definitions

- `SmokeSetting`, `OptionValue`, `SmokeOptions`: what can be set
- `SmokeSwitch.classify`: what an argument is by itself
- `SmokeOptions.parse`: the options that some arguments set
- `ArgumentStop`: why the arguments set none
-/

namespace RavenBinding

/-- What can be set. -/
inductive SmokeSetting where
  | url
  | records
  | fields
  | fieldLength
  | seed
  deriving DecidableEq, Repr

/-- The options by their meaning. -/
inductive SmokeSwitch where
  | help
  | set (setting : SmokeSetting)
  deriving DecidableEq, Repr

/-- The value of an option. Two minus signs behind the equals sign leave it without one. -/
inductive OptionValue (α : Type) where
  | one (value : α)
  | missing
  deriving DecidableEq, Repr

/-- The value, or the fault of an option without one. -/
def OptionValue.orFault {α : Type} (fault : Fault) : OptionValue α → Except Fault α
  | one value => .ok value
  | missing => .error fault

/-- What was set. -/
structure SmokeOptions where
  url : OptionValue (Option Text) := .one none
  records : OptionValue Int := .one 10
  fields : OptionValue Int := .one 10
  fieldLength : OptionValue Int := .one 100
  seed : OptionValue Int := .one 0
  deriving DecidableEq, Repr

/-- Why the arguments set no options. -/
inductive ArgumentStop where
  /-- Help was asked for. -/
  | help
  /-- The arguments are wrong. -/
  | wrong (problem : Text)
  deriving DecidableEq, Repr

namespace ArgumentStop

/-- The name that the command goes by. -/
def programName : Text := "smoke_workload"

/-- Lines with their ends. -/
def ofLines (lines : List String) : Text :=
  lines.flatMap fun line => Text.ofString line ++ Text.ofString "\n"

/-- How the command is used. -/
def usage : Text :=
  ofLines
    ["usage: smoke_workload [-h] [--url URL] [--records RECORDS] [--fields FIELDS]",
      "                      [--field-length FIELD_LENGTH] [--seed SEED]"]

/-- What the command does and what its options mean. -/
def helpText : Text :=
  usage ++ ofLines
    ["",
      "RavenDB binding smoke workload.",
      "",
      "options:",
      "  -h, --help            show this help message and exit",
      "  --url URL             RavenDB server URL (default: RAVENDB_URL or",
      "                        http://localhost:10301)",
      "  --records RECORDS     Number of records (default: 10)",
      "  --fields FIELDS       Fields per record (default: 10)",
      "  --field-length FIELD_LENGTH",
      "                        Bytes per field (default: 100)",
      "  --seed SEED           Value generator seed (default: 0)"]

/-- What is shown on the output. -/
def outputText : ArgumentStop → Text
  | help => helpText
  | wrong _ => []

/-- What is shown on the error stream. -/
def errorText : ArgumentStop → Text
  | help => []
  | wrong problem =>
    usage ++ programName ++ Text.ofString ": error: " ++ problem ++ Text.ofString "\n"

/-- The status that the command ends with. -/
def exitStatus : ArgumentStop → Nat
  | help => 0
  | wrong _ => 2

end ArgumentStop

/-- What an argument is by itself. -/
inductive ArgumentForm where
  /-- A value, or an argument that belongs to no option. -/
  | plain
  /-- The mark after which all arguments are plain. -/
  | mark
  /-- It looks like an option, but there is none of its name. -/
  | unknown
  /-- An option by a long name, with the value behind the equals sign. -/
  | long (switch : SmokeSwitch) (value : Option Text)
  /-- The short option for help, with what is attached to it. -/
  | short (attached : Option Text)
  deriving DecidableEq, Repr

namespace SmokeSwitch

/-- The long options in order. -/
def all : List SmokeSwitch :=
  [help, set .url, set .records, set .fields, set .fieldLength, set .seed]

/-- The long name of an option. -/
def name : SmokeSwitch → Text
  | help => "--help"
  | set .url => "--url"
  | set .records => "--records"
  | set .fields => "--fields"
  | set .fieldLength => "--field-length"
  | set .seed => "--seed"

/-- The names of an option in messages. -/
def title : SmokeSwitch → Text
  | help => "-h/--help"
  | switch => switch.name

/-- What is wrong with the use of an option. -/
def problem (switch : SmokeSwitch) (message : Text) : ArgumentStop :=
  .wrong (Text.ofString "argument " ++ switch.title ++ Text.ofString ": " ++ message)

/-- The option with a given long name. -/
def ofName? (t : Text) : Option SmokeSwitch := all.find? fun switch => switch.name == t

/-- A minus and digits, with a point somewhere before the last of them. -/
def isNegativeNumber (t : Text) : Bool :=
  let isNumeral (ds : Text) : Bool := ds.all fun c => c.digitValue?.isSome
  match t with
  | [] => false
  | c :: body =>
    let body := if body.getLast? = some (CodePoint.ofChar '\n') then body.dropLast else body
    c == CodePoint.ofChar '-' &&
      match Text.cut (CodePoint.ofChar '.') body with
      | (whole, none) => !whole.isEmpty && isNumeral whole
      | (whole, some part) => isNumeral whole && !part.isEmpty && isNumeral part

/-- An argument that is no option by its name: a negative number is plain, and so is what holds a
space. -/
def unnamed (t : Text) : ArgumentForm :=
  if isNegativeNumber t || t.contains (CodePoint.ofChar ' ') then .plain else .unknown

/-- An argument that begins with two minus signs. Its name ends at the equals sign; a whole name
counts before names that it begins. -/
def classifyLong (t : Text) : Except ArgumentStop ArgumentForm :=
  let (written, value) := Text.cut (CodePoint.ofChar '=') t
  match ofName? t, ofName? written with
  | some switch, _ => .ok (.long switch none)
  | none, some switch => .ok (.long switch value)
  | none, none =>
    match all.filter fun switch => written.isPrefixOf switch.name with
    | [] => .ok (unnamed t)
    | [switch] => .ok (.long switch value)
    | several =>
      .error (.wrong (Text.ofString "ambiguous option: " ++ t ++ Text.ofString " could match "
        ++ Text.join (Text.ofString ", ") (several.map name)))

/-- An argument that begins with a single minus sign; `rest` follows the sign. -/
def classifyShort (rest : Text) : ArgumentForm :=
  match rest with
  | [] => .plain
  | c :: attached =>
    if c == CodePoint.ofChar 'h' then
      match attached with
      | [] => .short none
      | d :: value =>
        .short (some (if d == CodePoint.ofChar '=' then value else attached))
    else unnamed (CodePoint.ofChar '-' :: rest)

/-- What an argument is by itself. -/
def classify (t : Text) : Except ArgumentStop ArgumentForm :=
  let dash := CodePoint.ofChar '-'
  match t with
  | [] => .ok .plain
  | c :: rest =>
    if c == dash then
      match rest with
      | [] => .ok .plain
      | d :: name =>
        if d == dash then if name.isEmpty then .ok .mark else classifyLong t
        else .ok (classifyShort rest)
    else .ok .plain

/-- What arguments are in order; behind the mark all are plain. -/
def classifyAll : List Text → Except ArgumentStop (List (Text × ArgumentForm))
  | [] => .ok []
  | t :: rest => do
    match ← classify t with
    | .mark => pure ((t, .mark) :: rest.map fun t => (t, .plain))
    | form => do
      let others ← classifyAll rest
      pure ((t, form) :: others)

/-- The end of the arguments at the option for help with a value attached to it. -/
def refused (attached : Text) : ArgumentStop :=
  problem help (Text.ofString "ignored explicit argument " ++ attached.quoted)

/-- The end of the arguments at a short option for help: what is attached may only be more of the
same option. -/
def shortHelp : Text → ArgumentStop
  | [] => refused []
  | c :: rest =>
    if c == CodePoint.ofChar 'h' then
      match rest with
      | [] => .help
      | _ :: _ => shortHelp rest
    else refused (c :: rest)

end SmokeSwitch

namespace SmokeOptions

/-- An integer as the value of an option. -/
def readInt (setting : SmokeSetting) (value : Text) : Except ArgumentStop (OptionValue Int) :=
  match Numeral.readInt? value with
  | some i => .ok (.one i)
  | none =>
    .error ((SmokeSwitch.set setting).problem (Text.ofString "invalid int value: " ++ value.quoted))

/-- The options with a setting set. -/
def assign (options : SmokeOptions) (setting : SmokeSetting) (value : Text) :
    Except ArgumentStop SmokeOptions :=
  match setting with
  | .url => .ok { options with url := .one (some value) }
  | .records => do
    let i ← readInt .records value
    pure { options with records := i }
  | .fields => do
    let i ← readInt .fields value
    pure { options with fields := i }
  | .fieldLength => do
    let i ← readInt .fieldLength value
    pure { options with fieldLength := i }
  | .seed => do
    let i ← readInt .seed value
    pure { options with seed := i }

/-- The options with a setting that is left without a value. -/
def leaveOut (options : SmokeOptions) : SmokeSetting → SmokeOptions
  | .url => { options with url := .missing }
  | .records => { options with records := .missing }
  | .fields => { options with fields := .missing }
  | .fieldLength => { options with fieldLength := .missing }
  | .seed => { options with seed := .missing }

/-- The options with a setting set by the value behind its equals sign. -/
def assignAttached (options : SmokeOptions) (setting : SmokeSetting) (value : Text) :
    Except ArgumentStop SmokeOptions :=
  if value == Text.ofString "--" then .ok (options.leaveOut setting)
  else options.assign setting value

/-- Takes the arguments in order; the second part of the result holds those that belong to no
option. -/
def take (options : SmokeOptions) :
    List (Text × ArgumentForm) → Except ArgumentStop (SmokeOptions × List Text)
  | [] => .ok (options, [])
  | (_, .short none) :: _ => .error .help
  | (_, .short (some attached)) :: _ => .error (SmokeSwitch.shortHelp attached)
  | (_, .long .help none) :: _ => .error .help
  | (_, .long .help (some value)) :: _ => .error (SmokeSwitch.refused value)
  | (_, .long (.set setting) (some value)) :: rest => do
    let options ← options.assignAttached setting value
    take options rest
  | (_, .long (.set setting) none) :: (value, .plain) :: rest => do
    let options ← options.assign setting value
    take options rest
  | (_, .long (.set setting) none) :: _ =>
    .error ((SmokeSwitch.set setting).problem (Text.ofString "expected one argument"))
  | (t, .plain) :: rest | (t, .mark) :: rest | (t, .unknown) :: rest => do
    let (options, extra) ← take options rest
    pure (options, t :: extra)

/-- The options that some arguments set. -/
def parse (arguments : List Text) : Except ArgumentStop SmokeOptions := do
  let forms ← SmokeSwitch.classifyAll arguments
  let (options, extra) ← take {} forms
  if extra.isEmpty then pure options
  else throw (.wrong (Text.ofString "unrecognized arguments: "
    ++ Text.join (Text.ofString " ") extra))

end SmokeOptions

end RavenBinding
