import RavenBinding.Settings.EntryFile

/-!
# Environments

Settings are looked up in the variables of the process and in the entries of a settings file. Names
are compared without regard to case, unless the search says otherwise. Of several entries with one
name the one in the last place counts, and writing a name once more does not change its place.

## Main definitions

- `Environment`: variables and file entries
- `Environment.ofTexts`: an environment whose file is read from its text
- `Search`, `Search.find?`: how an entry is looked for, and what is found
-/

namespace RavenBinding

/-- Where settings are looked up. -/
structure Environment where
  /-- The variables of the process. -/
  processEntries : FieldMap Text Text := []
  /-- The entries of the settings file. -/
  fileEntries : List FileEntry := []
  deriving DecidableEq, Repr

/-- Entries that may be looked up; a name may be there without a value. -/
abbrev Entries := FieldMap Text (Option Text)

namespace Environment

/-- The environment of some variables and the text of a settings file. -/
def ofTexts (processEntries : List (Text × Text)) (file : Text) : Environment :=
  { processEntries := FieldMap.ofList processEntries, fileEntries := FileEntry.ofText file }

/-- The environment with other variables of the process. -/
def withProcessEntries (env : Environment) (entries : List (Text × Text)) : Environment :=
  { env with processEntries := FieldMap.ofList entries }

/-- The variables of the process. -/
def processValues (env : Environment) : Entries := env.processEntries.map fun e => (e.1, some e.2)

/-- The entries of the settings file. References in them see the variables of the process. -/
def fileValues (env : Environment) : Entries :=
  FileEntry.resolve env.processEntries.get? env.fileEntries

end Environment

/-- How entries are looked for. -/
structure Search where
  /-- What names of settings begin with. -/
  namePrefix : Text := []
  /-- The settings file is looked at. -/
  usesFile : Bool := true
  /-- Case matters. -/
  exactCase : Bool := false
  /-- Empty values count as missing. -/
  skipsEmpty : Bool := false
  /-- The value that stands for nothing. -/
  nothing : Option Text := none
  deriving DecidableEq, Repr

namespace Search

/-- A name as it is compared. -/
def fold (search : Search) (name : Text) : Text :=
  if search.exactCase then name else name.toLowerAscii

/-- What some entries hold for a setting: a text, or nothing if the text stands for that. -/
def find? (search : Search) (entries : Entries) (name : Text) : Option (Option Text) :=
  let wanted := search.fold (search.namePrefix ++ name)
  let kept := if search.skipsEmpty then entries.filter fun e => e.2 != some [] else entries
  match (kept.reverse.find? fun e => search.fold e.1 == wanted).bind Prod.snd with
  | none => none
  | some t => some (if search.nothing = some t then none else some t)

/-- What the environment holds for a setting; the variables come before the file. -/
def findIn? (search : Search) (env : Environment) (name : Text) : Option (Option Text) :=
  search.find? env.processValues name
    <|> if search.usesFile then search.find? env.fileValues name else none

end Search

end RavenBinding
