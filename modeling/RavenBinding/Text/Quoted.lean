import RavenBinding.Text.Coding
import RavenBinding.Text.Printable

/-!
# Quoted texts

Messages show texts and byte strings in quotes. Single quotes are used unless the text holds a
single quote and no double one; the quote in use, the backslash and what is not printable are
escaped.

## Main definitions

- `Text.quoted`: a text in quotes
- `Bytes.quoted`, `Bytes.quotedFully`: a byte string in quotes, marked by `b`
-/

namespace RavenBinding

/-- The quote for a text in which the given quotes occur. -/
def quoteFor (hasSingle hasDouble : Bool) : CodePoint :=
  if hasSingle && !hasDouble then CodePoint.ofChar '"' else CodePoint.ofChar '\''

/-- A code point between quotes of the given kind. -/
def CodePoint.quotedIn (quote c : CodePoint) : Text :=
  if c == quote || c == CodePoint.ofChar '\\' then [CodePoint.ofChar '\\', c]
  else if c == CodePoint.ofChar '\n' then "\\n"
  else if c == CodePoint.ofChar '\r' then "\\r"
  else if c == CodePoint.ofChar '\t' then "\\t"
  else if c.isPrintable then [c]
  else c.numericEscape

/-- A text in quotes. -/
def Text.quoted (t : Text) : Text :=
  let quote := quoteFor (t.contains (CodePoint.ofChar '\'')) (t.contains (CodePoint.ofChar '"'))
  quote :: (t.flatMap (CodePoint.quotedIn quote) ++ [quote])

/-- A byte between quotes of the given kind; bytes from 0x7F on are escaped. -/
def byteQuotedIn (quote : CodePoint) (b : UInt8) : Text :=
  let c := CodePoint.ofNat b.toNat
  if c.isAscii then CodePoint.quotedIn quote c else c.numericEscape

/-- The quote for a byte string. -/
def Bytes.quote (bytes : Bytes) : CodePoint :=
  quoteFor (bytes.contains 0x27) (bytes.contains 0x22)

/-- A byte string in quotes. -/
def Bytes.quoted (bytes : Bytes) : Text :=
  let quote := bytes.quote
  CodePoint.ofChar 'b' :: quote :: (bytes.flatMap (byteQuotedIn quote) ++ [quote])

/-- A byte string in quotes of which single ones are escaped even between double ones. -/
def Bytes.quotedFully (bytes : Bytes) : Text :=
  let quote := bytes.quote
  CodePoint.ofChar 'b' :: quote ::
    (bytes.flatMap (byteQuotedIn (CodePoint.ofChar '\'')) ++ [quote])

end RavenBinding
