import RavenBinding.Fault
import RavenBinding.Text.Charset.Backslash
import RavenBinding.Text.Charset.CodePage
import RavenBinding.Text.Charset.MultiByte
import RavenBinding.Text.Utf7
import RavenBinding.Text.Utf8

/-!
# Charsets

A charset tells how bytes are read as text. It is known by several names, in any case and with any
marks between their parts. What is no character of the charset is read as U+FFFD.

## Main definitions

- `Charset`, `Charset.ofName?`: the charsets and their names
- `Charset.decode`: reading bytes
-/

namespace RavenBinding

/-- A charset. -/
inductive Charset where
  | ascii
  /-- Every byte is the code point of its number. -/
  | latin
  | page (p : CodePage)
  | multiByte (m : MultiByte)
  /-- Sequences behind a backslash, in their plain or full form. -/
  | backslash (isFull : Bool)
  | utf7
  | utf8
  /-- UTF-8 with a byte order mark in front, which is left out. -/
  | utf8Marked
  /-- UTF-16; without an order, the byte order mark tells it. -/
  | utf16 (order : Option Units.ByteOrder)
  | utf32 (order : Option Units.ByteOrder)
  /-- A coding by this name is known, but it does not read texts of any bytes. -/
  | unfit (f : Fault)
  deriving DecidableEq, Repr

namespace Charset

/-- A name in lower case, with an underscore for all marks between two parts. -/
def normalName (name : Text) : Text :=
  let isPart (c : CodePoint) := c.isLetter || c.isDigit || c.val = 0x2E
  let marked := (name.toLowerAscii.map fun c => if isPart c then c else CodePoint.ofChar ' ')
  let parts := (Text.splitOn (CodePoint.ofChar ' ') marked).filter fun part => !part.isEmpty
  Text.join (Text.ofString "_") parts

/-- The charsets that are no code pages, with their names. -/
def named : List (Charset × List String) := [
  (.ascii, ["ascii", "646", "ansi_x3.4_1968", "ansi_x3_4_1968", "ansi_x3.4_1986", "cp367",
    "csascii", "ibm367", "iso646_us", "iso_646.irv_1991", "iso_ir_6", "us", "us_ascii"]),
  (.latin, ["latin_1", "8859", "cp819", "csisolatin1", "ibm819", "iso8859", "iso8859_1",
    "iso_8859_1", "iso_8859_1_1987", "iso_ir_100", "l1", "latin", "latin1", "charmap"]),
  (.backslash false, ["raw_unicode_escape"]),
  (.backslash true, ["unicode_escape"]),
  (.utf7, ["utf_7", "u7", "utf7", "unicode_1_1_utf_7"]),
  (.utf8, ["utf_8", "u8", "utf", "utf8", "utf8_ucs2", "utf8_ucs4", "cp65001"]),
  (.utf8Marked, ["utf_8_sig"]),
  (.utf16 none, ["utf_16", "u16", "utf16"]),
  (.utf16 (some .little), ["utf_16_le", "unicodelittleunmarked", "utf_16le"]),
  (.utf16 (some .big), ["utf_16_be", "unicodebigunmarked", "utf_16be"]),
  (.utf32 none, ["utf_32", "u32", "utf32"]),
  (.utf32 (some .little), ["utf_32_le", "utf_32le"]),
  (.utf32 (some .big), ["utf_32_be", "utf_32be"]),
  (.unfit ⟨.assertionError, []⟩, ["base64_codec", "base64", "base_64", "bz2_codec", "bz2",
    "hex_codec", "hex", "quopri_codec", "quopri", "quoted_printable", "quotedprintable", "uu_codec",
    "uu", "zlib_codec", "zlib", "zip"]),
  (.unfit
    ⟨.typeError, "descriptor 'translate' for 'str' objects doesn't apply to a 'bytes' object"⟩,
    ["rot_13", "rot13"]),
  (.unfit ⟨.unicodeError, "Unsupported error handling replace"⟩, ["idna"]),
  (.unfit ⟨.unicodeError, "undefined encoding"⟩, ["undefined"])]

/-- The charset of a name, if one is known by it. -/
def ofName? (name : Text) : Option Charset :=
  let wanted := (normalName name).toString
  match named.find? fun c => c.2.contains wanted with
  | some (charset, _) => some charset
  | none =>
    match MultiByte.named.find? fun m => m.2.contains wanted with
    | some (m, _) => some (multiByte m)
    | none => (codePages.find? fun p => p.names.contains wanted).map page

/-- The fault of units whose order nothing tells. -/
def orderFault (bits : Nat) : Fault :=
  ⟨.unicodeError, Text.ofString "UTF-" ++ Text.ofNat bits
    ++ Text.ofString " stream does not start with BOM"⟩

/-- The text of units behind the byte order mark; less than a unit needs none. -/
def decodeMarked (bits : Nat) (read : Units.ByteOrder → Bytes → Text) (bytes : Bytes) :
    Except Fault Text :=
  let size := bits / 8
  let zeros : Bytes := List.replicate (size - 2) 0
  if ([0xFF, 0xFE] ++ zeros).isPrefixOf bytes then .ok (read .little (bytes.drop size))
  else if (zeros ++ [0xFE, 0xFF]).isPrefixOf bytes then .ok (read .big (bytes.drop size))
  else if bytes.length < size then .ok (read .little bytes)
  else .error (orderFault bits)

/-- The byte order mark of UTF-8. -/
def utf8Mark : Bytes := [0xEF, 0xBB, 0xBF]

/-- The text of some bytes. -/
def decode (charset : Charset) (bytes : Bytes) : Except Fault Text :=
  match charset with
  | ascii =>
    .ok (bytes.map fun b => if b < 0x80 then CodePoint.ofNat b.toNat else CodePoint.replacement)
  | latin => .ok (bytes.map fun b => CodePoint.ofNat b.toNat)
  | page p => .ok (p.decode bytes)
  | multiByte m => m.decode bytes
  | backslash false => .ok (Backslash.decode Backslash.plainSequence bytes)
  | backslash true => .ok (Backslash.decode Backslash.fullSequence bytes)
  | utf7 => .ok (Utf7.decodeReplacing bytes)
  | utf8 => .ok (Utf8.decodeReplacing bytes)
  | utf8Marked =>
    if utf8Mark.isPrefixOf bytes then .ok (Utf8.decodeReplacing (bytes.drop 3))
    else if bytes.isPrefixOf utf8Mark then .ok []
    else .ok (Utf8.decodeReplacing bytes)
  | utf16 (some order) => .ok (Units.replacing16 order bytes)
  | utf16 none => decodeMarked 16 Units.replacing16 bytes
  | utf32 (some order) => .ok (Units.replacing32 order bytes)
  | utf32 none => decodeMarked 32 Units.replacing32 bytes
  | unfit f => .error f

end Charset

end RavenBinding
