import RavenBinding.Text.Charset.BigFive
import RavenBinding.Text.Charset.Escaped
import RavenBinding.Text.Charset.Hangul

/-!
# Charsets of more than one byte

The charsets of Chinese, Japanese and Korean with their names.

## Main definitions

- `MultiByte`, `MultiByte.named`: the charsets and their names
- `MultiByte.decode`: reading bytes
-/

namespace RavenBinding

/-- A charset in which some characters have more than one byte. -/
inductive MultiByte where
  | shiftedKanji
  | vendorKanji
  | extendedKanji
  | escapedKanji
  | mainHanzi
  | extendedHanzi
  | wholeHanzi
  | escapedHanzi
  | bigFive
  | vendorBigFive
  | extendedHangul
  | unifiedHangul
  deriving DecidableEq, Repr

namespace MultiByte

/-- The charsets with their names in lower case, with underscores between their parts. -/
def named : List (MultiByte × List String) := [
  (shiftedKanji, ["shift_jis", "csshiftjis", "s_jis", "shiftjis", "sjis", "x_mac_japanese"]),
  (vendorKanji, ["cp932", "932", "ms932", "ms_kanji", "mskanji"]),
  (extendedKanji, ["euc_jp", "eucjp", "u_jis", "ujis"]),
  (escapedKanji, ["iso2022_jp", "csiso2022jp", "iso2022jp", "iso_2022_jp"]),
  (mainHanzi, ["gb2312", "chinese", "csiso58gb231280", "euc_cn", "euccn", "eucgb2312_cn",
    "gb2312_1980", "gb2312_80", "iso_ir_58", "x_mac_simp_chinese"]),
  (extendedHanzi, ["gbk", "936", "cp936", "ms936"]),
  (wholeHanzi, ["gb18030", "gb18030_2000"]),
  (escapedHanzi, ["hz", "hz_gb", "hz_gb_2312", "hzgb"]),
  (bigFive, ["big5", "big5_tw", "csbig5", "x_mac_trad_chinese"]),
  (vendorBigFive, ["cp950", "950", "ms950"]),
  (extendedHangul, ["euc_kr", "euckr", "korean", "ks_c_5601", "ks_c_5601_1987", "ks_x_1001",
    "ksc5601", "ksx1001", "x_mac_korean"]),
  (unifiedHangul, ["cp949", "949", "ms949", "uhc"])]

/-- The text of some bytes. -/
def decode (charset : MultiByte) (bytes : Bytes) : Except Fault Text :=
  match charset with
  | shiftedKanji => .ok (Kanji.decodeShifted bytes)
  | vendorKanji => .ok (Kanji.decodeVendor bytes)
  | extendedKanji => .ok (Kanji.decodeExtended bytes)
  | escapedKanji => Escaped.decodeKanji bytes
  | mainHanzi => .ok (Hanzi.decodeMain bytes)
  | extendedHanzi => .ok (Hanzi.decodeExtended bytes)
  | wholeHanzi => .ok (Hanzi.decodeWhole bytes)
  | escapedHanzi => Escaped.decodeHanzi bytes
  | bigFive => .ok (BigFive.decode bytes)
  | vendorBigFive => .ok (BigFive.decodeVendor bytes)
  | extendedHangul => .ok (Hangul.decodeExtended bytes)
  | unifiedHangul => .ok (Hangul.decodeUnified bytes)

end MultiByte

end RavenBinding
