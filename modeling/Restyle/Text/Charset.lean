import Restyle.Text.Charset.Designated
import Restyle.Text.Charset.Escaped
import Restyle.Text.Charset.Pages
import Restyle.Text.Charset.Unicode
import Restyle.Text.Lines
import Restyle.Text.Lowercase
import Restyle.Text.Punycode

/-!
# Charsets

A charset is a way to read octets as text. It is found by its name: names are compared without
regard to case, and a run of other signs counts as one underscore. Besides its own name a charset
has others, in which a full stop counts as an underscore as well.

What is malformed in a charset becomes U+FFFD. Some names stand for ways to write octets and not for
charsets; they can be named, but nothing can be read with them.
-/

namespace Restyle.Text

/-- Why octets cannot be read in a charset. -/
inductive CharsetFault
  | notAscii
  | noMark
  | notText
  | notLenient
  | unsupported
  deriving DecidableEq, Repr

/-- A way to read octets as text. -/
inductive Charset
  | reader (read : Octets → Reading)
  | escaped
  | page (p : Charset.Page)
  | utf16Marked
  | utf32Marked
  | punycode
  | refused (fault : CharsetFault)

namespace Charset

/-! ### Names -/

/-- Whether a character is part of a charset's name. -/
def isNamePart (c : Char) : Bool :=
  c.isAlphanum || c == '.'

/-- The words of a name, which other signs separate. -/
def words (name : List Char) : List (List Char) :=
  (splitOn '_' (name.map fun c => if isNamePart c then c else '_')).filter (· ≠ [])

/-- A name by which charsets are compared. -/
def canonicalName (name : String) : String :=
  String.ofList (joinWith '_' (words (name.toList.map Char.toLower)))

/-- The reading of ASCII. -/
def readAscii (bytes : Octets) : Reading :=
  bytes.map fun b => if b < 0x80 then some (.char (Char.ofNat b.toNat)) else none

/-- The reading of octets that stand for the characters of the same number. -/
def readLatin (bytes : Octets) : Reading :=
  bytes.map fun b => some (.char (Char.ofNat b.toNat))

/-- The charsets that are not pages: their own names, their other names, and what they are. -/
def named : List (String × List String × Charset) :=
  [("utf_8", ["cp65001", "u8", "utf", "utf8", "utf8_ucs2", "utf8_ucs4"], .reader Unicode.readUtf8),
    ("utf_8_sig", [], .reader fun bytes => Unicode.readUtf8 (Unicode.withoutMark bytes)),
    ("ascii", ["646", "ansi_x3.4_1968", "ansi_x3.4_1986", "ansi_x3_4_1968", "cp367", "csascii",
      "ibm367", "iso646_us", "iso_646.irv_1991", "iso_ir_6", "us", "us_ascii"], .reader readAscii),
    ("latin_1", ["8859", "cp819", "csisolatin1", "ibm819", "iso8859", "iso8859_1", "iso_8859_1",
      "iso_8859_1_1987", "iso_ir_100", "l1", "latin", "latin1"], .reader readLatin),
    ("charmap", [], .reader readLatin),
    ("utf_16", ["u16", "utf16"], .utf16Marked),
    ("utf_16_le", ["unicodelittleunmarked", "utf_16le"], .reader (Unicode.readUtf16 .littleFirst)),
    ("utf_16_be", ["unicodebigunmarked", "utf_16be"], .reader (Unicode.readUtf16 .bigFirst)),
    ("utf_32", ["u32", "utf32"], .utf32Marked),
    ("utf_32_le", ["utf_32le"], .reader (Unicode.readUtf32 .littleFirst)),
    ("utf_32_be", ["utf_32be"], .reader (Unicode.readUtf32 .bigFirst)),
    ("utf_7", ["u7", "unicode_1_1_utf_7", "utf7"], .reader Unicode.readUtf7),
    ("unicode_escape", [], .escaped),
    ("raw_unicode_escape", [], .reader Escaped.readPlain),
    ("punycode", [], .punycode),
    ("gb2312", ["chinese", "csiso58gb231280", "euc_cn", "euccn", "eucgb2312_cn", "gb2312_1980",
      "gb2312_80", "iso_ir_58", "x_mac_simp_chinese"], .reader Chinese.readGb2312),
    ("gbk", ["936", "cp936", "ms936"], .reader Chinese.readGbk),
    ("gb18030", ["gb18030_2000"], .reader Chinese.readGb18030),
    ("hz", ["hz_gb", "hz_gb_2312", "hzgb"], .reader Chinese.readHz),
    ("big5", ["big5_tw", "csbig5", "x_mac_trad_chinese"], .reader Chinese.readBig5),
    ("cp950", ["950", "ms950"], .reader Chinese.codePage950),
    ("big5hkscs", ["big5_hkscs", "hkscs"], .reader Chinese.readHkscs),
    ("euc_kr", ["euckr", "korean", "ks_c_5601", "ks_c_5601_1987", "ks_x_1001", "ksc5601",
      "ksx1001", "x_mac_korean"], .reader Korean.readEuc),
    ("cp949", ["949", "ms949", "uhc"], .reader Korean.codePage949),
    ("johab", ["cp1361", "ms1361"], .reader Korean.readJohab),
    ("iso2022_kr", ["csiso2022kr", "iso2022kr", "iso_2022_kr"], .reader Designations.korean.read),
    ("shift_jis", ["csshiftjis", "s_jis", "shiftjis", "sjis", "x_mac_japanese"],
      .reader Japanese.shiftJis),
    ("cp932", ["932", "ms932", "ms_kanji", "mskanji"], .reader Japanese.codePage932),
    ("shift_jis_2004", ["s_jis_2004", "shiftjis2004", "sjis_2004"],
      .reader (Japanese.shiftJis2004 .of2004)),
    ("shift_jisx0213", ["s_jisx0213", "shiftjisx0213", "sjisx0213"],
      .reader (Japanese.shiftJis2004 .of2000)),
    ("euc_jp", ["eucjp", "u_jis", "ujis"], .reader Japanese.eucJp),
    ("euc_jis_2004", ["euc_jis2004", "eucjis2004", "jisx0213"], .reader (Japanese.eucJis .of2004)),
    ("euc_jisx0213", ["eucjisx0213"], .reader (Japanese.eucJis .of2000)),
    ("iso2022_jp", ["csiso2022jp", "iso2022jp", "iso_2022_jp"], .reader Designations.japanese.read),
    ("iso2022_jp_1", ["iso2022jp_1", "iso_2022_jp_1"], .reader Designations.japanese1.read),
    ("iso2022_jp_2", ["iso2022jp_2", "iso_2022_jp_2"], .reader Designations.japanese2.read),
    ("iso2022_jp_2004", ["iso2022jp_2004", "iso_2022_jp_2004"],
      .reader (Designations.japanese3 .of2004).read),
    ("iso2022_jp_3", ["iso2022jp_3", "iso_2022_jp_3"],
      .reader (Designations.japanese3 .of2000).read),
    ("iso2022_jp_ext", ["iso2022jp_ext", "iso_2022_jp_ext"],
      .reader Designations.japaneseMore.read),
    ("rot_13", ["rot13"], .refused .notText),
    ("base64_codec", ["base64", "base_64"], .refused .notLenient),
    ("bz2_codec", ["bz2"], .refused .notLenient),
    ("hex_codec", ["hex"], .refused .notLenient),
    ("quopri_codec", ["quopri", "quoted_printable", "quotedprintable"], .refused .notLenient),
    ("uu_codec", ["uu"], .refused .notLenient),
    ("zlib_codec", ["zip", "zlib"], .refused .notLenient),
    ("idna", [], .refused .unsupported),
    ("undefined", [], .refused .unsupported)]

/-- All charsets by their names. -/
def all : List (String × List String × Charset) :=
  named ++ pages.map fun p => (p.name, p.aliases, .page p)

/-- The charset of a name. -/
def ofName? (name : String) : Option Charset :=
  let key := canonicalName name
  let dotless := String.ofList (key.toList.map fun c => if c = '.' then '_' else c)
  match all.find? fun e => e.2.1.contains key || e.2.1.contains dotless with
  | some e => some e.2.2
  | none => (all.find? fun e => e.1 = key).map fun e => e.2.2

/-! ### Reading -/

/-- The text of Punycode: what is before the last hyphen is in ASCII, what follows it are digits. -/
def readPunycode (bytes : Octets) : Except CharsetFault (Reading × Bool) :=
  let last := (bytes.reverse.takeWhile (· ≠ 0x2D)).reverse
  let basic := (bytes.take (bytes.length - last.length)).dropLast
  if last.all (· < 0x80) then
    let leading := (readAscii basic).replaced
    let (text, isWhole) := Punycode.decode leading (last.map fun b => Char.ofNat b.toNat)
    .ok (text.map some, isWhole && basic.all (· < 0x80))
  else .error .notAscii

/-- The text of octets, with U+FFFD for what is malformed. -/
def decode (names : Names) (charset : Charset) (bytes : Octets) : Except CharsetFault (List Glyph) :=
  let marked (reading : Option Reading) : Except CharsetFault (List Glyph) :=
    match reading with
    | some r => .ok r.replaced
    | none => .error .noMark
  match charset with
  | .reader read => .ok (read bytes).replaced
  | .escaped => .ok (Escaped.read names bytes).replaced
  | .page p => .ok (p.read bytes).replaced
  | .utf16Marked => marked (Unicode.readMarkedUtf16? bytes)
  | .utf32Marked => marked (Unicode.readMarkedUtf32? bytes)
  | .punycode => (readPunycode bytes).map fun r => r.1.replaced
  | .refused fault => .error fault

/-- The text of octets, if nothing is malformed. Without a mark, the lower octet of a unit comes
first. -/
def decodeStrict? (names : Names) (charset : Charset) (bytes : Octets) : Option (List Glyph) :=
  match charset with
  | .reader read => (read bytes).strict?
  | .escaped => (Escaped.read names bytes).strict?
  | .page p => (p.read bytes).strict?
  | .utf16Marked =>
    ((Unicode.readMarkedUtf16? bytes).getD (Unicode.readUtf16 .littleFirst bytes)).strict?
  | .utf32Marked =>
    ((Unicode.readMarkedUtf32? bytes).getD (Unicode.readUtf32 .littleFirst bytes)).strict?
  | .punycode =>
    match readPunycode bytes with
    | .ok (reading, true) => reading.strict?
    | _ => none
  | .refused _ => none

end Charset

end Restyle.Text
