import SyntaxOutline.Text.CodePage.Dos
import SyntaxOutline.Text.CodePage.Iso
import SyntaxOutline.Text.CodePage.Mac
import SyntaxOutline.Text.CodePage.Mainframe
import SyntaxOutline.Text.CodePage.Regional
import SyntaxOutline.Text.CodePage.Windows
import SyntaxOutline.Text.Encoding.Escaped
import SyntaxOutline.Text.Encoding.Shifted
import SyntaxOutline.Text.Encoding.Wide
import SyntaxOutline.Text.Pieces
import SyntaxOutline.Text.Quoted
import SyntaxOutline.Text.Utf8

/-
  Encodings of texts, by name.

  A text whose octets are read in another encoding is another
  text, or none at all.  Encodings that extend ASCII by rows of
  several octets are not told apart: they leave a text as it is.
  An encoding of wide characters may need a mark at the start.

  Key definitions include:
    * `Encoding`
    * `Encoding.Failure`
    * `Encoding.reread`
    * `Encoding.named`
-/

------------------------------------------------------------
-- Encodings
------------------------------------------------------------

namespace SyntaxOutline

/-
  An encoding of texts as octets.  UTF-8 may drop a mark at the
  start; wide characters take a number of octets each, the
  lowest one first or last.
-/
inductive Encoding where
  | utf8 (dropsMark : Bool)
  | latin
  | sevenBits (name reason : String)
  | page (table : CodePage)
  | escaped
  | plainEscaped
  | shifted
  | rows (hasYen : Bool)
  | wide (width : Nat) (lowFirst : Bool)
  | marked (width : Nat)
  | undefined
  deriving DecidableEq, Repr

namespace Encoding

/- Why a text cannot be read in an encoding. -/
inductive Failure where
  | zeroName
  | unknown (name : String)
  | notText (name : String)
  | undefined
  | unmarked (width : Nat)
  | undecodable (name : String) (octet : UInt8) (broken : Broken)
  deriving DecidableEq, Repr

/- The name of an encoding of wide characters. -/
def wideName
    (width : Nat) : String :=
  "utf-" ++ toString (8 * width)

/- The text of a failure. -/
def Failure.message : Failure → String
  | .zeroName => "embedded null character"
  | .unknown name => "unknown encoding: " ++ name
  | .notText name =>
      "'" ++ name ++ "' is not a text encoding; use codecs.open() " ++
        "to handle arbitrary codecs"
  | .undefined => "undefined encoding"
  | .unmarked width =>
      "UTF-" ++ toString (8 * width) ++
        " stream does not start with BOM"
  | .undecodable name octet ⟨place, count, reason⟩ =>
      "'" ++ name ++ "' codec can't decode " ++
        (if count = 1 then
          "byte 0x" ++ String.ofList (Text.hex 2 octet.toNat) ++
            " in position " ++ toString place
        else
          "bytes in position " ++ toString place ++ "-" ++
            toString (place + count - 1)) ++
        ": " ++ reason

------------------------------------------------------------
-- Reading
------------------------------------------------------------

/- The mark that may stand at the start of a text. -/
def mark : Char := '\uFEFF'

/- The text without a mark at its start. -/
def dropMark : List Char → List Char
  | [] => []
  | c :: rest => if c = mark then rest else c :: rest

/- The signs that stand for a backslash and a tilde in some rows. -/
def withYen
    (c : Char) : Char :=
  if c = '\\' then '¥' else if c = '~' then '‾' else c

/- Give a name to what cannot be read of octets. -/
def naming
    (name : String)
    (octets : List UInt8)
    (chars : Except Broken (List Char)) : Except Failure (List Char) :=
  chars.mapError fun broken =>
    .undecodable name ((octets[broken.place]?).getD 0) broken

/- Wide characters in an order, under their name. -/
def namedWide
    (width : Nat)
    (lowFirst : Bool)
    (octets : List UInt8) : Except Failure (List Char) :=
  let name := wideName width ++ if lowFirst then "-le" else "-be"
  naming name octets (readWide width lowFirst octets)

/- The characters of a text whose octets are read in an encoding. -/
def rereadChars
    (text : String)
    (octets : List UInt8) :
    Encoding → Except Failure (List Char)
  | .utf8 dropsMark =>
      .ok (if dropsMark then dropMark text.toList else text.toList)
  | .rows hasYen =>
      .ok (if hasYen then text.toList.map withYen else text.toList)
  | .latin => .ok (octets.map latinChar)
  | .sevenBits name reason =>
      naming name octets (readEach asciiChar? reason octets)
  | .page table =>
      naming "charmap" octets
        (readEach table.char? "character maps to <undefined>" octets)
  | .escaped =>
      naming "unicodeescape" octets (readEscaped fullEscape octets)
  | .plainEscaped =>
      naming "rawunicodeescape" octets (readEscaped plainEscape octets)
  | .shifted => naming "utf7" octets (readShifted octets)
  | .wide width lowFirst => namedWide width lowFirst octets
  | .marked width => do
      let chars ← namedWide width true octets
      if chars.isEmpty then .ok [] else .error (.unmarked width)
  | .undefined => .error .undefined

/- The text whose octets are read in an encoding. -/
def reread
    (text : String)
    (encoding : Encoding) : Except Failure String :=
  (rereadChars text (Text.encode text) encoding).map String.ofList

------------------------------------------------------------
-- Names
------------------------------------------------------------

/- An encoding of seven bits that has rows of further octets. -/
def sevenBitRows
    (names : List String) : Encoding × List String :=
  (.sevenBits (names.headD "") "illegal multibyte sequence", names)

/- Encodings that are no pages, each with its names. -/
def families : List (Encoding × List String) :=
  [(.utf8 false,
      ["utf_8", "cp65001", "u8", "utf", "utf8", "utf8_ucs2",
        "utf8_ucs4"]),
    (.utf8 true, ["utf_8_sig"]),
    (.latin,
      ["latin_1", "8859", "cp819", "csisolatin1", "ibm819", "iso8859",
        "iso8859_1", "iso_8859_1", "iso_8859_1_1987", "iso_ir_100",
        "l1", "latin", "latin1"]),
    (.latin, ["charmap"]),
    (.escaped, ["unicode_escape"]),
    (.plainEscaped, ["raw_unicode_escape"]),
    (.sevenBits "ascii" "ordinal not in range(128)",
      ["ascii", "646", "ansi_x3.4_1968", "ansi_x3.4_1986",
        "ansi_x3_4_1968", "cp367", "csascii", "ibm367", "iso646_us",
        "iso_646.irv_1991", "iso_ir_6", "us", "us_ascii"]),
    (.sevenBits "ascii" "ordinal not in range(128)", ["idna"]),
    (.shifted,
      ["utf_7", "u7", "unicode_1_1_utf_7", "utf7"]),
    sevenBitRows ["hz", "hz_gb", "hz_gb_2312", "hzgb"],
    sevenBitRows
      ["iso2022_jp", "csiso2022jp", "iso2022jp", "iso_2022_jp"],
    sevenBitRows ["iso2022_jp_1", "iso2022jp_1", "iso_2022_jp_1"],
    sevenBitRows ["iso2022_jp_2", "iso2022jp_2", "iso_2022_jp_2"],
    sevenBitRows
      ["iso2022_jp_2004", "iso2022jp_2004", "iso_2022_jp_2004"],
    sevenBitRows ["iso2022_jp_3", "iso2022jp_3", "iso_2022_jp_3"],
    sevenBitRows ["iso2022_jp_ext", "iso2022jp_ext", "iso_2022_jp_ext"],
    sevenBitRows
      ["iso2022_kr", "csiso2022kr", "iso2022kr", "iso_2022_kr"],
    (.rows false, ["big5", "big5_tw", "csbig5", "x_mac_trad_chinese"]),
    (.rows false, ["big5hkscs", "big5_hkscs", "hkscs"]),
    (.rows false, ["cp932", "932", "ms932", "ms_kanji", "mskanji"]),
    (.rows false, ["cp949", "949", "ms949", "uhc"]),
    (.rows false, ["cp950", "950", "ms950"]),
    (.rows false,
      ["euc_jis_2004", "euc_jis2004", "eucjis2004", "jisx0213"]),
    (.rows false, ["euc_jisx0213", "eucjisx0213"]),
    (.rows false, ["euc_jp", "eucjp", "u_jis", "ujis"]),
    (.rows false,
      ["euc_kr", "euckr", "korean", "ks_c_5601", "ks_c_5601_1987",
        "ks_x_1001", "ksc5601", "ksx1001", "x_mac_korean"]),
    (.rows false, ["gb18030", "gb18030_2000"]),
    (.rows false,
      ["gb2312", "chinese", "csiso58gb231280", "euc_cn", "euccn",
        "eucgb2312_cn", "gb2312_1980", "gb2312_80", "iso_ir_58",
        "x_mac_simp_chinese"]),
    (.rows false, ["gbk", "936", "cp936", "ms936"]),
    (.rows false, ["johab", "cp1361", "ms1361"]),
    (.rows false,
      ["shift_jis", "csshiftjis", "s_jis", "shiftjis", "sjis",
        "x_mac_japanese"]),
    (.rows true,
      ["shift_jis_2004", "s_jis_2004", "shiftjis2004", "sjis_2004"]),
    (.rows true,
      ["shift_jisx0213", "s_jisx0213", "shiftjisx0213",
        "sjisx0213"]),
    (.marked 2, ["utf_16", "u16", "utf16"]),
    (.wide 2 false, ["utf_16_be", "unicodebigunmarked", "utf_16be"]),
    (.wide 2 true,
      ["utf_16_le", "unicodelittleunmarked", "utf_16le"]),
    (.marked 4, ["utf_32", "u32", "utf32"]),
    (.wide 4 false, ["utf_32_be", "utf_32be"]),
    (.wide 4 true, ["utf_32_le", "utf_32le"]),
    (.undefined, ["undefined"])]

/- All code pages. -/
def pages : List CodePage :=
  CodePage.windows ++ CodePage.iso ++ CodePage.dos ++
    CodePage.regional ++ CodePage.mac ++ CodePage.mainframe

/- Names of codings that do not give texts. -/
def otherNames : List String :=
  ["base64_codec", "base64", "base_64", "bz2_codec", "bz2",
    "hex_codec", "hex", "quopri_codec", "quopri", "quoted_printable",
    "quotedprintable", "rot_13", "rot13", "uu_codec", "uu",
    "zlib_codec", "zip", "zlib"]

/-
  A name as it is looked up: letters, digits and dots, with lines
  in place of anything else between them.
-/
def spelled
    (name : String) : String :=
  let signs := name.toList.map fun c =>
    if c.isAlphanum || c = '.' then c.toLower else '_'
  String.ofList
    (['_'].intercalate ((Text.pieces '_' signs).filter (!·.isEmpty)))

/-
  A spelled name is among names.  With dots in it, it may also be
  any name but the first with lines in their place.
-/
def isAmong
    (name : String)
    (names : List String) : Bool :=
  if name.toList.contains '.' then
    names.contains name ||
      (names.drop 1).contains
        (String.ofList (name.toList.map fun c =>
          if c = '.' then '_' else c))
  else names.contains name

/- The encoding with a name, in any spelling. -/
def named
    (name : String) : Except Failure Encoding :=
  let found := spelled name
  if name.toList.contains '\x00' then .error .zeroName
  else
    match families.find? fun (_, names) => isAmong found names with
    | some (encoding, _) => .ok encoding
    | none =>
        match pages.find? fun table => isAmong found table.names with
        | some table => .ok (.page table)
        | none =>
            if isAmong found otherNames then .error (.notText name)
            else .error (.unknown name)

end Encoding

end SyntaxOutline
