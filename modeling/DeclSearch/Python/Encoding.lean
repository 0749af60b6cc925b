/-
# The encoding of source code

Source code is UTF-8 unless a comment in its first line, or in the second when the first
holds nothing but a comment or blanks, declares another encoding.  A byte-order mark
says UTF-8 and allows no other declaration.

`Encoding.source?` gives source code as octets of UTF-8 with every line ended by a line
feed.  Code that is UTF-8 by default is not decoded here: octets that are no text only
matter where they stand in a name or a literal.
-/

import DeclSearch.Text.CodePage
import DeclSearch.Text.Octets

namespace DeclSearch
namespace Python

open Text (Bytes)

/-- Every line break as a line feed, and one at the end; `CR LF` at the end gives an empty
line behind it. -/
def lineFeeds : (done : List Char) → List Char → List Char
  | done, [] =>
    match done with
    | '\n' :: _ => done.reverse
    | _ => ('\n' :: done).reverse
  | done, ['\r', '\n'] => ('\n' :: '\n' :: done).reverse
  | done, '\r' :: '\n' :: rest => lineFeeds ('\n' :: done) rest
  | done, '\r' :: rest => lineFeeds ('\n' :: done) rest
  | done, c :: rest => lineFeeds (c :: done) rest

namespace Encoding

/-- A blank that may stand in front of a comment. -/
def isIndent (c : Char) : Bool := c = ' ' || c = '\t' || c = '\x0c'

/-- A character of an encoding's name. -/
def isNameChar (c : Char) : Bool := c.isAlphanum || c = '-' || c = '_' || c = '.'

/-- The name behind the word `coding` and a colon or an equals sign, if it stands here. -/
def nameHere? : List Char → Option (List Char)
  | 'c' :: 'o' :: 'd' :: 'i' :: 'n' :: 'g' :: mark :: rest =>
    if mark = ':' ∨ mark = '=' then
      let name := (rest.dropWhile fun c => c = ' ' || c = '\t').takeWhile isNameChar
      if name.isEmpty then none else some name
    else none
  | _ => none

/-- The first declared name in a comment. -/
def nameIn? : List Char → Option (List Char)
  | [] => none
  | c :: rest => (nameHere? (c :: rest)).or (nameIn? rest)

/-- The encoding that a line declares, if the line is a comment and does. -/
def declared? (line : List Char) : Option (List Char) :=
  match line.dropWhile isIndent with
  | '#' :: comment => nameIn? comment
  | _ => none

/-- Whether a line leaves the declaration to the next one. -/
def passesOn (line : List Char) : Bool :=
  match line.dropWhile isIndent with
  | [] => true
  | c :: _ => c = '#'

/-- Lower case, and hyphens instead of underscores. -/
def plainName (name : List Char) : List Char :=
  name.map fun c => if c = '_' then '-' else c.toLower

/-- Whether a name is a word, or the word and a hyphen and anything else. -/
def isWordOr (word : String) (name : List Char) : Bool :=
  name == word.toList || (word.toList ++ ['-']).isPrefixOf name

/-- The usual spelling of the two encodings that have one; other names stay as they are. -/
def normalName (name : List Char) : String :=
  let short := plainName (name.take 12)
  if isWordOr "utf-8" short then "utf-8"
  else if ["latin-1", "iso-8859-1", "iso-latin-1"].any (isWordOr · short) then "iso-8859-1"
  else String.ofList name

/-- Words of letters, digits and dots joined by underscores; what stands between two words
does not matter, nor what stands in front of the first one and behind the last. -/
def joinWords (done : List Char) : (gap : Bool) → List Char → List Char
  | _, [] => done.reverse
  | gap, c :: rest =>
    if c.isAlphanum || c = '.' then
      joinWords (if gap && !done.isEmpty then c :: '_' :: done else c :: done) false rest
    else joinWords done true rest

/-- The name under which an encoding is looked up. -/
def lookupName (name : String) : String :=
  String.ofList (joinWords [] false (name.toList.map Char.toLower))

/-- The other names of UTF-8. -/
def utf8Names : List String :=
  ["utf_8", "u8", "utf", "utf8", "utf8_ucs2", "utf8_ucs4", "cp65001"]

/-- The other names of Latin 1. -/
def latin1Names : List String := [
  "latin_1", "8859", "cp819", "csisolatin1", "ibm819", "iso8859", "iso8859_1", "iso_8859_1",
  "iso_8859_1_1987", "iso_ir_100", "l1", "latin", "latin1", "charmap"]

/-- The other names of ASCII. -/
def asciiNames : List String := [
  "ascii", "646", "ansi_x3.4_1968", "ansi_x3_4_1968", "ansi_x3.4_1986", "cp367", "csascii",
  "ibm367", "iso646_us", "iso_646.irv_1991", "iso_ir_6", "us", "us_ascii"]

/-- The names of encodings with several bytes a character; only their ASCII part is
read.  A dot does not stand for an underscore in these. -/
def wideNames : List String := [
  "big5", "big5hkscs", "cp932", "cp949", "cp950", "euc_jis_2004", "euc_jisx0213", "euc_jp",
  "euc_kr", "gb18030", "gb2312", "gbk", "iso2022_jp", "iso2022_jp_1", "iso2022_jp_2",
  "iso2022_jp_2004", "iso2022_jp_3", "iso2022_jp_ext", "johab", "shift_jis"]

/-- Other names of encodings with several bytes a character. -/
def wideAliases : List String := [
  "932", "936", "949", "950", "big5_hkscs", "big5_tw", "chinese", "cp1361", "cp936", "csbig5",
  "csiso2022jp", "csiso58gb231280", "csshiftjis", "euc_cn", "euc_jis2004", "euccn", "eucgb2312_cn",
  "eucjis2004", "eucjisx0213", "eucjp", "euckr", "gb18030_2000", "gb2312_1980", "gb2312_80",
  "hkscs", "iso2022jp", "iso2022jp_1", "iso2022jp_2", "iso2022jp_2004", "iso2022jp_3",
  "iso2022jp_ext", "iso_2022_jp", "iso_2022_jp_1", "iso_2022_jp_2", "iso_2022_jp_2004",
  "iso_2022_jp_3", "iso_2022_jp_ext", "iso_ir_58", "jisx0213", "korean", "ks_c_5601",
  "ks_c_5601_1987", "ks_x_1001", "ksc5601", "ksx1001", "ms1361", "ms932", "ms936", "ms949", "ms950",
  "ms_kanji", "mskanji", "s_jis", "shiftjis", "sjis", "u_jis", "uhc", "ujis", "x_mac_japanese",
  "x_mac_korean", "x_mac_simp_chinese", "x_mac_trad_chinese"]

/-- The octets of UTF-8 for octets in an encoding, if it is known and they fit it.  In all
names but the first of an encoding a dot may stand for an underscore. -/
def recode? (encoding : String) (octets : List Char) : Option (List Char) :=
  let name := lookupName encoding
  let plain := String.ofList (name.toList.map fun c => if c = '.' then '_' else c)
  let isOneOf (names : List String) : Bool :=
    names.contains name || (names.drop 1).contains plain
  if isOneOf utf8Names then (Text.charsOf? octets).map fun _ => octets
  else if isOneOf latin1Names then some (Text.octetsOfChars octets)
  else if isOneOf asciiNames || wideNames.contains name || wideAliases.contains plain then
    if octets.any Text.isHigh then none else some octets
  else do
    let page ← Text.codePages.find? fun page => isOneOf page.names
    return Text.octetsOfChars (← page.chars? octets)

/-- The encoding that source code declares in its first two lines. -/
def find? (octets : List Char) : Option (List Char) :=
  let first := octets.takeWhile (· ≠ '\n')
  match declared? first with
  | some name => some name
  | none =>
    if passesOn first then
      declared? (((octets.drop first.length).drop 1).takeWhile (· ≠ '\n'))
    else none

/-- Source code as octets of UTF-8 with line feeds, if it holds no NUL and its encoding
can be read. -/
def source? (content : Bytes) : Option (List Char) :=
  if content.contains 0 then none
  else
    let body := Text.Utf8.dropMark content
    let marked := body.length ≠ content.length
    let octets := lineFeeds [] (Text.octetsOf body)
    match (find? octets).map normalName with
    | none => some octets
    | some "utf-8" => some octets
    | some name => if marked then none else recode? name octets

end Encoding
end Python
end DeclSearch
