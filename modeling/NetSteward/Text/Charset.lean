import NetSteward.Text.Charset.Desktop
import NetSteward.Text.Charset.Dos
import NetSteward.Text.Charset.Escaped
import NetSteward.Text.Charset.Host
import NetSteward.Text.Charset.Iso
import NetSteward.Text.Charset.Punycode
import NetSteward.Text.Charset.Switched
import NetSteward.Text.Charset.Utf7
import NetSteward.Text.Charset.Windows
import NetSteward.Text.CodePoint
/-!
# Character sets

A form says in which character set it is written, under one of many
names. Case does not matter in a name, nor what stands between its
letters, digits and points. A text of bytes that is not well formed in
its set, or whose set is not known, is read byte by byte; some sets
refuse such a text instead.
-/

namespace NetSteward

/-- Which byte of a number comes first, as far as it is known before the
text is read. -/
inductive ByteOrder
  /-- A mark at the start of the text tells; without one the last byte
  comes first. -/
  | marked
  | lastFirst
  | firstFirst
deriving DecidableEq

/-- A character set. -/
inductive Charset
  /-- UTF-8, perhaps with a mark at the start that is no part of the
  text. -/
  | utf8 (skipsMark : Bool)
  | utf16 (order : ByteOrder)
  | utf32 (order : ByteOrder)
  | utf7
  | escaped (form : Escaped.Form)
  | punycode
  | hostName
  /-- The set that refuses every text. -/
  | undefined
  | page (page : CodePage)
  | multibyte (set : Multibyte)

namespace Charset

/-- The set of the first 256 characters. -/
def latin1 : CodePage where
  name := "latin_1"
  aliases := ["8859", "charmap", "cp819", "csisolatin1", "ibm819", "iso8859", "iso8859_1",
    "iso_8859_1", "iso_8859_1_1987", "iso_ir_100", "l1", "latin", "latin1"]
  last := ""

/-- The set of the first 128 characters. -/
def ascii : CodePage where
  name := "ascii"
  aliases := ["646", "ansi_x3.4_1968", "ansi_x3.4_1986", "ansi_x3_4_1968", "cp367", "csascii",
    "ibm367", "iso646_us", "iso_646.irv_1991", "iso_ir_6", "us", "us_ascii"]
  last := String.ofList (List.replicate 128 Utf8.replacement)

/-- The code pages. -/
def pages : List CodePage :=
  latin1 :: ascii :: CodePage.isoPages ++ CodePage.windowsPages ++ CodePage.dosPages ++
    CodePage.hostPages ++ CodePage.desktopPages

/-- A character set and its names in normal form: its own name and the
others that it goes by. -/
structure Entry where
  name : String
  aliases : List String
  set : Charset

/-- The sets that are no code pages. -/
def schemes : List Entry :=
  [⟨"utf_8", ["cp65001", "u8", "utf", "utf8", "utf8_ucs2", "utf8_ucs4"], utf8 false⟩,
    ⟨"utf_8_sig", [], utf8 true⟩,
    ⟨"utf_16", ["u16", "utf16"], utf16 .marked⟩,
    ⟨"utf_16_be", ["unicodebigunmarked", "utf_16be"], utf16 .firstFirst⟩,
    ⟨"utf_16_le", ["unicodelittleunmarked", "utf_16le"], utf16 .lastFirst⟩,
    ⟨"utf_32", ["u32", "utf32"], utf32 .marked⟩,
    ⟨"utf_32_be", ["utf_32be"], utf32 .firstFirst⟩,
    ⟨"utf_32_le", ["utf_32le"], utf32 .lastFirst⟩,
    ⟨"utf_7", ["u7", "unicode_1_1_utf_7", "utf7"], utf7⟩,
    ⟨"unicode_escape", [], escaped .full⟩,
    ⟨"raw_unicode_escape", [], escaped .raw⟩,
    ⟨"punycode", [], punycode⟩,
    ⟨"idna", [], hostName⟩,
    ⟨"undefined", [], undefined⟩]

/-- The sets in which a character can take several bytes. -/
def multibyteSets : List Multibyte :=
  Japanese.sets ++ Korean.sets ++ Chinese.sets ++ Switched.sets

/-- All character sets that are known. -/
def entries : List Entry :=
  schemes ++ (pages.map fun p => ⟨p.name, p.aliases, page p⟩) ++
    multibyteSets.map fun m => ⟨m.name, m.aliases, multibyte m⟩

/-! ## Names -/

/-- Whether a character counts in a name. -/
def isNameChar (c : Char) : Bool := c.isAlphanum || c == '.'

/-- A name in normal form: the characters that count, in lower case, with
an underscore for what stands between them. -/
def normalFrom (pending : Bool) : List Char → List Char
  | [] => []
  | c :: rest =>
    if isNameChar c then
      (if pending then ['_'] else []) ++ c.toLower :: normalFrom false rest
    else normalFrom true rest

/-- A name in normal form. -/
def normalName (name : String) : String :=
  String.ofList (normalFrom false (name.toList.dropWhile fun c => !isNameChar c))

/-- The character set with a name. A point can stand for an underscore in
all names but the own one. -/
def ofName? (name : String) : Option Charset :=
  let name := normalName name
  let plain := name.map fun c => if c = '.' then '_' else c
  let entry := (entries.find? fun e => e.aliases.contains name || e.aliases.contains plain).or
    (entries.find? fun e => e.name = name)
  entry.map Entry.set

/-! ## Reading -/

/-- What is read of a text in punycode. -/
def ofPunycode : Except Punycode.Fault (List Nat) → Except Fault (List Char)
  | .ok points => .ok (Text.ofCodePoints points)
  | .error .malformed => .error .malformed
  | .error .unreadable => .error .refused

/-- The numbers that groups of so many bytes write, if none is left
over. -/
def numbers? (isFirstFirst : Bool) (width : Nat) : Nat → Bytes → Option (List Nat)
  | _, [] => some []
  | 0, _ :: _ => none
  | fuel + 1, b :: bytes =>
    let group := (b :: bytes).take width
    if group.length < width then none
    else
      let value := (if isFirstFirst then group else group.reverse).foldl
        (fun n b => 256 * n + b.toNat) 0
      (numbers? isFirstFirst width fuel ((b :: bytes).drop width)).map (value :: ·)

/-- The numbers of a text, in the order that is fixed or that its mark
tells, without the mark. -/
def orderedNumbers? (order : ByteOrder) (width : Nat) (bytes : Bytes) : Option (List Nat) :=
  let read (isFirstFirst : Bool) (bytes : Bytes) := numbers? isFirstFirst width bytes.length bytes
  match order with
  | .firstFirst => read true bytes
  | .lastFirst => read false bytes
  | .marked =>
    let first := bytes.take width
    if (read true first).getD [] == [0xFEFF] then read true (bytes.drop width)
    else if (read false first).getD [] == [0xFEFF] then read false (bytes.drop width)
    else read false bytes

/-- The text of code points that are all characters. -/
def ofCharacterPoints? (points : List Nat) : Option (List Char) :=
  if points.all fun n => n < 0x110000 && !Utf16.isHalf n then some (Text.ofCodePoints points)
  else none

/-- Reads a text of bytes in a character set. -/
def decode : Charset → Bytes → Except Fault (List Char)
  | utf8 skipsMark, bytes =>
    let bytes := if skipsMark && [0xEF, 0xBB, 0xBF].isPrefixOf bytes then bytes.drop 3 else bytes
    wellFormed ((Utf8.decode? bytes).map Text.ofCharacters)
  | utf16 order, bytes =>
    wellFormed ((orderedNumbers? order 2 bytes).bind fun units =>
      ofCharacterPoints? (Utf16.ofUnits units))
  | utf32 order, bytes => wellFormed ((orderedNumbers? order 4 bytes).bind ofCharacterPoints?)
  | utf7, bytes => wellFormed ((Utf7.decode? bytes).map Text.ofCodePoints)
  | escaped form, bytes => wellFormed ((Escaped.decode? form bytes).map Text.ofCodePoints)
  | punycode, bytes => ofPunycode (Punycode.decode bytes)
  | hostName, bytes => ofPunycode (Punycode.decodeHost bytes)
  | undefined, _ => .error .refused
  | page p, bytes => wellFormed ((p.decode? bytes).map Text.ofCharacters)
  | multibyte m, bytes => (m.decode bytes).map Text.ofCodePoints

/-- The text of which each byte is a character. -/
def bytewise (bytes : Bytes) : List Char := bytes.map fun b => Char.ofNat b.toNat

/-- **Reads a text of bytes in the character set with a name**, or byte by
byte if that is not known or the text is malformed in it; none if the
set refuses the text. A name cannot hold the null character, and an
empty text is empty in every set. -/
def read? (name : String) (bytes : Bytes) : Option (List Char) :=
  if name.toList.contains '\x00' then none
  else if bytes.isEmpty then some []
  else match ofName? name with
    | none => some (bytewise bytes)
    | some set => match set.decode bytes with
      | .ok cs => some cs
      | .error .malformed => some (bytewise bytes)
      | .error .refused => none

end Charset

end NetSteward
