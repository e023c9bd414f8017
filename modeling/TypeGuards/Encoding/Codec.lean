import TypeGuards.Encoding.SingleByte
import TypeGuards.Encoding.Utf16
import TypeGuards.Encoding.Utf8
/-!
Seven codecs, and how texts are read and written in them. In the name of a codec case does not matter,
and all runs of characters other than letters, digits and dots are the same.
-/
namespace TypeGuards.Encoding

inductive Codec where
  | utf8
  | utf8Marked
  | utf16
  | latin1
  | ascii
  | western
  /-- Known, but no encoding of texts. -/
  | hex
deriving DecidableEq, Repr, Inhabited

namespace Codec

def isNamePart (c : Char) : Bool := c.isAlphanum || c = '.'

/-- The parts of a name, in lower case, with `_` between them. -/
def normalName (name : List Char) (atGap : Bool) : List Char :=
  match name with
  | [] => []
  | c :: rest =>
      if isNamePart c then (if atGap then ['_'] else []) ++ c.toLower :: normalName rest false
      else normalName rest true

def ownName : Codec → String
  | utf8 => "utf_8"
  | utf8Marked => "utf_8_sig"
  | utf16 => "utf_16"
  | latin1 => "latin_1"
  | ascii => "ascii"
  | western => "cp1252"
  | hex => "hex_codec"

def aliases : Codec → List String
  | utf8 => ["utf8", "u8", "utf", "utf8_ucs2", "utf8_ucs4", "cp65001"]
  | utf8Marked => []
  | utf16 => ["utf16", "u16"]
  | latin1 =>
      ["latin1", "latin", "l1", "iso_8859_1", "iso8859_1", "iso8859", "8859", "cp819", "csisolatin1",
       "ibm819", "iso_8859_1_1987", "iso_ir_100"]
  | ascii =>
      ["us_ascii", "us", "646", "ansi_x3.4_1968", "ansi_x3_4_1968", "ansi_x3.4_1986", "cp367",
       "csascii", "ibm367", "iso646_us", "iso_646.irv_1991", "iso_ir_6"]
  | western => ["1252", "windows_1252"]
  | hex => ["hex"]

def all : List Codec := [utf8, utf8Marked, utf16, latin1, ascii, western, hex]

/-- The codec of a name in any spelling. A dot may stand for the gap between two parts, but only in a
name that is not the codec's own. -/
def ofName? (name : String) : Option Codec :=
  let normal := normalName (name.toList.dropWhile (!isNamePart ·)) false
  let joined := normal.map fun c => if c = '.' then '_' else c
  let isAlias (normal : List Char) (c : Codec) : Bool := c.aliases.contains (String.ofList normal)
  (all.find? (isAlias normal) <|> all.find? (isAlias joined)) <|>
    all.find? fun c => c.ownName = String.ofList normal

end Codec

inductive CodecError where
  | unknown (name : String)
  /-- A name with a character that ends names. -/
  | nullInName
  | notForText (name : String)
  | undecodable (e : DecodeError)
  | unmarked
  | unencodable (e : EncodeError)
  /-- An error of another kind, as a codec raises it. -/
  | other (kind message : String)
deriving DecidableEq, Repr, Inhabited

def CodecError.message : CodecError → String
  | unknown name => s!"unknown encoding: {name}"
  | nullInName => "embedded null character"
  | notForText name =>
      s!"'{name}' is not a text encoding; use codecs.open() to handle arbitrary codecs"
  | undecodable e => e.message
  | unmarked => "UTF-16 stream does not start with BOM"
  | unencodable e => e.message
  | other _ m => m

def byteOrderMark : List UInt8 := [0xef, 0xbb, 0xbf]

namespace Codec

def decode (c : Codec) (bytes : List UInt8) : Except CodecError (List Char) :=
  match c with
  | utf8 => (Utf8.decode bytes).mapError .undecodable
  | utf8Marked =>
      let rest := if byteOrderMark.isPrefixOf bytes then bytes.drop 3 else bytes
      (Utf8.decode rest).mapError .undecodable
  | utf16 =>
      match Utf16.decode bytes with
      | .text chars => .ok chars
      | .undecodable e => .error (.undecodable e)
      | .unmarked => .error .unmarked
  | latin1 => (SingleByte.latin1.decode bytes).mapError .undecodable
  | ascii => (SingleByte.ascii.decode bytes).mapError .undecodable
  | western => (SingleByte.western.decode bytes).mapError .undecodable
  | hex => .error (.notForText "hex")

def encode (c : Codec) (text : List Char) : Except CodecError (List UInt8) :=
  match c with
  | utf8 => .ok (Utf8.encode text)
  | utf8Marked => .ok (byteOrderMark ++ Utf8.encode text)
  | utf16 => .ok (Utf16.encode text)
  | latin1 => (SingleByte.latin1.encode text).mapError .unencodable
  | ascii => (SingleByte.ascii.encode text).mapError .unencodable
  | western => (SingleByte.western.encode text).mapError .unencodable
  | hex => .error (.notForText "hex")

end Codec

/-- How texts are read and written in an encoding, if it is one of texts. -/
structure Scheme where
  isForText : Bool := true
  decode : List UInt8 → Except CodecError (List Char)
  encode : List Char → Except CodecError (List UInt8)

def Codec.scheme (c : Codec) : Scheme :=
  { isForText := c ≠ .hex, decode := c.decode, encode := c.encode }

def joinLineEndings : List Char → List Char
  | [] => []
  | '\r' :: '\n' :: rest => '\n' :: joinLineEndings rest
  | '\r' :: rest => '\n' :: joinLineEndings rest
  | c :: rest => c :: joinLineEndings rest

end TypeGuards.Encoding
