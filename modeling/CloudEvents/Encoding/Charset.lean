import CloudEvents.Encoding.Unicode
import CloudEvents.Text.Digits
/-!
# Character sets by name

A body in bytes is text in the character set that its media type names. Names are compared without
case, and every run of other characters than ASCII letters, digits and full stops counts as one
separator; separators at the ends do not count. A full stop counts as a separator too where this
makes the name one of the registered ones: `iso.8859.1` is `iso_8859_1`. The own name of a coding is
not among those, so `utf.8` is no name of `utf_8`. No name holds the character zero.

A registry says which codec a name stands for, and which names stand for none. The standard one has
the codecs of the character sets here and knows no other name; the converter takes any registry, one
with more codecs too.
-/

namespace CloudEvents.Encoding

/-- The character sets that a body can be read and written in. -/
inductive Charset where
  /-- UTF-8. -/
  | utf8
  /-- UTF-8 with a byte order mark in front, which a reader need not find. -/
  | utf8Marked
  /-- The first 256 characters, one byte each. -/
  | latin1
  /-- The first 128 characters, one byte each. -/
  | ascii
  /-- UTF-16 in the byte order of its mark, the low byte first if there is none. -/
  | utf16
  /-- UTF-16 in a fixed byte order, without a mark. -/
  | utf16In (order : ByteOrder)
  deriving DecidableEq

/-- The names of a coding, in normal form. -/
structure Names where
  /-- The own name. -/
  own : String
  /-- The other names that it is registered under. -/
  registered : List String

/-- A full stop as a separator. -/
def withoutStops (key : String) : String := key.map fun c => if c == '.' then '_' else c

/-- Whether a name in normal form is one of these names, as it is or with separators for its full
stops. -/
def Names.covers (names : Names) (key : String) : Bool :=
  key == names.own || names.registered.contains key || names.registered.contains (withoutStops key)

/-- The names of each character set. -/
def Charset.names : List (Charset × Names) :=
  [(.utf8, ⟨"utf_8", ["utf8", "u8", "utf", "cp65001", "utf8_ucs2", "utf8_ucs4"]⟩),
    (.utf8Marked, ⟨"utf_8_sig", []⟩),
    (.latin1, ⟨"latin_1", ["latin1", "latin", "l1", "8859", "cp819", "csisolatin1", "ibm819",
      "iso8859", "iso8859_1", "iso_8859_1", "iso_8859_1_1987", "iso_ir_100"]⟩),
    (.ascii, ⟨"ascii", ["us_ascii", "us", "646", "cp367", "csascii", "ibm367", "iso646_us",
      "iso_ir_6", "ansi_x3.4_1968", "ansi_x3_4_1968", "ansi_x3.4_1986", "iso_646.irv_1991"]⟩),
    (.utf16, ⟨"utf_16", ["utf16", "u16"]⟩),
    (.utf16In .little, ⟨"utf_16_le", ["utf_16le", "unicodelittleunmarked"]⟩),
    (.utf16In .big, ⟨"utf_16_be", ["utf_16be", "unicodebigunmarked"]⟩)]

/-- The names of codings that turn bytes into bytes or text into text. -/
def transforms : List Names :=
  [⟨"hex_codec", ["hex"]⟩, ⟨"base64_codec", ["base64", "base_64"]⟩, ⟨"bz2_codec", ["bz2"]⟩,
    ⟨"quopri_codec", ["quopri", "quoted_printable", "quotedprintable"]⟩, ⟨"rot_13", ["rot13"]⟩,
    ⟨"uu_codec", ["uu"]⟩, ⟨"zlib_codec", ["zip", "zlib"]⟩]

/-- The normal form of a name; the flag says that a separator is waiting for the next character. -/
def normalNameFrom (waiting : Bool) : List Char → List Char
  | [] => []
  | c :: rest =>
    if c.isAlphanum || c == '.' then
      (if waiting then ['_', c.toLower] else [c.toLower]) ++ normalNameFrom false rest
    else normalNameFrom true rest

/-- The normal form of a name. -/
def normalName (name : String) : String :=
  let core := name.toList.dropWhile fun c => !(c.isAlphanum || c == '.')
  String.ofList (normalNameFrom false core)

/-- Why a name stands for no character set. -/
inductive NameFault where
  /-- Nothing has this name. -/
  | unknown (name : String)
  /-- The coding with this name is not one of text. -/
  | notText (name : String)
  deriving DecidableEq

/-- Whether a name holds the character zero; nothing can be looked up under such a name. -/
def holdsZero (name : String) : Bool := name.toList.contains '\x00'

/-- The character set with a name. -/
def Charset.named (name : String) : Except NameFault Charset :=
  let key := normalName name
  match Charset.names.find? fun entry => entry.2.covers key with
  | some (charset, _) => .ok charset
  | none =>
    .error (if transforms.any fun names => names.covers key then .notText name else .unknown name)

/-- A stretch of bytes that is not text, and where it stands. -/
structure DecodeFault where
  /-- The name of the encoding form that was being read. -/
  form : String
  /-- The number of bytes before the stretch. -/
  position : Nat
  /-- The first byte of the stretch. -/
  first : UInt8
  /-- The number of bytes in the stretch. -/
  length : Nat
  /-- What is wrong with them. -/
  reason : Reason
  deriving DecidableEq

/-- The text of a reason. -/
def Reason.text : Reason → String
  | .invalidStart => "invalid start byte"
  | .invalidContinuation => "invalid continuation byte"
  | .unexpectedEnd => "unexpected end of data"
  | .truncated => "truncated data"
  | .loneLow => "illegal encoding"
  | .loneHigh => "illegal UTF-16 surrogate"
  | .outOfRange size => s!"ordinal not in range({size})"
  | .other text => text

/-- The text of a fault: a single byte is shown, of several the first and last place. -/
def DecodeFault.text (f : DecodeFault) : String :=
  let stretch :=
    if f.length = 1 then
      s!"byte 0x{String.ofList (Text.hex 2 f.first.toNat)} in position {f.position}"
    else s!"bytes in position {f.position}-{f.position + f.length - 1}"
  "'" ++ f.form ++ "' codec can't decode " ++ stretch ++ ": " ++ f.reason.text

/-- Places a bad stretch in an input of `total` bytes. -/
def Stretch.locate (form : String) (total : Nat) (s : Stretch) : DecodeFault :=
  ⟨form, total - s.rest.length, s.rest.headD 0, s.length, s.reason⟩

/-- Bytes below a bound, one character each. -/
def fromBytesBelow (bound : Nat) : List UInt8 → Except Stretch (List Char)
  | [] => .ok []
  | b :: rest =>
    if b.toNat < bound then (fromBytesBelow bound rest).map (Char.ofNat b.toNat :: ·)
    else .error ⟨b :: rest, 1, .outOfRange bound⟩

/-- The name of UTF-16 in a byte order. -/
def ByteOrder.formName : ByteOrder → String
  | .little => "utf-16-le"
  | .big => "utf-16-be"

/-- Reads bytes in a character set. -/
def Charset.decode (charset : Charset) (bs : List UInt8) : Except DecodeFault (List Char) :=
  match charset with
  | .utf8 => (fromUtf8 bs).mapError (Stretch.locate "utf-8" bs.length)
  | .utf8Marked =>
    let core := match bs with
      | 0xEF :: 0xBB :: 0xBF :: rest => rest
      | _ => bs
    (fromUtf8 core).mapError (Stretch.locate "utf-8" core.length)
  | .latin1 => (fromBytesBelow 256 bs).mapError (Stretch.locate "latin-1" bs.length)
  | .ascii => (fromBytesBelow 128 bs).mapError (Stretch.locate "ascii" bs.length)
  | .utf16In order => (fromUtf16 order bs).mapError (Stretch.locate order.formName bs.length)
  | .utf16 =>
    let (order, core) := match bs with
      | 0xFF :: 0xFE :: rest => (ByteOrder.little, rest)
      | 0xFE :: 0xFF :: rest => (ByteOrder.big, rest)
      | _ => (ByteOrder.little, bs)
    (fromUtf16 order core).mapError (Stretch.locate order.formName bs.length)

/-- Characters below a bound, one byte each. -/
def toBytesBelow? (bound : Nat) (cs : List Char) : Option (List UInt8) :=
  cs.mapM fun c => if c.toNat < bound then some (UInt8.ofNat c.toNat) else none

/-- Writes text in a character set, if the set has all its characters. -/
def Charset.encode? (charset : Charset) (cs : List Char) : Option (List UInt8) :=
  match charset with
  | .utf8 => some (toUtf8 cs)
  | .utf8Marked => some (0xEF :: 0xBB :: 0xBF :: toUtf8 cs)
  | .latin1 => toBytesBelow? 256 cs
  | .ascii => toBytesBelow? 128 cs
  | .utf16In order => some (toUtf16 order cs)
  | .utf16 => some (0xFF :: 0xFE :: toUtf16 .little cs)

/-- How texts are written and read in a character set. -/
structure Codec where
  /-- Writes a text, if the set has all its characters. -/
  encode? : List Char → Option (List UInt8)
  /-- Reads bytes. -/
  decode : List UInt8 → Except DecodeFault (List Char)

/-- The codec of a character set. -/
def Charset.codec (charset : Charset) : Codec := ⟨charset.encode?, charset.decode⟩

/-- The codecs that names stand for. -/
abbrev Registry := String → Except NameFault Codec

/-- The codecs of the character sets under their names. -/
def Registry.standard : Registry := fun name => (Charset.named name).map Charset.codec

end CloudEvents.Encoding
