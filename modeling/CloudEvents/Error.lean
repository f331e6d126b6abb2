import CloudEvents.Attribute.Basic
import CloudEvents.Conversion.Document
import CloudEvents.Encoding.Base64
import CloudEvents.Encoding.Charset
import CloudEvents.Json.Fault
import CloudEvents.Json.Writer
import CloudEvents.MediaType.Reader
import CloudEvents.Uri.Reader
import CloudEvents.Value.Shape
import CloudEvents.Value.Text
/-!
# Errors

Everything that can go wrong, by cause, and the one place where causes get their words.

The words of some causes show a value by its literal. Where this value has none, because it holds an
integer that is too long, the words cannot be put together, and what comes out in place of the error
is that. So the words tell the family too.
-/

namespace CloudEvents

/-- Why bytes could not be read in a named character set. -/
inductive TextFault where
  /-- The name stands for no character set. -/
  | name (fault : Encoding.NameFault)
  /-- The bytes are no text in it. -/
  | bytes (fault : Encoding.DecodeFault)

/-- Why a call fails. -/
inductive Error where
  /-- The value is no media type. -/
  | mediaType (given : Value) (fault : MediaType.Fault)
  /-- The header of the content type holds neither a text nor a media type. -/
  | contentTypeKind (header : String) (kind : String)
  /-- The converter does not read bodies of this media type. -/
  | unreadable (shape : Shape) (mediaType : MediaType)
  /-- The converter does not write bodies of this media type. -/
  | unwritable (mediaType : MediaType)
  /-- The payload is of a kind that has no body. -/
  | payloadKind (kind : String)
  /-- The body does not have the wanted shape. -/
  | wrongShape (kind : String) (shape : Shape)
  /-- The body is not text in the character set with this name. -/
  | notText (encoding : String) (fault : TextFault)
  /-- The body is not JSON. -/
  | notJson (report : Json.Report)
  /-- The value cannot be written as JSON. -/
  | unwritableValue (fault : Json.WriteFault)
  /-- The name of the character set of a body holds the character zero. -/
  | zeroInCharset
  /-- The name of the character set to write in holds the character zero. -/
  | zeroInOutputCharset
  /-- The character set does not have all characters of the body. -/
  | unencodable (encoding : String)
  /-- The name stands for no character set to write in. -/
  | encodingName (fault : Encoding.NameFault)
  /-- The attribute holds no text, or an empty one, where a URI reference should be. -/
  | notUri (a : Attribute) (value : Value)
  /-- The URI reference holds blanks or control characters. -/
  | blankInUri (a : Attribute) (value : Value)
  /-- The attribute is no URI reference. -/
  | malformedUri (a : Attribute) (fault : Uri.Fault)
  /-- The attribute is no timestamp. -/
  | notTimestamp (value : Value)
  /-- A message was to be made without a payload. -/
  | emptyPayload
  /-- An event in binary mode was to be made without a prefix. -/
  | noTransportPrefix
  /-- The message is no event in binary mode. -/
  | notBinaryEvent
  /-- Encoded data is a text with characters beyond ASCII. -/
  | encodedNotAscii
  /-- Encoded data is of a kind that holds no Base64. -/
  | encodedKind (kind : String)
  /-- Encoded data is not strict Base64. -/
  | encodedMalformed (fault : Encoding.Base64.Fault)
  /-- A reader answered with a value that is no document. -/
  | notDocument (fault : DocumentFault)
  /-- An integer is too long, and nobody has put that into other terms. -/
  | longInteger (fault : Text.LongInteger)
  /-- A handler was called without a message. -/
  | notAMessage
  /-- A reader, callback or handler failed with an error of its own. -/
  | raised (kind : String) (words : String)

/-- The error for a text that is not read as JSON. -/
def Error.ofRefusal : Json.Refusal → Error
  | .malformed report => .notJson report
  | .integer fault => .longInteger fault

/-- The families by which a caller tells errors apart. -/
inductive Error.Family where
  /-- Something is no media type. -/
  | mediaType
  /-- A payload cannot be read or written in the wanted form. -/
  | conversion
  /-- An attribute does not hold what it is declared to hold. -/
  | attribute
  /-- Any other error. -/
  | other
  deriving DecidableEq

/-- The family of an error whose words can be put together. -/
def Error.ownFamily : Error → Error.Family
  | .mediaType .. | .contentTypeKind .. => .mediaType
  | .unreadable .. | .unwritable .. | .payloadKind .. | .wrongShape .. | .notText .. | .notJson ..
  | .unwritableValue .. | .unencodable .. | .zeroInOutputCharset => .conversion
  | .notUri .. | .blankInUri .. | .malformedUri .. | .notTimestamp .. => .attribute
  | .zeroInCharset | .encodingName .. | .emptyPayload | .noTransportPrefix | .notBinaryEvent
  | .encodedNotAscii | .encodedKind .. | .encodedMalformed .. | .notDocument .. | .longInteger ..
  | .notAMessage | .raised .. => .other

/-- The words of a name that holds the character zero. -/
def zeroInNameText : String := "embedded null character"

/-- The words of a name that stands for no character set; `work` is what was to be done with it. -/
def nameFaultText (work : String) : Encoding.NameFault → String
  | .unknown name => "unknown encoding: " ++ name
  | .notText name =>
    "'" ++ name ++ "' is not a text encoding; use codecs." ++ work
      ++ "() to handle arbitrary codecs"

/-- The words of bytes that are no text. -/
def TextFault.text : TextFault → String
  | .name fault => nameFaultText "decode" fault
  | .bytes fault => fault.text

/-- The words of a text that is no media type, after the value itself. -/
def MediaType.Fault.text : MediaType.Fault → String
  | .blank => "must not be empty"
  | .slashes => "does not contain exactly one '/'"
  | .emptyPart => "type and subtype must not be empty"
  | .wildcardType => "wildcard type is legal only in '*/*'"
  | .malformedParameter segment =>
    "malformed parameter " ++ String.ofList (Text.quoted segment)

/-- The words of a text that is no URI reference. -/
def Uri.Fault.text : Uri.Fault → String
  | .brackets => "Invalid IPv6 URL"
  | .laterVersion => "IPvFuture address is invalid"
  | .bracketedVersion4 => "An IPv4 address cannot be in brackets"
  | .notAddress host =>
    String.ofList (Text.quoted host) ++ " does not appear to be an IPv4 or IPv6 address"
  | .hiddenDelimiter authority =>
    "netloc '" ++ String.ofList authority
      ++ "' contains invalid characters under NFKC normalization"
  | .portText port =>
    "Port could not be cast to integer value as " ++ String.ofList (Text.quoted port)
  | .longPort fault => fault.text
  | .portRange => "Port out of range 0-65535"

/-- The words of a value that is no document. -/
def DocumentFault.text : DocumentFault → String
  | .noNames kind => "'" ++ kind ++ "' object is not iterable"
  | .noOperation kind operation =>
    "'" ++ kind ++ "' object has no attribute '" ++ operation ++ "'"
  | .bytesName => "startswith first arg must be bytes or a tuple of bytes, not str"
  | .nameForPlace => "'str' object cannot be interpreted as an integer"
  | .noFallback => "pop expected at most 1 argument, got 2"

/-- The words of a value that cannot be written as JSON. -/
def Json.WriteFault.text : Json.WriteFault → String
  | .key kind => "keys must be str, int, float, bool or None, not " ++ kind
  | .integer fault => fault.text

/-- The start of all words about an attribute that is no URI reference. -/
def notUriText (a : Attribute) : String :=
  "Attribute " ++ Literal.text a.name ++ " is not a URI: "

/-- The words of an error, if the value that they show has a literal. -/
def Error.words : Error → Except Text.LongInteger String
  | .mediaType given fault =>
    given.literal.map fun shown => "Invalid mime type " ++ shown ++ ": " ++ fault.text
  | .contentTypeKind header kind =>
    .ok ("Unknown type for " ++ Literal.text header ++ " header: " ++ kind)
  | .unreadable shape m => .ok ("Can't read " ++ shape.name ++ " from content type " ++ m.text)
  | .unwritable m => .ok ("Can't write JSON as content type " ++ m.text)
  | .payloadKind kind => .ok ("Unsupported payload type " ++ kind ++ " for JSON conversion")
  | .wrongShape kind shape => .ok ("JSON payload is a " ++ kind ++ ", expected " ++ shape.name)
  | .notText encoding fault => .ok ("Payload is not " ++ encoding ++ " text: " ++ fault.text)
  | .notJson report => .ok ("Payload is not valid JSON: " ++ report.text)
  | .unwritableValue fault => .ok ("Payload is not JSON serializable: " ++ fault.text)
  | .zeroInCharset => .ok zeroInNameText
  | .zeroInOutputCharset => .ok ("Payload is not JSON serializable: " ++ zeroInNameText)
  | .unencodable encoding =>
    .ok ("Payload is not JSON serializable: " ++ Literal.text encoding
      ++ " codec can't encode the text")
  | .encodingName fault => .ok (nameFaultText "encode" fault)
  | .notUri a value => value.literal.map fun shown => notUriText a ++ shown
  | .blankInUri a value =>
    value.literal.map fun shown =>
      notUriText a ++ shown ++ " contains whitespace or control characters"
  | .malformedUri a fault => .ok (notUriText a ++ fault.text)
  | .notTimestamp value =>
    value.literal.map fun shown => "Attribute 'time' is not a timestamp: " ++ shown
  | .emptyPayload => .ok "Message payload must not be None"
  | .noTransportPrefix => .ok "Binary-mode CloudEvents need a transport prefix"
  | .notBinaryEvent =>
    .ok ("Message is not a binary-mode CloudEvent: "
      ++ "ce-specversion, ce-type and ce-source are required")
  | .encodedNotAscii => .ok "string argument should contain only ASCII characters"
  | .encodedKind kind =>
    .ok ("argument should be a bytes-like object or ASCII string, not '" ++ kind ++ "'")
  | .encodedMalformed fault => .ok fault.text
  | .notDocument fault => .ok fault.text
  | .longInteger fault => .ok fault.text
  | .notAMessage => .ok "cloudevent_function handlers take a Message as first argument"
  | .raised _ words => .ok words

/-- The words with which an error comes out. -/
def Error.message (e : Error) : String :=
  match e.words with
  | .ok words => words
  | .error fault => fault.text

/-- The family of an error as it comes out. -/
def Error.family (e : Error) : Error.Family :=
  match e.words with
  | .ok _ => e.ownFamily
  | .error _ => .other

theorem Error.family_of_words {e : Error} {words : String} (h : e.words = .ok words) :
    e.family = e.ownFamily := by
  rw [family, h]

end CloudEvents
