import CloudEvents.Converter.Basic
import CloudEvents.Json.Reader
import CloudEvents.MediaType.Resolver
/-!
# The JSON converter

Reads and writes `application/json` and every application type with the suffix `json`; a message
without a content type is read as JSON. A body in bytes is text in the character set that the
media type names, or else in the one of the converter. A payload that is a mapping already is
taken as it is.

Empty bytes are the empty text in whatever character set is named, as long as the name can be looked
up at all.
-/

namespace CloudEvents

/-- The JSON converter with the character set that it uses where none is named. -/
structure JsonConverter where
  /-- The name of the character set. -/
  encoding : String := "utf-8"
  /-- The codecs that names stand for. -/
  codecs : Encoding.Registry := .standard

namespace JsonConverter

/-- The media types that are read and written. -/
def supported : List MediaType := [MediaType.json, MediaType.anyJson]

/-- Whether bodies of a media type, or without one, are read and written. -/
def supports : Option MediaType → Bool
  | none => true
  | some m => supported.any fun s => s.includes m

/-- The name of the character set of a body. -/
def encodingFor (c : JsonConverter) (mediaType : Option MediaType) : String :=
  match mediaType.bind MediaType.charset? with
  | some name => if name = "" then c.encoding else name
  | none => c.encoding

/-- The text of bytes in the character set with a name. -/
def textOf (encoding : String) (bs : List UInt8) (codecs : Encoding.Registry := .standard) :
    Except Error (List Char) :=
  if Encoding.holdsZero encoding then .error .zeroInCharset
  else if bs.isEmpty then .ok []
  else
    match codecs encoding with
    | .error fault => .error (.notText encoding (.name fault))
    | .ok codec =>
      (codec.decode bs).mapError fun fault => .notText encoding (.bytes fault)

/-- The value of a text. -/
def valueOf (text : List Char) : Except Error Value := (Json.read text).mapError Error.ofRefusal

/-- The value of a payload whose bytes are in the character set with a name. -/
def payloadValue (encoding : String) (payload : Value)
    (codecs : Encoding.Registry := .standard) : Except Error Value :=
  match payload with
  | .mapping entries => .ok (.mapping entries)
  | .text s => valueOf s.toList
  | .unpaired t => valueOf t.shown
  | .bytes bs | .buffer bs => textOf encoding bs codecs >>= valueOf
  | v => .error (.payloadKind v.kind)

/-- Refuses a media type that is not read or written, with the error for it. -/
def check (refusal : MediaType → Error) : Option MediaType → Except Error Unit
  | none => .ok ()
  | some m => if supports (some m) then .ok () else .error (refusal m)

/-- Reads the body of a message in a shape. -/
def read (c : JsonConverter) (m : Message) (shape : Shape) : Except Error Value := do
  let declared ← ({} : Resolver).resolve m.headers
  check (.unreadable shape) declared
  let v ← payloadValue (c.encodingFor declared) m.payload c.codecs
  if shape.accepts v then .ok v else .error (.wrongShape v.kind shape)

/-- Writes a text as bytes in the character set of the converter. -/
def bytesOf (c : JsonConverter) (text : List Char) : Except Error (List UInt8) := do
  if Encoding.holdsZero c.encoding then .error .zeroInOutputCharset
  else
    let codec ← (c.codecs c.encoding).mapError Error.encodingName
    match codec.encode? text with
    | some bs => .ok bs
    | none => .error (.unencodable c.encoding)

/-- Writes a value as a body of a media type. -/
def write (c : JsonConverter) (v : Value) (mediaType : Option MediaType) :
    Except Error (List UInt8) := do
  check .unwritable mediaType
  let text ← (Json.write v).mapError Error.unwritableValue
  c.bytesOf text

/-- The converter as what the conversions ask for. -/
def toConverter (c : JsonConverter) : Converter where
  read := c.read
  supports := supports
  write := c.write

@[simp] theorem supports_none : supports none = true := rfl

end JsonConverter

end CloudEvents
