import CloudEvents.Error
import CloudEvents.Message.Basic
/-!
# The media type that headers declare

A resolver looks at one header. A media type there is taken as it is, a text is read, nothing or
null declares nothing, and every other value is refused. A text with unpaired surrogates is read as
it is shown.
-/

namespace CloudEvents

/-- Reads a media type from a value, which has to be a text; the value is in the error. -/
def MediaType.ofValue (v : Value) : Except Error MediaType :=
  match v.text? with
  | some s => (MediaType.read s).mapError (Error.mediaType v)
  | none => .error (.mediaType v .blank)

/-- Where the media type of a body is declared. -/
structure Resolver where
  /-- The header. -/
  header : String := Header.contentType

/-- The media type that headers declare. -/
def Resolver.resolve (r : Resolver) (headers : Fields Value) : Except Error (Option MediaType) :=
  match headers.value r.header with
  | .null => .ok none
  | .mediaType m => .ok (some m)
  | .text s => (MediaType.ofValue (.text s)).map some
  | .unpaired t => (MediaType.ofValue (.unpaired t)).map some
  | v => .error (.contentTypeKind r.header v.kind)

end CloudEvents
