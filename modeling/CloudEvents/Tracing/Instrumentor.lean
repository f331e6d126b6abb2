import CloudEvents.Conversion.Canonical
import CloudEvents.Tracing.Attributes
import CloudEvents.Tracing.Config
/-!
# Recording canonical messages

An instrumentor makes messages canonical and records them on a span: the attributes of the
event, and if the configuration wants it an event with the mode and the prefix of the message as
it came. An error of the conversion is recorded and goes on. The callback gets every canonical
message; an error of its own is only written to the log.

The attributes are made after the conversion and whether or not a span records them. Where that
fails, the error goes on with nothing recorded and before the callback gets anything.
-/

namespace CloudEvents

/-- How a message came. -/
inductive Mode where
  /-- As an event in structured mode. -/
  | structured
  /-- As an event in binary mode. -/
  | binary
  /-- As no event. -/
  | passthrough
  deriving DecidableEq

/-- The name of a mode. -/
def Mode.text : Mode → String
  | structured => "structured"
  | binary => "binary"
  | passthrough => "passthrough"

/-- How a message came, by its headers. -/
def Message.mode (m : Message) : Except Error Mode := do
  let headers := m.headers.canonicalize
  if ← headers.isStructured {} then return .structured
  else if headers.isCloudEvent then return .binary
  else return .passthrough

/-- What makes messages canonical and records them. -/
structure Instrumentor where
  /-- What reads structured bodies. -/
  reader : Reader
  /-- The configuration. -/
  config : Config
  /-- What gets every canonical message, and the error that it fails with. -/
  callback : Option (Message → Option Error)

namespace Instrumentor

/-- The version under which the tracer is opened. -/
def tracerVersion : String := "1.0.0"

/-- The name of a span that is given none. -/
def defaultSpanName : String := "cloudevent.canonicalize"

/-- Makes an instrumentor and opens its tracer. -/
def create (reader : Reader) (config : Config) (callback : Option (Message → Option Error)) :
    Run Instrumentor := do
  Run.emit (.openTracer config.tracerName tracerVersion)
  return ⟨reader, config, callback⟩

/-- What is recorded for a canonical message with these attributes. -/
def record (config : Config) (attributes : Fields Value) (mode : Mode) (p : Prefix) :
    List Effect :=
  let event := (attributes.insert SpanAttribute.mode (.text mode.text)).insert
    SpanAttribute.transportPrefix (.text p.text)
  (if attributes.isEmpty then [] else [.setAttributes attributes])
    ++ if config.recordSpanEvents.isSet then [.addEvent SpanAttribute.canonicalized event] else []

/-- What is recorded for an error. -/
def recordFailure (e : Error) : List Effect :=
  [.recordError e, .markFailed ("CloudEvent conversion failed: " ++ e.message)]

/-- What happens at the callback. -/
def deliver (callback : Option (Message → Option Error)) (canonical : Message) : List Effect :=
  match callback with
  | none => []
  | some f =>
    .deliver canonical ::
      match f canonical with
      | none => []
      | some e => [.log ("CloudEvent callback failed: " ++ e.message)]

/-- Finds out how a message came and makes it canonical. -/
def convert (i : Instrumentor) (m : Message) : Run (Mode × Message) := do
  let mode ← Run.lift m.mode
  let canonical ← m.toCanonical i.reader {} (.text i.config.dataContentType)
  return (mode, canonical)

/-- Makes a message canonical and records it, if there is a span that records. -/
def canonicalize (i : Instrumentor) (m : Message) (recording : Bool) : Run Message := do
  match ← (i.convert m).attempt with
  | .error e => do
    Run.emitAll (if recording then recordFailure e else [])
    throw e
  | .ok (mode, canonical) => do
    let attributes ← Run.lift (canonical.headers.spanAttributes.mapError Error.longInteger)
    Run.emitAll (if recording then record i.config attributes mode m.headers.detectPrefix else [])
    Run.emitAll (deliver i.callback canonical)
    return canonical

/-- Runs a computation inside a new span, which ends with it and with its error. -/
def withSpan {α : Type} (name : String) (x : Run α) : Run α := do
  Run.emit (.startSpan name)
  match ← x.attempt with
  | .ok a => do
    Run.emit (.endSpan none)
    return a
  | .error e => do
    Run.emit (.endSpan (some e))
    throw e

end Instrumentor

end CloudEvents
