import CloudEvents.Run
/-!
# Readers and converters

A reader turns the body of a message into a value of a wanted shape. A converter can also say which
media types it reads, and write a value as a body.
-/

namespace CloudEvents

/-- What reads the body of a message. -/
structure Reader where
  /-- Reads the body in a shape. -/
  read : Message → Shape → Except Error Value

/-- What reads and writes bodies. -/
structure Converter extends Reader where
  /-- Whether bodies of a media type, or without one, are read and written. -/
  supports : Option MediaType → Bool
  /-- Writes a body of a media type. -/
  write : Value → Option MediaType → Except Error (List UInt8)

/-- Asks a reader for a message, and notes that it was asked. -/
def Reader.ask (r : Reader) (m : Message) (shape : Shape) : Run Value := do
  Run.emit (.read m shape)
  Run.lift (r.read m shape)

end CloudEvents
