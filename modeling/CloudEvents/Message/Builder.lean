import CloudEvents.Attribute.Headers
import CloudEvents.Run
/-!
# Builders

A builder collects a payload and headers and makes messages of them, as often as wanted. Setting
a header to null takes it out. The timestamp of a built message is the one that the builder
holds, or the current time; its identity is always new.

## Events

`buildEvent` makes an event in binary mode for a transport. The builder holds the attributes
under canonical keys; first the four that every event has are filled in where they are missing,
and stay in the builder; then every canonical key is put under the prefix of the transport.
-/

namespace CloudEvents

/-- Makes a message with a new identity. A missing timestamp is the current time. -/
def Message.of (payload : Value) (headers : Fields Value) (timestamp : Value) : Run Message := do
  if there : payload.isNull = false then
    let identity ← Run.drawIdentity
    let now ← Run.now
    return Message.stamp payload there headers identity timestamp now
  else throw .emptyPayload

/-- A payload and headers from which messages are made. -/
structure Builder where
  /-- The payload. -/
  payload : Value
  /-- The headers. -/
  headers : Fields Value := Fields.empty

namespace Builder

/-- Starts from the payload and all headers of a message. -/
def ofMessage (m : Message) : Builder := ⟨m.payload, m.headers⟩

/-- Sets a header, or takes it out if the value is null. -/
def set (b : Builder) (name : String) (v : Value) : Builder :=
  { b with headers := if v.isNull then b.headers.erase name else b.headers.insert name v }

/-- Sets a header that is not there. -/
def setIfAbsent (b : Builder) (name : String) (v : Value) : Builder :=
  if name ∈ b.headers then b else b.set name v

/-- Takes a header out. -/
def remove (b : Builder) (name : String) : Builder := { b with headers := b.headers.erase name }

/-- Sets every one of some entries. -/
def setEntries (b : Builder) (entries : List (String × Value)) : Builder :=
  entries.foldl (fun b e => b.set e.1 e.2) b

/-- Makes a message. -/
def build (b : Builder) : Run Message :=
  Message.of b.payload b.headers (b.headers.value Header.timestamp)

/-! ## Events -/

/-- The form in which a typed value of an attribute is stored. -/
def stored : Attribute → Value → Value
  | .source, v | .datacontenttype, v | .dataschema, v => v.withText
  | .time, v => v.withTimeText
  | _, v => v

/-- Sets an attribute under its canonical key. -/
def setAttribute (b : Builder) (a : Attribute) (v : Value) : Builder := b.set a.key (stored a v)

/-- A change of a builder. -/
inductive Call where
  /-- Sets a header. -/
  | set (name : String) (v : Value)
  /-- Sets a header that is not there. -/
  | setIfAbsent (name : String) (v : Value)
  /-- Takes a header out. -/
  | remove (name : String)
  /-- Sets all headers of a mapping. -/
  | setAll (headers : Fields Value)
  /-- Sets an attribute. -/
  | setAttribute (a : Attribute) (v : Value)

/-- Makes a change. -/
def apply (b : Builder) : Call → Builder
  | .set name v => b.set name v
  | .setIfAbsent name v => b.setIfAbsent name v
  | .remove name => b.remove name
  | .setAll headers => b.setEntries headers.entries
  | .setAttribute a v => b.setAttribute a v

/-- Fills in a new identity if there is none. -/
def withIdentity (b : Builder) : Run Builder :=
  if Attribute.id.key ∈ b.headers then pure b
  else do
    let identity ← Run.drawIdentity
    return b.set Attribute.id.key (.text identity)

/-- Fills in the version, the default source and the kind of the payload as type where they are
missing. -/
def withConstants (b : Builder) : Builder :=
  ((b.setIfAbsent Attribute.specversion.key (.text Attribute.defaultSpecversion)).setIfAbsent
    Attribute.source.key (.text Attribute.defaultSource)).setIfAbsent
      Attribute.type.key (.text b.payload.kind)

/-- Fills in the four attributes that every event has where they are missing. -/
def withDefaults (b : Builder) : Run Builder := withConstants <$> b.withIdentity

/-- A key under the prefix of a transport, if it is canonical. -/
def transportKey (p : Prefix) (k : String) : String :=
  if Prefix.canonical.marks k then p.key (Prefix.canonical.strip k) else k

/-- The builder with every canonical key under the prefix of a transport. -/
def forTransport (b : Builder) (p : Prefix) : Builder :=
  { b with headers := Fields.ofList (b.headers.entries.map fun e => (transportKey p e.1, e.2)) }

/-- Makes an event in binary mode for a transport, and answers the builder as it is afterwards. The
defaults stay in the builder even if the message cannot be made. -/
def buildEvent (b : Builder) (p : Prefix) : Run (Builder × Except Error Message) :=
  if p = .none then return (b, .error .noTransportPrefix)
  else do
    let b ← b.withDefaults
    let built ← (b.forTransport p).build.attempt
    return (b, built)

end Builder

end CloudEvents
