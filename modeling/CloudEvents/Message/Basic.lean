import CloudEvents.Value.Basic
/-!
# Messages

A message is a payload with headers. Two headers are its own: the identity that it was given when it
was made, and the timestamp of its making. They come after the others, in this order, and no other
header has their names. The payload and the timestamp are never the missing value.
-/

namespace CloudEvents

namespace Header

/-- The header of the identity of a message. -/
def identity : String := "id"

/-- The header of the timestamp of a message. -/
def timestamp : String := "timestamp"

/-- The header of the media type of a body. -/
def contentType : String := "contentType"

/-- Whether a header is one of the two that a message has from its making. -/
def isStamp (k : String) : Bool := k == identity || k == timestamp

end Header

/-- A message. -/
structure Message where
  /-- The headers that were handed in. -/
  given : Fields Value
  /-- The identity. -/
  identity : String
  /-- The timestamp. -/
  timestamp : Value
  /-- The payload. -/
  payload : Value
  /-- No header that was handed in has the name of an own one. -/
  given_free : ∀ k ∈ given, Header.isStamp k = false
  /-- The timestamp is there. -/
  timestamp_there : timestamp.isNull = false
  /-- The payload is there. -/
  payload_there : payload.isNull = false

namespace Message

/-- All headers. -/
def headers (m : Message) : Fields Value :=
  (m.given.insert Header.identity (.text m.identity)).insert Header.timestamp m.timestamp

/-- The message as a value. -/
def toValue (m : Message) : Value := .message m.headers.entries m.payload

/-- Makes a message of a payload that is there. Given headers with the names of the own ones are
left out; a missing timestamp is replaced by the current time. -/
def stamp (payload : Value) (there : payload.isNull = false) (headers : Fields Value)
    (identity : String) (timestamp : Value) (now : Int) : Message where
  given := headers.filterKeys fun k => !Header.isStamp k
  identity := identity
  timestamp := if timestamp.isNull then .int now else timestamp
  payload := payload
  given_free := by
    intro k hk
    rw [Fields.mem_def, Fields.keys_filterKeys, List.mem_filter] at hk
    simpa using hk.2
  timestamp_there := by
    split
    · rfl
    · rename_i h
      simpa using h
  payload_there := there

@[simp] theorem payload_stamp (payload : Value) (there : payload.isNull = false)
    (headers : Fields Value) (identity : String) (timestamp : Value) (now : Int) :
    (stamp payload there headers identity timestamp now).payload = payload := rfl

@[simp] theorem identity_stamp (payload : Value) (there : payload.isNull = false)
    (headers : Fields Value) (identity : String) (timestamp : Value) (now : Int) :
    (stamp payload there headers identity timestamp now).identity = identity := rfl

/-- The keys of a message end in the identity and the timestamp. -/
theorem keys_headers (m : Message) :
    m.headers.keys = m.given.keys ++ [Header.identity, Header.timestamp] := by
  have hid : Header.identity ∉ m.given := fun h => by simpa [Header.isStamp] using m.given_free _ h
  have hts : Header.timestamp ∉ m.given := fun h => by
    simpa [Header.isStamp] using m.given_free _ h
  have hne : Header.timestamp ≠ Header.identity := by decide
  rw [headers, Fields.keys_insert, if_neg (by simp [hne, hts]), Fields.keys_insert, if_neg hid]
  simp

end Message

end CloudEvents
