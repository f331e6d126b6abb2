import CloudEvents.Decimal.Layout
import CloudEvents.Message.Basic
/-!
# Keys of mappings

Two keys of a mapping are the same key when they stand for the same thing. Numbers and truth values
stand for their exact value, whatever their kind: one, true and the double one are one key, and an
integer next to a double that only rounds to it is another. A timestamp with a known distance from
universal time stands for its instant, a media type for its type and subtype, a message for its
identity, and every other key for its contents. What is not a number is never the same key as
anything, not even as itself. Lists, mappings and byte strings that their owner may change are no
keys.
-/

namespace CloudEvents

/-- What a key stands for. -/
inductive KeyForm where
  /-- The missing value. -/
  | null
  /-- An integer, in whatever kind. -/
  | integer (n : Int)
  /-- A double that is no integer. -/
  | fraction (x : Float)
  /-- A text. -/
  | text (s : String)
  /-- A text that holds surrogates. -/
  | unpaired (t : Text.Unpaired)
  /-- A byte string. -/
  | bytes (bs : List UInt8)
  /-- A media type without its parameters. -/
  | mediaType (mainType subtype : String)
  /-- A URI reference. -/
  | uri (u : Uri)
  /-- A moment, in microseconds of universal time. -/
  | instant (micros : Int)
  /-- A timestamp without a known distance from universal time. -/
  | localTime (t : Time.Timestamp)
  /-- A message, by its identity. -/
  | message (identity : Option String)
  deriving BEq

namespace Value

/-- The identity among the headers of a message. -/
def identityOf (headers : List (String × Value)) : Option String :=
  match headers.lookup Header.identity with
  | some (.text s) => some s
  | _ => none

/-- What a value stands for as a key, if it can be one. -/
def keyForm? : Value → Option KeyForm
  | null => some .null
  | bool b => some (.integer (if b then 1 else 0))
  | int n => some (.integer n)
  | float x =>
    match Decimal.integer? x with
    | some n => some (.integer n)
    | none => some (.fraction x)
  | text s => some (.text s)
  | unpaired t => some (.unpaired t)
  | bytes bs => some (.bytes bs)
  | mediaType m => some (.mediaType m.mainType m.subtype)
  | uri u => some (.uri u)
  | time t =>
    match t.instant? with
    | some micros => some (.instant micros)
    | none => some (.localTime t)
  | message headers _ => some (.message (identityOf headers))
  | buffer _ | list _ | mapping _ => none

/-- Whether two values are the same key. -/
def sameKey (a b : Value) : Bool :=
  match a.keyForm?, b.keyForm? with
  | some x, some y => x == y
  | _, _ => false

/-- Puts a member into a mapping: a known key keeps its place and its first spelling, a new one goes
last. -/
def putEntry (k v : Value) : List (Value × Value) → List (Value × Value)
  | [] => [(k, v)]
  | e :: rest => if sameKey e.1 k then (e.1, v) :: rest else e :: putEntry k v rest

/-- Takes a member out of a mapping. -/
def eraseEntry (k : Value) (entries : List (Value × Value)) : List (Value × Value) :=
  entries.filter fun e => !sameKey e.1 k

@[simp] theorem sameKey_text (s t : String) : sameKey (text s) (text t) = (s == t) := rfl

/-- Among entries whose keys are texts, a member is put in as among fields. -/
theorem putEntry_text (k : String) (v : Value) (l : List (String × Value)) :
    putEntry (text k) v (l.map fun e => (text e.1, e.2))
      = (Fields.put k v l).map fun e => (text e.1, e.2) := by
  induction l with
  | nil => rfl
  | cons e rest ih =>
    by_cases h : e.1 = k
    · simp [putEntry, Fields.put_cons, h]
    · simp [putEntry, Fields.put_cons, h, ih]

end Value

end CloudEvents
