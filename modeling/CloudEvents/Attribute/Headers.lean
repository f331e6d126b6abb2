import CloudEvents.Attribute.Basic
import CloudEvents.Fields
/-!
# Attributes among headers

Finding the prefix that headers use, and bringing their attribute keys to the canonical prefix.

## Canonical keys

`canonicalize` goes through the keys as they stood at first. A key that is canonical stays where
it is; every other attribute key is taken out and its value is put under the canonical key, in
the place of that key if it is there and last if not. With `forceAll` a key without a prefix is
treated as the bare name of an attribute, as in a structured document; without it such keys
stay.
-/

namespace CloudEvents

universe u

/-- The canonical form of a key. -/
def canonicalKey (forceAll : Bool) (key : String) : String :=
  match Prefix.ofKey key with
  | .canonical => key
  | .none => if forceAll then Prefix.canonical.key key else key
  | p => Prefix.canonical.key (p.strip key)

namespace Fields

variable {α : Type u}

/-- Moves the value under a key to another key. -/
def rename (f : Fields α) (k k' : String) : Fields α :=
  match f.get? k with
  | some v => (f.erase k).insert k' v
  | none => f

/-- Brings one key to its canonical form. -/
def canonicalizeKey (forceAll : Bool) (f : Fields α) (k : String) : Fields α :=
  if canonicalKey forceAll k = k then f else f.rename k (canonicalKey forceAll k)

/-- Brings all attribute keys to the canonical prefix. -/
def canonicalize (f : Fields α) (forceAll : Bool := false) : Fields α :=
  f.keys.foldl (canonicalizeKey forceAll) f

/-- The prefix of the first attribute key, or none. -/
def detectPrefix (f : Fields α) : Prefix :=
  ((f.keys.map Prefix.ofKey).find? (· != .none)).getD .none

/-- Whether canonical headers are those of an event in binary mode: version, kind and source are
there, whatever their values. -/
def isCloudEvent (f : Fields α) : Bool := Attribute.required.all fun a => a.key ∈ f

/-- The entries whose keys have a recognized prefix. -/
def attributes (f : Fields α) : Fields α := f.filterKeys Prefix.isAttributeKey

@[simp] theorem canonicalize_empty (forceAll : Bool) :
    (empty : Fields α).canonicalize forceAll = empty := rfl

@[simp] theorem detectPrefix_empty : (empty : Fields α).detectPrefix = .none := rfl

end Fields

end CloudEvents
