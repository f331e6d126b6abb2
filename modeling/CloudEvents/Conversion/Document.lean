import CloudEvents.Attribute.Prefix
import CloudEvents.Value.Basic
/-!
# What is no document

An event document is a mapping whose names are texts. What a reader answers with is taken apart in
three steps:

* its names are gone through, and each one that is not canonical is taken out and put back under
  its canonical form;
* the content type of the data is looked up, unless the envelope declares one;
* the data is taken out, with null as the fallback for missing data.

A value that is no document cannot do one of these steps, and the first such step is its fault.
Lists, texts, byte strings and URI references have names in so far as one can go through them:
elements, characters, bytes and parts.
-/

namespace CloudEvents

/-- Why a value is no document: the first step that it cannot do. -/
inductive DocumentFault where
  /-- A value of this kind has nothing to go through. -/
  | noNames (kind : String)
  /-- A value of this kind, the answer or one of its names, does not know this operation. -/
  | noOperation (kind operation : String)
  /-- A name is a byte string, and no text can be its prefix. -/
  | bytesName
  /-- What is taken out of a list is told by its place and not by a name. -/
  | nameForPlace
  /-- Taking out of a list or of bytes knows no fallback. -/
  | noFallback
  deriving DecidableEq

namespace DocumentFault

/-- What one goes through in a value. -/
def names? : Value → Option (List Value)
  | .mapping entries => some (entries.map Prod.fst)
  | .list xs => some xs
  | .text s => some (s.toList.map fun c => .text (String.singleton c))
  | .unpaired t => some (t.points.map fun p => Value.ofPoints [p])
  | .bytes bs | .buffer bs => some (bs.map fun b => .int b.toNat)
  | .uri u => some (u.parts.map .text)
  | _ => none

/-- The fault of taking a member out of a value by its name. -/
def ofTaking? : Value → Option DocumentFault
  | .mapping _ => none
  | .list _ => some .nameForPlace
  | v => some (.noOperation v.fullKind "pop")

/-- The fault of bringing a name of a value to its canonical form. -/
def ofName? (v name : Value) : Option DocumentFault :=
  match name with
  | .bytes _ | .buffer _ => some .bytesName
  | name =>
    match name.text? with
    | some s => if Prefix.canonical.marks s then none else ofTaking? v
    | none => some (.noOperation name.fullKind "startswith")

/-- The fault of looking up the content type or, if the envelope declares one, of taking out the
data. -/
def ofMembers (declared : Bool) (v : Value) : DocumentFault :=
  if declared then
    match v with
    | .list _ | .buffer _ => .noFallback
    | v => .noOperation v.fullKind "pop"
  else .noOperation v.fullKind "get"

/-- The fault of a value that is no document; `declared` says whether the envelope declares the
content type of the data. -/
def of (declared : Bool) (v : Value) : DocumentFault :=
  match names? v with
  | some names => (names.findSome? (ofName? v)).getD (ofMembers declared v)
  | none => .noNames v.fullKind

end DocumentFault

end CloudEvents
