/-!
# Transport prefixes

Every transport marks the headers that are event attributes with a prefix of its own. `ce-` is
the canonical one; inside a structured document there is none. A key belongs to the first
recognized prefix that it starts with, and what follows is the bare name.
-/

namespace CloudEvents

/-- A transport prefix. -/
inductive Prefix where
  /-- No prefix, as in a structured document. -/
  | none
  /-- The prefix `ce-`. -/
  | canonical
  /-- The prefix `ce_`. -/
  | kafka
  /-- The prefix `cloudEvents:`. -/
  | amqp
  deriving DecidableEq

namespace Prefix

/-- All prefixes. -/
def all : List Prefix := [none, canonical, kafka, amqp]

/-- The prefixes that a key can be recognized by, in the order in which they are tried. -/
def recognized : List Prefix := [canonical, kafka, amqp]

/-- The text of a prefix. -/
def text : Prefix → String
  | none => ""
  | canonical => "ce-"
  | kafka => "ce_"
  | amqp => "cloudEvents:"

/-- A name under a prefix. -/
def key (p : Prefix) (name : String) : String := p.text ++ name

/-- Whether a key starts with the text of a prefix. -/
def marks (p : Prefix) (key : String) : Bool := p.text.toList.isPrefixOf key.toList

/-- The prefix of a key. -/
def ofKey (key : String) : Prefix := (recognized.find? fun p => p.marks key).getD none

/-- The key without the text of a prefix that it starts with. -/
def strip (p : Prefix) (key : String) : String :=
  String.ofList (key.toList.drop p.text.toList.length)

/-- Whether a key has a recognized prefix. -/
def isAttributeKey (key : String) : Bool := ofKey key != none

@[simp] theorem text_none : none.text = "" := rfl

@[simp] theorem toList_key (p : Prefix) (name : String) :
    (p.key name).toList = p.text.toList ++ name.toList := by
  simp [key]

@[simp] theorem strip_key (p : Prefix) (name : String) : p.strip (p.key name) = name := by
  simp [strip]

@[simp] theorem marks_key (p : Prefix) (name : String) : p.marks (p.key name) = true := by
  simp [marks]

/-- A key that starts with a prefix is its bare name under that prefix. -/
theorem key_strip {p : Prefix} {k : String} (h : p.marks k = true) : p.key (p.strip k) = k := by
  obtain ⟨t, ht⟩ := List.isPrefixOf_iff_prefix.1 h
  rw [← String.toList_inj, toList_key, strip, String.toList_ofList, ← ht]
  simp

theorem marks_ofKey (k : String) : (ofKey k).marks k = true := by
  rw [ofKey]
  cases h : recognized.find? fun p => p.marks k with
  | none => simp [marks]
  | some p => simpa using List.find?_some h

end Prefix

end CloudEvents
