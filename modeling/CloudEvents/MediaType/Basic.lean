import CloudEvents.Fields
import CloudEvents.Text.Split
/-!
# Media types

A media type is a type, a subtype and parameters. The part of the subtype after the last plus
sign is its suffix; it names the syntax of the body. The parameters do not take part in
comparisons.

## Inclusion

A media type may be a pattern: `*/*` covers everything, `a/*` every subtype of `a`, and `a/*+s`
every subtype of `a` with the suffix `s`. All others cover only themselves. `includes` is this
relation, also on media types that no text stands for, such as one with the type `*` and another
subtype.
-/

namespace CloudEvents

/-- A media type. -/
structure MediaType where
  /-- The type, such as `application`. -/
  mainType : String
  /-- The subtype, such as `cloudevents+json`. -/
  subtype : String
  /-- The parameters, such as `charset`. -/
  parameters : Fields String := Fields.empty

namespace MediaType

/-- Whether two media types agree up to their parameters. -/
def agrees (a b : MediaType) : Bool := a.mainType == b.mainType && a.subtype == b.subtype

/-- The text after the last plus sign of the subtype, if there is any. -/
def suffix? (m : MediaType) : Option String :=
  match Text.afterLast? '+' m.subtype.toList with
  | some (c :: rest) => some (String.ofList (c :: rest))
  | _ => none

/-- The character set that the parameters name. -/
def charset? (m : MediaType) : Option String := m.parameters.get? "charset"

/-- The suffix that a pattern of subtypes such as `*+json` asks for. -/
def suffixPattern? (m : MediaType) : Option String :=
  match m.subtype.toList with
  | '*' :: '+' :: rest => some (String.ofList rest)
  | _ => none

/-- Whether the first media type, which may be a pattern, covers the second. -/
def includes (a b : MediaType) : Bool :=
  if a.mainType = "*" then true
  else if a.mainType ≠ b.mainType then false
  else if a.subtype = "*" ∨ a.subtype = b.subtype then true
  else
    match a.suffixPattern? with
    | some suffix => b.suffix? == some suffix
    | none => false

/-- The media type as a text: the parameters follow without blanks and without quotes. -/
def text (m : MediaType) : String :=
  m.mainType ++ "/" ++ m.subtype
    ++ String.join (m.parameters.entries.map fun e => ";" ++ e.1 ++ "=" ++ e.2)

/-- The media type of JSON. -/
def json : MediaType := { mainType := "application", subtype := "json" }

/-- The media type of an event in structured mode whose syntax is left open. -/
def event : MediaType := { mainType := "application", subtype := "cloudevents" }

/-- The media type of an event in structured mode written in JSON. -/
def eventJson : MediaType := { mainType := "application", subtype := "cloudevents+json" }

/-- The pattern of all application types with JSON syntax. -/
def anyJson : MediaType := { mainType := "application", subtype := "*+json" }

/-- Whether the media type is one of an event in structured mode: `application/cloudevents` with
anything after it. -/
def isStructuredEvent (m : MediaType) : Bool :=
  m.mainType == event.mainType && event.subtype.toList.isPrefixOf m.subtype.toList

@[simp] theorem includes_self (m : MediaType) : m.includes m = true := by
  by_cases h : m.mainType = "*" <;> simp [includes, h]

@[simp] theorem text_json : json.text = "application/json" := by decide

@[simp] theorem text_event : event.text = "application/cloudevents" := by decide

@[simp] theorem text_eventJson : eventJson.text = "application/cloudevents+json" := by decide

end MediaType

end CloudEvents
