import CloudEvents.Value.Basic
/-!
# Shapes

The shape that the caller of a reader wants a body to have. A truth value counts as an integer, and
`any` takes every value. Whether a value is one of a class is a matter of its kind alone, so any
other class that a caller may name is known by the kinds that belong to it.
-/

namespace CloudEvents

/-- A wanted shape of a value. -/
inductive Shape where
  /-- A mapping. -/
  | mapping
  /-- A list. -/
  | list
  /-- A text. -/
  | text
  /-- An integer. -/
  | integer
  /-- A floating-point number. -/
  | float
  /-- A truth value. -/
  | truth
  /-- Anything. -/
  | any
  /-- Another class, with the names of the kinds that belong to it. -/
  | other (name : String) (kinds : List String)
  deriving DecidableEq

namespace Shape

/-- The shapes with a name of their own. -/
def all : List Shape := [mapping, list, text, integer, float, truth, any]

/-- The name of a shape in an error text. -/
def name : Shape → String
  | mapping => "dict"
  | list => "list"
  | text => "str"
  | integer => "int"
  | float => "float"
  | truth => "bool"
  | any => "object"
  | other name _ => name

/-- Whether a value has a shape. -/
def accepts : Shape → Value → Bool
  | mapping, .mapping _ => true
  | list, .list _ => true
  | text, .text _ => true
  | text, .unpaired _ => true
  | integer, .int _ => true
  | integer, .bool _ => true
  | float, .float _ => true
  | truth, .bool _ => true
  | any, _ => true
  | other _ kinds, v => kinds.contains v.kind
  | _, _ => false

@[simp] theorem accepts_any (v : Value) : any.accepts v = true := by cases v <;> rfl

end Shape

end CloudEvents
