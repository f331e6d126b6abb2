import CloudEvents.MediaType.Basic
import CloudEvents.Text.Blank
import CloudEvents.Text.Lowercase
/-!
# Reading media types

`type/subtype; name=value; …` with blanks allowed around every piece. The type, the subtype and the
names are lower-cased; a value loses the blanks and then the double quotes around it. A lone `*`
stands for `*/*`, blank segments are skipped, and a name that comes again keeps its place and takes
the later value.
-/

namespace CloudEvents

namespace MediaType

/-- Why a text is not a media type. -/
inductive Fault where
  /-- There is nothing but blanks. -/
  | blank
  /-- The part before the parameters has no slash or several. -/
  | slashes
  /-- The type or the subtype is blank. -/
  | emptyPart
  /-- The type is a star and the subtype is not. -/
  | wildcardType
  /-- A segment is not a name, an equals sign and a value. -/
  | malformedParameter (segment : List Char)

/-- Reads one segment between semicolons: nothing, or a name with its value. -/
def readParameter (segment : List Char) : Except Fault (Option (String × String)) :=
  let core := Text.trim segment
  if core = [] then .ok none
  else
    match Text.cut '=' core with
    | (_, none) => .error (.malformedParameter core)
    | (name, some value) =>
      if Text.trim name = [] then .error (.malformedParameter core)
      else
        .ok (some (String.ofList (Text.lower (Text.trim name)),
          String.ofList (Text.trimOf (· == '"') (Text.trim value))))

/-- Reads the segments after the first semicolon. -/
def readParameters (segments : List (List Char)) : Except Fault (Fields String) :=
  (segments.mapM readParameter).map fun named => Fields.ofList (named.filterMap id)

/-- Reads the type and the subtype, from the text before the parameters. -/
def readNames (full : List Char) : Except Fault (List Char × List Char) :=
  match Text.pieces '/' full with
  | [a, b] =>
    let mainType := Text.lower (Text.trim a)
    let subtype := Text.lower (Text.trim b)
    if mainType = [] ∨ subtype = [] then .error .emptyPart
    else if mainType = ['*'] ∧ subtype ≠ ['*'] then .error .wildcardType
    else .ok (mainType, subtype)
  | _ => .error .slashes

/-- The text before the parameters; a lone star stands for `*/*`. -/
def fullText (cs : List Char) : List Char :=
  let full := Text.trim (Text.cut ';' cs).1
  if full = ['*'] then ['*', '/', '*'] else full

/-- The segments after the first semicolon. -/
def segments (cs : List Char) : List (List Char) := Text.pieces ';' ((Text.cut ';' cs).2.getD [])

/-- Reads a media type. -/
def read (text : String) : Except Fault MediaType :=
  if Text.trim text.toList = [] then .error .blank
  else do
    let names ← readNames (fullText text.toList)
    let parameters ← readParameters (segments text.toList)
    return ⟨String.ofList names.1, String.ofList names.2, parameters⟩

end MediaType

end CloudEvents
