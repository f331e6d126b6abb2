import CloudEvents.MediaType.Resolver
import CloudEvents.Text.Lowercase
/-!
# Configuration

Three settings, each given or taken from the environment: the content type of data that declares
none, the name of the tracer, and whether events are added to spans. A given value that counts
as nothing, or for the last setting null, leaves the choice to the environment; a blank variable
there counts as none.
-/

namespace CloudEvents

/-- The settings that are given. -/
structure Settings where
  /-- The content type of data that declares none. -/
  dataContentType : Value := .text ""
  /-- The name of the tracer. -/
  tracerName : Value := .text ""
  /-- Whether events are added to spans. -/
  recordSpanEvents : Value := .null

/-- The settings that the environment holds. -/
structure Environment where
  /-- The content type of data that declares none. -/
  dataContentType : Option String := none
  /-- The name of the tracer. -/
  tracerName : Option String := none
  /-- Whether events are added to spans. -/
  recordSpanEvents : Option String := none

namespace Environment

/-- The variable of the content type. -/
def dataContentTypeVariable : String := "CECANON_DEFAULT_DATA_CONTENT_TYPE"

/-- The variable of the name of the tracer. -/
def tracerVariable : String := "CECANON_TRACER_NAME"

/-- The variable that says whether events are added to spans. -/
def spanEventsVariable : String := "CECANON_RECORD_SPAN_EVENTS"

/-- The settings among the variables of an environment. -/
def ofVariables (defined : Fields String) : Environment where
  dataContentType := defined.get? dataContentTypeVariable
  tracerName := defined.get? tracerVariable
  recordSpanEvents := defined.get? spanEventsVariable

end Environment

/-- A checked configuration. -/
structure Config where
  /-- The content type of data that declares none. -/
  dataContentType : String
  /-- The name of the tracer. -/
  tracerName : Value
  /-- Whether events are added to spans: any value that counts as something. -/
  recordSpanEvents : Value

namespace Config

/-- The name of a tracer that is given none. -/
def defaultTracerName : String := "cecanon"

/-- The words that mean no. -/
def falseWords : List String := ["0", "false", "no", "off"]

/-- A variable of the environment without the blanks around it. -/
def nonBlank? (v : Option String) : Option String :=
  match Text.trim (v.getD "").toList with
  | [] => none
  | cs => some (String.ofList cs)

/-- Whether a variable asks for span events: unless it says no. -/
def wantsSpanEvents (v : Option String) : Bool :=
  let word := String.ofList (Text.lower ((nonBlank? v).getD "").toList)
  !falseWords.contains word

/-- Takes each setting from what is given or from the environment, and checks the content type. -/
def of (given : Settings) (env : Environment) : Except Error Config := do
  let dataContentType := given.dataContentType.orElse
    (.text ((nonBlank? env.dataContentType).getD MediaType.json.text))
  let tracerName := given.tracerName.orElse
    (.text ((nonBlank? env.tracerName).getD defaultTracerName))
  let recordSpanEvents :=
    if given.recordSpanEvents.isNull then .bool (wantsSpanEvents env.recordSpanEvents)
    else given.recordSpanEvents
  match dataContentType.text? with
  | some s => do
    let _ ← MediaType.ofValue dataContentType
    return ⟨s, tracerName, recordSpanEvents⟩
  | none => throw (.mediaType dataContentType .blank)

end Config

end CloudEvents
