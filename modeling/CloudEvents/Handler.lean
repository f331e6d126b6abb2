import CloudEvents.Tracing.Instrumentor
/-!
# Handlers of canonical messages

A handler is written for canonical messages; `call` lets it take messages of any form. The first
argument has to be a message, and the handler gets its canonical form with all other arguments
unchanged. Through an instrumentor the whole call runs inside a span that is named after the
handler and is open before the argument is looked at.

A handler may also answer with work that is still to be awaited; `defer` is the same for such
handlers.
-/

namespace CloudEvents

/-- An argument of a handler. -/
inductive Argument where
  /-- A message. -/
  | message (m : Message)
  /-- Anything else. -/
  | other (v : Value)

/-- An argument as a value. -/
def Argument.toValue : Argument → Value
  | message m => m.toValue
  | other v => v

/-- The arguments of a call. -/
structure Arguments where
  /-- The arguments by place. -/
  positional : List Argument
  /-- The arguments by name. -/
  keywords : Fields Value := Fields.empty

/-- Work that is done when it is awaited. -/
structure Deferred (α : Type) where
  /-- Does the work. -/
  await : Run α

/-- What is called with canonical messages. -/
structure Handler where
  /-- The name. -/
  name : String
  /-- What the handler does with a canonical message and the other arguments. -/
  body : Message → List Value → Fields Value → Run Value

/-- How messages are made canonical before a handler gets them. -/
inductive Route where
  /-- With a reader alone. -/
  | plain (reader : Reader)
  /-- Through an instrumentor. -/
  | traced (instrumentor : Instrumentor)

/-- The route of a handler that was given a reader and perhaps an instrumentor, which then brings a
reader of its own. -/
def Route.of (reader : Reader) : Option Instrumentor → Route
  | none => .plain reader
  | some instrumentor => .traced instrumentor

/-- Makes the first argument canonical. -/
def Route.convert (route : Route) (arguments : Arguments) : Run (Message × List Value) :=
  match arguments.positional with
  | .message m :: rest => do
    let canonical ← match route with
      | .plain reader => m.toCanonical reader
      | .traced instrumentor => instrumentor.canonicalize m true
    return (canonical, rest.map Argument.toValue)
  | _ => throw .notAMessage

/-- Opens the span of a call, if the route has one. -/
def Route.around {α : Type} (route : Route) (name : String) (x : Run α) : Run α :=
  match route with
  | .plain _ => x
  | .traced _ => Instrumentor.withSpan name x

namespace Handler

/-- Calls the handler itself, and notes the call. -/
def invoke (h : Handler) (m : Message) (others : List Value) (keywords : Fields Value) :
    Run Value := do
  Run.emit (.handle m others keywords)
  h.body m others keywords

/-- Calls the handler with the canonical form of the message. -/
def call (h : Handler) (route : Route) (arguments : Arguments) : Run Value :=
  route.around h.name do
    let (m, others) ← route.convert arguments
    h.invoke m others arguments.keywords

/-- The call of a handler that answers with work to be awaited. -/
def start (h : Handler) (m : Message) (others : List Value) (keywords : Fields Value) :
    Deferred Value :=
  ⟨h.invoke m others keywords⟩

/-- Calls, when awaited, a handler that answers with work to be awaited. -/
def defer (h : Handler) (route : Route) (arguments : Arguments) : Deferred Value :=
  ⟨route.around h.name do
    let (m, others) ← route.convert arguments
    (h.start m others arguments.keywords).await⟩

end Handler

end CloudEvents
