import CloudEvents.Error
import CloudEvents.Message.Basic
/-!
# Runs

What a computation needs from its surroundings, and what it leaves behind. A `Mint` gives
identities by number and the current time. A `Journal` counts the identities that were drawn and
keeps the effects in the order in which they happened: calls of readers, of callbacks and
handlers, of the tracer and its spans, and lines of the error log. A run ends in a result or an
error; the journal outlives an error.

## Main statements

* `exec_bind`: how two computations follow each other;
* `exec_emit`, `exec_drawIdentity`, `exec_attempt`: what the single steps leave in the journal.
-/

namespace CloudEvents

/-- Where identities and the time come from. -/
structure Mint where
  /-- The identity with a number. -/
  identity : Nat → String
  /-- The current time in milliseconds. -/
  now : Int

/-- Something that a run does to its surroundings. -/
inductive Effect where
  /-- A reader is asked for a message in a shape. -/
  | read (message : Message) (shape : Shape)
  /-- A tracer is opened. -/
  | openTracer (name : Value) (version : String)
  /-- A span is started. -/
  | startSpan (name : String)
  /-- Attributes are set on the span. -/
  | setAttributes (attributes : Fields Value)
  /-- An event is added to the span. -/
  | addEvent (name : String) (attributes : Fields Value)
  /-- An error is noted on the span. -/
  | recordError (error : Error)
  /-- The span is marked as failed. -/
  | markFailed (description : String)
  /-- The span is ended, perhaps by an error. -/
  | endSpan (error : Option Error)
  /-- The callback is given a message. -/
  | deliver (message : Message)
  /-- A line is written to the error log. -/
  | log (line : String)
  /-- The handler is called. -/
  | handle (message : Message) (others : List Value) (keywords : Fields Value)

/-- What a run leaves behind. -/
structure Journal where
  /-- The number of identities that were drawn. -/
  drawn : Nat := 0
  /-- The effects in order. -/
  effects : List Effect := []

/-- A computation that draws identities, has effects and may fail. -/
abbrev Run := ReaderT Mint (ExceptT Error (StateM Journal))

namespace Run

variable {α : Type}

/-- Carries a run out. -/
def exec (x : Run α) (mint : Mint) (journal : Journal) : Except Error α × Journal :=
  ((x.run mint).run).run journal

/-- Has an effect. -/
def emit (e : Effect) : Run Unit :=
  modify fun j => { j with effects := j.effects ++ [e] }

/-- Has some effects in order. -/
def emitAll (es : List Effect) : Run Unit :=
  modify fun j => { j with effects := j.effects ++ es }

/-- Draws the next identity. -/
def drawIdentity : Run String := do
  let mint ← read
  let journal ← getThe Journal
  set { journal with drawn := journal.drawn + 1 }
  return mint.identity journal.drawn

/-- The current time. -/
def now : Run Int := return (← read).now

/-- Takes over a result or an error. -/
def lift (x : Except Error α) : Run α :=
  match x with
  | .ok a => pure a
  | .error e => throw e

/-- Runs a computation and answers its outcome, without failing. -/
def attempt (x : Run α) : Run (Except Error α) := fun mint => ExceptT.lift (x mint).run

/-! ## What each step does -/

variable {β : Type} (mint : Mint) (journal : Journal)

@[simp] theorem exec_pure (a : α) : exec (pure a) mint journal = (.ok a, journal) := rfl

@[simp] theorem exec_throw (e : Error) :
    exec (throw e : Run α) mint journal = (.error e, journal) := rfl

/-- A second computation runs with the result and the journal of the first, unless that failed. -/
theorem exec_bind (x : Run α) (f : α → Run β) :
    exec (x >>= f) mint journal =
      match exec x mint journal with
      | (.ok a, after) => exec (f a) mint after
      | (.error e, after) => (.error e, after) := by
  simp only [exec, ReaderT.run, bind, ReaderT.bind, ExceptT.bind, ExceptT.mk, ExceptT.run,
    StateT.run, StateT.bind]
  rcases x mint journal with ⟨_ | a, after⟩ <;> rfl

theorem exec_map (f : α → β) (x : Run α) :
    exec (f <$> x) mint journal = ((exec x mint journal).1.map f, (exec x mint journal).2) := by
  rw [← bind_pure_comp, exec_bind]
  rcases exec x mint journal with ⟨_ | a, after⟩ <;> rfl

@[simp] theorem exec_lift (x : Except Error α) : exec (lift x) mint journal = (x, journal) := by
  cases x <;> rfl

@[simp] theorem exec_emit (e : Effect) :
    exec (emit e) mint journal
      = (.ok (), { journal with effects := journal.effects ++ [e] }) := rfl

@[simp] theorem exec_emitAll (es : List Effect) :
    exec (emitAll es) mint journal
      = (.ok (), { journal with effects := journal.effects ++ es }) := rfl

@[simp] theorem exec_drawIdentity :
    exec drawIdentity mint journal
      = (.ok (mint.identity journal.drawn), { journal with drawn := journal.drawn + 1 }) := rfl

@[simp] theorem exec_now : exec now mint journal = (.ok mint.now, journal) := rfl

/-- An attempt never fails, and leaves behind what the computation leaves behind. -/
@[simp] theorem exec_attempt (x : Run α) :
    exec x.attempt mint journal = (.ok (exec x mint journal).1, (exec x mint journal).2) := rfl

end Run

end CloudEvents
