import CloudEvents.Handler
import CloudEvents.Proofs.Conversion.Branches
import CloudEvents.Proofs.Tracing.Recording
/-!
# Calls of handlers

A call of a handler has up to three bounds in the journal: the span is started, the handler gets
its arguments, the span is ended. They are kept apart from all other effects (`Journal.bounds`),
because everything else that can happen, the conversion with its recording and its callback, falls
between them and leaves none of its own (`bounds_toCanonical`, `bounds_canonicalize`).

The four ways of a call then differ in two things only: which conversion the message goes through,
and whether there is a span around the whole. `Handler.Serves` says what happens inside the span,
and it is the same for all of them.

## Main statements

* `Instrumentor.exec_withSpan`: a span is around a run, whatever the run comes to;
* `Handler.serves_block`: the handler runs if the message can be converted, and only then;
* `Handler.call_serves`: the same of a call, with or without a span, awaited or not.
-/

namespace CloudEvents

/-! ## The bounds of a call -/

/-- Whether an effect is a bound of a call. -/
def Effect.isBound : Effect → Bool
  | startSpan _ | endSpan _ | handle _ _ _ => true
  | _ => false

/-- The bounds of calls in a journal. -/
def Journal.bounds (j : Journal) : List Effect := j.effects.filter Effect.isBound

/-- Effects that are no bounds leave the bounds as they are. -/
theorem Journal.bounds_append {j : Journal} {es : List Effect}
    (h : ∀ e ∈ es, e.isBound = false) : (j.append es).bounds = j.bounds := by
  have hnone : es.filter Effect.isBound = [] :=
    List.filter_eq_nil_iff.2 fun e he => by rw [h e he]; exact Bool.false_ne_true
  unfold Journal.bounds Journal.append
  rw [List.filter_append, hnone, List.append_nil]

/-- A reader may be asked, but no handler is called. -/
theorem Message.bounds_toCanonical (m : Message) (r : Reader) (resolver : Resolver)
    (fallback : Value) (mint : Mint) (journal : Journal) :
    ((m.toCanonical r resolver fallback).exec mint journal).2.bounds = journal.bounds := by
  cases hs : m.headers.canonicalize.structuredType? resolver with
  | error e => rw [exec_toCanonical_error mint journal hs]
  | ok found =>
    cases found with
    | some mediaType =>
      show List.filter _ _ = _
      rw [effects_toCanonical_structured mint journal hs, List.filter_append]
      exact List.append_nil _
    | none =>
      cases hc : m.headers.canonicalize.rebuiltType? with
      | some contentType => rw [exec_toCanonical_rebuilt mint journal hs hc]; rfl
      | none => rw [exec_toCanonical_same mint journal hs hc]

namespace Instrumentor

theorem isBound_of_mem_recordFailure {error : Error} {e : Effect} (h : e ∈ recordFailure error) :
    e.isBound = false := by
  rcases List.mem_cons.1 h with rfl | h
  · rfl
  · rw [List.mem_singleton.1 h]
    rfl

theorem isBound_of_mem_record {config : Config} {attributes : Fields Value} {mode : Mode}
    {p : Prefix} {e : Effect} (h : e ∈ record config attributes mode p) : e.isBound = false := by
  unfold record at h
  rcases List.mem_append.1 h with h | h
  · split at h
    · cases h
    · rw [List.mem_singleton.1 h]
      rfl
  · split at h
    · rw [List.mem_singleton.1 h]
      rfl
    · cases h

theorem isBound_of_mem_deliver {callback : Option (Message → Option Error)} {out : Message}
    {e : Effect} (h : e ∈ deliver callback out) : e.isBound = false := by
  unfold deliver at h
  cases callback with
  | none => cases h
  | some f =>
    rcases List.mem_cons.1 h with rfl | h
    · rfl
    · cases hf : f out with
      | none => rw [hf] at h; cases h
      | some error =>
        rw [hf] at h
        rw [List.mem_singleton.1 h]
        rfl

/-- Nor is one called while a message is recorded. -/
theorem bounds_canonicalize (i : Instrumentor) (m : Message) (recording : Bool) (mint : Mint)
    (journal : Journal) :
    ((i.canonicalize m recording).exec mint journal).2.bounds = journal.bounds := by
  have hquiet := m.bounds_toCanonical i.reader {} (.text i.config.dataContentType) mint journal
  rcases hrun : (i.conversion m).exec mint journal with ⟨error | out, after⟩
  · rw [exec_canonicalize_of_error recording hrun]
    rw [hrun] at hquiet
    rw [Journal.bounds_append, hquiet]
    intro e he
    cases recording with
    | false => cases he
    | true => exact isBound_of_mem_recordFailure he
  · obtain ⟨mode, -, hexec⟩ := exec_canonicalize_of_ok recording hrun
    rw [hexec]
    rw [hrun] at hquiet
    cases out.headers.spanAttributes with
    | error fault => exact hquiet
    | ok attributes =>
      rw [Journal.bounds_append, hquiet]
      intro e he
      rcases List.mem_append.1 he with he | he
      · cases recording with
        | false => cases he
        | true => exact isBound_of_mem_record he
      · exact isBound_of_mem_deliver he

/-! ## Spans -/

/-- The error with which a run ends, if it fails. -/
def failure? {α : Type} : Except Error α → Option Error
  | .ok _ => none
  | .error e => some e

/-- A span is started before a run and ended after it, with the error that the run ends with. -/
theorem exec_withSpan {α : Type} (name : String) (x : Run α) (mint : Mint) (journal : Journal) :
    (withSpan name x).exec mint journal =
      ((x.exec mint (journal.append [.startSpan name])).1,
        (x.exec mint (journal.append [.startSpan name])).2.append
          [.endSpan (failure? (x.exec mint (journal.append [.startSpan name])).1)]) := by
  unfold withSpan
  rw [Run.exec_bind, Run.exec_emit]
  show ((x.attempt >>= _).exec mint (journal.append [.startSpan name])) = _
  rw [Run.exec_bind, Run.exec_attempt]
  rcases x.exec mint (journal.append [.startSpan name]) with ⟨e | a, after⟩ <;> rfl

end Instrumentor

/-! ## Calls -/

/-- The conversion of the first argument. -/
def Route.conversion : Route → Message → Run Message
  | plain reader, m => m.toCanonical reader
  | traced instrumentor, m => instrumentor.canonicalize m true

theorem Route.bounds_conversion (route : Route) (m : Message) (mint : Mint) (journal : Journal) :
    ((route.conversion m).exec mint journal).2.bounds = journal.bounds := by
  cases route with
  | plain reader =>
    exact m.bounds_toCanonical reader {} Conversion.defaultDataContentType mint journal
  | traced i => exact i.bounds_canonicalize m true mint journal

namespace Handler

/-- A run is the call of a handler with what a conversion makes of its first argument. If that is no
message, or the conversion fails, the run ends with this error and the handler is not called.
Otherwise the run is the one of the handler, called with the converted message and all other
arguments as they are. Up to there no other handler is called and no span is started or ended. -/
def Serves (h : Handler) (conversion : Message → Run Message) (arguments : Arguments) (mint : Mint)
    (journal : Journal) (run : Except Error Value × Journal) : Prop :=
  match arguments.positional with
  | .message m :: rest =>
    match (conversion m).exec mint journal with
    | (.ok out, after) =>
      after.bounds = journal.bounds ∧
        run = (h.body out (rest.map Argument.toValue) arguments.keywords).exec mint
          (after.append [.handle out (rest.map Argument.toValue) arguments.keywords])
    | (.error e, after) => after.bounds = journal.bounds ∧ run = (.error e, after)
  | _ => run = (.error .notAMessage, journal)

/-- What happens inside the span of a call. -/
def block (h : Handler) (route : Route) (arguments : Arguments) : Run Value := do
  let (m, others) ← route.convert arguments
  h.invoke m others arguments.keywords

theorem call_eq_around (h : Handler) (route : Route) (arguments : Arguments) :
    h.call route arguments = route.around h.name (h.block route arguments) := rfl

theorem defer_eq_call (h : Handler) (route : Route) (arguments : Arguments) :
    (h.defer route arguments).await = h.call route arguments := rfl

variable {h : Handler} {route : Route} {arguments : Arguments} {mint : Mint}
  {journal : Journal}

theorem exec_invoke (m : Message) (others : List Value) (keywords : Fields Value) :
    (h.invoke m others keywords).exec mint journal
      = (h.body m others keywords).exec mint (journal.append [.handle m others keywords]) := by
  unfold invoke
  rw [Run.exec_bind, Run.exec_emit]
  rfl

theorem exec_block_of_not_message (hnone : ∀ m rest, arguments.positional ≠ .message m :: rest) :
    (h.block route arguments).exec mint journal = (.error .notAMessage, journal) := by
  unfold block Route.convert
  split
  · rename_i m rest heq
    exact absurd heq (hnone m rest)
  · rfl

theorem convert_of_message {m : Message} {rest : List Argument}
    (hargs : arguments.positional = .message m :: rest) :
    route.convert arguments
      = (fun out => (out, rest.map Argument.toValue)) <$> route.conversion m := by
  unfold Route.convert
  rw [hargs]
  cases route with
  | plain reader => exact bind_pure_comp _ (m.toCanonical reader)
  | traced i => exact bind_pure_comp _ (i.canonicalize m true)

/-- Inside the span the handler runs if the message can be converted, and only then. -/
theorem serves_block (h : Handler) (route : Route) (arguments : Arguments) (mint : Mint)
    (journal : Journal) :
    h.Serves route.conversion arguments mint journal
      ((h.block route arguments).exec mint journal) := by
  unfold Serves
  split
  · rename_i m rest hargs
    have hquiet := route.bounds_conversion m mint journal
    unfold block
    rw [Run.exec_bind, convert_of_message hargs, Run.exec_map]
    rcases hrun : (route.conversion m).exec mint journal with ⟨e | out, after⟩
    · rw [hrun] at hquiet
      exact ⟨hquiet, rfl⟩
    · rw [hrun] at hquiet
      exact ⟨hquiet, exec_invoke out (rest.map Argument.toValue) arguments.keywords⟩
  · rename_i hnone
    exact exec_block_of_not_message hnone

/-- **The law of calls.**  Without an instrumentor, a call converts its first argument with the
reader and runs the handler on the result. With one, it converts the argument through the
instrumentor, whatever the reader is, and everything happens inside one span with the name of the
handler: it is started before the argument is looked at, and ended with the error of the call, if
there is one. The handler runs exactly once if the first argument is a message that can be
converted, and its outcome is the one of the call; otherwise it does not run, and the call fails for
that reason. Awaiting a deferred call is the same run. -/
theorem call_serves (h : Handler) (reader : Reader) (instrumentor : Option Instrumentor)
    (arguments : Arguments) (mint : Mint) (journal : Journal) :
    (match instrumentor with
      | none =>
        h.Serves (fun m => m.toCanonical reader) arguments mint journal
          ((h.call (.of reader instrumentor) arguments).exec mint journal)
      | some i => ∃ outcome after,
        h.Serves (fun m => i.canonicalize m true) arguments mint
            (journal.append [.startSpan h.name]) (outcome, after) ∧
          (h.call (.of reader instrumentor) arguments).exec mint journal
            = (outcome, after.append [.endSpan (Instrumentor.failure? outcome)])) ∧
    ((h.defer (.of reader instrumentor) arguments).await).exec mint journal
      = (h.call (.of reader instrumentor) arguments).exec mint journal := by
  refine ⟨?_, by rw [defer_eq_call]⟩
  cases instrumentor with
  | none => exact serves_block h (.plain reader) arguments mint journal
  | some i =>
    refine ⟨_, _, serves_block h (.traced i) arguments mint _, ?_⟩
    rw [call_eq_around]
    exact Instrumentor.exec_withSpan h.name (h.block (.traced i) arguments) mint journal

end Handler

end CloudEvents
