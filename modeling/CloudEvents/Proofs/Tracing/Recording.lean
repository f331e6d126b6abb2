import CloudEvents.Proofs.Conversion.Outcome
import CloudEvents.Proofs.Display
import CloudEvents.Tracing.Instrumentor
/-!
# Recorded conversions

An instrumentor may not change what it observes. It first finds out how a message came, and only
then converts it, so there are two things to see: finding out fails only where the conversion
fails, with the same error and before anything has happened; and what is done after the conversion
fails at one step only.

The first holds because the mode is found by the test that the conversion begins with
(`Message.mode_eq_map`). The step after the conversion is the making of the attributes for the span:
they are display texts, and a value has none if an integer inside of it is too long
(`Fields.spanAttributes_eq_error_iff`). An instrumented run with such a value fails though the
conversion has succeeded, and leaves nothing on the span.

What every other instrumented run leaves in the journal is what the conversion leaves there,
followed by a list that is known from its outcome.

## Main statements

* `Fields.spanAttributes_eq_error_iff`, `Fields.get?_of_spanAttributes`: when there are attributes
  for a span, and what they are;
* `Instrumentor.exec_convert_of_error`, `Instrumentor.exec_convert_of_ok`: finding out how a message
  came changes nothing about its conversion;
* `Instrumentor.canonicalize_records`: the outcome and the trace of an instrumented run;
* `Instrumentor.not_forall_exec_canonicalize_eq`: a run whose outcome is not that of the conversion.
-/

namespace CloudEvents

/-- A journal with some more effects. -/
def Journal.append (j : Journal) (es : List Effect) : Journal :=
  { j with effects := j.effects ++ es }

/-! ## Attributes of spans -/

namespace Fields

theorem nodup_spanValues (headers : Fields Value) : (headers.spanValues.map Prod.fst).Nodup := by
  unfold spanValues
  simp only [List.map_cons, List.map_nil]
  decide

theorem lookup_filter_spanValues (headers : Fields Value) (name : String) :
    (ofList (headers.spanValues.filter fun e => !e.2.isNull)).get? name
      = (headers.spanValues.lookup name).bind Value.toOption := by
  have hkeys : ((headers.spanValues.filter fun e => !e.2.isNull).map Prod.fst).Nodup :=
    headers.nodup_spanValues.sublist (List.Sublist.map _ List.filter_sublist)
  rw [get?_ofList, lookup_reverse hkeys]
  ext w
  rw [lookup_eq_some_iff hkeys, Option.bind_eq_some_iff, List.mem_filter]
  constructor
  · rintro ⟨hmem, hthere⟩
    exact ⟨w, (lookup_eq_some_iff headers.nodup_spanValues).2 hmem,
      Value.toOption_of_not_isNull (by simpa using hthere)⟩
  · rintro ⟨v, hv, hw⟩
    unfold Value.toOption at hw
    split at hw
    · cases hw
    · rename_i hnull
      cases hw
      exact ⟨(lookup_eq_some_iff headers.nodup_spanValues).1 hv, by simpa using hnull⟩

/-- There are attributes for a span unless an integer in one of the values that may be recorded is
too long. -/
theorem spanAttributes_eq_error_iff {headers : Fields Value} {fault : Text.LongInteger} :
    headers.spanAttributes = .error fault ↔
      fault = .written ∧ ∃ e ∈ headers.spanValues, ∃ n ∈ e.2.integers, ¬Text.IsShort n := by
  have hshows : ∀ e ∈ headers.spanValues.filter fun e => !e.2.isNull,
      Text.Shows e.2.integers (displayed e) := fun e _ => e.2.shows_display.map _
  rw [spanAttributes, ((Text.Shows.mapM hshows).map _).eq_error_iff, and_congr_right_iff]
  rintro -
  constructor
  · rintro ⟨n, hn, hlong⟩
    obtain ⟨e, he, hn⟩ := List.mem_flatMap.1 hn
    exact ⟨e, (List.mem_filter.1 he).1, n, hn, hlong⟩
  · rintro ⟨e, he, n, hn, hlong⟩
    have hthere : e.2.isNull = false := by
      by_contra hnull
      rw [Bool.not_eq_false, Value.isNull_iff] at hnull
      rw [hnull] at hn
      cases hn
    exact ⟨n, List.mem_flatMap.2 ⟨e, List.mem_filter.2 ⟨he, by simp [hthere]⟩, hn⟩, hlong⟩

/-- Every value that may be recorded is recorded by its display text, unless it is missing. -/
theorem get?_of_spanAttributes {headers attributes : Fields Value}
    (h : headers.spanAttributes = .ok attributes) (name : String) :
    attributes.get? name = ((headers.spanValues.lookup name).bind Value.toOption).bind
      fun v => v.display.toOption.map Value.text := by
  obtain ⟨rows, hrows, rfl⟩ := exists_of_map_eq_ok h
  have hsame : EntriesRelate (fun v w => ∃ shown, v.display = .ok shown ∧ w = .text shown)
      (headers.spanValues.filter fun e => !e.2.isNull) rows :=
    (mapM_eq_ok_iff.1 hrows).imp fun e row hrow => by
      obtain ⟨shown, hshown, rfl⟩ := exists_of_map_eq_ok hrow
      exact ⟨rfl, shown, hshown, rfl⟩
  have hkeys : ((headers.spanValues.filter fun e => !e.2.isNull).map Prod.fst).Nodup :=
    headers.nodup_spanValues.sublist (List.Sublist.map _ List.filter_sublist)
  have hfields : EntriesRelate (fun v w => ∃ shown, v.display = .ok shown ∧ w = .text shown)
      (ofList (headers.spanValues.filter fun e => !e.2.isNull)).entries (ofList rows).entries := by
    rw [entries_ofList hkeys, entries_ofList (hsame.map_fst_eq ▸ hkeys)]
    exact hsame
  rw [← lookup_filter_spanValues]
  cases hvalue : (ofList (headers.spanValues.filter fun e => !e.2.isNull)).get? name with
  | none =>
    rw [get?_eq_none_iff, hfields.mem_iff] at hvalue
    exact get?_eq_none_iff.2 hvalue
  | some v =>
    obtain ⟨w, hw, shown, hshown, rfl⟩ := hfields.exists_get? hvalue
    rw [hw, Option.bind_some, hshown]
    rfl

end Fields

/-! ## How a message came -/

/-- The mode of a message is told by the test with which its conversion begins. -/
theorem Message.mode_eq_map (m : Message) :
    m.mode = (m.headers.canonicalize.structuredType? {}).map fun found =>
      if found.isSome then .structured
      else if m.headers.canonicalize.isCloudEvent then .binary else .passthrough := by
  simp only [mode, Fields.isStructured]
  cases m.headers.canonicalize.structuredType? {} with
  | error e => rfl
  | ok found =>
    cases found with
    | some mediaType => rfl
    | none => cases m.headers.canonicalize.isCloudEvent <;> rfl

namespace Instrumentor

variable {i : Instrumentor} {m : Message} {mint : Mint} {journal after : Journal}

/-- The conversion that an instrumentor observes. -/
abbrev conversion (i : Instrumentor) (m : Message) : Run Message :=
  m.toCanonical i.reader {} (.text i.config.dataContentType)

/-- Where the conversion fails, so does what the instrumentor does, be it in finding out the mode or
in the conversion itself. -/
theorem exec_convert_of_error {e : Error}
    (h : (i.conversion m).exec mint journal = (.error e, after)) :
    (i.convert m).exec mint journal = (.error e, after) := by
  unfold convert
  rw [Run.exec_bind, Run.exec_lift, Message.mode_eq_map]
  cases hs : m.headers.canonicalize.structuredType? {} with
  | error e' =>
    rw [Message.exec_toCanonical_error mint journal hs] at h
    cases h
    rfl
  | ok found =>
    show ((i.conversion m >>= _).exec mint journal) = _
    rw [Run.exec_bind, h]

/-- Where the conversion succeeds, the mode is found. -/
theorem exec_convert_of_ok {out : Message}
    (h : (i.conversion m).exec mint journal = (.ok out, after)) :
    ∃ mode, m.mode = .ok mode ∧ (i.convert m).exec mint journal = (.ok (mode, out), after) := by
  cases hs : m.headers.canonicalize.structuredType? {} with
  | error e =>
    rw [Message.exec_toCanonical_error mint journal hs] at h
    cases h
  | ok found =>
    obtain ⟨mode, hmode⟩ : ∃ mode, m.mode = .ok mode := by
      rw [Message.mode_eq_map, hs]
      exact ⟨_, rfl⟩
    refine ⟨mode, hmode, ?_⟩
    unfold convert
    rw [Run.exec_bind, Run.exec_lift, hmode]
    show ((i.conversion m >>= _).exec mint journal) = _
    rw [Run.exec_bind, h]
    rfl

/-! ## Instrumented runs -/

theorem exec_canonicalize_of_error (recording : Bool) {e : Error}
    (h : (i.conversion m).exec mint journal = (.error e, after)) :
    (i.canonicalize m recording).exec mint journal
      = (.error e, after.append (if recording then recordFailure e else [])) := by
  unfold canonicalize
  rw [Run.exec_bind, Run.exec_attempt, exec_convert_of_error h]
  rfl

/-- Where the conversion succeeds, there are attributes for a span, or an error that goes on as it
is. -/
theorem exec_canonicalize_of_ok (recording : Bool) {out : Message}
    (h : (i.conversion m).exec mint journal = (.ok out, after)) :
    ∃ mode, m.mode = .ok mode ∧
      (i.canonicalize m recording).exec mint journal =
        match out.headers.spanAttributes with
        | .error fault => (.error (.longInteger fault), after)
        | .ok attributes => (.ok out, after.append
            ((if recording then record i.config attributes mode m.headers.detectPrefix else [])
              ++ deliver i.callback out)) := by
  obtain ⟨mode, hmode, hrun⟩ := exec_convert_of_ok h
  refine ⟨mode, hmode, ?_⟩
  unfold canonicalize
  rw [Run.exec_bind, Run.exec_attempt, hrun]
  simp only [Run.exec_bind, Run.exec_lift]
  cases out.headers.spanAttributes with
  | error fault => rfl
  | ok attributes =>
    simp only [Except.mapError, Run.exec_emitAll, Run.exec_pure, Journal.append, List.append_assoc]

/-- **Recording leaves an exact trace and changes nothing, but for integers that are too long.**  If
the conversion fails, the instrumented run fails with the same error. The span has got the error and
then its status, and nothing else has happened. If the conversion succeeds and there are attributes
for a span, the run has the same outcome. The span has got the attributes of the canonical message,
if there are any, and then, if the configuration wants it, an event with these attributes and with
the mode and the prefix of the message as it came; then the callback has got the canonical message,
and if it failed there is one more line in the log. If there are no attributes, the run fails with
that error, and nothing has happened after the conversion.

Headers may hold any values: the attributes are the display texts of those that are there, and it is
only an integer inside one of them that can be too long for that. -/
theorem canonicalize_records (i : Instrumentor) (m : Message) (recording : Bool) (mint : Mint)
    (journal : Journal) :
    (match (m.toCanonical i.reader {} (.text i.config.dataContentType)).exec mint journal with
    | (.error e, after) =>
      ∃ description, e.message.toList <:+: description.toList ∧
        (i.canonicalize m recording).exec mint journal
          = (.error e, after.append
              (if recording then [.recordError e, .markFailed description] else []))
    | (.ok out, after) =>
      match out.headers.spanAttributes with
      | .error fault =>
        (i.canonicalize m recording).exec mint journal = (.error (.longInteger fault), after)
      | .ok attributes =>
        ∃ mode event, m.mode = .ok mode ∧
          (∀ k, event.get? k =
            if k = SpanAttribute.transportPrefix then some (.text m.headers.detectPrefix.text)
            else if k = SpanAttribute.mode then some (.text mode.text)
            else attributes.get? k) ∧
          (i.canonicalize m recording).exec mint journal
            = (.ok out, after.append
                ((if recording then
                    (if attributes.isEmpty then [] else [.setAttributes attributes])
                    ++ (if i.config.recordSpanEvents.isSet then
                      [.addEvent SpanAttribute.canonicalized event] else [])
                  else [])
                ++ (match i.callback with
                  | none => []
                  | some f => .deliver out ::
                    match f out with
                    | none => []
                    | some e => [.log ("CloudEvent callback failed: " ++ e.message)])))) ∧
    ∀ headers : Fields Value,
      (∀ fault, headers.spanAttributes = .error fault ↔
        fault = .written ∧ ∃ e ∈ headers.spanValues, ∃ n ∈ e.2.integers, ¬Text.IsShort n) ∧
      ∀ attributes, headers.spanAttributes = .ok attributes → ∀ name,
        attributes.get? name = ((headers.spanValues.lookup name).bind Value.toOption).bind
          fun v => v.display.toOption.map Value.text := by
  refine ⟨?_, fun headers => ⟨fun fault => Fields.spanAttributes_eq_error_iff,
    fun _ h => Fields.get?_of_spanAttributes h⟩⟩
  rcases hrun : (i.conversion m).exec mint journal with ⟨e | out, after⟩
  · refine ⟨_, ?_, exec_canonicalize_of_error recording hrun⟩
    rw [String.toList_append]
    exact ⟨_, [], List.append_nil _⟩
  · obtain ⟨mode, hmode, hexec⟩ := exec_canonicalize_of_ok recording hrun
    cases hattributes : out.headers.spanAttributes with
    | error fault =>
      rw [hattributes] at hexec
      simp only [hattributes]
      exact hexec
    | ok attributes =>
      rw [hattributes] at hexec
      simp only [hattributes]
      refine ⟨mode, _, hmode, fun k => ?_, hexec⟩
      rw [Fields.get?_insert, Fields.get?_insert]

/-- An order with some identity. -/
def numberedOrder (id : Value) : Message := Message.order .canonical [("ce-id", id)]

/-- What records every order, with a reader that is never asked. -/
def observer : Instrumentor :=
  ⟨⟨fun _ _ => .ok .null⟩, ⟨"application/json", .text "orders", .bool true⟩, none⟩

/-- Not every instrumented run has the outcome of the conversion: an order with an integer for its
identity that is too long is canonical already, and cannot be recorded. -/
theorem not_forall_exec_canonicalize_eq :
    ¬∀ (i : Instrumentor) (m out : Message) (recording : Bool) (mint : Mint)
      (journal after : Journal), (i.conversion m).exec mint journal = (.ok out, after) →
        ∃ after', (i.canonicalize m recording).exec mint journal = (.ok out, after') := by
  intro h
  have hrun : (observer.conversion (numberedOrder (.int (10 ^ Text.digitLimit : Nat)))).exec
      ⟨fun _ => "2", 0⟩ {} = (.ok (numberedOrder (.int (10 ^ Text.digitLimit : Nat))), {}) :=
    Message.exec_toCanonical_same _ _ rfl rfl
  have hattributes : (numberedOrder
      (.int (10 ^ Text.digitLimit : Nat))).headers.spanAttributes = .error .written :=
    Fields.spanAttributes_eq_error_iff.2 ⟨rfl, _, List.mem_cons_self, _, List.mem_singleton_self _,
      Text.not_isShort_natCast (Nat.le_refl _)⟩
  obtain ⟨after', hsame⟩ := h _ _ _ true _ _ _ hrun
  obtain ⟨mode, -, hexec⟩ := exec_canonicalize_of_ok true hrun
  rw [hattributes, hsame] at hexec
  cases hexec

end Instrumentor

end CloudEvents
