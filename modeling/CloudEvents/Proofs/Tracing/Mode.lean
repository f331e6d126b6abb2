import CloudEvents.Proofs.Conversion.Branches
import CloudEvents.Proofs.Tracing.Recording
/-!
# What is reported and what is done

An instrumentor finds out how a message came on its own copy of the headers, beside the conversion.
What it reports is nevertheless the way that the conversion takes, whatever reader this has: the
reader is asked exactly if the mode is that of structured events (`Message.asked_toCanonical_iff`),
and finding the mode fails exactly if the conversion fails before it asks the reader.

The event that is added to a span tells the mode and the prefix of the message that came in, not of
the one that comes out. Neither depends on more than the headers that the message was made with: the
keys among them, and their content type (`Message.mode_congr`).

## Main statements

* `Message.way_mode`: the mode goes with what the conversion does, in four cases;
* `Instrumentor.tells_exec_canonicalize`: the events that an instrumented run adds;
* `Instrumentor.reports_way_taken`: the mode is the way that the conversion takes.
-/

namespace CloudEvents

/-! ## Readers that are asked -/

/-- Between two journals a reader was asked. -/
def Journal.Asked (before after : Journal) : Prop :=
  ∃ new request shape, after.effects = before.effects ++ new ∧ Effect.read request shape ∈ new

theorem Journal.asked_of_effects_eq {before after : Journal} {request : Message} {shape : Shape}
    (h : after.effects = before.effects ++ [.read request shape]) : before.Asked after :=
  ⟨_, request, shape, h, List.mem_singleton_self _⟩

theorem Journal.not_asked_of_effects_eq {before after : Journal}
    (h : after.effects = before.effects) : ¬before.Asked after := by
  rintro ⟨new, request, shape, heffects, hmem⟩
  rw [h, List.self_eq_append_right] at heffects
  rw [heffects] at hmem
  cases hmem

namespace Message

variable {m m' : Message} {mint : Mint} {journal : Journal}

/-- A conversion asks its reader exactly if the headers declare an event in structured mode. -/
theorem asked_toCanonical_iff (r : Reader) (resolver : Resolver) (fallback : Value) :
    journal.Asked ((m.toCanonical r resolver fallback).exec mint journal).2 ↔
      ∃ mediaType, m.headers.canonicalize.structuredType? resolver = .ok (some mediaType) := by
  cases hs : m.headers.canonicalize.structuredType? resolver with
  | error e =>
    refine iff_of_false (Journal.not_asked_of_effects_eq ?_) fun ⟨_, h⟩ => by cases h
    rw [exec_toCanonical_error mint journal hs]
  | ok found =>
    cases found with
    | none =>
      refine iff_of_false (Journal.not_asked_of_effects_eq ?_) fun ⟨_, h⟩ => by cases h
      obtain ⟨out, after, hrun, heffects, -⟩ := exists_quiet r fallback hs mint journal
      rw [hrun, heffects]
    | some mediaType =>
      exact iff_of_true (Journal.asked_of_effects_eq
        (effects_toCanonical_structured mint journal hs)) ⟨mediaType, rfl⟩

/-! ## The ways of a conversion -/

/-- What is found out about how a message came goes with what its conversion does: whether the
headers are those of an event, whether the reader is asked, and how it ends. -/
inductive Way (event : Bool) (asked : Prop) (outcome : Except Error Message) :
    Except Error Mode → Prop where
  /-- The content type cannot be resolved, which ends both. -/
  | failed {e : Error} (noEvent : event = false) (quiet : ¬asked) (ends : outcome = .error e) :
    Way event asked outcome (.error e)
  /-- The reader is asked, and may fail. -/
  | structured (noEvent : event = false) (asks : asked) : Way event asked outcome (.ok .structured)
  /-- The headers are those of an event, and nothing fails. -/
  | binary (isEvent : event = true) (quiet : ¬asked) {out : Message} (ends : outcome = .ok out) :
    Way event asked outcome (.ok .binary)
  /-- There is no event, and nothing fails. -/
  | passthrough (noEvent : event = false) (quiet : ¬asked) {out : Message}
    (ends : outcome = .ok out) : Way event asked outcome (.ok .passthrough)

/-- The mode goes with the conversion, whatever the reader is. -/
theorem way_mode (m : Message) (r : Reader) (fallback : Value) (mint : Mint) (journal : Journal) :
    Way m.headers.canonicalize.isCloudEvent
      (journal.Asked ((m.toCanonical r {} fallback).exec mint journal).2)
      ((m.toCanonical r {} fallback).exec mint journal).1 m.mode := by
  have hasked : journal.Asked ((m.toCanonical r {} fallback).exec mint journal).2 ↔
      ∃ mediaType, m.headers.canonicalize.structuredType? {} = .ok (some mediaType) :=
    asked_toCanonical_iff r {} fallback
  rw [mode_eq_map]
  cases hs : m.headers.canonicalize.structuredType? {} with
  | error e =>
    have hnoEvent := (Fields.structuredType?_eq_error_iff.1 hs).1
    have hquiet : ¬journal.Asked ((m.toCanonical r {} fallback).exec mint journal).2 := by
      rw [hasked, hs]
      rintro ⟨_, ⟨⟩⟩
    exact .failed hnoEvent hquiet (by rw [exec_toCanonical_error mint journal hs])
  | ok found =>
    cases found with
    | some mediaType =>
      exact .structured (Fields.structuredType?_eq_some_iff.1 hs).noEvent
        (hasked.2 ⟨mediaType, hs⟩)
    | none =>
      have hquiet : ¬journal.Asked ((m.toCanonical r {} fallback).exec mint journal).2 := by
        rw [hasked, hs]
        rintro ⟨_, ⟨⟩⟩
      obtain ⟨out, after, hrun, -⟩ := exists_quiet r fallback hs mint journal
      have hends : ((m.toCanonical r {} fallback).exec mint journal).1 = .ok out := by rw [hrun]
      cases hevent : m.headers.canonicalize.isCloudEvent with
      | true => exact .binary rfl hquiet hends
      | false => exact .passthrough rfl hquiet hends

/-! ## What the mode depends on -/

/-- Keys and content type tell the mode. -/
theorem mode_congr (hkeys : m.headers.keys = m'.headers.keys)
    (htype : m.headers.get? Header.contentType = m'.headers.get? Header.contentType) :
    m.mode = m'.mode := by
  have hplain : Prefix.ofKey Header.contentType = .none := by decide
  have hmem : ∀ c, c ∈ m.headers.canonicalize ↔ c ∈ m'.headers.canonicalize := by
    intro c
    rw [Fields.mem_canonicalize, Fields.mem_canonicalize]
    simp only [Fields.mem_def, hkeys]
  have hevent : m.headers.canonicalize.isCloudEvent = m'.headers.canonicalize.isCloudEvent :=
    Fields.isCloudEvent_congr fun a => hmem a.key
  have hdeclares : decide (Header.contentType ∈ m.headers.canonicalize)
      = decide (Header.contentType ∈ m'.headers.canonicalize) := decide_eq_decide.2 (hmem _)
  have hvalue : m.headers.canonicalize.value Header.contentType
      = m'.headers.canonicalize.value Header.contentType := by
    rw [Fields.value, Fields.value, Fields.get?_canonicalize_of_none hplain,
      Fields.get?_canonicalize_of_none hplain, htype]
  rw [mode_eq_map, mode_eq_map, hevent, Fields.structuredType?, Fields.structuredType?, hevent,
    hdeclares, Resolver.resolve, Resolver.resolve, hvalue]

/-- Messages that were made with the same headers came in the same mode under the same prefix,
whatever their payloads. -/
theorem mode_and_prefix_of_given (h : m'.given = m.given) :
    m'.mode = m.mode ∧ m'.headers.detectPrefix = m.headers.detectPrefix := by
  have hkeys : m'.headers.keys = m.headers.keys := by rw [keys_headers, keys_headers, h]
  refine ⟨mode_congr hkeys ?_, by rw [Fields.detectPrefix, Fields.detectPrefix, hkeys]⟩
  rw [get?_headers, get?_headers, h, if_neg (by decide), if_neg (by decide), if_neg (by decide),
    if_neg (by decide)]

end Message

/-! ## What is reported -/

/-- Every event that is added to a span tells the mode and the prefix of a message. -/
def Message.Tells (m : Message) (effects : List Effect) : Prop :=
  ∀ name event, Effect.addEvent name event ∈ effects →
    ∃ mode, m.mode = .ok mode ∧
      event.get? SpanAttribute.mode = some (.text mode.text) ∧
      event.get? SpanAttribute.transportPrefix = some (.text m.headers.detectPrefix.text)

namespace Instrumentor

variable {i : Instrumentor} {m : Message} {mint : Mint} {journal after : Journal}

/-- An event is added at most once, with the mode and the prefix that are handed in. -/
theorem get?_of_addEvent_mem_record {config : Config} {attributes event : Fields Value}
    {mode : Mode} {p : Prefix} {name : String}
    (h : Effect.addEvent name event ∈ record config attributes mode p) :
    event.get? SpanAttribute.mode = some (.text mode.text) ∧
      event.get? SpanAttribute.transportPrefix = some (.text p.text) := by
  have hevent : event = (attributes.insert SpanAttribute.mode (.text mode.text)).insert
      SpanAttribute.transportPrefix (.text p.text) := by
    unfold record at h
    rcases List.mem_append.1 h with h | h
    · split at h <;> simp at h
    · split at h
      · exact (Effect.addEvent.inj (List.mem_singleton.1 h)).2
      · cases h
  rw [hevent, Fields.get?_insert, Fields.get?_insert, Fields.get?_insert]
  exact ⟨by rw [if_neg (by decide), if_pos rfl], if_pos rfl⟩

theorem addEvent_not_mem_deliver {callback : Option (Message → Option Error)} {canonical : Message}
    {name : String} {event : Fields Value} :
    Effect.addEvent name event ∉ deliver callback canonical := by
  intro h
  unfold deliver at h
  split at h
  · cases h
  · rcases List.mem_cons.1 h with h | h
    · cases h
    · split at h
      · cases h
      · cases List.mem_singleton.1 h

/-- A conversion adds no events; all it does is to ask its reader. -/
theorem effects_conversion (i : Instrumentor) (m : Message) (mint : Mint) (journal : Journal) :
    ∃ new, ((i.conversion m).exec mint journal).2.effects = journal.effects ++ new ∧
      ∀ name event, Effect.addEvent name event ∉ new := by
  cases hs : m.headers.canonicalize.structuredType? {} with
  | error e =>
    refine ⟨[], ?_, fun _ _ h => by cases h⟩
    rw [conversion, Message.exec_toCanonical_error mint journal hs, List.append_nil]
  | ok found =>
    cases found with
    | none =>
      obtain ⟨out, after, hrun, heffects, -⟩ := Message.exists_quiet i.reader
        (.text i.config.dataContentType) hs mint journal
      refine ⟨[], ?_, fun _ _ h => by cases h⟩
      rw [conversion, hrun, heffects, List.append_nil]
    | some mediaType =>
      refine ⟨_, Message.effects_toCanonical_structured mint journal hs, fun _ _ h => ?_⟩
      cases List.mem_singleton.1 h

theorem exists_addEvent_mem_record {config : Config} (h : config.recordSpanEvents.isSet = true)
    (attributes : Fields Value) (mode : Mode) (p : Prefix) :
    ∃ event, Effect.addEvent SpanAttribute.canonicalized event
      ∈ record config attributes mode p := by
  simp only [record, h, if_true]
  exact ⟨_, List.mem_append_right _ (List.mem_singleton_self _)⟩

/-- All events that an instrumented run adds tell the mode and the prefix of the message as it came,
and if a success is to be recorded there is one. -/
theorem tells_exec_canonicalize (i : Instrumentor) (m : Message) (recording : Bool) (mint : Mint)
    (journal : Journal) :
    let run := (i.canonicalize m recording).exec mint journal
    ∃ new, run.2.effects = journal.effects ++ new ∧ m.Tells new ∧
      (recording = true → i.config.recordSpanEvents.isSet = true → (∃ out, run.1 = .ok out) →
        ∃ event, .addEvent SpanAttribute.canonicalized event ∈ new) := by
  intro run
  obtain ⟨asked, hasked, hquiet⟩ := effects_conversion i m mint journal
  rcases hrun : (i.conversion m).exec mint journal with ⟨e | out, after⟩
  · rw [hrun] at hasked
    have hexec : run = (.error e, after.append (if recording then recordFailure e else [])) :=
      exec_canonicalize_of_error recording hrun
    rw [hexec]
    refine ⟨asked ++ if recording then recordFailure e else [], ?_, fun name event h => ?_,
      fun _ _ hok => ?_⟩
    · rw [Journal.append, hasked, List.append_assoc]
    · rcases List.mem_append.1 h with h | h
      · exact absurd h (hquiet name event)
      · split at h <;> simp [recordFailure] at h
    · obtain ⟨out, hout⟩ := hok
      cases hout
  · rw [hrun] at hasked
    obtain ⟨mode, hmode, hexec⟩ := exec_canonicalize_of_ok recording hrun
    have hexec : run = _ := hexec
    rw [hexec]
    cases out.headers.spanAttributes with
    | error fault =>
      refine ⟨asked, hasked, fun name event h => absurd h (hquiet name event), fun _ _ hok => ?_⟩
      obtain ⟨out', hout'⟩ := hok
      cases hout'
    | ok attributes =>
      refine ⟨asked ++
        ((if recording then record i.config attributes mode m.headers.detectPrefix else [])
          ++ deliver i.callback out), ?_, fun name event h => ?_, fun hrecording hset _ => ?_⟩
      · change (after.append _).effects = _
        rw [Journal.append, hasked, List.append_assoc]
      · rcases List.mem_append.1 h with h | h
        · exact absurd h (hquiet name event)
        · rcases List.mem_append.1 h with h | h
          · split at h
            · exact ⟨mode, hmode, get?_of_addEvent_mem_record h⟩
            · cases h
          · exact absurd h addEvent_not_mem_deliver
      · obtain ⟨event, hevent⟩ :=
          exists_addEvent_mem_record hset attributes mode m.headers.detectPrefix
        rw [if_pos hrecording]
        exact ⟨event, List.mem_append_right _ (List.mem_append_left _ hevent)⟩

/-- **The mode that is reported is the way that is taken.**  Whatever reader a conversion has, the
mode of a message is that of structured events if and only if the reader is asked; that of binary
events if and only if it is not asked and the canonical headers are those of an event; and that of
other messages if neither holds and nothing fails.  Finding the mode fails if and only if the
conversion fails before the reader is asked, with the same error.  Every event that an instrumentor
adds to a span tells the mode and the prefix of the message as it came, and one is added for every
success that is to be recorded. Both are the same for all messages that were made with the same
headers, whatever the payloads, the readers and their answers are. -/
theorem reports_way_taken (m : Message) (mint : Mint) (journal : Journal) :
    (∀ (r : Reader) (fallback : Value),
      let run := (m.toCanonical r {} fallback).exec mint journal
      (m.mode = .ok .structured ↔ journal.Asked run.2) ∧
      (m.mode = .ok .binary ↔
        ¬journal.Asked run.2 ∧ m.headers.canonicalize.isCloudEvent = true) ∧
      (m.mode = .ok .passthrough ↔
        ¬journal.Asked run.2 ∧ ¬m.headers.canonicalize.isCloudEvent = true ∧
          ∃ out, run.1 = .ok out) ∧
      ∀ e, m.mode = .error e ↔ run.1 = .error e ∧ ¬journal.Asked run.2) ∧
    (∀ (i : Instrumentor) (recording : Bool),
      let run := (i.canonicalize m recording).exec mint journal
      ∃ new, run.2.effects = journal.effects ++ new ∧ m.Tells new ∧
        (recording = true → i.config.recordSpanEvents.isSet = true → (∃ out, run.1 = .ok out) →
          ∃ event, .addEvent SpanAttribute.canonicalized event ∈ new)) ∧
    ∀ m' : Message, m'.given = m.given →
      m'.mode = m.mode ∧ m'.headers.detectPrefix = m.headers.detectPrefix := by
  refine ⟨fun r fallback => ?_, fun i recording => tells_exec_canonicalize i m recording mint journal,
    fun m' h => Message.mode_and_prefix_of_given h⟩
  have hway := m.way_mode r fallback mint journal
  generalize m.mode = mode at hway
  cases hway with
  | failed noEvent quiet ends => simp [noEvent, quiet, ends]
  | structured noEvent asks => simp [noEvent, asks]
  | binary isEvent quiet ends => simp [isEvent, quiet, ends]
  | passthrough noEvent quiet ends => simp [noEvent, quiet, ends]

/-- A message with an attribute of its own that declares an event in structured mode. -/
def sealedNote (payload : Value) (there : payload.isNull = false) : Message :=
  Message.stamp payload there
    (Fields.ofList [("ce_id", .text "7"), (Header.contentType, .text "application/cloudevents")])
    "1" (.int 5) 0

/-- What records every success, with a reader that finds an empty document in every body. -/
def emptyReading : Instrumentor :=
  ⟨⟨fun _ _ => .ok (.mapping [])⟩, ⟨"text/plain", .text "notes", .bool true⟩, none⟩

/-- The mode is the same for another payload and before a reader that fails. What is reported after
a success is how the message came, though the result has no body to read and a canonical prefix. -/
theorem reports_way_taken_sealedNote :
    (sealedNote (.int 3) rfl).mode = .ok .structured ∧
      (∃ request shape, Effect.read request shape ∈
        (((sealedNote (.text "hello") rfl).toCanonical
          ⟨fun _ _ => .error (.raised "ValueError" "boom")⟩).exec ⟨fun _ => "2", 0⟩ {}).2.effects) ∧
      ∃ event, .addEvent SpanAttribute.canonicalized event ∈
          ((emptyReading.canonicalize (sealedNote (.text "hello") rfl) true).exec
            ⟨fun _ => "2", 0⟩ {}).2.effects ∧
        event.get? SpanAttribute.mode = some (.text "structured") ∧
        event.get? SpanAttribute.transportPrefix = some (.text "ce_") := by
  have hmode : (sealedNote (.text "hello") rfl).mode = .ok .structured := rfl
  have hok : ∃ out, ((emptyReading.canonicalize (sealedNote (.text "hello") rfl) true).exec
      ⟨fun _ => "2", 0⟩ {}).1 = .ok out := ⟨_, rfl⟩
  obtain ⟨hways, htells, hgiven⟩ :=
    reports_way_taken (sealedNote (.text "hello") rfl) ⟨fun _ => "2", 0⟩ {}
  refine ⟨((hgiven (sealedNote (.int 3) rfl) rfl).1).trans hmode, ?_, ?_⟩
  · obtain ⟨new, request, shape, heffects, hmem⟩ :=
      (hways ⟨fun _ _ => .error (.raised "ValueError" "boom")⟩ Conversion.defaultDataContentType).1.1
        hmode
    rw [heffects]
    exact ⟨request, shape, hmem⟩
  · obtain ⟨new, heffects, htell, hadds⟩ := htells emptyReading true
    obtain ⟨event, hevent⟩ := hadds rfl rfl hok
    obtain ⟨mode, hfound, htold, hprefix⟩ := htell _ event hevent
    rw [hmode, Except.ok.injEq] at hfound
    rw [← hfound] at htold
    rw [heffects]
    exact ⟨event, hevent, htold, hprefix⟩

end Instrumentor

end CloudEvents
