import CloudEvents.Proofs.Conversion.Envelope
import CloudEvents.Proofs.Conversion.Errors
import CloudEvents.Proofs.Message.Event
import Mathlib.Logic.Relation
/-!
# The ledger of identities

A program makes messages, fills builders, builds, and converts messages back and forth. Headers and
documents pass through all this with identities in them: those of messages that were there before,
those that were supplied, and those of events. None of them may become the identity of a new
message.

To see that none does, the identities that are drawn are entered into a ledger, each with its use
(`Use`). There are three kinds of new messages: those that are answered, those that a reader is
asked about on the way, and for the events of a builder the identity that it fills in, which no
message has. The ledger is exact: from any journal on, the `n`-th identity that was drawn is the one
of the `n`-th use (`Journal.Draws`). If identities never repeat, all uses have different ones.

Each operation draws for its own uses only (`World.Step.draws`), and by induction on the steps so
does a whole run (`World.draws_of_reaches`).

## Main statements

* `Journal.Draws.trans`: the ledgers of two runs after each other;
* `World.Step.draws`: what one operation enters;
* `World.ledger`: the identities of a whole run.
-/

namespace CloudEvents

/-! ## Uses of identities -/

/-- What an identity is drawn for. -/
inductive Use where
  /-- A message has it. -/
  | message (m : Message)
  /-- A builder has filled it in for its events. -/
  | event (id : Value)

/-- The identity that is used. -/
def Use.identity : Use → Value
  | message m => .text m.identity
  | event id => id

/-- The message that has the identity. -/
def Use.message? : Use → Option Message
  | message m => some m
  | event _ => none

/-- The message that a reader is asked about. -/
def Effect.request? : Effect → Option Message
  | read m _ => some m
  | _ => none

variable {identity : Nat → String}

namespace Journal

/-- The messages that readers were asked about. -/
def requests (j : Journal) : List Message := j.effects.filterMap Effect.request?

/-- Between two journals exactly the identities of some uses were drawn, in their order. -/
structure Draws (identity : Nat → String) (before after : Journal) (uses : List Use) : Prop where
  /-- As many as there are uses. -/
  drawn : after.drawn = before.drawn + uses.length
  /-- The next ones. -/
  identities : uses.map Use.identity
    = (List.range' before.drawn uses.length).map fun n => .text (identity n)

namespace Draws

variable {before mid after : Journal} {uses later : List Use}

theorem refl (j : Journal) : j.Draws identity j [] := ⟨rfl, rfl⟩

theorem trans (h : before.Draws identity mid uses) (h' : mid.Draws identity after later) :
    before.Draws identity after (uses ++ later) where
  drawn := by rw [h'.drawn, h.drawn, List.length_append, Nat.add_assoc]
  identities := by
    rw [List.map_append, h.identities, h'.identities, h.drawn, ← List.map_append,
      List.range'_append_1, List.length_append]

/-- One identity for one use. -/
theorem single {use : Use} (hdrawn : after.drawn = before.drawn + 1)
    (hidentity : use.identity = .text (identity before.drawn)) :
    before.Draws identity after [use] :=
  ⟨hdrawn, congrArg (fun v => [v]) hidentity⟩

/-- Where an identity comes from. -/
theorem exists_of_mem (h : before.Draws identity after uses) {use : Use} (hmem : use ∈ uses) :
    ∃ n, before.drawn ≤ n ∧ n < after.drawn ∧ use.identity = .text (identity n) := by
  have hin : use.identity ∈ uses.map Use.identity := List.mem_map_of_mem hmem
  rw [h.identities] at hin
  obtain ⟨n, hn, heq⟩ := List.mem_map.1 hin
  obtain ⟨hle, hlt⟩ := List.mem_range'_1.1 hn
  exact ⟨n, hle, h.drawn ▸ hlt, heq.symm⟩

/-- Identities that never repeat are different for different uses. -/
theorem nodup (hid : Function.Injective identity) (h : before.Draws identity after uses) :
    (uses.map Use.identity).Nodup := by
  rw [h.identities]
  exact List.Nodup.map (fun n n' heq => hid (Value.text.inj heq)) List.nodup_range'

end Draws

/-! ## Runs that answer a message -/

/-- The uses of a run that answers a new message: readers were asked about some, and the answer is
the last. -/
def usesOf (before : Journal) (run : Except Error Message × Journal) : List Use :=
  (run.2.requests.drop before.requests.length).map .message ++
    match run.1 with
    | .ok m => [.message m]
    | .error _ => []

theorem usesOf_eq {before after : Journal} {asked : List Message}
    (h : after.requests = before.requests ++ asked) (outcome : Except Error Message) :
    before.usesOf (outcome, after) = asked.map .message ++
      match outcome with
      | .ok m => [.message m]
      | .error _ => [] := by
  unfold usesOf
  rw [h, List.drop_left]

/-- Where no reader is asked, only the answer is new. -/
theorem usesOf_drawn (j : Journal) (n : Nat) (outcome : Except Error Message) :
    j.usesOf (outcome, { j with drawn := n }) =
      match outcome with
      | .ok m => [.message m]
      | .error _ => [] := by
  have hsame : ({ j with drawn := n } : Journal).requests = j.requests ++ [] :=
    (List.append_nil _).symm
  exact usesOf_eq hsame outcome

/-- Between two journals readers were asked about some messages, and nothing else was drawn for. -/
structure Asks (identity : Nat → String) (before after : Journal) (asked : List Message) : Prop where
  /-- Readers were asked in this order. -/
  requests : after.requests = before.requests ++ asked
  /-- The messages were new. -/
  draws : before.Draws identity after (asked.map .message)

namespace Asks

variable {before mid after : Journal} {asked : List Message} {mint : Mint}

theorem refl (j : Journal) : j.Asks identity j [] := ⟨(List.append_nil _).symm, .refl j⟩

/-- A run may fail after that. -/
theorem failed (h : before.Asks identity after asked) (e : Error) :
    before.Draws identity after (before.usesOf (.error e, after)) := by
  rw [usesOf_eq h.requests, List.append_nil]
  exact h.draws

/-- Or it makes a message. -/
theorem made (h : before.Asks mint.identity mid asked) {payload : Value}
    (there : payload.isNull = false) (headers : Fields Value) (timestamp : Value) :
    before.Draws mint.identity ((Message.of payload headers timestamp).exec mint mid).2
      (before.usesOf ((Message.of payload headers timestamp).exec mint mid)) := by
  rw [Message.exec_of there]
  have hasks : ({ mid with drawn := mid.drawn + 1 } : Journal).requests
      = before.requests ++ asked := h.requests
  rw [usesOf_eq hasks]
  exact h.draws.trans (.single rfl rfl)

/-- A reader is asked about a message that was made for it. -/
theorem ask (j : Journal) (m : Message) (shape : Shape) (hm : m.identity = mint.identity j.drawn) :
    j.Asks mint.identity
      { drawn := j.drawn + 1, effects := j.effects ++ [.read m shape] } [m] where
  requests := List.filterMap_append
  draws := .single rfl (congrArg Value.text hm)

end Asks

/-- A message is made, or the payload is missing. -/
theorem draws_of (payload : Value) (headers : Fields Value) (timestamp : Value) (mint : Mint)
    (j : Journal) :
    j.Draws mint.identity ((Message.of payload headers timestamp).exec mint j).2
      (j.usesOf ((Message.of payload headers timestamp).exec mint j)) := by
  cases hnull : payload.isNull with
  | false => exact (Asks.refl j).made hnull headers timestamp
  | true =>
    rw [Message.exec_of_of_isNull hnull]
    exact (Asks.refl j).failed .emptyPayload

end Journal

/-! ## Conversions -/

namespace Message

variable {m out : Message} {r : Reader} {resolver : Resolver} {fallback : Value} {mint : Mint}
  {journal after : Journal}

theorem asks_asked (m : Message) (mediaType : MediaType) (mint : Mint) (journal : Journal) :
    journal.Asks mint.identity (m.asked mediaType mint journal)
      [m.syntaxRequest mediaType mint journal.drawn] :=
  Journal.Asks.ask journal _ .mapping rfl

/-- A reading draws for the question, and for the answer if there is one. -/
theorem draws_ofStructured (envelope : Fields Value) (mediaType : MediaType) :
    journal.Draws mint.identity ((m.ofStructured envelope mediaType r fallback).exec mint journal).2
      (journal.usesOf ((m.ofStructured envelope mediaType r fallback).exec mint journal)) := by
  have hasks := m.asks_asked mediaType mint journal
  rw [exec_ofStructured_eq]
  cases r.read (m.syntaxRequest mediaType mint journal.drawn) .mapping with
  | error e => exact hasks.failed e
  | ok answer =>
    cases hd : Conversion.document (declares envelope) answer with
    | error e =>
      simp only [hd]
      exact hasks.failed e
    | ok d =>
      simp only [hd]
      cases hp : Conversion.payload d with
      | error e => exact hasks.failed e
      | ok p =>
        have there := Conversion.binaryBuilder_there hp envelope fallback
        exact hasks.made there _ _

/-- A message is handed back with nothing drawn, or what is drawn is for the answer and what was
asked for it. -/
theorem toCanonical_eq_or_draws (m : Message) (r : Reader) (resolver : Resolver) (fallback : Value)
    (mint : Mint) (journal : Journal) :
    (m.toCanonical r resolver fallback).exec mint journal = (.ok m, journal) ∨
      journal.Draws mint.identity ((m.toCanonical r resolver fallback).exec mint journal).2
        (journal.usesOf ((m.toCanonical r resolver fallback).exec mint journal)) := by
  cases hs : m.headers.canonicalize.structuredType? resolver with
  | error e =>
    rw [exec_toCanonical_error mint journal hs]
    exact Or.inr ((Journal.Asks.refl journal).failed e)
  | ok found =>
    cases found with
    | some mediaType =>
      rw [exec_toCanonical_structured mint journal hs]
      exact Or.inr (draws_ofStructured m.headers.canonicalize mediaType)
    | none =>
      cases hc : m.headers.canonicalize.rebuiltType? with
      | none => exact Or.inl (exec_toCanonical_same mint journal hs hc)
      | some contentType =>
        rw [exec_toCanonical_rebuilt mint journal hs hc,
          ← Builder.exec_build _ (m.rebuilder_there contentType)]
        exact Or.inr (Journal.draws_of _ _ _ mint journal)

/-- For the data in bytes a reader may be asked. -/
theorem asks_withData (m : Message) (c : Converter) (document : Fields Value) (mint : Mint)
    (journal : Journal) :
    ∃ asked, journal.Asks mint.identity ((m.withData c document).exec mint journal).2 asked := by
  unfold withData
  cases m.payload.bytes? with
  | none => exact ⟨[], .refl journal⟩
  | some bs =>
    simp only [Run.exec_bind, Run.exec_lift]
    cases Conversion.declaredType document with
    | error e => exact ⟨[], .refl journal⟩
    | ok mediaType =>
      simp only
      cases c.supports (some mediaType) with
      | false => exact ⟨[], .refl journal⟩
      | true =>
        have there : ((Builder.ofMessage m).set Header.contentType
          (.mediaType mediaType)).payload.isNull = false := m.payload_there
        refine ⟨[((Builder.ofMessage m).set Header.contentType (.mediaType mediaType)).stamped there
          mint journal.drawn], ?_⟩
        rw [if_pos rfl, Run.exec_bind, Builder.exec_build _ there]
        simp only
        rw [Run.exec_bind, Reader.ask, Run.exec_bind, Run.exec_emit]
        simp only [Run.exec_lift]
        cases c.read _ .any with
        | error e => exact .ask journal _ .any rfl
        | ok v => exact .ask journal _ .any rfl

/-- What is drawn for a structured form is for what was asked about the data, and for the form. -/
theorem draws_toStructured (m : Message) (c : Converter) (override : Value) (mint : Mint)
    (journal : Journal) :
    journal.Draws mint.identity ((m.toStructured c override).exec mint journal).2
      (journal.usesOf ((m.toStructured c override).exec mint journal)) := by
  rw [exec_toStructured]
  split
  · obtain ⟨asked, hasks⟩ := m.asks_withData c
      (Conversion.outlineWith override m.headers.canonicalize) mint journal
    rcases hdata : (m.withData c (Conversion.outlineWith override m.headers.canonicalize)).exec mint
      journal with ⟨e | filled, mid⟩
    · rw [hdata] at hasks
      exact hasks.failed e
    · rw [hdata] at hasks
      simp only
      cases c.write (.ofFields filled) (some MediaType.json) with
      | error e => exact hasks.failed e
      | ok body => exact hasks.made (structuredBuilder_there _ body) _ _
  · exact (Journal.Asks.refl journal).failed .notBinaryEvent

end Message

/-! ## Events -/

namespace Builder

/-- The identity that a builder has got for its events. -/
def gained (b b' : Builder) : List Use :=
  if Attribute.id.key ∈ b.headers then []
  else (b'.headers.get? Attribute.id.key).toList.map .event

theorem gained_self (b : Builder) : b.gained b = [] := by
  unfold gained
  split
  · rfl
  · rename_i hid
    rw [Fields.get?_eq_none_iff.2 hid]
    rfl

variable {b b' : Builder} {p : Prefix} {mint : Mint} {journal after : Journal}

/-- A builder that is filled gets the next identity, unless it has one. -/
theorem draws_filled (b : Builder) (mint : Mint) (journal : Journal) :
    journal.Draws mint.identity { journal with drawn := journal.drawn + b.drawnFor }
      (b.gained (b.filled (mint.identity journal.drawn))) := by
  unfold gained drawnFor
  split
  · exact .refl journal
  · rename_i hid
    rw [get?_filled, Fields.get?_eq_none_iff.2 hid]
    exact .single rfl rfl

/-- What is drawn for an event is for the builder, if it had no identity for its events, and for the
message. -/
theorem draws_buildEvent {built : Except Error Message}
    (hrun : (b.buildEvent p).exec mint journal = (.ok (b', built), after)) :
    journal.Draws mint.identity after (b.gained b' ++ journal.usesOf (built, after)) := by
  have hfilled := b.draws_filled mint journal
  by_cases hp : p = .none
  · rw [buildEvent, if_pos hp] at hrun
    cases hrun
    rw [gained_self]
    exact (Journal.Asks.refl journal).failed _
  · cases hnull : b.payload.isNull with
    | true =>
      rw [exec_buildEvent_of_isNull b hnull hp] at hrun
      cases hrun
      rw [Journal.usesOf_drawn]
      exact hfilled.trans (.refl _)
    | false =>
      rw [exec_buildEvent b hnull hp] at hrun
      cases hrun
      rw [Journal.usesOf_drawn]
      exact hfilled.trans (.single rfl rfl)

end Builder

/-! ## Steps -/

/-- What a program has: its builders, and the ledger of the identities that were drawn for it. -/
structure World where
  /-- The builders, as they are now. -/
  builders : List Builder := []
  /-- What identities were drawn for, in order. -/
  uses : List Use := []
  /-- The journal. -/
  journal : Journal := {}

namespace World

/-- The messages that there are. -/
def messages (w : World) : List Message := w.uses.filterMap Use.message?

/-- The world after a run that answers a new message. -/
def made (w : World) (run : Except Error Message × Journal) : World :=
  { w with uses := w.uses ++ w.journal.usesOf run, journal := run.2 }

/-- One operation of a program, at a time of its own. -/
inductive Step (identity : Nat → String) : World → World → Prop where
  /-- A message is made of any payload and any headers. -/
  | make (w : World) (now : Int) (payload : Value) (headers : Fields Value) (timestamp : Value) :
    Step identity w (w.made ((Message.of payload headers timestamp).exec ⟨identity, now⟩ w.journal))
  /-- A builder is started from any payload and any headers, those of a message among them. -/
  | start (w : World) (b : Builder) : Step identity w { w with builders := w.builders ++ [b] }
  /-- A builder is changed. -/
  | change (w : World) (i : Nat) (c : Builder.Call) :
    Step identity w { w with builders := w.builders.modify i fun b => b.apply c }
  /-- A builder makes a message. -/
  | build {w : World} {b : Builder} (hb : b ∈ w.builders) (now : Int) :
    Step identity w (w.made (b.build.exec ⟨identity, now⟩ w.journal))
  /-- A builder makes an event, and is filled by that. -/
  | event {w : World} {i : Nat} {b b' : Builder} {p : Prefix} {now : Int}
    {built : Except Error Message} {after : Journal} (hb : w.builders[i]? = some b)
    (hrun : (b.buildEvent p).exec ⟨identity, now⟩ w.journal = (.ok (b', built), after)) :
    Step identity w
      { builders := w.builders.set i b'
        uses := w.uses ++ b.gained b' ++ w.journal.usesOf (built, after)
        journal := after }
  /-- A message is brought to canonical form. -/
  | convert {w : World} {m : Message} (hm : m ∈ w.messages) (now : Int) (r : Reader)
    (resolver : Resolver) (fallback : Value)
    (hnew : (m.toCanonical r resolver fallback).exec ⟨identity, now⟩ w.journal
      ≠ (.ok m, w.journal)) :
    Step identity w
      (w.made ((m.toCanonical r resolver fallback).exec ⟨identity, now⟩ w.journal))
  /-- A message is handed back by that. -/
  | handBack {w : World} {m : Message} (hm : m ∈ w.messages) (now : Int) (r : Reader)
    (resolver : Resolver) (fallback : Value)
    (hback : (m.toCanonical r resolver fallback).exec ⟨identity, now⟩ w.journal
      = (.ok m, w.journal)) :
    Step identity w w
  /-- An event is brought to structured form. -/
  | wrap {w : World} {m : Message} (hm : m ∈ w.messages) (now : Int) (c : Converter)
    (override : Value) :
    Step identity w (w.made ((m.toStructured c override).exec ⟨identity, now⟩ w.journal))

variable {w w' : World}

/-- One operation draws for its own uses only. -/
theorem Step.draws (h : Step identity w w') :
    ∃ new, w'.uses = w.uses ++ new ∧ w.journal.Draws identity w'.journal new := by
  cases h with
  | make now payload headers timestamp =>
    exact ⟨_, rfl, Journal.draws_of payload headers timestamp ⟨identity, now⟩ w.journal⟩
  | start b => exact ⟨[], (List.append_nil _).symm, .refl w.journal⟩
  | change i c => exact ⟨[], (List.append_nil _).symm, .refl w.journal⟩
  | build hb now => exact ⟨_, rfl, Journal.draws_of _ _ _ ⟨identity, now⟩ w.journal⟩
  | event hb hrun =>
    exact ⟨_, List.append_assoc _ _ _, Builder.draws_buildEvent hrun⟩
  | convert hm now r resolver fallback hnew =>
    exact ⟨_, rfl, (Message.toCanonical_eq_or_draws _ r resolver fallback ⟨identity, now⟩
      w.journal).resolve_left hnew⟩
  | handBack hm now r resolver fallback hback =>
    exact ⟨[], (List.append_nil _).symm, .refl w.journal⟩
  | wrap hm now c override =>
    exact ⟨_, rfl, Message.draws_toStructured _ c override ⟨identity, now⟩ w.journal⟩

/-- A program that is started with some journal. -/
def start (journal : Journal) : World := { journal := journal }

/-- The ledger of a run is exact. -/
theorem draws_of_reaches {journal : Journal}
    (h : Relation.ReflTransGen (Step identity) (start journal) w) :
    journal.Draws identity w.journal w.uses := by
  induction h with
  | refl => exact .refl journal
  | tail _ hstep ih =>
    obtain ⟨new, huses, hnew⟩ := hstep.draws
    rw [huses]
    exact ih.trans hnew

/-- What an operation draws was not in use. -/
theorem not_mem_of_step {journal : Journal} (hid : Function.Injective identity)
    (h : Relation.ReflTransGen (Step identity) (start journal) w) (hstep : Step identity w w')
    {new : List Use} (huses : w'.uses = w.uses ++ new) {use : Use} (hmem : use ∈ new) :
    use.identity ∉ w.uses.map Use.identity := by
  have hnodup := (draws_of_reaches (h.tail hstep)).nodup hid
  rw [huses, List.map_append] at hnodup
  exact fun hold => List.disjoint_of_nodup_append hnodup hold (List.mem_map_of_mem hmem)

/-- **Identities over whole runs.**  Let a program run from any journal, and let identities never
repeat. Then the `n`-th identity that was drawn is the one of its `n`-th use, so that all messages,
and all events that got one, have different ones. Every message has a payload, and its keys are
different and end in the identity and the timestamp. Whatever is done next, what is new gets the
next identities, which were not in use; a text that is supplied, in a header, in a document or in
the message that is converted, is none of them unless it is drawn just then. Conversions keep the
timestamp, and `toCanonical` does not miss a payload unless the reader says so. -/
theorem ledger {journal : Journal} (hid : Function.Injective identity)
    (h : Relation.ReflTransGen (Step identity) (start journal) w) :
    journal.Draws identity w.journal w.uses ∧
    (w.uses.map Use.identity).Nodup ∧
    (∀ m ∈ w.messages, m.payload.isNull = false ∧ m.headers.keys.Nodup ∧
      (∃ others, m.headers.keys = others ++ [Header.identity, Header.timestamp]) ∧
      m.headers.get? Header.identity = some (.text m.identity) ∧
      m.headers.get? Header.timestamp = some m.timestamp) ∧
    (∀ w', Step identity w w' → ∃ new, w'.uses = w.uses ++ new ∧
      w.journal.Draws identity w'.journal new ∧
      ∀ use ∈ new, use.identity ∉ w.uses.map Use.identity ∧
        ∀ supplied, (∀ n, w.journal.drawn ≤ n → n < w'.journal.drawn →
          supplied ≠ .text (identity n)) → use.identity ≠ supplied) ∧
    ∀ (m : Message) (mint : Mint) (j : Journal),
      (∀ r resolver fallback out after,
        (m.toCanonical r resolver fallback).exec mint j = (.ok out, after) →
          out.timestamp = m.timestamp) ∧
      (∀ c override out after, (m.toStructured c override).exec mint j = (.ok out, after) →
        out.timestamp = m.timestamp) ∧
      ∀ r resolver fallback after,
        (m.toCanonical r resolver fallback).exec mint j = (.error .emptyPayload, after) →
          ∃ request, r.read request .mapping = .error .emptyPayload := by
  have hdraws := draws_of_reaches h
  refine ⟨hdraws, hdraws.nodup hid, fun m _ => ?_, fun w' hstep => ?_, fun m mint j => ⟨?_, ?_, ?_⟩⟩
  · refine ⟨m.payload_there, m.headers.nodup_keys, ⟨m.given.keys, m.keys_headers⟩, ?_, ?_⟩
    · rw [Message.get?_headers, if_neg (by decide), if_pos rfl]
    · rw [Message.get?_headers, if_pos rfl]
  · obtain ⟨new, huses, hnew⟩ := hstep.draws
    refine ⟨new, huses, hnew, fun use huse => ⟨not_mem_of_step hid h hstep huses huse, ?_⟩⟩
    obtain ⟨n, hle, hlt, heq⟩ := hnew.exists_of_mem huse
    intro supplied hother hsame
    exact hother n hle hlt (hsame.symm.trans heq)
  · intro r resolver fallback out after hrun
    exact Message.timestamp_toCanonical hrun
  · intro c override out after hrun
    exact Message.timestamp_toStructured hrun
  · intro r resolver fallback after hrun
    exact Message.exists_read_of_emptyPayload hrun

/-- Identities that never repeat. -/
def tally (n : Nat) : String := String.ofList (List.replicate n 'a')

theorem tally_injective : Function.Injective tally := by
  intro n n' heq
  simpa [tally] using congrArg (fun s => s.toList.length) heq

/-- Headers that come with an identity and declare an event in structured mode. -/
def suppliedHeaders : Fields Value :=
  Fields.ofList [(Header.identity, .text "b"),
    (Header.contentType, .mediaType MediaType.eventJson)]

/-- The first message that is made of them. -/
def suppliedMessage : Message :=
  Message.stamp (.text "hello") (Value.isNull_text _) suppliedHeaders (tally 0) .null 5

/-- A message is supplied with an identity, and the event in its body has one, too. The message, the
request for the body and the canonical form get three others. -/
theorem ledger_suppliedMessage :
    ∃ w, Relation.ReflTransGen (Step tally) (start {}) w ∧
      w.messages.map Message.identity = ["", "a", "aa"] ∧ (w.uses.map Use.identity).Nodup ∧
      ∀ m ∈ w.messages, m.payload.isNull = false := by
  let d : Fields Value := Fields.ofList [("id", .text "c")]
  let r : Reader := ⟨fun _ _ => .ok (.ofFields d)⟩
  let w₁ : World :=
    (start {}).made ((Message.of (.text "hello") suppliedHeaders .null).exec ⟨tally, 5⟩ {})
  have hmake : Step tally (start {}) w₁ := .make (start {}) 5 (.text "hello") suppliedHeaders .null
  have hm : suppliedMessage ∈ w₁.messages := List.mem_singleton.2 rfl
  have hs : suppliedMessage.headers.canonicalize.structuredType? {} = .ok (some .eventJson) := rfl
  have hd := Conversion.document_ofFields (Message.declares suppliedMessage.headers.canonicalize) d
  have hp : Conversion.payload (d.canonicalize true) = .ok (.mapping []) := rfl
  have hstart := @Message.exec_toCanonical_structured suppliedMessage r {}
    Conversion.defaultDataContentType ⟨tally, 7⟩ w₁.journal _ hs
  have hrun := hstart.trans
    (Message.exec_ofStructured rfl hd hp (Conversion.binaryBuilder_there hp _ _))
  have hnew : (suppliedMessage.toCanonical r).exec ⟨tally, 7⟩ w₁.journal
      ≠ (.ok suppliedMessage, w₁.journal) := by
    intro hback
    have hdrawn : w₁.journal.drawn + 2 = w₁.journal.drawn :=
      congrArg (fun run => run.2.drawn) (hrun.symm.trans hback)
    omega
  have hconvert := Step.convert hm 7 r {} Conversion.defaultDataContentType hnew
  rw [hrun] at hconvert
  have hruns := (Relation.ReflTransGen.single hmake).tail hconvert
  obtain ⟨-, hnodup, hmessages, -⟩ := ledger tally_injective hruns
  exact ⟨_, hruns, rfl, hnodup, fun m hm => (hmessages m hm).1⟩

end World

end CloudEvents
