import CloudEvents.Proofs.Conversion.Branches
import CloudEvents.Proofs.Message.Event
/-!
# Events that are built are binary

A builder for events may hold any headers: some from its start, some from a message, under several
prefixes at once and with null for a value. What it builds is an event in binary mode all the same.
The three attributes that make one are filled in under their canonical keys where they are missing;
the prefix of the transport takes these keys to others, but leaves none of them without one; and
bringing them back to the canonical prefix may put another value under such a key, but takes none
away. So each step keeps a key whose canonical form is the attribute's.

Headers of an event in binary mode settle which way a conversion takes before the content type is
looked at. No reader is asked about such a message, and the resolver has nothing to fail on.

## Main statements

* `Builder.isCloudEvent_event`: an event that is built is one in binary mode;
* `Message.exists_toCanonical_of_isCloudEvent`: the canonical form of an event in binary mode;
* `Builder.buildEvent_isCloudEvent`: both together, for any builder and any transport.
-/

namespace CloudEvents

/-! ## The canonical form of an event in binary mode -/

/-- An event in binary mode has a canonical form with its payload, and no reader is asked for it,
whatever its content type is. -/
theorem Message.exists_toCanonical_of_isCloudEvent {m : Message}
    (h : m.headers.canonicalize.isCloudEvent = true) (r : Reader) (resolver : Resolver)
    (fallback : Value) (mint : Mint) (journal : Journal) :
    ∃ out after, (m.toCanonical r resolver fallback).exec mint journal = (.ok out, after) ∧
      after.effects = journal.effects ∧ out.payload = m.payload := by
  have hs : m.headers.canonicalize.structuredType? resolver = .ok none :=
    Fields.structuredType?_of_not_gate fun hgate => by
      rw [h] at hgate
      cases hgate.1
  obtain ⟨out, after, hrun, heffects, hsame, hrebuilt⟩ := exists_quiet r fallback hs mint journal
  refine ⟨out, after, hrun, heffects, ?_⟩
  by_cases hsettled : m.headers.canonicalize.Settled
  · rw [(Prod.mk.inj (hsame.2 hsettled)).1]
  · exact (hrebuilt hsettled).payload

namespace Builder

/-! ## Attributes of an event that is built -/

/-- An attribute that the builder holds is one of the event, whatever else the builder holds. -/
theorem key_mem_canonicalize_event {b : Builder} (there : b.payload.isNull = false) {q : Prefix}
    (hq : q ≠ .none) (mint : Mint) (n : Nat) {name : String}
    (h : Prefix.canonical.key name ∈ (b.filled (mint.identity n)).headers) :
    Prefix.canonical.key name ∈ (b.event there q mint n).headers.canonicalize := by
  have htransport : q.key name ∈ ((b.filled (mint.identity n)).forTransport q).headers :=
    mem_forTransport.2 ⟨_, h, transportKey_key q name⟩
  have hevent : q.key name ∈ (b.event there q mint n).headers := mem_stamped.2 (Or.inr htransport)
  exact Fields.mem_canonicalize.2 ⟨_, hevent, canonicalKey_key hq name false⟩

theorem isCloudEvent_event (b : Builder) (there : b.payload.isNull = false) {q : Prefix}
    (hq : q ≠ .none) (mint : Mint) (n : Nat) :
    (b.event there q mint n).headers.canonicalize.isCloudEvent = true := by
  rw [Fields.isCloudEvent, List.all_eq_true]
  intro a ha
  have hdefault : a.key ∈ (defaults b.payload (mint.identity n)).map Prod.fst := by
    simp only [Attribute.required, List.mem_cons, List.not_mem_nil, or_false] at ha
    rcases ha with rfl | rfl | rfl <;> simp [defaults]
  exact decide_eq_true
    (key_mem_canonicalize_event there hq mint n (mem_filled.2 (Or.inr hdefault)))

@[simp] theorem payload_event (b : Builder) (there : b.payload.isNull = false) (q : Prefix)
    (mint : Mint) (n : Nat) : (b.event there q mint n).payload = b.payload := by
  rw [event, payload_stamped, forTransport, payload_filled]

/-- A message that was built is the event of the builder, for the prefix of a transport. -/
theorem exists_eq_event_of_buildEvent {b b' : Builder} {q : Prefix} {mint : Mint}
    {journal after : Journal} {m : Message}
    (h : (b.buildEvent q).exec mint journal = (.ok (b', .ok m), after)) :
    q ≠ .none ∧ ∃ there, m = b.event there q mint journal.drawn := by
  by_cases hq : q = .none
  · rw [buildEvent, if_pos hq] at h
    cases h
  · refine ⟨hq, ?_⟩
    by_cases hnull : b.payload.isNull = true
    · rw [exec_buildEvent_of_isNull b hnull hq] at h
      cases h
    · have there : b.payload.isNull = false := Bool.eq_false_iff.2 hnull
      rw [exec_buildEvent b there hq] at h
      exact ⟨there, (Except.ok.inj (Prod.mk.inj (Except.ok.inj (Prod.mk.inj h).1)).2).symm⟩

/-- **What is built is an event in binary mode.**  Whatever a builder holds and whichever transport
it builds for, a message that it makes has the payload of the builder and canonical headers of an
event in binary mode. So every conversion of it to its canonical form succeeds, asks no reader and
keeps the payload, whatever content type the message has and wherever it is looked for. -/
theorem buildEvent_isCloudEvent {b b' : Builder} {p : Prefix} {mint : Mint}
    {journal after : Journal} {m : Message}
    (h : (b.buildEvent p).exec mint journal = (.ok (b', .ok m), after)) :
    m.payload = b.payload ∧ m.headers.canonicalize.isCloudEvent = true ∧
      ∀ (r : Reader) (resolver : Resolver) (fallback : Value) (mint' : Mint) (journal' : Journal),
        ∃ out after', (m.toCanonical r resolver fallback).exec mint' journal' = (.ok out, after') ∧
          after'.effects = journal'.effects ∧ out.payload = m.payload := by
  obtain ⟨hp, there, rfl⟩ := exists_eq_event_of_buildEvent h
  have hevent := isCloudEvent_event b there hp mint journal.drawn
  refine ⟨payload_event b there p mint journal.drawn, hevent,
    fun r resolver fallback mint' journal' => ?_⟩
  exact Message.exists_toCanonical_of_isCloudEvent hevent r resolver fallback mint' journal'

/-- A builder with attributes under all prefixes, a null among them, and with the content type of an
event in structured mode. -/
def mixedBuilder : Builder where
  payload := .bytes []
  headers := Fields.ofList [("ce-type", .null), ("ce_type", .text "order"),
    ("cloudEvents:source", .text "/orders"),
    (Header.contentType, .text "application/cloudevents+json")]

/-- Its event is not read as a document. -/
theorem buildEvent_isCloudEvent_mixedBuilder :
    ∃ b' m after, (mixedBuilder.buildEvent .kafka).exec ⟨fun _ => "1", 0⟩ {}
        = (.ok (b', .ok m), after) ∧
      m.headers.get? Header.contentType = some (.text "application/cloudevents+json") ∧
      ∃ out after', (m.toCanonical ⟨fun _ _ => .error .emptyPayload⟩).exec ⟨fun _ => "2", 0⟩ {}
          = (.ok out, after') ∧ after'.effects = [] ∧ out.payload = .bytes [] := by
  have hrun := exec_buildEvent mixedBuilder rfl (q := .kafka) (by decide) ⟨fun _ => "1", 0⟩ {}
  obtain ⟨hpayload, -, hcanonical⟩ := buildEvent_isCloudEvent hrun
  obtain ⟨out, after', hexec, heffects, hout⟩ := hcanonical ⟨fun _ _ => .error .emptyPayload⟩ {}
    Conversion.defaultDataContentType ⟨fun _ => "2", 0⟩ {}
  exact ⟨_, _, _, hrun, rfl, out, after', hexec, heffects, hout.trans hpayload⟩

end Builder

end CloudEvents
