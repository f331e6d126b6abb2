import CloudEvents.Proofs.Attribute.Order
import CloudEvents.Proofs.Conversion.Branches
import CloudEvents.Proofs.Conversion.Envelope
/-!
# Structured forms are read as documents

What `toStructured` makes is meant for `toCanonical`: it has to be taken for an event in structured
mode and for nothing else. Whatever headers the event had, none of its attributes is left around the
body. They were brought to the canonical prefix and went into the document, so the form is no event
in binary mode; and its content type is written anew, so it is the one of a document in JSON.

What is left of the headers is told in order: an event that loses its attributes, its identity and
its content type is the form without the two that it was given.

## Main statements

* `Message.filterKeys_structured`: the headers that are kept, in order;
* `Message.toStructured_reenters`: the way of a structured form through the next conversion.
-/

namespace CloudEvents

namespace Message

/-- The headers that a message was given have the names of none of its own. -/
theorem filterKeys_given (m : Message) : m.given.filterKeys (fun k => !Header.isStamp k) = m.given :=
  Fields.ext (List.filter_eq_self.2 fun e he => by
    simpa using m.given_free e.1 (List.mem_map_of_mem he))

/-- The timestamp is the last header: it may be taken out and put back. -/
theorem insert_timestamp_filterKeys (m : Message) {p : String → Bool}
    (hid : p Header.identity = false) (hts : p Header.timestamp = true) :
    ((m.headers.filterKeys p).filterKeys fun k => !Header.isStamp k).insert Header.timestamp
      m.timestamp = m.headers.filterKeys p := by
  have hstamp : (!Header.isStamp Header.timestamp) = false := by decide
  rw [filterKeys_headers hid hts, Fields.filterKeys_insert, hstamp, if_neg Bool.false_ne_true,
    Fields.filterKeys_comm, filterKeys_given]

variable {m s : Message} {c : Converter} {override : Value} {mint : Mint} {journal after : Journal}

/-- Around the body stand the headers of the event that are no attributes, with a content type. -/
theorem filterKeys_structuredBuilder (headers : Fields Value) (body : List UInt8) :
    (Conversion.structuredBuilder (Conversion.envelope headers.canonicalize) body).headers.filterKeys
        (fun k => k != Header.identity && k != Header.contentType) =
      headers.filterKeys fun k =>
        !Prefix.isAttributeKey k && k != Header.identity && k != Header.contentType := by
  have htype : (Header.contentType != Header.identity && Header.contentType != Header.contentType)
      = false := by decide
  -- the envelope has lost the identity already, which is not kept here either
  have henvelope : (Conversion.envelope headers.canonicalize).filterKeys
        (fun k => k != Header.identity && k != Header.contentType) =
      (headers.canonicalize.filterKeys fun k => !Prefix.canonical.marks k).filterKeys
        fun k => k != Header.identity && k != Header.contentType := by
    rw [Conversion.envelope, Fields.filterKeys_filterKeys, Fields.filterKeys_filterKeys]
    refine congrArg headers.canonicalize.filterKeys (funext fun k => ?_)
    cases k != Header.identity <;> simp
  rw [Conversion.structuredBuilder, Builder.filterKeys_set_of_not htype,
    Fields.filterKeys_erase_of_not htype, henvelope, Fields.filterKeys_not_marks_canonicalize,
    Fields.filterKeys_filterKeys]
  refine congrArg headers.filterKeys (funext fun k => ?_)
  rw [Bool.and_comm, Bool.and_assoc]

/-- Apart from the identity and the content type, a structured form has the headers of the event that
are no attributes, in their order. -/
theorem filterKeys_structured
    (h : (m.toStructured c override).exec mint journal = (.ok s, after)) :
    s.headers.filterKeys (fun k => k != Header.identity && k != Header.contentType) =
      m.headers.filterKeys fun k =>
        !Prefix.isAttributeKey k && k != Header.identity && k != Header.contentType := by
  have htime := timestamp_toStructured h
  obtain ⟨-, body, n, rfl⟩ := exists_stamped_of_toStructured h
  rw [filterKeys_headers (by decide) (by decide), htime]
  have hgiven : ((Conversion.structuredBuilder (Conversion.envelope m.headers.canonicalize)
      body).stamped (structuredBuilder_there _ body) mint n).given =
        (Conversion.structuredBuilder (Conversion.envelope m.headers.canonicalize)
          body).headers.filterKeys fun k => !Header.isStamp k := rfl
  rw [hgiven, Fields.filterKeys_comm, filterKeys_structuredBuilder,
    insert_timestamp_filterKeys m (by decide) (by decide)]

/-- **Structured forms are read as documents.**  Whatever the headers of the event were, and
whatever the converter and the override: a structured form has no attributes among its headers,
which are canonical, declare an event in structured mode and are not those of one in binary mode.
They are the headers of the event that are no attributes, in their order and the timestamp among
them, with an identity and a content type of its own. On its way to a canonical form any reader is
asked exactly once: about its body, with JSON for the content type. -/
theorem toStructured_reenters
    (h : (m.toStructured c override).exec mint journal = (.ok s, after)) :
    (∀ k ∈ s.headers, Prefix.isAttributeKey k = false) ∧ s.headers.canonicalize = s.headers ∧
      s.headers.isStructured {} = .ok true ∧ s.headers.isCloudEvent = false ∧
      (s.headers.filterKeys fun k => k != Header.identity && k != Header.contentType) =
        (m.headers.filterKeys fun k =>
          !Prefix.isAttributeKey k && k != Header.identity && k != Header.contentType) ∧
      s.headers.get? Header.identity = some (.text s.identity) ∧
      s.headers.get? Header.contentType = some (.text "application/cloudevents+json") ∧
      ∀ (r : Reader) (fallback : Value) (mint' : Mint) (journal' : Journal), ∃ request,
        ((s.toCanonical r {} fallback).exec mint' journal').2.effects
            = journal'.effects ++ [.read request .mapping] ∧
          request.payload = s.payload ∧
          request.headers = (s.headers.insert Header.contentType (.mediaType MediaType.json)).insert
            Header.identity (.text (mint'.identity journal'.drawn)) := by
  have hkept := filterKeys_structured h
  obtain ⟨-, body, n, hs⟩ := exists_stamped_of_toStructured h
  have henvelope : m.IsEnvelope s := hs ▸ m.isEnvelope_stamped body mint n
  have hwraps := henvelope.wraps
  have hdeclares := Fields.structuredType?_eq_some_iff.1 hwraps.structuredType?
  have hsame := hwraps.canonicalize
  refine ⟨fun k hk => Fields.isAttributeKey_eq_false_iff.2 (hwraps.plain k hk), hsame, ?_, ?_, hkept,
    ?_, henvelope.contentType, fun r fallback mint' journal' => ?_⟩
  · rw [Fields.isStructured, ← hsame, hwraps.structuredType?]
    rfl
  · rw [← hsame]
    exact hdeclares.noEvent
  · rw [get?_headers, if_neg (by decide), if_pos rfl]
  · exact exists_asked r fallback hdeclares mint' journal'

/-- An order whose attributes are under all prefixes, with a null among them and one beside them, and
with a content type of its own. -/
def scatteredOrder : Message :=
  stamp (.text "hello") (Value.isNull_text _)
    (Fields.ofList [("ce_specversion", .text "1.0"), ("traceparent", .null),
      ("cloudEvents:type", .text "order.created"), (Header.contentType, .mediaType MediaType.json),
      ("ce-source", .null)]) "1" (.int 5) 0

/-- A converter that writes nothing and reads nothing. -/
def muteConverter : Converter where
  read _ _ := .error .emptyPayload
  supports _ := false
  write _ _ := .ok []

/-- Of the order no more than its trace and its timestamp is left around the body, and the converter
is asked about that. -/
theorem toStructured_reenters_scatteredOrder :
    ∃ s after, (scatteredOrder.toStructured muteConverter).exec ⟨fun _ => "2", 0⟩ {}
        = (.ok s, after) ∧
      (s.headers.filterKeys fun k => k != Header.identity && k != Header.contentType).entries
        = [("traceparent", .null), ("timestamp", .int 5)] ∧
      ∃ request, ((s.toCanonical muteConverter.toReader).exec ⟨fun _ => "3", 0⟩ {}).2.effects
          = [.read request .mapping] ∧
        request.payload = .bytes [] ∧
        request.headers.get? Header.contentType = some (.mediaType MediaType.json) := by
  obtain ⟨s, after, hrun, hbody⟩ : ∃ s after,
      (scatteredOrder.toStructured muteConverter).exec ⟨fun _ => "2", 0⟩ {} = (.ok s, after) ∧
        s.payload = .bytes [] := ⟨_, _, rfl, rfl⟩
  obtain ⟨-, -, -, -, hkept, -, -, hasked⟩ := toStructured_reenters hrun
  obtain ⟨request, heffects, hpayload, hheaders⟩ :=
    hasked muteConverter.toReader Conversion.defaultDataContentType ⟨fun _ => "3", 0⟩ {}
  refine ⟨s, after, hrun, hkept ▸ rfl, request, heffects, hpayload.trans hbody, ?_⟩
  rw [hheaders, Fields.get?_insert, if_neg (by decide), Fields.get?_insert, if_pos rfl]

end Message

end CloudEvents
