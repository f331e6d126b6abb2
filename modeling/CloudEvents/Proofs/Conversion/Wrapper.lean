import CloudEvents.Proofs.Attribute.Canonicalize
import CloudEvents.Proofs.Conversion.Merge
import CloudEvents.Proofs.Conversion.Syntax
/-!
# Messages around a document

A message that declares an event in structured mode and has no attributes of its own has nothing but
its body to say about the event (`Message.Wraps`). Its headers are their own canonical form, the
converter is asked for the document in the body, and the canonical form is built of that: its
members become attributes, its data becomes the payload, and the headers around it are kept.

## Main statements

* `Message.Wraps.exec_toCanonical`, `Message.Wraps.toCanonical_ok`: the canonical form of such a
  message;
* `Message.Wraps.get?_stamped`: the headers of that;
* `MediaType.isJsonEvent_of_agrees`: the media types that declare such a document.
-/

namespace CloudEvents

/-- A media type of an event in structured mode whose syntax the JSON converter reads. -/
structure MediaType.IsJsonEvent (m : MediaType) : Prop where
  /-- The body is a document of an event. -/
  structured : m.isStructuredEvent = true
  /-- The syntax of the document is JSON. -/
  supported : JsonConverter.supports (some m.syntaxType) = true

/-- Whatever their parameters are, the two media types of an event in structured mode are read. -/
theorem MediaType.isJsonEvent_of_agrees {m : MediaType}
    (h : m.agrees .event = true ∨ m.agrees .eventJson = true) : m.IsJsonEvent := by
  have hparts : m.mainType = event.mainType ∧
      (m.subtype = event.subtype ∨ m.subtype = eventJson.subtype) := by
    simp only [agrees, Bool.and_eq_true, beq_iff_eq] at h
    rcases h with ⟨hmain, hsub⟩ | ⟨hmain, hsub⟩
    · exact ⟨hmain, Or.inl hsub⟩
    · exact ⟨hmain, Or.inr hsub⟩
  have hsyntax : m.suffix? = none ∨ m.suffix? = some "json" := by
    rcases hparts.2 with hsub | hsub
    · rw [suffix?, hsub]
      exact Or.inl rfl
    · rw [suffix?, hsub]
      exact Or.inr rfl
  constructor
  · rw [isStructuredEvent, hparts.1]
    rcases hparts.2 with hsub | hsub <;> rw [hsub] <;> decide
  · exact (supports_syntaxType_iff hparts.1).2 (isInJson_iff.2 hsyntax)

namespace Message

/-- A message with a document of an event for a body and no attributes around it. -/
structure Wraps (s : Message) (mediaType : MediaType) : Prop where
  /-- No header is an attribute. -/
  plain : ∀ k ∈ s.headers, Prefix.ofKey k = .none
  /-- The media type is the one that the headers declare. -/
  declared : ({} : Resolver).resolve s.headers = .ok (some mediaType)
  /-- It is one of an event in structured mode written as JSON. -/
  event : mediaType.IsJsonEvent

namespace Wraps

variable {s out : Message} {mediaType : MediaType} {c : JsonConverter} {d : Fields Value}
  {p fallback : Value}

/-- The headers are their own canonical form. -/
theorem canonicalize (h : s.Wraps mediaType) : s.headers.canonicalize = s.headers :=
  Fields.canonicalize_eq_self fun _ hk => canonicalKey_of_none (h.plain _ hk) false

/-- There are no attributes. -/
theorem get?_key (h : s.Wraps mediaType) {q : Prefix} (hq : q ≠ .none) (name : String) :
    s.headers.get? (q.key name) = none := by
  rw [Fields.get?_eq_none_iff]
  intro hk
  have hkey := h.plain _ hk
  rw [Prefix.ofKey_key hq] at hkey
  exact hq hkey

theorem structuredType? (h : s.Wraps mediaType) :
    s.headers.canonicalize.structuredType? {} = .ok (some mediaType) := by
  have hevent : s.headers.isCloudEvent = false := by
    rw [Fields.isCloudEvent, List.all_eq_false]
    refine ⟨.specversion, by decide, ?_⟩
    have hnone := h.get?_key (q := .canonical) (by decide) Attribute.specversion.name
    rw [Attribute.canonical_key_name, Fields.get?_eq_none_iff] at hnone
    simpa using hnone
  have hmem : Header.contentType ∈ s.headers := by
    by_contra hnot
    have hnone : ({} : Resolver).resolve s.headers = .ok none := by
      rw [Resolver.resolve, Fields.value_of_not_mem hnot]
    rw [h.declared] at hnone
    cases hnone
  rw [h.canonicalize, Fields.structuredType?, hevent, decide_eq_true hmem, Bool.not_true,
    Bool.false_or, if_neg Bool.false_ne_true, h.declared]
  simp only [Except.map, Option.filter_some, h.event.structured, if_true]

/-! ## Its canonical form -/

/-- The converter reads the document out of the body. -/
theorem read_syntaxRequest (h : s.Wraps mediaType)
    (hbody : JsonConverter.payloadValue (c.encodingFor (some mediaType.syntaxType)) s.payload
      c.codecs = .ok (.ofFields d)) (mint : Mint) (n : Nat) :
    c.toConverter.read (s.syntaxRequest mediaType mint n) .mapping = .ok (.ofFields d) :=
  c.read_ofMessage h.event.supported hbody rfl s.payload_there mint n

/-- The canonical form is built from the headers and the document. -/
theorem exec_toCanonical (h : s.Wraps mediaType)
    (hbody : JsonConverter.payloadValue (c.encodingFor (some mediaType.syntaxType)) s.payload
      c.codecs = .ok (.ofFields d))
    (hp : Conversion.payload (d.canonicalize true) = .ok p) (fallback : Value) (mint : Mint)
    (journal : Journal) :
    ∃ there after, (s.toCanonical c.toConverter.toReader {} fallback).exec mint journal =
      (.ok ((Conversion.binaryBuilder s.headers (d.canonicalize true) p fallback).stamped there
        mint (journal.drawn + 1)), after) := by
  have there := Conversion.binaryBuilder_there hp s.headers fallback
  have hdocument := Conversion.document_ofFields (declares s.headers) d
  have hstart := @exec_toCanonical_structured s c.toConverter.toReader {} fallback mint journal _
    h.structuredType?
  rw [h.canonicalize] at hstart
  exact ⟨there, _, hstart.trans
    (exec_ofStructured (h.read_syntaxRequest hbody mint journal.drawn) hdocument hp there)⟩

/-- If there is a canonical form, then the document has data. -/
theorem toCanonical_ok (h : s.Wraps mediaType)
    (hbody : JsonConverter.payloadValue (c.encodingFor (some mediaType.syntaxType)) s.payload
      c.codecs = .ok (.ofFields d))
    {mint : Mint} {journal after : Journal}
    (hrun : (s.toCanonical c.toConverter.toReader {} fallback).exec mint journal
      = (.ok out, after)) :
    ∃ p there, Conversion.payload (d.canonicalize true) = .ok p ∧
      out = (Conversion.binaryBuilder s.headers (d.canonicalize true) p fallback).stamped there
        mint (journal.drawn + 1) := by
  rw [exec_toCanonical_structured mint journal h.structuredType?] at hrun
  obtain ⟨answer, document, p, hanswer, hdocument, hp, there, rfl⟩ := ofStructured_ok hrun
  rw [h.read_syntaxRequest hbody, Except.ok.injEq] at hanswer
  rw [← hanswer, Conversion.document_ofFields, Except.ok.injEq] at hdocument
  subst hdocument
  refine ⟨p, Conversion.binaryBuilder_there hp s.headers fallback, hp, ?_⟩
  simp only [h.canonicalize]

/-! ## The headers of the canonical form -/

section

variable (h : s.Wraps mediaType) {document : Fields Value}
  (there : (Conversion.binaryBuilder s.headers document p fallback).payload.isNull = false)
  (mint : Mint) (n : Nat)
include h

theorem get?_stamped {k : String} (hid : k ≠ Header.identity) :
    ((Conversion.binaryBuilder s.headers document p fallback).stamped there mint n).headers.get? k =
      if k = Header.contentType then
        (Conversion.dataContentType s.headers document fallback).withMediaTypeText.toOption
      else
        match s.headers.get? k with
        | some v => v.toOption
        | none =>
          if k = Attribute.data.key ∨ k = Attribute.dataBase64.key then none
          else document.get? k := by
  have hown : s.headers.get? Header.timestamp = some s.timestamp := by
    rw [← h.canonicalize, get?_timestamp_canonicalize]
  have htime : (Conversion.binaryBuilder s.headers document p fallback).headers.get?
      Header.timestamp = some s.timestamp := by
    rw [Conversion.get?_binaryBuilder _ _ _ _ (by decide), if_neg (by decide), hown]
    exact Value.toOption_of_not_isNull s.timestamp_there
  rw [Builder.get?_stamped_of_timestamp htime s.timestamp_there _ _ _ hid]
  exact Conversion.get?_binaryBuilder _ _ _ _ hid

/-- An attribute is the one of the document, which loses its data. -/
theorem get?_key_stamped (name : String) :
    ((Conversion.binaryBuilder s.headers document p fallback).stamped there mint n).headers.get?
        (Prefix.canonical.key name) =
      if name = Attribute.data.name ∨ name = Attribute.dataBase64.name then none
      else document.get? (Prefix.canonical.key name) := by
  have hplain : ∀ k, Prefix.ofKey k = .none → Prefix.canonical.key name ≠ k := by
    rintro k hk rfl
    rw [Prefix.ofKey_key (by decide)] at hk
    cases hk
  rw [h.get?_stamped there mint n (hplain _ rfl), if_neg (hplain _ rfl), h.get?_key (by decide)]
  simp only [← Attribute.canonical_key_name, Prefix.key_inj]

/-- The content type is the one that the document declares for its data. -/
theorem get?_contentType_stamped :
    ((Conversion.binaryBuilder s.headers document p fallback).stamped there mint n).headers.get?
        Header.contentType =
      ((document.value Attribute.datacontenttype.key).orElse
        fallback).withMediaTypeText.toOption := by
  have hown : s.headers.value Attribute.datacontenttype.key = .null := by
    rw [Fields.value, ← Attribute.canonical_key_name, h.get?_key (by decide)]
    rfl
  rw [h.get?_stamped there mint n (by decide), if_pos rfl, Conversion.dataContentType, hown,
    Value.null_orElse]

/-- A header without a prefix is the one of the message: no member of a document is one. -/
theorem get?_stamped_of_none (hdocument : ∀ k ∈ document, Prefix.ofKey k = .canonical) {k : String}
    (hk : Prefix.ofKey k = .none) (hid : k ≠ Header.identity) (hct : k ≠ Header.contentType) :
    ((Conversion.binaryBuilder s.headers document p fallback).stamped there mint n).headers.get? k
      = (s.headers.get? k).bind Value.toOption := by
  have hnot : document.get? k = none := by
    rw [Fields.get?_eq_none_iff]
    intro hmem
    cases hk.symm.trans (hdocument k hmem)
  rw [h.get?_stamped there mint n hid, if_neg hct, hnot, ite_self]
  cases s.headers.get? k <;> rfl

/-- No attribute is under another prefix. -/
theorem keysUnder_stamped (hdocument : ∀ k ∈ document, Prefix.ofKey k = .canonical) :
    ((Conversion.binaryBuilder s.headers document p fallback).stamped there mint
      n).headers.KeysUnder .canonical := by
  intro k hk
  rcases Builder.mem_stamped.1 hk with hstamp | hk
  · rcases Header.isStamp_iff.1 hstamp with rfl | rfl
    · exact Or.inl rfl
    · exact Or.inl rfl
  · rcases Conversion.mem_binaryBuilder hk with rfl | hk | hk
    · exact Or.inl rfl
    · exact Or.inl (h.plain k hk)
    · exact Or.inr (hdocument k hk)

end

end Wraps

end Message

end CloudEvents
