import CloudEvents.Proofs.Conversion.Branches
import CloudEvents.Proofs.Conversion.Envelope
/-!
# The content type of the data on its two ways

An event in binary mode may say the content type of its data twice, as an attribute and as the
content type of the body. Three rules choose between them.

* The canonical form takes the attribute, and the content type if the attribute counts as nothing.
* The structured form takes the attribute, and the content type if the attribute is not there.
* The way back from the structured form takes what the document says, and the fallback if this
  counts as nothing.

They agree on attributes that are missing and on those that count as something. An attribute that is
there and counts as nothing, null or an empty text, keeps the content type out of the document, and
the way back ends at the fallback.

## Main statements

* `Message.dataType_eq_of_toCanonical`: the content type of a canonical form;
* `Message.get?_contentType_comesBack`: the content type after both ways;
* `Message.contentType_comesBack_iff`: when the two are the same.
-/

namespace CloudEvents

namespace Message

variable {m r s out : Message} {c : JsonConverter} {fallback : Value} {mint : Mint}
  {journal after : Journal}

/-! ## The canonical form -/

/-- If the canonical form of an event has a content type that counts as something, then it is the
one that the event declares for its data. -/
theorem dataType_eq_of_toCanonical {reader : Reader} {resolver : Resolver}
    (hevent : m.headers.canonicalize.isCloudEvent = true)
    (h : (m.toCanonical reader resolver fallback).exec mint journal = (.ok r, after))
    (hset : (r.headers.value Header.contentType).isSet = true) :
    (r.headers.value Header.contentType).withMediaTypeText = m.headers.canonicalize.dataType := by
  have hs : m.headers.canonicalize.structuredType? resolver = .ok none := by
    refine Fields.structuredType?_of_not_gate fun hgate => ?_
    rw [hevent] at hgate
    cases hgate.1
  cases hc : m.headers.canonicalize.rebuiltType? with
  | none =>
    -- the message is handed back, with a content type that counts as nothing
    rw [exec_toCanonical_same mint journal hs hc, Prod.mk.injEq, Except.ok.injEq] at h
    rw [← h.1, Fields.value, ← Fields.get?_canonicalize_of_none (by decide)] at hset
    have hnot := (Fields.rebuiltType?_eq_none_iff.1 hc).2
    rw [Fields.value, hset] at hnot
    cases hnot
  | some contentType =>
    rw [exec_toCanonical_rebuilt mint journal hs hc, Prod.mk.injEq, Except.ok.injEq] at h
    have hbuilt := rebuilds_rebuilder (m := m) (Fields.not_isNull_of_rebuiltType? hc) mint
      journal.drawn
    rw [h.1] at hbuilt
    rw [Fields.value_of_get? hbuilt.contentType, Fields.eq_of_rebuiltType?_eq_some hc,
      Fields.dataType, Value.orElse]
    by_cases hdata : (m.headers.canonicalize.value Attribute.datacontenttype.key).isSet = true
    · rw [if_pos ⟨hevent, hdata⟩, if_pos hdata, Value.withMediaTypeText_withMediaTypeText]
    · rw [if_neg fun hboth => hdata hboth.2, if_neg hdata]

/-- If only the body declares the content type of the data, then the body has one. -/
theorem exists_contentType_of_not_mem {headers : Fields Value}
    (h : Attribute.datacontenttype.key ∉ headers) (hset : headers.dataType.isSet = true) :
    ∃ v, headers.get? Header.contentType = some v ∧ v.withMediaTypeText = headers.dataType := by
  have hdata := Conversion.dataType_of_not_mem h
  have hmem : Header.contentType ∈ headers := by
    by_contra hnone
    rw [hdata, Fields.value_of_not_mem hnone] at hset
    cases hset
  obtain ⟨v, hv⟩ := Fields.exists_get?_of_mem hmem
  exact ⟨v, hv, by rw [hdata, Fields.value_of_get? hv]⟩

/-! ## The way through the structured form -/

/-- What the document of an event says about the content type of its data. -/
theorem get?_datacontenttype_outline (headers : Fields Value) :
    (Conversion.outline headers).get? Attribute.datacontenttype.name =
      (headers.get? Attribute.datacontenttype.key).or
        (if headers.dataType.isSet = true then some headers.dataType else none) := by
  have hget := Conversion.get?_outline headers Attribute.datacontenttype.name
  simpa [Attribute.canonical_key_name] using hget

section

variable {mint' : Mint} {journal' after' : Journal} (hc : c.ReadsBack)
  (hpayload : m.payload.bytes? = none)
  (hnames : ∀ p : Prefix, p ≠ .none → p ≠ .canonical →
    Prefix.canonical.key (p.key Attribute.datacontenttype.name) ∉ m.headers.canonicalize)
  (hs : (m.toStructured c.toConverter).exec mint journal = (.ok s, after))
  (hout : (s.toCanonical c.toConverter.toReader {} fallback).exec mint' journal'
    = (.ok out, after'))

include hc hpayload hnames hs hout

/-- After both ways the content type is what the document says, or the fallback. -/
theorem get?_contentType_comesBack {v : Value}
    (hv : (Conversion.outline m.headers.canonicalize).get? Attribute.datacontenttype.name
      = some v) :
    ∃ w, Json.Renders v w ∧ out.headers.get? Header.contentType
      = (w.orElse fallback).withMediaTypeText.toOption := by
  obtain ⟨-, henvelope, document, d, hfilled, hbody, hsame⟩ := toStructured_ok hs
  obtain ⟨p, there, -, rfl⟩ := henvelope.wraps.toCanonical_ok (hbody.payloadValue_eq hc) hout
  rw [Conversion.filled, hpayload, Except.ok.injEq] at hfilled
  have hmember : document.get? Attribute.datacontenttype.name = some v := by
    rw [← hfilled, Fields.get?_insert, if_neg (by decide)]
    exact hv
  obtain ⟨w, hw, hrenders⟩ := hsame.exists_get? hmember
  refine ⟨w, hrenders, ?_⟩
  rw [henvelope.wraps.get?_contentType_stamped there, Fields.value, ← Attribute.canonical_key_name,
    Fields.get?_canonicalize_of_foreign (by decide) (Fields.mem_of_get?_eq_some hw)
      (fun _ hp hcanonical => foreign_not_mem hfilled.symm hsame hnames hp hcanonical), hw]
  rfl

/-- A document that declares the content type of the data brings it back. -/
theorem contentType_comesBack_of_declares
    (hset : m.headers.canonicalize.dataType.isSet = true) {v : Value}
    (hv : (Conversion.outline m.headers.canonicalize).get? Attribute.datacontenttype.name = some v)
    (hdeclares : v.withMediaTypeText = m.headers.canonicalize.dataType)
    (hkeeps : Json.Renders v.withMediaTypeText v.withMediaTypeText) :
    out.headers.get? Header.contentType = some m.headers.canonicalize.dataType := by
  obtain ⟨w, hw, hget⟩ := get?_contentType_comesBack hc hpayload hnames hs hout hv
  have hw' : w = m.headers.canonicalize.dataType :=
    (hw.withMediaTypeText.unique hkeeps).trans hdeclares
  rw [hget, hw', Value.orElse, if_pos hset, ← hdeclares,
    Value.withMediaTypeText_withMediaTypeText, hdeclares]
  exact Value.toOption_of_not_isNull (Value.not_isNull_of_isSet hset)

/-- An attribute that counts as nothing keeps the content type out of the document, and the way back
ends at the fallback. -/
theorem contentType_comesBack_of_empty {v : Value}
    (hown : m.headers.canonicalize.get? Attribute.datacontenttype.key = some v)
    (hempty : ¬v.isSet = true)
    (hkeeps : Json.Renders v.withMediaTypeText v.withMediaTypeText) :
    out.headers.get? Header.contentType = fallback.withMediaTypeText.toOption := by
  have hv := get?_datacontenttype_outline m.headers.canonicalize
  rw [hown, Option.some_or] at hv
  obtain ⟨w, hw, hget⟩ := get?_contentType_comesBack hc hpayload hnames hs hout hv
  rw [hget, hw.withMediaTypeText.unique hkeeps, Value.orElse, Value.isSet_withMediaTypeText,
    if_neg hempty]

end

/-- **When the two conversions agree on the content type of the data.**  Take an event whose data is
not in bytes, whose content types JSON has or are media types, and which has no attribute named like
the content type of the data under a foreign prefix.  If its canonical form has a content type that
counts as something, then the canonical form of its structured form has the same, as a text, if and
only if the attribute is not there, or it counts as something, or the content type happens to be the
fallback. -/
theorem contentType_comesBack_iff (hc : c.ReadsBack)
    (hevent : m.headers.canonicalize.isCloudEvent = true) (hpayload : m.payload.bytes? = none)
    (hvalues : ∀ k v, k = Attribute.datacontenttype.key ∨ k = Header.contentType →
      m.headers.canonicalize.get? k = some v →
        Json.Renders v.withMediaTypeText v.withMediaTypeText)
    (hnames : ∀ p : Prefix, p ≠ .none → p ≠ .canonical →
      Prefix.canonical.key (p.key Attribute.datacontenttype.name) ∉ m.headers.canonicalize)
    {reader : Reader} {resolver : Resolver} {fallback' : Value} {mint' mint'' : Mint}
    {journal' journal'' after' after'' : Journal}
    (hr : (m.toCanonical reader resolver fallback').exec mint journal = (.ok r, after))
    (hset : (r.headers.value Header.contentType).isSet = true)
    (hs : (m.toStructured c.toConverter).exec mint' journal' = (.ok s, after'))
    (hout : (s.toCanonical c.toConverter.toReader {} fallback).exec mint'' journal''
      = (.ok out, after'')) :
    out.headers.get? Header.contentType
        = some (r.headers.value Header.contentType).withMediaTypeText ↔
      Attribute.datacontenttype.key ∉ m.headers.canonicalize ∨
        (m.headers.canonicalize.value Attribute.datacontenttype.key).isSet = true ∨
        (r.headers.value Header.contentType).withMediaTypeText = fallback.withMediaTypeText := by
  have htype := dataType_eq_of_toCanonical hevent hr hset
  have htypeSet : m.headers.canonicalize.dataType.isSet = true := by
    rw [← htype, Value.isSet_withMediaTypeText, hset]
  have hdocument := get?_datacontenttype_outline m.headers.canonicalize
  rw [if_pos htypeSet] at hdocument
  rw [htype]
  cases hown : m.headers.canonicalize.get? Attribute.datacontenttype.key with
  | none =>
    -- the document takes the content type of the body
    have hnot := Fields.get?_eq_none_iff.1 hown
    obtain ⟨v, hv, hdata⟩ := exists_contentType_of_not_mem hnot htypeSet
    rw [hown, Option.none_or, ← hdata] at hdocument
    have hkeeps := hvalues _ v (Or.inr rfl) hv
    rw [← Value.withMediaTypeText_withMediaTypeText] at hdata hkeeps
    exact iff_of_true (contentType_comesBack_of_declares hc hpayload hnames hs hout htypeSet
      hdocument hdata hkeeps) (Or.inl hnot)
  | some v =>
    rw [hown, Option.some_or] at hdocument
    have hmem := Fields.mem_of_get?_eq_some hown
    have hkeeps := hvalues _ v (Or.inl rfl) hown
    rw [Fields.value_of_get? hown]
    by_cases hdata : v.isSet = true
    · have hdeclares : v.withMediaTypeText = m.headers.canonicalize.dataType := by
        rw [Fields.dataType, Fields.value_of_get? hown, Value.orElse, if_pos hdata]
      exact iff_of_true (contentType_comesBack_of_declares hc hpayload hnames hs hout htypeSet
        hdocument hdeclares hkeeps) (Or.inr (Or.inl hdata))
    · rw [contentType_comesBack_of_empty hc hpayload hnames hs hout hown hdata hkeeps,
        Value.toOption_eq_some_iff (Value.not_isNull_of_isSet htypeSet),
        or_iff_right (not_not_intro hmem), or_iff_right hdata, eq_comm]

/-- An order in plain text whose attribute for that says something else. -/
def plainOrder (declared : Value) : Message :=
  order .canonical [("ce-datacontenttype", declared), (Header.contentType, .text "text/plain")]

theorem foreign_plainOrder (declared : Value) (a : Attribute) (p : Prefix) (hp : p ≠ .none)
    (_ : p ≠ .canonical) :
    Prefix.canonical.key (p.key a.name) ∉ (plainOrder declared).headers.canonicalize := by
  intro hmem
  obtain ⟨hnone, -⟩ :=
    names_order ["ce-datacontenttype", Header.contentType] rfl (by decide) hmem
  exact hp ((Prefix.ofKey_key hp a.name).symm.trans hnone)

/-- The order with a media type as attribute. -/
def htmlOrder : Message := plainOrder (.mediaType ⟨"text", "html", .empty⟩)

/-- An attribute that counts as something comes back as the content type. -/
theorem contentType_comesBack_htmlOrder :
    ∃ r s out after after' after'',
      (htmlOrder.toCanonical ({} : JsonConverter).toConverter.toReader).exec ⟨fun _ => "2", 0⟩ {}
          = (.ok r, after) ∧
        (htmlOrder.toStructured ({} : JsonConverter).toConverter).exec ⟨fun _ => "2", 0⟩ {}
          = (.ok s, after') ∧
        (s.toCanonical ({} : JsonConverter).toConverter.toReader).exec ⟨fun _ => "3", 0⟩ {}
          = (.ok out, after'') ∧
        out.headers.get? Header.contentType = some (.text "text/html") := by
  have hr := @exec_toCanonical_rebuilt htmlOrder ({} : JsonConverter).toConverter.toReader {}
    Conversion.defaultDataContentType ⟨fun _ => "2", 0⟩ {} _ rfl rfl
  obtain ⟨s, after', hs⟩ : ∃ s after', (htmlOrder.toStructured
      ({} : JsonConverter).toConverter).exec ⟨fun _ => "2", 0⟩ {} = (.ok s, after') := ⟨_, _, rfl⟩
  obtain ⟨out, after'', hout, -⟩ := exists_toCanonical_of_toStructured
    JsonConverter.readsBack_default (.text "hello") (foreign_plainOrder _ .data) hs
    Conversion.defaultDataContentType ⟨fun _ => "3", 0⟩ {}
  refine ⟨_, s, out, _, after', after'', hr, hs, hout, ?_⟩
  refine (contentType_comesBack_iff JsonConverter.readsBack_default rfl rfl ?_
    (foreign_plainOrder _ .datacontenttype) hr rfl hs hout).2 (Or.inr (Or.inl rfl))
  rintro k v (rfl | rfl) hv
  · cases hv
    exact Json.renders_self (.text _)
  · cases hv
    exact Json.renders_self (.text _)

/-- Not every event keeps its content type: if its attribute is an empty text, its canonical form
has the content type of the body, and the way through the structured form ends at JSON. -/
theorem not_forall_contentType_comesBack :
    ¬∀ (m r s out : Message) (mint : Mint) (after after' after'' : Journal),
      m.headers.canonicalize.isCloudEvent = true → m.payload.IsJson →
      (∀ e ∈ m.headers.entries, e.2.withMediaTypeText.IsJson) →
      (m.toCanonical ({} : JsonConverter).toConverter.toReader).exec mint {} = (.ok r, after) →
      (r.headers.value Header.contentType).isSet = true →
      (m.toStructured ({} : JsonConverter).toConverter).exec mint {} = (.ok s, after') →
      (s.toCanonical ({} : JsonConverter).toConverter.toReader).exec mint {} = (.ok out, after'') →
        out.headers.get? Header.contentType
          = some (r.headers.value Header.contentType).withMediaTypeText := by
  intro h
  have hr := @exec_toCanonical_rebuilt (plainOrder (.text ""))
    ({} : JsonConverter).toConverter.toReader {} Conversion.defaultDataContentType
    ⟨fun _ => "2", 0⟩ {} _ rfl rfl
  obtain ⟨s, after', hs⟩ : ∃ s after', ((plainOrder (.text "")).toStructured
      ({} : JsonConverter).toConverter).exec ⟨fun _ => "2", 0⟩ {} = (.ok s, after') :=
    ⟨_, _, rfl⟩
  obtain ⟨out, after'', hout, -⟩ := exists_toCanonical_of_toStructured
    JsonConverter.readsBack_default (.text "hello") (foreign_plainOrder _ .data) hs
    Conversion.defaultDataContentType ⟨fun _ => "2", 0⟩ {}
  have hvalues : ∀ e ∈ (plainOrder (.text "")).headers.entries, e.2.withMediaTypeText.IsJson := by
    rintro ⟨k, v⟩ he
    rcases get?_order (Fields.get?_eq_some_iff.2 he) with ⟨-, -, -, s, rfl⟩ | hmem | ⟨-, rfl⟩ |
      ⟨-, rfl⟩
    · exact .text s
    · simp only [List.mem_cons, Prod.mk.injEq, List.not_mem_nil, or_false] at hmem
      rcases hmem with ⟨-, rfl⟩ | ⟨-, rfl⟩
      · exact .text _
      · exact .text _
    · exact .text _
    · exact .int 0 (by decide)
  have hcomes := h _ _ s out _ _ after' after'' rfl (.text "hello") hvalues hr rfl hs hout
  obtain ⟨w, hw, hget⟩ := get?_contentType_comesBack JsonConverter.readsBack_default rfl
    (foreign_plainOrder _ .datacontenttype) hs hout (v := .text "") rfl
  rw [hcomes, hw.eq_of_isJson (.text _)] at hget
  have htext : Value.text "text/plain" = .text "application/json" := Option.some.inj hget
  exact absurd (Value.text.inj htext) (by decide)

end Message

end CloudEvents
