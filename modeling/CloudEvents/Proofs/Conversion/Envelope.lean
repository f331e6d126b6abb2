import CloudEvents.Proofs.Conversion.Data
import CloudEvents.Proofs.Conversion.Wrapper
/-!
# Envelopes of structured forms

A structured form is a body with headers around it. The headers are the same for every body: those
of the event that have no prefix, with the content type of an event in structured mode
(`Message.IsEnvelope`). So a structured form wraps a document, and its canonical form is the one of
such a message.

A run of `toStructured` that succeeds is inverted here. It leaves a body that can be read, with a
document that says member by member what was written.

## Main statements

* `Message.toStructured_ok`: what a structured form is;
* `Message.IsEnvelope.wraps`: it wraps a document;
* `Message.exists_toCanonical_of_toStructured`: it has a canonical form, with the payload of the
  event if JSON has that.
-/

namespace CloudEvents

namespace Message

/-- The headers of `s` are those of a structured form of `m`. -/
structure IsEnvelope (m s : Message) : Prop where
  /-- The content type is the one of an event in structured mode. -/
  contentType : s.headers.get? Header.contentType = some (.text MediaType.eventJson.text)
  /-- The other headers are those without a prefix. -/
  others : ∀ k, k ≠ Header.identity → k ≠ Header.contentType →
    s.headers.get? k =
      if Prefix.canonical.marks k then none else m.headers.canonicalize.get? k

variable {m s : Message} {c : JsonConverter}

/-- Around every body there are such headers. -/
theorem isEnvelope_stamped (m : Message) (body : List UInt8) (mint : Mint) (n : Nat) :
    m.IsEnvelope
      ((Conversion.structuredBuilder (Conversion.envelope m.headers.canonicalize) body).stamped
        (structuredBuilder_there _ body) mint n) := by
  have hget : ∀ k, k ≠ Header.identity → k ≠ Header.contentType →
      (Conversion.structuredBuilder (Conversion.envelope m.headers.canonicalize)
        body).headers.get? k =
          if Prefix.canonical.marks k then none else m.headers.canonicalize.get? k := by
    intro k hid hct
    rw [Conversion.structuredBuilder, Builder.get?_set, if_neg hct, Fields.get?_erase, if_neg hct,
      Conversion.envelope, Fields.get?_filterKeys, bne_iff_ne.2 hid, Bool.and_true]
    cases Prefix.canonical.marks k <;> rfl
  have htime : (Conversion.structuredBuilder (Conversion.envelope m.headers.canonicalize)
      body).headers.get? Header.timestamp = some m.timestamp := by
    rw [hget _ (by decide) (by decide), get?_timestamp_canonicalize]
    rfl
  refine ⟨?_, fun k hid hct => ?_⟩
  · rw [Builder.get?_stamped _ _ _ _ (by decide), Conversion.structuredBuilder, Builder.get?_set,
      if_pos rfl]
    rfl
  · rw [Builder.get?_stamped_of_timestamp htime m.timestamp_there _ _ _ hid, hget k hid hct]

/-- A structured form is made of an event, whatever the converter is: it is some body with the
headers of the event around it. -/
theorem exists_stamped_of_toStructured {c : Converter} {override : Value} {mint : Mint}
    {journal after : Journal}
    (h : (m.toStructured c override).exec mint journal = (.ok s, after)) :
    m.headers.canonicalize.isCloudEvent = true ∧ ∃ body n,
      s = (Conversion.structuredBuilder (Conversion.envelope m.headers.canonicalize) body).stamped
        (structuredBuilder_there _ body) mint n := by
  rw [exec_toStructured] at h
  split at h
  · rename_i hevent
    refine ⟨hevent, ?_⟩
    split at h
    · cases h
    · rename_i document mid hdata
      split at h
      · cases h
      · rename_i body hbody
        rw [Builder.exec_build _ (structuredBuilder_there _ body), Prod.mk.injEq] at h
        exact ⟨body, mid.drawn, (Except.ok.inj h.1).symm⟩
  · cases h

/-- A structured form has the timestamp of the event, whatever the converter is. -/
theorem timestamp_toStructured {c : Converter} {override : Value} {mint : Mint}
    {journal after : Journal}
    (h : (m.toStructured c override).exec mint journal = (.ok s, after)) :
    s.timestamp = m.timestamp := by
  obtain ⟨-, body, n, rfl⟩ := exists_stamped_of_toStructured h
  have hsame := (m.isEnvelope_stamped body mint n).others Header.timestamp (by decide) (by decide)
  rw [get?_timestamp_canonicalize, get?_headers, if_pos rfl] at hsame
  exact Option.some.inj hsame

/-- A structured form is an envelope around a body that can be read, and the document in this says
member by member what was written. -/
theorem toStructured_ok {override : Value} {mint : Mint} {journal after : Journal}
    (h : (m.toStructured c.toConverter override).exec mint journal = (.ok s, after)) :
    m.headers.canonicalize.isCloudEvent = true ∧ m.IsEnvelope s ∧
      ∃ document d : Fields Value,
        Conversion.filled c m.payload (Conversion.outlineWith override m.headers.canonicalize)
          = .ok document ∧
        c.IsBody s.payload (.ofFields d) ∧
        Fields.EntriesRelate Json.Renders document.entries d.entries := by
  obtain ⟨n, hrun⟩ := m.exists_exec_toStructured c override mint journal
  rw [h] at hrun
  obtain ⟨body, hbody, rfl⟩ := exists_of_map_eq_ok hrun.symm
  rw [Conversion.structuredBody] at hbody
  split at hbody
  · rename_i hevent
    obtain ⟨document, hfilled, hwrite⟩ := exists_of_bind_eq_ok hbody
    obtain ⟨d, hd, hsame⟩ := JsonConverter.exists_isBody_of_write hwrite
    exact ⟨hevent, isEnvelope_stamped m body mint n, document, d, hfilled, hd, hsame⟩
  · cases hbody

/-- If the data of an event can be put into its document and the document is read back, then there
is a structured form, with the document in its body. -/
theorem exists_toStructured_of_filled (hc : c.ReadsBack) {override : Value}
    (hevent : m.headers.canonicalize.isCloudEvent = true) {document : Fields Value}
    (hfilled : Conversion.filled c m.payload
      (Conversion.outlineWith override m.headers.canonicalize) = .ok document)
    (hreads : ∃ text, Json.write (.ofFields document) = .ok text ∧
      Json.Reads (.ofFields document) text) (mint : Mint) (journal : Journal) :
    ∃ s after bs, (m.toStructured c.toConverter override).exec mint journal = (.ok s, after) ∧
      m.IsEnvelope s ∧ s.payload = .bytes bs ∧
      JsonConverter.payloadValue c.encoding (.bytes bs) c.codecs = .ok (.ofFields document) := by
  obtain ⟨bs, text, hwrite, htext, hvalue⟩ := JsonConverter.exists_write_of_reads hc hreads
  have hbody : Conversion.structuredBody c m.payload override m.headers.canonicalize
      = .ok bs := by
    rw [Conversion.structuredBody, if_pos hevent, hfilled]
    exact hwrite (some MediaType.json) (by decide)
  obtain ⟨n, hrun⟩ := m.exists_exec_toStructured c override mint journal
  rw [hbody] at hrun
  exact ⟨_, _, bs, Prod.ext hrun rfl, m.isEnvelope_stamped bs mint n,
    Builder.payload_stamped _ (structuredBuilder_there _ bs) mint n,
    JsonConverter.payloadValue_bytes htext hvalue⟩

namespace IsEnvelope

theorem ofKey_of_mem (h : m.IsEnvelope s) {k : String} (hk : k ∈ s.headers) :
    Prefix.ofKey k = .none := by
  by_cases hid : k = Header.identity
  · rw [hid]
    rfl
  · by_cases hct : k = Header.contentType
    · rw [hct]
      rfl
    · rw [Fields.mem_iff_isSome_get?, h.others k hid hct] at hk
      split at hk
      · cases hk
      · rename_i hmark
        rcases Fields.ofKey_of_mem_canonicalize (Fields.mem_iff_isSome_get?.2 hk) with hkey | hkey
        · exact absurd ((Prefix.marks_iff_ofKey_eq (by decide)).2 hkey) hmark
        · exact hkey.2

/-- Such headers have no attributes among them. -/
theorem wraps (h : m.IsEnvelope s) : s.Wraps .eventJson where
  plain _ hk := h.ofKey_of_mem hk
  declared := by
    rw [Resolver.resolve, Fields.value_of_get? h.contentType]
    rfl
  event := MediaType.isJsonEvent_of_agrees (Or.inr (by decide))

/-- A header without a prefix is the one of the event. -/
theorem get?_of_none (h : m.IsEnvelope s) {k : String} (hk : Prefix.ofKey k = .none)
    (hid : k ≠ Header.identity) (hct : k ≠ Header.contentType) :
    s.headers.get? k = m.headers.canonicalize.get? k := by
  have hmark : Prefix.canonical.marks k = false := by
    rw [Prefix.marks_eq_false_iff (by decide), hk]
    decide
  rw [h.others k hid hct, hmark, if_neg Bool.false_ne_true]

end IsEnvelope

/-! ## The data -/

/-- If the names under foreign prefixes are no names of attributes, then they are no members of the
document that is read. -/
theorem foreign_not_mem {document d : Fields Value} {override : Value} {a b : Attribute} {v : Value}
    (hdocument : document
      = (Conversion.outlineWith override m.headers.canonicalize).insert b.name v)
    (hsame : Fields.EntriesRelate Json.Renders document.entries d.entries)
    (hforeign : ∀ p : Prefix, p ≠ .none → p ≠ .canonical →
      Prefix.canonical.key (p.key a.name) ∉ m.headers.canonicalize)
    {p : Prefix} (hp : p ≠ .none) (hcanonical : p ≠ .canonical) : p.key a.name ∉ d := by
  have hbare : ∀ b : Attribute, p.key a.name ≠ b.name := by
    intro b heq
    have hkey := Prefix.ofKey_key hp a.name
    rw [heq] at hkey
    exact hp (hkey.symm.trans (by cases b <;> rfl))
  rw [← hsame.mem_iff, hdocument, Fields.mem_insert, or_iff_right (hbare b),
    Conversion.mem_outlineWith (hbare .datacontenttype)]
  exact hforeign p hp hcanonical

/-- If JSON has the payload of an event, then its structured form has a canonical form, with that
payload. -/
theorem exists_toCanonical_of_toStructured (hc : c.ReadsBack) (hpayload : m.payload.IsJson)
    (hforeign : ∀ p : Prefix, p ≠ .none → p ≠ .canonical →
      Prefix.canonical.key (p.key Attribute.data.name) ∉ m.headers.canonicalize)
    {override : Value} {mint : Mint} {journal after : Journal}
    (hs : (m.toStructured c.toConverter override).exec mint journal = (.ok s, after))
    (fallback : Value) (mint' : Mint) (journal' : Journal) :
    ∃ out after', (s.toCanonical c.toConverter.toReader {} fallback).exec mint' journal'
      = (.ok out, after') ∧ out.payload = m.payload := by
  obtain ⟨-, henvelope, document, d, hfilled, hbody, hsame⟩ := toStructured_ok hs
  rw [Conversion.filled, hpayload.bytes?_eq_none, Except.ok.injEq] at hfilled
  have hmember : document.get? Attribute.data.name = some m.payload := by
    rw [← hfilled, Fields.get?_insert, if_pos rfl]
  obtain ⟨w, hw, hrenders⟩ := hsame.exists_get? hmember
  rw [hrenders.eq_of_isJson hpayload] at hw
  have hdata : (d.canonicalize true).value Attribute.data.key = m.payload := by
    refine Fields.value_of_get? ?_
    rw [← Attribute.canonical_key_name, Fields.get?_canonicalize_of_foreign (by decide)
      (Fields.mem_of_get?_eq_some hw)
      (fun _ hp hcanonical => foreign_not_mem hfilled.symm hsame hforeign hp hcanonical), hw]
  have hp : Conversion.payload (d.canonicalize true) = .ok m.payload := by
    rw [Conversion.payload, hdata, m.payload_there]
    rfl
  obtain ⟨there, after', hrun⟩ :=
    henvelope.wraps.exec_toCanonical (hbody.payloadValue_eq hc) hp fallback mint' journal'
  refine ⟨_, after', hrun, ?_⟩
  rw [Builder.payload_stamped, Conversion.payload_binaryBuilder]

end Message

end CloudEvents
