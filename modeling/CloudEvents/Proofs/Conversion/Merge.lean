import CloudEvents.Proofs.Attribute.Canonicalize
import CloudEvents.Proofs.Conversion.Outcome
/-!
# Envelope and document

The body of a structured message is written by whoever sent it, and its members may have any names:
those of transport headers, names that carry a prefix already, or names that fall together under
the canonical prefix. The headers of its canonical form are nevertheless told apart by where they
come from.

* Under the canonical prefix the envelope decides; a null in it takes an attribute away, and where
  it is silent the document counts, without its data.
* Every other header is one of the envelope, but for the content type, which is that of the data.

The reason for the second point is that all members are put under the canonical prefix before
anything is merged. The part of the headers outside it is then the same mapping at every step,
whatever the document was (`Builder.filterKeys_setEntries_congr`), and so it is in the end.

## Main statements

* `Conversion.get?_binaryBuilder`: the value of each header before the message is made;
* `Message.merge_and_isolation`: the headers of a canonical form, and their independence of the
  document outside the canonical prefix.
-/

namespace CloudEvents

/-! ## Parts of a builder -/

namespace Builder

variable {p : String → Bool} {b b' : Builder}

/-- What a test keeps of the headers after one is set is told by what it kept before. -/
theorem filterKeys_set_congr (h : b.headers.filterKeys p = b'.headers.filterKeys p) (name : String)
    (v : Value) :
    (b.set name v).headers.filterKeys p = (b'.set name v).headers.filterKeys p := by
  rw [set, set]
  by_cases hv : v.isNull = true
  · simp only [hv, if_true]
    rw [Fields.filterKeys_erase, Fields.filterKeys_erase, h]
  · simp only [hv]
    rw [if_neg Bool.false_ne_true, if_neg Bool.false_ne_true, Fields.filterKeys_insert,
      Fields.filterKeys_insert, h]

theorem filterKeys_setEntries_congr (h : b.headers.filterKeys p = b'.headers.filterKeys p)
    (entries : List (String × Value)) :
    (b.setEntries entries).headers.filterKeys p = (b'.setEntries entries).headers.filterKeys p := by
  induction entries generalizing b b' with
  | nil => exact h
  | cons e rest ih => exact ih (filterKeys_set_congr h e.1 e.2)

/-- A header that the test does not keep can be set to anything. -/
theorem filterKeys_set_of_not {name : String} (hname : p name = false) (v : Value) :
    (b.set name v).headers.filterKeys p = b.headers.filterKeys p := by
  rw [set]
  by_cases hv : v.isNull = true
  · simp only [hv, if_true]
    exact Fields.filterKeys_erase_of_not hname b.headers
  · simp only [hv]
    rw [if_neg Bool.false_ne_true, Fields.filterKeys_insert, hname, if_neg Bool.false_ne_true]

end Builder

theorem Message.filterKeys_headers {m : Message} {p : String → Bool}
    (hid : p Header.identity = false) (hts : p Header.timestamp = true) :
    m.headers.filterKeys p = (m.given.filterKeys p).insert Header.timestamp m.timestamp := by
  rw [headers, Fields.filterKeys_insert, if_pos hts, Fields.filterKeys_insert, hid,
    if_neg Bool.false_ne_true]

/-! ## Headers of the binary form -/

namespace Conversion

/-- The content type that the envelope declares for the data, or else the document. -/
def declared (envelope document : Fields Value) : Value :=
  (envelope.value Attribute.datacontenttype.key).orElse
    (document.value Attribute.datacontenttype.key)

theorem dataContentType_eq (envelope document : Fields Value) (fallback : Value) :
    dataContentType envelope document fallback =
      if (declared envelope document).isSet then declared envelope document else fallback := rfl

theorem nodup_overlay (envelope : Fields Value) : ((overlay envelope).map Prod.fst).Nodup :=
  envelope.nodup.sublist (List.Sublist.map _ List.filter_sublist)

theorem lookup_overlay (envelope : Fields Value) {k : String} (hk : k ≠ Header.identity) :
    (overlay envelope).lookup k = envelope.get? k := by
  have hfilter := Fields.lookup_filter (· != Header.identity) envelope.entries k
  rw [if_pos (by simpa using hk)] at hfilter
  exact hfilter

theorem get?_attributes (document : Fields Value) (k : String) :
    (attributes document).get? k =
      if k = Attribute.data.key ∨ k = Attribute.dataBase64.key then none else document.get? k := by
  rw [attributes, Fields.get?_erase, Fields.get?_erase]
  by_cases hb : k = Attribute.dataBase64.key
  · simp [hb]
  · simp [hb]

/-- The envelope decides about every header it names but its content type, and about the rest the
document. -/
theorem get?_binaryBuilder (envelope document : Fields Value) (p fallback : Value) {k : String}
    (hid : k ≠ Header.identity) :
    (binaryBuilder envelope document p fallback).headers.get? k =
      if k = Header.contentType then
        (dataContentType envelope document fallback).withMediaTypeText.toOption
      else
        match envelope.get? k with
        | some v => v.toOption
        | none =>
          if k = Attribute.data.key ∨ k = Attribute.dataBase64.key then none
          else document.get? k := by
  rw [binaryBuilder, Builder.get?_set]
  by_cases hct : k = Header.contentType
  · rw [if_pos hct, if_pos hct]
  · rw [if_neg hct, if_neg hct, Builder.get?_setEntries (nodup_overlay envelope),
      lookup_overlay envelope hid]
    cases envelope.get? k with
    | none => exact get?_attributes document k
    | some v => rfl

end Conversion

/-- Whether a header is one of the transport: it is outside the canonical prefix, and neither the
identity of the message nor its content type. -/
def Header.isTransport (k : String) : Bool :=
  !Prefix.canonical.marks k && k != Header.identity && k != Header.contentType

theorem Header.isTransport_of_ofKey {k : String} (h : Prefix.ofKey k = .canonical) :
    Header.isTransport k = false := by
  simp [isTransport, (Prefix.marks_iff_ofKey_eq (by decide)).2 h]

namespace Message

/-- The transport headers of a message. -/
def transport (m : Message) : Fields Value := m.headers.filterKeys Header.isTransport

/-- A structured message has the canonical form `out` if the reader of its body answers with the
document `d`. -/
def MergesTo (m : Message) (resolver : Resolver) (fallback : Value) (d : Fields Value)
    (out : Message) : Prop :=
  ∃ (r : Reader) (mediaType : MediaType) (mint : Mint) (journal after : Journal),
    m.headers.canonicalize.structuredType? resolver = .ok (some mediaType) ∧
    r.read (m.syntaxRequest mediaType mint journal.drawn) .mapping = .ok (.ofFields d) ∧
    (m.toCanonical r resolver fallback).exec mint journal = (.ok out, after)

variable {m out : Message} {resolver : Resolver} {fallback : Value} {d : Fields Value}

/-- What such a form is built from. -/
theorem MergesTo.eq_stamped (h : m.MergesTo resolver fallback d out) :
    ∃ p mint n, ∃ there, out =
      (Conversion.binaryBuilder m.headers.canonicalize (d.canonicalize true) p fallback).stamped
        there mint n := by
  obtain ⟨r, mediaType, mint, journal, after, hs, hr, hrun⟩ := h
  rw [exec_toCanonical_structured mint journal hs] at hrun
  obtain ⟨answer, d', p, hr', hd, -, there, rfl⟩ := ofStructured_ok hrun
  rw [hr, Except.ok.injEq] at hr'
  rw [← hr', Conversion.document_ofFields, Except.ok.injEq] at hd
  subst hd
  exact ⟨p, mint, _, there, rfl⟩

theorem get?_timestamp_canonicalize (m : Message) :
    m.headers.canonicalize.get? Header.timestamp = some m.timestamp := by
  have hplain : Prefix.ofKey Header.timestamp = .none := by decide
  rw [Fields.get?_canonicalize_of_none hplain, get?_headers, if_pos rfl]

/-- A canonical form has the timestamp of the message. -/
theorem timestamp_toCanonical {r : Reader} {mint : Mint} {journal after : Journal}
    (h : (m.toCanonical r resolver fallback).exec mint journal = (.ok out, after)) :
    out.timestamp = m.timestamp := by
  rcases toCanonical_outcome h with
    ⟨mediaType, -, hread⟩ | ⟨-, ⟨contentType, -, rfl⟩ | ⟨-, rfl⟩⟩
  · obtain ⟨answer, d, p, -, -, -, there, rfl⟩ := ofStructured_ok hread
    refine Builder.timestamp_stamped ?_ m.timestamp_there there mint _
    rw [Conversion.get?_binaryBuilder _ _ _ _ (by decide), if_neg (by decide),
      get?_timestamp_canonicalize]
    exact Value.toOption_of_not_isNull m.timestamp_there
  · refine Builder.timestamp_stamped ?_ m.timestamp_there _ mint _
    rw [rebuilder, Builder.get?_set, if_neg (by decide), get?_timestamp_canonicalize]
  · rfl

/-- A document whose data can be read is one of a canonical form. -/
theorem mergesTo_stamped {p : Value} {mediaType : MediaType}
    (hs : m.headers.canonicalize.structuredType? resolver = .ok (some mediaType))
    (hp : Conversion.payload (d.canonicalize true) = .ok p)
    (there : (Conversion.binaryBuilder m.headers.canonicalize (d.canonicalize true) p
      fallback).payload.isNull = false) (mint : Mint) (journal : Journal) :
    m.MergesTo resolver fallback d
      ((Conversion.binaryBuilder m.headers.canonicalize (d.canonicalize true) p fallback).stamped
        there mint (journal.drawn + 1)) := by
  have hd := Conversion.document_ofFields (declares m.headers.canonicalize) d
  have hstart := @exec_toCanonical_structured m ⟨fun _ _ => .ok (.ofFields d)⟩ resolver fallback
    mint journal _ hs
  have hrun := hstart.trans (exec_ofStructured rfl hd hp there)
  exact ⟨_, mediaType, mint, journal, _, hs, rfl, hrun⟩

theorem filterKeys_stamped {b : Builder} {t : Value}
    (ht : b.headers.get? Header.timestamp = some t) (hthere : t.isNull = false)
    (there : b.payload.isNull = false) (mint : Mint) (n : Nat) :
    (b.stamped there mint n).transport
      = ((b.headers.filterKeys Header.isTransport).filterKeys fun k => !Header.isStamp k).insert
          Header.timestamp t := by
  have hid : Header.isTransport Header.identity = false := by simp [Header.isTransport]
  rw [transport, filterKeys_headers hid (by decide), Builder.timestamp_stamped ht hthere,
    Fields.filterKeys_comm Header.isTransport]
  rfl

/-- The transport headers do not depend on the document. -/
theorem MergesTo.transport_eq {d' : Fields Value} {out' : Message}
    (h : m.MergesTo resolver fallback d out) (h' : m.MergesTo resolver fallback d' out') :
    out.transport = out'.transport := by
  obtain ⟨p, mint, n, there, rfl⟩ := h.eq_stamped
  obtain ⟨p', mint', n', there', rfl⟩ := h'.eq_stamped
  have htime : ∀ (d : Fields Value) (p : Value), (Conversion.binaryBuilder m.headers.canonicalize
      (d.canonicalize true) p fallback).headers.get? Header.timestamp = some m.timestamp := by
    intro d p
    rw [Conversion.get?_binaryBuilder _ _ _ _ (by decide), if_neg (by decide),
      get?_timestamp_canonicalize]
    exact Value.toOption_of_not_isNull m.timestamp_there
  -- all members of a document are under the canonical prefix, so none is kept
  have hmembers : ∀ d : Fields Value, (Conversion.attributes (d.canonicalize true)).filterKeys
      Header.isTransport = Fields.empty := by
    intro d
    refine Fields.filterKeys_eq_empty fun k hk => ?_
    rw [Conversion.attributes, Fields.mem_erase, Fields.mem_erase] at hk
    exact Header.isTransport_of_ofKey (Fields.ofKey_of_mem_canonicalize_true hk.2.2)
  have hct : Header.isTransport Header.contentType = false := by simp [Header.isTransport]
  have hbuilders : (Conversion.binaryBuilder m.headers.canonicalize (d.canonicalize true) p
        fallback).headers.filterKeys Header.isTransport
      = (Conversion.binaryBuilder m.headers.canonicalize (d'.canonicalize true) p'
        fallback).headers.filterKeys Header.isTransport := by
    rw [Conversion.binaryBuilder, Conversion.binaryBuilder, Builder.filterKeys_set_of_not hct,
      Builder.filterKeys_set_of_not hct]
    refine Builder.filterKeys_setEntries_congr ?_ _
    rw [hmembers d, hmembers d']
  rw [filterKeys_stamped (htime d p) m.timestamp_there,
    filterKeys_stamped (htime d' p') m.timestamp_there, hbuilders]

/-- **Headers of a canonical form.**  Apart from the message's own headers and the content type, a
header is the one of the envelope, is missing if the envelope has null there, and is the one of the
document where the envelope is silent; the content type is that of the data.  Outside the canonical
prefix no document has a part in this. -/
theorem merge_and_isolation (m : Message) (resolver : Resolver) (fallback : Value) :
    (∀ (d : Fields Value) (out : Message), m.MergesTo resolver fallback d out →
      (∀ k, k ≠ Header.identity → k ≠ Header.timestamp → k ≠ Header.contentType →
        out.headers.get? k =
          match m.headers.canonicalize.get? k with
          | some v => if v.isNull then none else some v
          | none =>
            if k = Attribute.data.key ∨ k = Attribute.dataBase64.key then none
            else (d.canonicalize true).get? k) ∧
      out.headers.get? Header.contentType =
        if (Conversion.declared m.headers.canonicalize (d.canonicalize true)).isSet then
          some (Conversion.declared m.headers.canonicalize (d.canonicalize true)).withMediaTypeText
        else if fallback.isNull then none else some fallback.withMediaTypeText) ∧
    ∀ (d₁ d₂ : Fields Value) (out₁ out₂ : Message), m.MergesTo resolver fallback d₁ out₁ →
      m.MergesTo resolver fallback d₂ out₂ → out₁.transport = out₂.transport := by
  refine ⟨fun d out h => ?_, fun d₁ d₂ out₁ out₂ h₁ h₂ => h₁.transport_eq h₂⟩
  obtain ⟨p, mint, n, there, rfl⟩ := h.eq_stamped
  constructor
  · intro k hid hts hct
    have hstamp : Header.isStamp k = false := by simp [Header.isStamp, hid, hts]
    rw [Builder.get?_stamped _ _ _ _ hstamp, Conversion.get?_binaryBuilder _ _ _ _ hid, if_neg hct]
    rfl
  · rw [Builder.get?_stamped _ _ _ _ (by decide), Conversion.get?_binaryBuilder _ _ _ _ (by decide),
      if_pos rfl, Conversion.dataContentType_eq]
    by_cases hset : (Conversion.declared m.headers.canonicalize (d.canonicalize true)).isSet = true
    · rw [if_pos hset, if_pos hset]
      refine Value.toOption_of_not_isNull ?_
      rw [Value.isNull_withMediaTypeText]
      exact Value.not_isNull_of_isSet hset
    · rw [if_neg hset, if_neg hset, Value.toOption, Value.isNull_withMediaTypeText]

/-- A structured message with a trace of its own and no subject. -/
def tracedMessage : Message :=
  stamp (.text "hello") (Value.isNull_text _)
    (Fields.ofList [(Header.contentType, .mediaType MediaType.eventJson),
      ("traceparent", .text "00-1"), ("ce-subject", .null)]) "1" (.int 5) 0

/-- A document that names transport headers and the subject. -/
def namingDocument : Fields Value :=
  Fields.ofList [("traceparent", .text "00-2"), ("timestamp", .int 6), ("subject", .text "orders"),
    ("contentType", .text "text/plain"), ("data", .text "hello")]

/-- What the document names goes under the canonical prefix, where the envelope has taken the
subject away. -/
theorem merge_and_isolation_namingDocument :
    let form (d : Fields Value) (p : Value) (there : p.isNull = false) : Message :=
      (Conversion.binaryBuilder tracedMessage.headers.canonicalize (d.canonicalize true) p
        Conversion.defaultDataContentType).stamped
          (by rw [Conversion.payload_binaryBuilder]; exact there) ⟨fun _ => "2", 0⟩ 1
    let out := form namingDocument (.text "hello") rfl
    out.headers.get? "traceparent" = some (.text "00-1") ∧
      out.headers.get? "ce-traceparent" = some (.text "00-2") ∧
      out.headers.get? "ce-subject" = none ∧
      out.headers.get? Header.contentType = some (.text "application/json") ∧
      out.transport = (form Fields.empty (.mapping []) rfl).transport := by
  intro form out
  have hs : tracedMessage.headers.canonicalize.structuredType? {} = .ok (some .eventJson) := rfl
  have hform : tracedMessage.MergesTo {} Conversion.defaultDataContentType namingDocument out :=
    mergesTo_stamped hs rfl _ _ {}
  have hempty : tracedMessage.MergesTo {} Conversion.defaultDataContentType Fields.empty
      (form Fields.empty (.mapping []) rfl) := mergesTo_stamped hs rfl _ _ {}
  obtain ⟨hmerge, hisolated⟩ :=
    merge_and_isolation tracedMessage {} Conversion.defaultDataContentType
  obtain ⟨hkeys, htype⟩ := hmerge _ _ hform
  exact ⟨hkeys "traceparent" (by decide) (by decide) (by decide),
    hkeys "ce-traceparent" (by decide) (by decide) (by decide),
    hkeys "ce-subject" (by decide) (by decide) (by decide), htype, hisolated _ _ _ _ hform hempty⟩

end Message

end CloudEvents
