import CloudEvents.Proofs.Conversion.Envelope
import CloudEvents.Proofs.Display
/-!
# Documents that come back from their canonical form

A document of an event is taken apart by `toCanonical` and put together again by `toStructured`.
Every member gets the canonical prefix and loses it, whatever its name is, and the data is put back
under the member from which it was taken: bytes are written as Base64 exactly where the converter
does not read their media type. The one member that may be new is the content type of the data. A
document without it gets the fallback on its way, as the content type of the message, and from there
it gets into the new document (`Conversion.declaring`).

The headers around the document are those of the message that came, without nulls.

## Main statements

* `Conversion.IsEventDocument.exists_filled`: the document that is put together again;
* `Message.toStructured_toCanonical`: both conversions succeed, and the new body is that document;
* `Message.not_forall_toStructured_toCanonical`: the documents that do not come back.
-/

namespace CloudEvents

namespace Conversion

/-- The document with the content type of its data, the default one if it declares none. -/
def declaring (d : Fields Value) : Fields Value :=
  if Attribute.datacontenttype.name ∈ d then d
  else d.insert Attribute.datacontenttype.name defaultDataContentType

/-- A document has data: a value, or the Base64 of bytes of a media type that is not read. -/
inductive HoldsData (d : Fields Value) : Value → Prop where
  /-- A value. -/
  | value {v : Value} (h : d.get? Attribute.data.name = some v) (there : v.isNull = false)
      (alone : Attribute.dataBase64.name ∉ d) : HoldsData d v
  /-- Bytes. -/
  | encoded {bs : List UInt8} {mediaType : MediaType}
      (h : d.get? Attribute.dataBase64.name
        = some (.text (String.ofList (Encoding.Base64.encode bs))))
      (alone : Attribute.data.name ∉ d) (declared : declaredType d = .ok mediaType)
      (unread : JsonConverter.supports (some mediaType) = false) : HoldsData d (.bytes bs)

/-- A document of an event with the data `p`. -/
structure IsEventDocument (p : Value) (d : Fields Value)
    (json : Value → Prop := Value.IsJsonWith Json.KeepsDouble) : Prop where
  /-- The members that an event has to have are there. -/
  required : ∀ a ∈ Attribute.required, a.name ∈ d
  /-- No name begins with a prefix. -/
  bare : ∀ name ∈ d, Prefix.ofKey name = .none
  /-- JSON has the values, or they pass another test. -/
  json : ∀ name v, d.get? name = some v → json v
  /-- It has data. -/
  data : HoldsData d p

variable {d : Fields Value} {p : Value}

theorem get?_declaring (d : Fields Value) (name : String) :
    (declaring d).get? name = (d.get? name).or
      (if name = Attribute.datacontenttype.name then some defaultDataContentType else none) := by
  rw [declaring]
  by_cases hdeclared : Attribute.datacontenttype.name ∈ d
  · rw [if_pos hdeclared]
    by_cases hname : name = Attribute.datacontenttype.name
    · obtain ⟨v, hv⟩ := Fields.exists_get?_of_mem (hname ▸ hdeclared)
      rw [hv, Option.some_or]
    · rw [if_neg hname, Option.or_none]
  · rw [if_neg hdeclared, Fields.get?_insert]
    by_cases hname : name = Attribute.datacontenttype.name
    · rw [if_pos hname, if_pos hname, hname, Fields.get?_eq_none_iff.2 hdeclared, Option.none_or]
    · rw [if_neg hname, if_neg hname, Option.or_none]

theorem get?_declaring_of_ne (d : Fields Value) {name : String}
    (h : name ≠ Attribute.datacontenttype.name) : (declaring d).get? name = d.get? name := by
  rw [get?_declaring, if_neg h, Option.or_none]

/-- The data is the payload of the canonical form. -/
theorem HoldsData.payload_eq (h : HoldsData d p)
    (hbare : ∀ name ∈ d, Prefix.ofKey name = .none) : payload (d.canonicalize true) = .ok p := by
  rw [payload, value_canonicalize_of_bare hbare, value_canonicalize_of_bare hbare]
  cases h with
  | value h there _ =>
    rw [Fields.value_of_get? h, there]
    rfl
  | encoded h alone _ _ =>
    rw [Fields.value_of_not_mem alone, Fields.value_of_get? h]
    change (decodeData (.text _)).map Value.bytes = _
    rw [decodeData_encode]
    rfl

/-- Data in bytes has a content type that the document declares: JSON is read. -/
theorem mem_of_unread {mediaType : MediaType} (declared : declaredType d = .ok mediaType)
    (unread : JsonConverter.supports (some mediaType) = false) :
    Attribute.datacontenttype.name ∈ d := by
  by_contra hnot
  rw [declaredType, Fields.value_of_not_mem hnot] at declared
  have hjson : MediaType.json = mediaType := Except.ok.inj declared
  rw [← hjson] at unread
  cases unread

/-! ## The way there and back -/

/-- Headers that a document was taken apart into: its members without its data, and a content type
that is the one of the data or the default. -/
structure IsTakenFrom (headers d : Fields Value) : Prop where
  /-- The attributes are the members. -/
  attributes : ∀ name, headers.get? (Prefix.canonical.key name) =
    if name = Attribute.data.name ∨ name = Attribute.dataBase64.name then none else d.get? name
  /-- The content type is the default one if the document declares none. -/
  contentType : Attribute.datacontenttype.name ∉ d →
    headers.value Header.contentType = defaultDataContentType

variable {headers : Fields Value}

/-- The document that is put together is the one that was taken apart, but for its data. -/
theorem IsTakenFrom.get?_outline (h : IsTakenFrom headers d) (name : String) :
    (outline headers).get? name =
      if name = Attribute.data.name ∨ name = Attribute.dataBase64.name then none
      else (declaring d).get? name := by
  rw [Conversion.get?_outline, h.attributes]
  by_cases hdata : name = Attribute.data.name ∨ name = Attribute.dataBase64.name
  · have hother : name ≠ Attribute.datacontenttype.name := by
      rcases hdata with rfl | rfl <;> decide
    rw [if_pos hdata, if_pos hdata, if_neg fun hboth => hother hboth.1]
    rfl
  · rw [if_neg hdata, if_neg hdata, get?_declaring]
    by_cases hname : name = Attribute.datacontenttype.name
    · cases hown : d.get? name with
      | some v => rw [Option.some_or, Option.some_or]
      | none =>
        have hnot : Attribute.datacontenttype.name ∉ d := by
          rw [← Fields.get?_eq_none_iff, ← hname, hown]
        have hkey : Attribute.datacontenttype.key ∉ headers := by
          rw [← Fields.get?_eq_none_iff, ← Attribute.canonical_key_name, h.attributes,
            if_neg (by decide), Fields.get?_eq_none_iff]
          exact hnot
        have htype : headers.dataType = defaultDataContentType := by
          rw [dataType_of_not_mem hkey, h.contentType hnot]
          rfl
        rw [htype, if_pos hname, if_pos ⟨hname, rfl⟩]
    · rw [if_neg hname, if_neg fun hboth => hname hboth.1]

/-- With its data the document is complete: the other member for data is not there. -/
theorem IsTakenFrom.get?_insert (h : IsTakenFrom headers d) {a b : Attribute} (ha : a.IsData)
    (hb : b.IsData) (hne : a ≠ b) {v : Value} (hv : d.get? a.name = some v) (alone : b.name ∉ d)
    (name : String) :
    ((outline headers).insert a.name v).get? name = (declaring d).get? name := by
  have hother : ∀ a : Attribute, a.IsData → a.name ≠ Attribute.datacontenttype.name := by
    rintro a (rfl | rfl) <;> decide
  have hdata : (name = Attribute.data.name ∨ name = Attribute.dataBase64.name) ↔
      (name = a.name ∨ name = b.name) := by
    rcases ha with rfl | rfl <;> rcases hb with rfl | rfl
    · exact absurd rfl hne
    · exact Iff.rfl
    · exact Or.comm
    · exact absurd rfl hne
  rw [Fields.get?_insert, h.get?_outline]
  simp only [hdata]
  by_cases hname : name = a.name
  · rw [if_pos hname, hname, get?_declaring_of_ne d (hother a ha), hv]
  · rw [if_neg hname]
    by_cases hlost : name = b.name
    · rw [if_pos (Or.inr hlost), hlost, get?_declaring_of_ne d (hother b hb),
        Fields.get?_eq_none_iff.2 alone]
    · rw [if_neg (not_or.2 ⟨hname, hlost⟩)]

/-- The data is put back where it was taken from. -/
theorem IsTakenFrom.exists_filled (h : IsTakenFrom headers d) (hd : IsEventDocument p d)
    (c : JsonConverter) :
    ∃ document, filled c p (outline headers) = .ok document ∧
      ∀ name, document.get? name = (declaring d).get? name := by
  cases hd.data with
  | value hvalue there alone =>
    refine ⟨(outline headers).insert Attribute.data.name p, ?_,
      h.get?_insert (Or.inl rfl) (Or.inr rfl) (by decide) hvalue alone⟩
    rw [filled, (hd.json _ _ hvalue).bytes?_eq_none]
  | @encoded bs mediaType hencoded alone declared unread =>
    have hmem := mem_of_unread declared unread
    have hvalue : (outline headers).value Attribute.datacontenttype.name
        = d.value Attribute.datacontenttype.name := by
      rw [Fields.value, h.get?_outline, if_neg (by decide), declaring, if_pos hmem]
      rfl
    have hsame : declaredType (outline headers) = .ok mediaType := by
      rw [← declared, declaredType, declaredType, hvalue]
    refine ⟨(outline headers).insert Attribute.dataBase64.name
      (.text (String.ofList (Encoding.Base64.encode bs))), ?_,
      h.get?_insert (Or.inr rfl) (Or.inl rfl) (by decide) hencoded alone⟩
    rw [filled]
    change (declaredType (outline headers) >>= _) = _
    rw [hsame]
    change (if JsonConverter.supports (some mediaType) then _ else _) = _
    rw [unread, if_neg Bool.false_ne_true]
    rfl

/-- Its values are those that JSON has. -/
theorem IsEventDocument.isJsonWith_declaring (hd : IsEventDocument p d) {name : String} {v : Value}
    (h : (declaring d).get? name = some v) : v.IsJsonWith Json.KeepsDouble := by
  rw [get?_declaring] at h
  cases hown : d.get? name with
  | some w =>
    rw [hown, Option.some_or] at h
    exact hd.json name v (hown.trans h)
  | none =>
    rw [hown, Option.none_or] at h
    split at h
    · rw [← Option.some.inj h]
      exact .text _
    · cases h

end Conversion

namespace Message

variable {m : Message} {c : JsonConverter} {mediaType : MediaType} {d : Fields Value} {p : Value}

/-- The canonical form of a wrapped document has it among its headers, but for its data. -/
theorem Wraps.isTakenFrom (h : m.Wraps mediaType) (hd : Conversion.IsEventDocument p d)
    (there : (Conversion.binaryBuilder m.headers (d.canonicalize true) p
      Conversion.defaultDataContentType).payload.isNull = false) (mint : Mint) (n : Nat) :
    Conversion.IsTakenFrom ((Conversion.binaryBuilder m.headers (d.canonicalize true) p
      Conversion.defaultDataContentType).stamped there mint n).headers d where
  attributes name := by
    rw [h.get?_key_stamped there mint n, Conversion.get?_canonicalize_of_bare hd.bare]
  contentType hnot := by
    rw [Fields.value, h.get?_contentType_stamped there mint n,
      Conversion.value_canonicalize_of_bare hd.bare, Fields.value_of_not_mem hnot]
    rfl

/-- It is an event in binary mode. -/
theorem Wraps.isCloudEvent_stamped (h : m.Wraps mediaType) (hd : Conversion.IsEventDocument p d)
    (there : (Conversion.binaryBuilder m.headers (d.canonicalize true) p
      Conversion.defaultDataContentType).payload.isNull = false) (mint : Mint) (n : Nat) :
    ((Conversion.binaryBuilder m.headers (d.canonicalize true) p
      Conversion.defaultDataContentType).stamped there mint n).headers.isCloudEvent = true := by
  rw [Fields.isCloudEvent, List.all_eq_true]
  intro a ha
  have hplain : ∀ a ∈ Attribute.required,
      ¬(a.name = Attribute.data.name ∨ a.name = Attribute.dataBase64.name) := by decide
  have hmem := hd.required a ha
  rw [decide_eq_true_iff, Fields.mem_iff_isSome_get?, ← Attribute.canonical_key_name,
    (h.isTakenFrom hd there mint n).attributes, if_neg (hplain a ha)]
  exact Fields.mem_iff_isSome_get?.1 hmem

/-- A structured form `s` of what came out of a message `m` with the document `d`. -/
structure Rewraps (m : Message) (c : JsonConverter) (d : Fields Value) (s : Message) : Prop where
  /-- The body is the document, with the default content type of the data if it declared none. -/
  body : ∃ d' : Fields Value,
    JsonConverter.payloadValue c.encoding s.payload c.codecs = .ok (.ofFields d') ∧
      ∀ name, d'.get? name = (Conversion.declaring d).get? name
  /-- The content type is the one of events in structured mode. -/
  contentType : s.headers.get? Header.contentType = some (.text MediaType.eventJson.text)
  /-- The other headers are those of the message that are not null. -/
  others : ∀ k, k ≠ Header.identity → k ≠ Header.contentType →
    s.headers.get? k = (m.headers.get? k).bind Value.toOption

/-- A message has a canonical form, and the structured form of that has its document again. -/
def KeepsDocument (m : Message) (c : JsonConverter) (d : Fields Value) : Prop :=
  ∀ (mint mint' : Mint) (journal journal' : Journal), ∃ r s after after',
    (m.toCanonical c.toConverter.toReader).exec mint journal = (.ok r, after) ∧
      (r.toStructured c.toConverter).exec mint' journal' = (.ok s, after') ∧ m.Rewraps c d s

/-- **Documents survive their canonical form.**  Take a message without attributes that declares an
event in structured mode and whose body is a document of an event.  Then it has a canonical form,
and this has a structured form.  The body of that is the document again, with the default content
type of the data if it declared none, and the headers around it are the ones of the message that are
not null. -/
theorem toStructured_toCanonical (hc : c.ReadsBack) (hm : m.Wraps mediaType)
    (hbody : JsonConverter.payloadValue (c.encodingFor (some mediaType.syntaxType)) m.payload
      c.codecs = .ok (.ofFields d)) (hd : Conversion.IsEventDocument p d) :
    m.KeepsDocument c d := by
  intro mint mint' journal journal'
  obtain ⟨there, after, hr⟩ := hm.exec_toCanonical hbody (hd.data.payload_eq hd.bare)
    Conversion.defaultDataContentType mint journal
  have hkeys := hm.keysUnder_stamped there mint (journal.drawn + 1) fun _ hk =>
    Fields.ofKey_of_mem_canonicalize_true hk
  have htaken := hm.isTakenFrom hd there mint (journal.drawn + 1)
  have hevent := hm.isCloudEvent_stamped hd there mint (journal.drawn + 1)
  obtain ⟨document, hfilled, hdocument⟩ := htaken.exists_filled hd c
  have hreads := Json.exists_reads_document (d := document) fun name v hv =>
    hd.isJsonWith_declaring ((hdocument name).symm.trans hv)
  rw [← hkeys.canonicalize_eq_self] at hevent hfilled
  obtain ⟨s, after', bs, hs, henvelope, hpayload, hread⟩ :=
    exists_toStructured_of_filled hc hevent (by
      rw [Builder.payload_stamped, Conversion.payload_binaryBuilder]
      exact hfilled) hreads mint' journal'
  refine ⟨_, s, after, after', hr, hs, ⟨document, hpayload ▸ hread, hdocument⟩,
    henvelope.contentType, fun k hid hct => ?_⟩
  by_cases hk : Prefix.ofKey k = .none
  · rw [henvelope.get?_of_none hk hid hct, hkeys.canonicalize_eq_self,
      hm.get?_stamped_of_none there mint _ (fun _ hk => Fields.ofKey_of_mem_canonicalize_true hk)
        hk hid hct]
  · have hleft : k ∉ s.headers := fun hmem => hk (henvelope.ofKey_of_mem hmem)
    have hright : k ∉ m.headers := fun hmem => hk (hm.plain k hmem)
    rw [Fields.get?_eq_none_iff.2 hleft, Fields.get?_eq_none_iff.2 hright]
    rfl

/-- A document with two bytes for data and a member without a name. -/
def sealedDocument : Fields Value :=
  Fields.ofList [("specversion", .text "1.0"), ("type", .text "order.sealed"),
    ("source", .text "/orders"), ("", .null),
    ("datacontenttype", .text "application/octet-stream"), ("data_base64", .text "AAE=")]

theorem isEventDocument_sealedDocument :
    Conversion.IsEventDocument (.bytes [0, 1]) sealedDocument where
  required := by decide
  bare := by
    have hnames : ∀ name ∈ ["specversion", "type", "source", "", "datacontenttype", "data_base64"],
      Prefix.ofKey name = .none := by decide
    exact hnames
  json name v h := by
    refine Fields.forall_get?_ofList ?_ h
    simp only [List.forall_mem_cons, List.not_mem_nil, IsEmpty.forall_iff, implies_true, and_true]
    exact ⟨.text _, .text _, .text _, .null, .text _, .text _⟩
  data := by
    have hdeclared : Conversion.declaredType sealedDocument
        = .ok ⟨"application", "octet-stream", .empty⟩ := rfl
    exact .encoded rfl (by decide) hdeclared (by decide)

/-- A message that declares an event in structured mode, with a header of its own. -/
def wrapping (payload : Value) (there : payload.isNull = false) : Message :=
  stamp payload there (Fields.ofList [(Header.contentType, .text "application/cloudevents"),
    ("region", .text "eu")]) "1" (.int 0) 0

theorem wraps_wrapping (payload : Value) (there : payload.isNull = false) :
    (wrapping payload there).Wraps .event where
  plain := by
    have hkeys : ∀ k ∈ [Header.contentType, "region", Header.identity, Header.timestamp],
      Prefix.ofKey k = .none := by decide
    exact hkeys
  declared := rfl
  event := MediaType.isJsonEvent_of_agrees (Or.inl (by decide))

/-- The bytes of the document are taken apart and put together again. -/
theorem toStructured_toCanonical_sealedDocument :
    ∃ bs r s after after',
      ({} : JsonConverter).write (.ofFields sealedDocument) none = .ok bs ∧
        ((wrapping (.bytes bs) rfl).toCanonical ({} : JsonConverter).toConverter.toReader).exec
          ⟨fun _ => "2", 0⟩ {} = (.ok r, after) ∧
        (r.toStructured ({} : JsonConverter).toConverter).exec ⟨fun _ => "3", 1⟩ {}
          = (.ok s, after') ∧
        s.headers.get? "region" = some (.text "eu") ∧
        ∃ d : Fields Value, JsonConverter.payloadValue "utf-8" s.payload = .ok (.ofFields d) ∧
          d.get? "data_base64" = some (.text "AAE=") ∧ d.get? "" = some .null := by
  obtain ⟨bs, text, hwrite, htext, hvalue⟩ := JsonConverter.exists_write_of_reads
    JsonConverter.readsBack_default
    (Json.exists_reads_document isEventDocument_sealedDocument.json)
  obtain ⟨r, s, after, after', hr, hs, hrewraps⟩ := toStructured_toCanonical
    JsonConverter.readsBack_default (wraps_wrapping (.bytes bs) rfl)
    (JsonConverter.payloadValue_bytes htext hvalue) isEventDocument_sealedDocument
    ⟨fun _ => "2", 0⟩ ⟨fun _ => "3", 1⟩ {} {}
  obtain ⟨d, hread, hd⟩ := hrewraps.body
  exact ⟨bs, r, s, after, after', hwrite none rfl, hr, hs,
    hrewraps.others "region" (by decide) (by decide), d, hread, hd _, hd _⟩

/-- A document of an order with some data. -/
def orderDocument (data : Value) : Fields Value :=
  Fields.ofList [("specversion", .text "1.0"), ("type", .text "order.created"),
    ("source", .text "/orders"), ("data", data)]

theorem isEventDocument_orderDocument {data : Value} (there : data.isNull = false)
    {json : Value → Prop} (hdata : json data)
    (hjson : ∀ v : Value, v.IsJsonWith Json.KeepsDouble → json v) :
    Conversion.IsEventDocument data (orderDocument data) json where
  required := by
    have hnames : ∀ a ∈ Attribute.required, a.name ∈ ["specversion", "type", "source", "data"] := by
      decide
    exact hnames
  bare := by
    have hnames : ∀ name ∈ ["specversion", "type", "source", "data"],
      Prefix.ofKey name = .none := by decide
    exact hnames
  json name v h := by
    refine Fields.forall_get?_ofList ?_ h
    simp only [List.forall_mem_cons, List.not_mem_nil, IsEmpty.forall_iff, implies_true, and_true]
    exact ⟨hjson _ (.text _), hjson _ (.text _), hjson _ (.text _), hdata⟩
  data := by
    have halone : Attribute.dataBase64.name ∉ ["specversion", "type", "source", "data"] := by decide
    exact .value rfl there halone

/-- If the document is kept, its data is read back from what it is written as. -/
theorem renders_of_keepsDocument {data : Value} (there : data.isNull = false)
    (hbytes : data.bytes? = none)
    (h : (wrapping (.ofFields (orderDocument data)) rfl).KeepsDocument {} (orderDocument data)) :
    Json.Renders data data := by
  obtain ⟨r, s, after, after', hr, hs, hrewraps⟩ := h ⟨fun _ => "2", 0⟩ ⟨fun _ => "3", 1⟩ {} {}
  have hd : Conversion.IsEventDocument data (orderDocument data) fun _ => True :=
    isEventDocument_orderDocument there trivial fun _ _ => trivial
  have hpayload : r.payload = data := by
    obtain ⟨there', after'', hr'⟩ := (wraps_wrapping (.ofFields (orderDocument data))
      rfl).exec_toCanonical (c := {}) rfl (hd.data.payload_eq hd.bare)
        Conversion.defaultDataContentType ⟨fun _ => "2", 0⟩ {}
    rw [hr, Prod.mk.injEq, Except.ok.injEq] at hr'
    rw [hr'.1, Builder.payload_stamped, Conversion.payload_binaryBuilder]
  obtain ⟨d, a, w, hbody, hw, hdata, -⟩ := toStructured_data hs
  rw [hpayload] at hdata
  obtain ⟨d', hread, hmembers⟩ := hrewraps.body
  have hsame : d = d' := by
    rw [hbody.payloadValue_eq JsonConverter.readsBack_default, Except.ok.injEq] at hread
    rw [← Option.some_inj, ← Value.fields?_ofFields, hread, Value.fields?_ofFields]
  cases hdata with
  | value _ hrenders =>
    have hown : (Conversion.declaring (orderDocument data)).get? Attribute.data.name
        = some data := rfl
    rw [hsame, hmembers, hown, Option.some_inj] at hw
    rw [← hw] at hrenders
    exact hrenders
  | read hbytes' => rw [hbytes] at hbytes'; cases hbytes'
  | encoded hbytes' => rw [hbytes] at hbytes'; cases hbytes'

/-- Not every document survives its canonical form: an integer with too many digits cannot be
written, and the two halves of a character are read as the character. -/
theorem not_forall_toStructured_toCanonical :
    (¬∀ (m : Message) (mediaType : MediaType) (p : Value) (d : Fields Value), m.Wraps mediaType →
      JsonConverter.payloadValue (({} : JsonConverter).encodingFor (some mediaType.syntaxType))
        m.payload = .ok (.ofFields d) →
      Conversion.IsEventDocument p d (fun v => v.IsJsonWith Json.KeepsDouble ∨ ∃ n, v = .int n) →
        m.KeepsDocument {} d) ∧
    ¬∀ (m : Message) (mediaType : MediaType) (p : Value) (d : Fields Value), m.Wraps mediaType →
      JsonConverter.payloadValue (({} : JsonConverter).encodingFor (some mediaType.syntaxType))
        m.payload = .ok (.ofFields d) →
      Conversion.IsEventDocument p d
        (fun v => v.IsJsonWith Json.KeepsDouble ∨ ∃ t, v = .unpaired t) →
        m.KeepsDocument {} d := by
  refine ⟨fun h => ?integer, fun h => ?surrogates⟩
  case integer =>
    have hkeeps := h (wrapping (.ofFields (orderDocument (.int (10 ^ Text.digitLimit : Nat)))) rfl)
      .event _ _ (wraps_wrapping _ rfl) rfl
      (isEventDocument_orderDocument rfl (Or.inr ⟨_, rfl⟩) fun _ => Or.inl)
    exact Text.not_isShort_natCast (Nat.le_refl _) (renders_of_keepsDocument rfl rfl hkeeps).isShort
  case surrogates =>
    have hkeeps := h (wrapping (.ofFields (orderDocument (.unpaired Json.halves))) rfl)
      .event _ _ (wraps_wrapping _ rfl) rfl
      (isEventDocument_orderDocument rfl (Or.inr ⟨_, rfl⟩) fun _ => Or.inl)
    exact Json.not_renders_halves (renders_of_keepsDocument rfl rfl hkeeps)

end Message

end CloudEvents
