import CloudEvents.Proofs.Conversion.Accessors
import CloudEvents.Proofs.Display
/-!
# Events that come back from their structured form

The structured form of an event has a document for a body and the other headers around it, and its
canonical form is the event again. The two conversions share nothing but the document, and what it
says is known under every name (`Conversion.get?_outline`). The other headers go through untouched:
none of them is under a prefix, so the envelope is its own canonical form
(`Message.Wraps.canonicalize`), and no member of the document has a part in them.

## Main statements

* `Message.exists_toStructured`: an event that can be written has a structured form;
* `Message.toCanonical_toStructured`: the canonical form of that has the attributes, the other
  headers and the data of the event;
* `Message.not_forall_toCanonical_toStructured`: the events that do not come back.
-/

namespace CloudEvents

namespace Message

/-- A structured form of a message with the data `p`: the headers around a document of it. -/
structure IsStructured (m : Message) (c : JsonConverter) (p : Value) (s : Message) : Prop where
  /-- The body is a document. -/
  body : ∃ bs d, s.payload = .bytes bs ∧ Conversion.IsDocument m.headers.canonicalize p d ∧
    JsonConverter.payloadValue c.encoding (.bytes bs) c.codecs = .ok (.ofFields d)
  /-- The content type is the one of an event in structured mode. -/
  contentType : s.headers.get? Header.contentType = some (.text MediaType.eventJson.text)
  /-- The other headers are those without a prefix. -/
  others : ∀ k, k ≠ Header.identity → k ≠ Header.contentType →
    s.headers.get? k =
      if Prefix.canonical.marks k then none else m.headers.canonicalize.get? k

variable {m s : Message} {c : JsonConverter} {p : Value}

/-- An event whose attributes and data JSON has is written as a document. -/
theorem exists_toStructured (hc : c.ReadsBack) (hw : m.headers.canonicalize.Writable)
    (hp : m.Carries c p)
    (htype : m.headers.canonicalize.dataType.isSet = true →
      m.headers.canonicalize.dataType.IsJson) (mint : Mint) (journal : Journal) :
    ∃ s after, (m.toStructured c.toConverter).exec mint journal = (.ok s, after) ∧
      m.IsStructured c p s := by
  obtain ⟨d, hfilled, hd⟩ := exists_filled hw hp htype
  obtain ⟨s, after, bs, hrun, henvelope, hpayload, hbody⟩ := exists_toStructured_of_filled
    hc hw.event hfilled (Json.exists_reads hd.json) mint journal
  exact ⟨s, after, hrun, ⟨⟨bs, d, hpayload, hd, hbody⟩, henvelope.contentType, henvelope.others⟩⟩

/-! ## The way back -/

theorem IsStructured.isEnvelope (h : m.IsStructured c p s) : m.IsEnvelope s :=
  ⟨h.contentType, h.others⟩

/-- The body of a structured form is read as the document, and the canonical form is made of that
and the envelope. -/
theorem IsStructured.exec_toCanonical (h : m.IsStructured c p s) (fallback : Value) (mint : Mint)
    (journal : Journal) :
    ∃ d there after, Conversion.IsDocument m.headers.canonicalize p d ∧
      (s.toCanonical c.toConverter.toReader {} fallback).exec mint journal =
        (.ok ((Conversion.binaryBuilder s.headers (d.canonicalize true) p fallback).stamped there
          mint (journal.drawn + 1)), after) := by
  obtain ⟨bs, d, hbody, hd, hread⟩ := h.body
  have hvalue : JsonConverter.payloadValue c.encoding s.payload c.codecs = .ok (.ofFields d) := by
    rw [hbody]
    exact hread
  obtain ⟨there, after, hrun⟩ :=
    h.isEnvelope.wraps.exec_toCanonical hvalue hd.payload fallback mint journal
  exact ⟨d, there, after, hd, hrun⟩

/-- An event that came back: it has the data, the attributes and the other headers of a message, and
the content type that this declares for its data, which has become an attribute. -/
structure ComesBack (m : Message) (p fallback : Value) (out : Message) : Prop where
  /-- The payload is the data. -/
  payload : out.payload = p
  /-- The attributes are the same, and the content type of the data is one of them. -/
  attributes : ∀ name, out.headers.get? (Prefix.canonical.key name) =
    (m.headers.canonicalize.get? (Prefix.canonical.key name)).or
      (if name = Attribute.datacontenttype.name ∧ m.headers.canonicalize.dataType.isSet = true then
        some m.headers.canonicalize.dataType else none)
  /-- No attribute is under another prefix. -/
  canonical : out.headers.KeysUnder .canonical
  /-- The content type is the one of the data, or the fallback. -/
  contentType : out.headers.get? Header.contentType =
    if m.headers.canonicalize.dataType.isSet then some m.headers.canonicalize.dataType
    else fallback.withMediaTypeText.toOption
  /-- The other headers are the same where they are not null. -/
  others : ∀ k, Prefix.ofKey k = .none → k ≠ Header.identity → k ≠ Header.contentType →
    out.headers.get? k = (m.headers.canonicalize.get? k).bind Value.toOption

/-- The attributes of the event, and the content type of its data as one of them. -/
theorem IsStructured.get?_key_stamped (h : m.IsStructured c p s)
    (hw : m.headers.canonicalize.Writable) {d : Fields Value}
    (hd : Conversion.IsDocument m.headers.canonicalize p d) {fallback : Value}
    (there : (Conversion.binaryBuilder s.headers (d.canonicalize true) p
      fallback).payload.isNull = false) (mint : Mint) (n : Nat) (name : String) :
    ((Conversion.binaryBuilder s.headers (d.canonicalize true) p fallback).stamped there mint
      n).headers.get? (Prefix.canonical.key name) =
        (m.headers.canonicalize.get? (Prefix.canonical.key name)).or
          (if name = Attribute.datacontenttype.name ∧
              m.headers.canonicalize.dataType.isSet = true then
            some m.headers.canonicalize.dataType else none) := by
  rw [h.isEnvelope.wraps.get?_key_stamped there mint n]
  by_cases hdata : name = Attribute.data.name ∨ name = Attribute.dataBase64.name
  · -- the data is no attribute of the event
    have hnot : Prefix.canonical.key name ∉ m.headers.canonicalize := fun hmem =>
      hdata.elim (hw.names name hmem).2.1 (hw.names name hmem).2.2
    have hother : name ≠ Attribute.datacontenttype.name := by
      rcases hdata with rfl | rfl <;> decide
    rw [if_pos hdata, Fields.get?_eq_none_iff.2 hnot, if_neg fun hboth => hother hboth.1]
    rfl
  · rw [not_or] at hdata
    rw [if_neg (not_or.2 hdata), Conversion.get?_canonicalize_of_bare hd.bare,
      hd.members name hdata.1 hdata.2, Conversion.get?_outline]

/-- The content type is declared by the document alone, which has it from the event. -/
theorem orElse_value_canonicalize (hw : m.headers.canonicalize.Writable) {d : Fields Value}
    (hd : Conversion.IsDocument m.headers.canonicalize p d) (fallback : Value) :
    (((d.canonicalize true).value Attribute.datacontenttype.key).orElse
        fallback).withMediaTypeText =
      if m.headers.canonicalize.dataType.isSet then m.headers.canonicalize.dataType
      else fallback.withMediaTypeText := by
  have hdocument : (d.canonicalize true).value Attribute.datacontenttype.key
      = (Conversion.outline m.headers.canonicalize).value Attribute.datacontenttype.name := by
    rw [Conversion.value_canonicalize_of_bare hd.bare, Fields.value,
      hd.members _ (by decide) (by decide)]
    rfl
  rw [hdocument, Value.orElse, Conversion.isSet_outline hw]
  by_cases hset : m.headers.canonicalize.dataType.isSet = true
  · rw [if_pos hset, if_pos hset, Conversion.withMediaTypeText_outline hw, if_pos hset]
  · rw [if_neg hset, if_neg hset]

theorem IsStructured.comesBack (h : m.IsStructured c p s) (hw : m.headers.canonicalize.Writable)
    {d : Fields Value} (hd : Conversion.IsDocument m.headers.canonicalize p d) {fallback : Value}
    (there : (Conversion.binaryBuilder s.headers (d.canonicalize true) p
      fallback).payload.isNull = false) (mint : Mint) (n : Nat) :
    m.ComesBack p fallback ((Conversion.binaryBuilder s.headers (d.canonicalize true) p
      fallback).stamped there mint n) where
  payload := by rw [Builder.payload_stamped, Conversion.payload_binaryBuilder]
  attributes := h.get?_key_stamped hw hd there mint n
  canonical := h.isEnvelope.wraps.keysUnder_stamped there mint n fun _ hk =>
    Fields.ofKey_of_mem_canonicalize_true hk
  contentType := by
    rw [h.isEnvelope.wraps.get?_contentType_stamped there mint n,
      orElse_value_canonicalize hw hd fallback]
    by_cases hset : m.headers.canonicalize.dataType.isSet = true
    · rw [if_pos hset, if_pos hset]
      exact Value.toOption_of_not_isNull (Value.not_isNull_of_isSet hset)
    · rw [if_neg hset, if_neg hset]
  others k hk hid hct := by
    rw [h.isEnvelope.wraps.get?_stamped_of_none there mint n
      (fun _ hk => Fields.ofKey_of_mem_canonicalize_true hk) hk hid hct,
      h.isEnvelope.get?_of_none hk hid hct]

/-- An event has a structured form, and the canonical form of that is the event again. -/
def Survives (m : Message) (c : JsonConverter) (p fallback : Value) : Prop :=
  ∀ (mint mint' : Mint) (journal journal' : Journal), ∃ s out after after',
    (m.toStructured c.toConverter).exec mint journal = (.ok s, after) ∧
      (s.toCanonical c.toConverter.toReader {} fallback).exec mint' journal' = (.ok out, after') ∧
      m.ComesBack p fallback out

/-- **Events survive their structured form.**  An event whose attributes and data JSON has is
written in structured mode, and the canonical form of what is written is the event again, whatever
the codecs are, as long as the one of the converter reads back what it writes. -/
theorem toCanonical_toStructured (hc : c.ReadsBack) (hw : m.headers.canonicalize.Writable)
    (hp : m.Carries c p)
    (htype : m.headers.canonicalize.dataType.isSet = true →
      m.headers.canonicalize.dataType.IsJson) (fallback : Value) : m.Survives c p fallback := by
  intro mint mint' journal journal'
  obtain ⟨s, after, hwrite, hs⟩ := exists_toStructured hc hw hp htype mint journal
  obtain ⟨d, there, after', hd, hread⟩ := hs.exec_toCanonical fallback mint' journal'
  exact ⟨s, _, after, after', hwrite, hread, hs.comesBack hw hd there mint' _⟩

/-- An order can be written if its further headers can. -/
theorem writable_order {others : List (String × Value)} {json : Value → Prop} (keys : List String)
    (hkeys : others.map Prod.fst = keys)
    (hothers : ∀ k ∈ keys, Prefix.ofKey k = .none ∨
      Prefix.ofKey k = .canonical ∧ Prefix.ofKey (Prefix.canonical.strip k) = .none ∧
        Prefix.canonical.strip k ≠ Attribute.data.name ∧
        Prefix.canonical.strip k ≠ Attribute.dataBase64.name)
    (hdeclared : Attribute.datacontenttype.key ∉ (order .canonical others).headers)
    (hevent : (order .canonical others).headers.isCloudEvent = true)
    (hjson : ∀ v : Value, v.IsJson → json v)
    (hvalues : ∀ name v, (Prefix.canonical.key name, v) ∈ others → json v) :
    (order .canonical others).headers.canonicalize.Writable json := by
  have hself := (keysUnder_order keys hkeys fun k hk =>
    (hothers k hk).imp_right And.left).canonicalize_eq_self
  refine ⟨hself.symm ▸ hevent, fun name v h => ?json, fun name => names_order keys hkeys hothers,
    fun v h => ?declared⟩
  case json =>
    rw [hself] at h
    rcases get?_key_order (by decide) h with ⟨-, s, rfl⟩ | hmem
    · exact hjson _ (.text s)
    · exact hvalues name v hmem
  case declared =>
    rw [hself, Fields.get?_eq_none_iff.2 hdeclared] at h
    cases h

/-- An order whose body has some content type. -/
def typedOrder (contentType : Value) : Message :=
  order .canonical [(Header.contentType, contentType)]

theorem writable_typedOrder (contentType : Value) :
    (typedOrder contentType).headers.canonicalize.Writable := by
  have hkeys : Attribute.datacontenttype.key ∉ ["ce-specversion", "ce-type", "ce-source",
    Header.contentType, Header.identity, Header.timestamp] := by decide
  refine writable_order [Header.contentType] rfl (by decide) hkeys rfl (fun _ => id)
    fun name v hmem => ?_
  have hkey := Prefix.ofKey_key (p := .canonical) (by decide) name
  rw [(Prod.mk.inj (List.mem_singleton.1 hmem)).1] at hkey
  cases hkey

/-- The content type of the order has become an attribute. -/
theorem toCanonical_toStructured_typedOrder :
    ∃ s out after after',
      ((typedOrder (.text "text/plain")).toStructured ({} : JsonConverter).toConverter).exec
          ⟨fun _ => "2", 0⟩ {} = (.ok s, after) ∧
        (s.toCanonical ({} : JsonConverter).toConverter.toReader).exec ⟨fun _ => "3", 1⟩ {}
          = (.ok out, after') ∧
        out.payload = .text "hello" ∧
        out.headers.get? "ce-type" = some (.text "order.created") ∧
        out.headers.get? "ce-datacontenttype" = some (.text "text/plain") := by
  obtain ⟨s, out, after, after', hwrite, hread, hback⟩ := toCanonical_toStructured
    JsonConverter.readsBack_default (writable_typedOrder (.text "text/plain"))
    (.value (.text "hello")) (fun _ => .text _) Conversion.defaultDataContentType
    ⟨fun _ => "2", 0⟩ ⟨fun _ => "3", 1⟩ {} {}
  exact ⟨s, out, after, after', hwrite, hread, hback.payload, hback.attributes "type",
    hback.attributes "datacontenttype"⟩

/-- An order with some subject. -/
def subjectOrder (subject : Value) : Message := order .canonical [("ce-subject", subject)]

theorem writable_subjectOrder {subject : Value} {json : Value → Prop} (hsubject : json subject)
    (hjson : ∀ v : Value, v.IsJson → json v) :
    (subjectOrder subject).headers.canonicalize.Writable json := by
  have hkeys : Attribute.datacontenttype.key ∉ ["ce-specversion", "ce-type", "ce-source",
    "ce-subject", Header.identity, Header.timestamp] := by decide
  refine writable_order ["ce-subject"] rfl (by decide) hkeys rfl hjson fun name v hmem => ?_
  rw [(Prod.mk.inj (List.mem_singleton.1 hmem)).2]
  exact hsubject

/-- If the order survives, its subject is read back from what it is written as. -/
theorem renders_of_survives {subject fallback : Value}
    (h : (subjectOrder subject).Survives {} (.text "hello") fallback) :
    Json.Renders subject subject := by
  obtain ⟨s, out, after, after', hs, hout, hback⟩ := h ⟨fun _ => "2", 0⟩ ⟨fun _ => "3", 1⟩ {} {}
  have hunder : (subjectOrder subject).headers.KeysUnder .canonical :=
    keysUnder_order ["ce-subject"] rfl (by decide)
  have hrenders := renders_attributeValue (a := .subject) JsonConverter.readsBack_default
    (by decide) hunder rfl (fun _ hname => (names_order ["ce-subject"] rfl (by decide) hname).1)
    hs hout (by decide) (by decide) fun htype => by cases htype
  have hvalue : ∀ {f : Fields Value}, f.KeysUnder .canonical →
      f.get? "ce-subject" = some subject → f.attributeValue .subject = subject := by
    intro f hf hget
    rw [Fields.attributeValue, hf.lookupPrefix_canonical]
    exact Fields.value_of_get? hget
  have hown : (subjectOrder subject).headers.get? "ce-subject" = some subject := rfl
  have hback' := hback.attributes Attribute.subject.name
  rw [hunder.canonicalize_eq_self] at hback'
  rw [hvalue hunder hown, hvalue hback.canonical (hback'.trans rfl)] at hrenders
  exact hrenders

/-- Not every event survives its structured form.  JSON has no member that is named by a byte
string, and a content type of that kind would have to be written.  An integer with too many digits
cannot be written at all, and the two halves of a character are read as the character. -/
theorem not_forall_toCanonical_toStructured :
    (¬∀ (m : Message) (p fallback : Value), m.headers.canonicalize.Writable → m.Carries {} p →
      m.Survives {} p fallback) ∧
    (¬∀ (m : Message) (p fallback : Value),
      m.headers.canonicalize.Writable (fun v => v.IsJson ∨ ∃ n, v = .int n) → m.Carries {} p →
      (m.headers.canonicalize.dataType.isSet = true → m.headers.canonicalize.dataType.IsJson) →
        m.Survives {} p fallback) ∧
    ¬∀ (m : Message) (p fallback : Value),
      m.headers.canonicalize.Writable (fun v => v.IsJson ∨ ∃ t, v = .unpaired t) →
      m.Carries {} p →
      (m.headers.canonicalize.dataType.isSet = true → m.headers.canonicalize.dataType.IsJson) →
        m.Survives {} p fallback := by
  refine ⟨fun h => ?contentType, fun h => ?integer, fun h => ?surrogates⟩
  case contentType =>
    obtain ⟨s, -, after, -, hrun, -⟩ := h (typedOrder (.mapping [(.bytes [120], .int 1)])) _ .null
      (writable_typedOrder _) (.value (.text "hello")) ⟨fun _ => "2", 0⟩ ⟨fun _ => "3", 1⟩ {} {}
    have hfail : ((typedOrder (.mapping [(.bytes [120], .int 1)])).toStructured
        ({} : JsonConverter).toConverter).exec ⟨fun _ => "2", 0⟩ {}
          = (.error (.unwritableValue (.key "bytes")), {}) := rfl
    rw [hfail] at hrun
    cases hrun
  case integer =>
    have hrenders := renders_of_survives (h (subjectOrder (.int (10 ^ Text.digitLimit : Nat))) _
      .null (writable_subjectOrder (Or.inr ⟨_, rfl⟩) fun _ => Or.inl) (.value (.text "hello"))
      fun hset => by cases hset)
    exact Text.not_isShort_natCast (Nat.le_refl _) hrenders.isShort
  case surrogates =>
    exact Json.not_renders_halves (renders_of_survives (h (subjectOrder (.unpaired Json.halves)) _
      .null (writable_subjectOrder (Or.inr ⟨_, rfl⟩) fun _ => Or.inl) (.value (.text "hello"))
      fun hset => by cases hset))

end Message

end CloudEvents
