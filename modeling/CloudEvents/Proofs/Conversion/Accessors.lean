import CloudEvents.Proofs.Attribute.Accessor
import CloudEvents.Proofs.Conversion.Envelope
/-!
# What accessors make of an event that came back

An event in binary mode may hold typed attributes, and the document of its structured form holds
what JSON makes of them. The canonical form of that document has the same attributes under the same
names (`Message.renders_attributeValue`), all of them written and read. So an accessor makes the
same of it exactly if it makes the same of written values, and there it is known which accessors do.

## Main statements

* `Message.renders_attributeValue`: every attribute comes back as what it is written as;
* `Message.get_comesBack_iff`: an accessor makes the same of the event that came back unless it
  meets a URI reference or a distance from universal time of less than a second.
-/

namespace CloudEvents

namespace Message

variable {m s out : Message} {c : JsonConverter} {fallback : Value} {mint mint' : Mint}
  {journal journal' after after' : Journal}

/-- Every attribute comes back as what it is written as. The content type of the data has to be
there, since the document may have it from elsewhere. -/
theorem renders_attributeValue (hc : c.ReadsBack) {p : Prefix} (hp : p ≠ .none)
    (hkeys : m.headers.KeysUnder p) (hpayload : m.payload.bytes? = none)
    (hbare : ∀ name, Prefix.canonical.key name ∈ m.headers.canonicalize →
      Prefix.ofKey name = .none)
    (hs : (m.toStructured c.toConverter).exec mint journal = (.ok s, after))
    (hout : (s.toCanonical c.toConverter.toReader {} fallback).exec mint' journal'
      = (.ok out, after'))
    {a : Attribute} (hdata : a ≠ .data) (hencoded : a ≠ .dataBase64)
    (hdeclared : a = .datacontenttype → a.key ∈ m.headers.canonicalize) :
    Json.Renders (m.headers.attributeValue a) (out.headers.attributeValue a) := by
  obtain ⟨hevent, henvelope, document, d, hfilled, hbody, hsame⟩ := toStructured_ok hs
  obtain ⟨payload, there, -, rfl⟩ := henvelope.wraps.toCanonical_ok (hbody.payloadValue_eq hc) hout
  rw [Conversion.filled, hpayload, Except.ok.injEq] at hfilled
  -- the names in the document are bare
  have hnames : ∀ name ∈ d, Prefix.ofKey name = .none := by
    intro name hname
    rw [← hsame.mem_iff, ← hfilled, Fields.mem_insert] at hname
    rcases hname with rfl | hname
    · rfl
    · by_cases htype : name = Attribute.datacontenttype.name
      · rw [htype]
        rfl
      · exact hbare name ((Conversion.mem_outlineWith htype).1 hname)
  have hnot : ¬(a.name = Attribute.data.name ∨ a.name = Attribute.dataBase64.name) := by
    rintro (h | h)
    · exact hdata (Attribute.name_inj.1 h)
    · exact hencoded (Attribute.name_inj.1 h)
  have hkeysOut := henvelope.wraps.keysUnder_stamped there mint' (journal'.drawn + 1) fun _ hk =>
    Fields.ofKey_of_mem_canonicalize_true hk
  have hget := henvelope.wraps.get?_key_stamped there mint' (journal'.drawn + 1) a.name
  rw [if_neg hnot, Conversion.get?_canonicalize_of_bare hnames] at hget
  rw [hkeys.attributeValue_eq hp hevent, Fields.attributeValue, hkeysOut.lookupPrefix_canonical,
    Fields.value, Fields.value, hget]
  have hdocument : document.get? a.name
      = (Conversion.outline m.headers.canonicalize).get? a.name := by
    rw [← hfilled, Fields.get?_insert, if_neg fun h => hnot (Or.inl h)]
    rfl
  rw [Conversion.get?_outline, Attribute.canonical_key_name] at hdocument
  cases hown : m.headers.canonicalize.get? a.key with
  | some v =>
    rw [hown, Option.some_or] at hdocument
    obtain ⟨w, hw, hrenders⟩ := hsame.exists_get? hdocument
    rw [hw]
    exact hrenders
  | none =>
    have hother : a.name ≠ Attribute.datacontenttype.name := fun h =>
      Fields.get?_eq_none_iff.1 hown (hdeclared (Attribute.name_inj.1 h))
    rw [hown, Option.none_or, if_neg fun h => hother h.1, Fields.get?_eq_none_iff,
      hsame.mem_iff, ← Fields.get?_eq_none_iff] at hdocument
    rw [hdocument]
    exact Json.renders_self .null

/-- **Which accessors make the same of an event that came back.**  Take an event whose attributes
are under one prefix, with values that JSON has and typed values where they belong, whose data is
not in bytes, and none of whose bare names begins with a prefix.  If it has a structured form and
that has a canonical form, then an accessor makes the same of this as of the event, errors included,
if and only if it meets no URI reference and no distance from universal time of less than a second.
The content type of the data is asked for only if the event has one. -/
theorem get_comesBack_iff (hc : c.ReadsBack) {p : Prefix} (hp : p ≠ .none)
    (hkeys : m.headers.KeysUnder p) (hpayload : m.payload.bytes? = none)
    (hvalues : ∀ b : Attribute, (m.headers.attributeValue b).FitsAttribute b)
    (hbare : ∀ name, Prefix.canonical.key name ∈ m.headers.canonicalize →
      Prefix.ofKey name = .none)
    (hs : (m.toStructured c.toConverter).exec mint journal = (.ok s, after))
    (hout : (s.toCanonical c.toConverter.toReader {} fallback).exec mint' journal'
      = (.ok out, after'))
    (a : Accessor) (hdeclared : a = .datacontenttype →
      (m.headers.attributeValue .datacontenttype).isSet = true) :
    a.get out.headers = a.get m.headers ↔ a.Keeps m.headers := by
  refine a.get_eq_iff hvalues fun b hb => ?_
  refine renders_attributeValue hc hp hkeys hpayload hbare hs hout ?_ ?_ ?_
  · rintro rfl
    cases a <;> exact absurd hb (by decide)
  · rintro rfl
    cases a <;> exact absurd hb (by decide)
  · rintro rfl
    have ha : a = .datacontenttype := by
      cases a <;> first | rfl | exact absurd hb (by decide)
    obtain ⟨hevent, -⟩ := toStructured_ok hs
    have hset := hdeclared ha
    rw [hkeys.attributeValue_eq hp hevent] at hset
    by_contra hnot
    rw [Fields.value_of_not_mem hnot] at hset
    cases hset

/-- A time of day with a fraction of a second, two hours to the east. -/
def dispatched : Time.Timestamp :=
  ⟨⟨2024, 3, 1, by decide, by decide, by decide⟩,
    ⟨12, 34, 56, 250000, by decide, by decide, by decide, by decide⟩,
    some ⟨Int.ofNat 7200000000, by decide⟩⟩

/-- A reference with scheme, authority and path. -/
def ordersUri : Uri := ⟨"https", "example.com", "/orders", "", ""⟩

/-- An order with a time, the media type of its data and some source. -/
def sourcedOrder (source : Value) : Message :=
  order .canonical [("ce-source", source), ("ce-time", .time dispatched),
    ("ce-datacontenttype", .mediaType ⟨"text", "html", .empty⟩)]

theorem keysUnder_sourcedOrder (source : Value) :
    (sourcedOrder source).headers.KeysUnder .canonical :=
  keysUnder_order ["ce-source", "ce-time", "ce-datacontenttype"] rfl (by decide)

theorem names_sourcedOrder {source : Value} {name : String}
    (h : Prefix.canonical.key name ∈ (sourcedOrder source).headers.canonicalize) :
    Prefix.ofKey name = .none ∧ name ≠ Attribute.data.name ∧ name ≠ Attribute.dataBase64.name :=
  names_order ["ce-source", "ce-time", "ce-datacontenttype"] rfl (by decide) h

theorem fitsAttribute_sourcedOrder {source : Value} (h : source.FitsAttribute .source)
    (a : Attribute) : ((sourcedOrder source).headers.attributeValue a).FitsAttribute a := by
  have hlookup : (sourcedOrder source).headers.attributeValue a
      = (sourcedOrder source).headers.value a.key := by
    rw [Fields.attributeValue, (keysUnder_sourcedOrder source).lookupPrefix_canonical,
      Attribute.canonical_key_name]
  have hkeys : (sourcedOrder source).headers.keys = ["ce-specversion", "ce-type", "ce-source",
    "ce-time", "ce-datacontenttype", Header.identity, Header.timestamp] := rfl
  rw [hlookup]
  cases a with
  | specversion => exact .json (.text "1.0")
  | type => exact .json (.text "order.created")
  | source => exact h
  | time => exact .time dispatched rfl
  | datacontenttype => exact .mediaType _ rfl
  | data | dataBase64 | id | dataschema | schemaurl | subject =>
    rw [Fields.value_of_not_mem (by rw [Fields.mem_def, hkeys]; decide)]
    exact .json .null

/-- Both conversions of the order succeed. -/
theorem exists_toCanonical_sourcedOrder {source : Value}
    (hs : ((sourcedOrder source).toStructured ({} : JsonConverter).toConverter).exec
      mint journal = (.ok s, after)) (mint' : Mint) (journal' : Journal) :
    ∃ out after', (s.toCanonical ({} : JsonConverter).toConverter.toReader).exec mint' journal'
      = (.ok out, after') := by
  obtain ⟨out, after', hout, -⟩ := exists_toCanonical_of_toStructured
    JsonConverter.readsBack_default (.text "hello")
    (fun p hp _ hmem => hp ((Prefix.ofKey_key hp _).symm.trans (names_sourcedOrder hmem).1))
    hs Conversion.defaultDataContentType mint' journal'
  exact ⟨out, after', hout⟩

/-- A source in a text, a timestamp and a media type come back. -/
theorem get_comesBack_sourcedOrder :
    ∃ s out after after',
      ((sourcedOrder (.text "/orders")).toStructured ({} : JsonConverter).toConverter).exec
          ⟨fun _ => "2", 0⟩ {} = (.ok s, after) ∧
        (s.toCanonical ({} : JsonConverter).toConverter.toReader).exec ⟨fun _ => "3", 0⟩ {}
          = (.ok out, after') ∧
        Accessor.time.get out.headers = .ok (.time dispatched) ∧
        Accessor.datacontenttype.get out.headers = .ok (.text "text/html") ∧
        Accessor.source.get out.headers
          = Accessor.source.get (sourcedOrder (.text "/orders")).headers := by
  obtain ⟨s, after, hs⟩ : ∃ s after, ((sourcedOrder (.text "/orders")).toStructured
      ({} : JsonConverter).toConverter).exec ⟨fun _ => "2", 0⟩ {} = (.ok s, after) := ⟨_, _, rfl⟩
  obtain ⟨out, after', hout⟩ := exists_toCanonical_sourcedOrder hs ⟨fun _ => "3", 0⟩ {}
  have hback : ∀ a : Accessor, a.Keeps (sourcedOrder (.text "/orders")).headers →
      a.get out.headers = a.get (sourcedOrder (.text "/orders")).headers := fun a =>
    (get_comesBack_iff JsonConverter.readsBack_default (by decide)
      (keysUnder_sourcedOrder _) rfl (fitsAttribute_sourcedOrder (.json (.text _)))
      (fun _ hname => (names_sourcedOrder hname).1) hs hout a fun _ => rfl).2
  refine ⟨s, out, after, after', hs, hout, hback .time ?_, hback .datacontenttype trivial,
    hback .source ?_⟩
  · rintro t o ht ho
    cases ht
    cases ho
    exact Or.inr (by decide)
  · rintro u hu
    cases hu

/-- Not every event comes back with what its accessors make of it: a source that is a URI reference
is handed out as it is, and the list of its parts that comes back is refused. -/
theorem not_forall_get_comesBack :
    ¬∀ (m s out : Message) (mint : Mint) (after after' : Journal),
      m.headers.KeysUnder .canonical → m.payload.IsJson →
      (∀ a : Attribute, (m.headers.attributeValue a).FitsAttribute a) →
      (∀ name, Prefix.canonical.key name ∈ m.headers.canonicalize →
        Prefix.ofKey name = .none ∧ name ≠ Attribute.data.name ∧
          name ≠ Attribute.dataBase64.name) →
      (m.toStructured ({} : JsonConverter).toConverter).exec mint {} = (.ok s, after) →
      (s.toCanonical ({} : JsonConverter).toConverter.toReader).exec mint {} = (.ok out, after') →
        ∀ v, Accessor.source.get m.headers = .ok v → Accessor.source.get out.headers = .ok v := by
  intro h
  obtain ⟨s, after, hs⟩ : ∃ s after, ((sourcedOrder (.uri ordersUri)).toStructured
      ({} : JsonConverter).toConverter).exec ⟨fun _ => "2", 0⟩ {} = (.ok s, after) := ⟨_, _, rfl⟩
  obtain ⟨out, after', hout⟩ := exists_toCanonical_sourcedOrder hs ⟨fun _ => "2", 0⟩ {}
  have hback := h _ s out _ after after' (keysUnder_sourcedOrder _) (.text "hello")
    (fitsAttribute_sourcedOrder (.uri ordersUri (Or.inl rfl))) (fun _ => names_sourcedOrder) hs hout
    (.uri ordersUri) rfl
  have hlist : Json.Renders (.uri ordersUri) (out.headers.attributeValue .source) :=
    renders_attributeValue (a := .source) JsonConverter.readsBack_default (by decide)
      (keysUnder_sourcedOrder (.uri ordersUri)) rfl (fun _ hname => (names_sourcedOrder hname).1) hs
      hout (by decide) (by decide) (fun htype => by cases htype)
  rw [Accessor.get, hlist.eq_of_uri] at hback
  cases hback

end Message

end CloudEvents
