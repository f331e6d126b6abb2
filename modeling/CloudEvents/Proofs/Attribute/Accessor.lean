import CloudEvents.Proofs.Attribute.Lookup
import CloudEvents.Proofs.Json.Documents
import CloudEvents.Proofs.Time.RoundTrip
/-!
# What accessors make of written values

The attributes of an event that are all under one prefix are those under canonical keys
(`Fields.KeysUnder.attributeValue_eq`), and what is written of them is asked there.

Two of the kinds of value that an accessor takes are none of JSON, URI references and timestamps.
Written as JSON and read again, they have changed: a URI reference is the list of its parts, which
is no URI reference any more, and a timestamp is its text, which is read as the timestamp again but
for a distance from universal time of less than a second. Media types become their texts, and that
is how they are handed out anyway. So what an accessor makes of headers stays the same exactly if it
meets neither of these (`Accessor.get_eq_iff`).
-/

namespace CloudEvents

/-- The attributes of an event are those under canonical keys. -/
theorem Fields.KeysUnder.attributeValue_eq {p : Prefix} {headers : Fields Value}
    (h : headers.KeysUnder p) (hp : p ≠ .none)
    (hevent : headers.canonicalize.isCloudEvent = true) (a : Attribute) :
    headers.attributeValue a = headers.canonicalize.value a.key := by
  have hversion : Prefix.canonical.key Attribute.specversion.name ∈ headers.canonicalize := by
    have hall := List.all_eq_true.1 hevent .specversion (by decide)
    exact of_decide_eq_true hall
  obtain ⟨k, hk, hto⟩ := mem_canonicalize.1 hversion
  have hkey : Prefix.ofKey k ≠ .none := by
    rw [h.key_eq hk hto, Prefix.ofKey_key hp]
    exact hp
  rw [attributeValue, h.lookupPrefix_eq hk hkey, Fields.value, Fields.value,
    ← h.get?_canonicalize hp]
  rfl

/-! ## Written values -/

/-- The attributes that have a typed form. -/
def Attribute.typed : List Attribute := [source, datacontenttype, dataschema, time]

/-- The values that accessors take: those that JSON has, and typed ones where they belong. -/
inductive Value.FitsAttribute (a : Attribute) : Value → Prop where
  /-- JSON has the value. -/
  | json {v : Value} (h : v.IsJson) : FitsAttribute a v
  /-- The time of an event. -/
  | time (t : Time.Timestamp) (h : a = .time) : FitsAttribute a (.time t)
  /-- Where an event comes from, or the schema of its data. -/
  | uri (u : Uri) (h : a = .source ∨ a = .dataschema) : FitsAttribute a (.uri u)
  /-- The media type of the data. -/
  | mediaType (mediaType : MediaType) (h : a = .datacontenttype) :
    FitsAttribute a (.mediaType mediaType)

namespace Value.FitsAttribute

variable {a : Attribute} {v : Value}

theorem isJson_or_uri (h : v.FitsAttribute a) (htime : a ≠ .time) (htype : a ≠ .datacontenttype) :
    v.IsJson ∨ ∃ u, v = .uri u := by
  cases h with
  | json h => exact Or.inl h
  | uri u _ => exact Or.inr ⟨u, rfl⟩
  | time t h => exact absurd h htime
  | mediaType mediaType h => exact absurd h htype

theorem isJson (h : v.FitsAttribute a) (ha : a ∉ Attribute.typed) : v.IsJson := by
  cases h with
  | json h => exact h
  | uri u h => rcases h with rfl | rfl <;> exact absurd (by decide) ha
  | time t h => exact absurd (by rw [h]; decide) ha
  | mediaType mediaType h => exact absurd (by rw [h]; decide) ha

theorem isJson_or_time (h : v.FitsAttribute .time) : v.IsJson ∨ ∃ t, v = .time t := by
  cases h with
  | json h => exact Or.inl h
  | time t _ => exact Or.inr ⟨t, rfl⟩
  | uri u h => rcases h with h | h <;> cases h
  | mediaType mediaType h => cases h

theorem isJson_or_mediaType (h : v.FitsAttribute .datacontenttype) :
    v.IsJson ∨ ∃ m, v = .mediaType m := by
  cases h with
  | json h => exact Or.inl h
  | mediaType m _ => exact Or.inr ⟨m, rfl⟩
  | time t h => cases h
  | uri u h => rcases h with h | h <;> cases h

end Value.FitsAttribute

namespace Json

variable {v w : Value}

/-- A URI reference is written as the list of its parts. -/
theorem Renders.eq_of_uri {u : Uri} (h : Renders (.uri u) w) : w = .list (u.parts.map .text) :=
  h.unique ⟨_, rfl, (reads_list (reads_strings u.parts)).read⟩

/-- A timestamp is written as its text. -/
theorem Renders.eq_of_time {t : Time.Timestamp} (h : Renders (.time t) w) :
    w = .text (String.ofList (t.textWith ' ')) :=
  h.unique ⟨_, rfl, (reads_string _).read⟩

theorem Renders.eq_of_mediaType {m : MediaType} (h : Renders (.mediaType m) w) :
    w = .text m.text :=
  h.unique ⟨_, rfl, (reads_string _).read⟩

/-- Neither kind of value is written as null unless it is null. -/
theorem Renders.isNull_eq (h : Renders v w) (hv : v.IsJson ∨ ∃ u, v = .uri u) :
    w.isNull = v.isNull := by
  rcases hv with hjson | ⟨u, rfl⟩
  · rw [h.eq_of_isJson hjson]
  · rw [h.eq_of_uri]
    rfl

/-- What is read as a URI reference stays the same unless it is one. -/
theorem Renders.uri_eq_iff (h : Renders v w) (hv : v.IsJson ∨ ∃ u, v = .uri u) (a : Attribute) :
    a.uri w = a.uri v ↔ ∀ u, v ≠ .uri u := by
  rcases hv with hjson | ⟨u, rfl⟩
  · refine iff_of_true (by rw [h.eq_of_isJson hjson]) ?_
    rintro u rfl
    cases hjson
  · refine iff_of_false ?_ fun hne => hne u rfl
    rw [h.eq_of_uri]
    intro heq
    cases heq

/-- What is read as a timestamp stays the same if the distance from universal time is kept. -/
theorem Renders.timestamp_eq_iff (h : Renders v w) (hv : v.IsJson ∨ ∃ t, v = .time t) :
    Attribute.timestamp w = Attribute.timestamp v ↔
      ∀ t o, v = .time t → t.offset = some o → o.micros = 0 ∨ 1000000 ≤ o.micros.natAbs := by
  rcases hv with hjson | ⟨t, rfl⟩
  · refine iff_of_true (by rw [h.eq_of_isJson hjson]) ?_
    rintro t o rfl
    cases hjson
  · have hread : Attribute.timestamp w = .ok (.time t.readBack) := by
      have htext : Time.Timestamp.read? (String.ofList (t.textWith ' ')) = some t.readBack :=
        Time.Timestamp.read?_textWith (by decide) t
      rw [h.eq_of_time, Attribute.timestamp]
      · simp only [Value.text?, Option.bind_some, htext]
      · rintro ⟨⟩
      · rintro t' ⟨⟩
    have hself : Attribute.timestamp (.time t) = .ok (.time t) := rfl
    rw [hread, hself, Except.ok.injEq, Value.time.injEq, Time.Timestamp.readBack_eq_self_iff]
    constructor
    · rintro hkeeps t' o heq
      cases heq
      exact hkeeps o
    · exact fun hkeeps o => hkeeps t o rfl

/-- A media type is handed out as its text. -/
theorem Renders.withMediaTypeText_eq (h : Renders v w)
    (hv : v.IsJson ∨ ∃ m, v = .mediaType m) : w.withMediaTypeText = v.withMediaTypeText := by
  rcases hv with hjson | ⟨m, rfl⟩
  · rw [h.eq_of_isJson hjson]
  · rw [h.eq_of_mediaType]
    rfl

end Json

/-! ## Accessors -/

namespace Accessor

/-- The attributes that an accessor looks at. -/
def attributes : Accessor → List Attribute
  | id => [.id]
  | source => [.source]
  | specversion => [.specversion]
  | type => [.type]
  | datacontenttype => [.datacontenttype]
  | dataschema => [.dataschema, .schemaurl]
  | subject => [.subject]
  | time => [.time]

/-- The condition under which an accessor makes the same of headers whose values were written: it
meets no URI reference, and no distance from universal time of less than a second. -/
def Keeps (headers : Fields Value) : Accessor → Prop
  | source => ∀ u, headers.attributeValue .source ≠ .uri u
  | dataschema => ∀ u, headers.schemaValue ≠ .uri u
  | time => ∀ t o, headers.attributeValue .time = .time t → t.offset = some o →
      o.micros = 0 ∨ 1000000 ≤ o.micros.natAbs
  | id | specversion | type | datacontenttype | subject => True

variable {headers headers' : Fields Value}

/-- The schema is found under the same one of its two names. -/
theorem renders_schemaValue
    (hvalue : (headers.attributeValue .dataschema).FitsAttribute .dataschema)
    (hnew : Json.Renders (headers.attributeValue .dataschema)
      (headers'.attributeValue .dataschema))
    (hformer : Json.Renders (headers.attributeValue .schemaurl)
      (headers'.attributeValue .schemaurl)) :
    Json.Renders headers.schemaValue headers'.schemaValue := by
  rw [Fields.schemaValue, Fields.schemaValue,
    hnew.isNull_eq (hvalue.isJson_or_uri (by decide) (by decide))]
  cases (headers.attributeValue .dataschema).isNull with
  | true => exact hformer
  | false => exact hnew

theorem isJson_or_uri_schemaValue
    (hvalues : ∀ b : Attribute, (headers.attributeValue b).FitsAttribute b) :
    headers.schemaValue.IsJson ∨ ∃ u, headers.schemaValue = .uri u := by
  rw [Fields.schemaValue]
  cases (headers.attributeValue .dataschema).isNull with
  | true => exact (hvalues .schemaurl).isJson_or_uri (by decide) (by decide)
  | false => exact (hvalues .dataschema).isJson_or_uri (by decide) (by decide)

/-- **What accessors make of written values.**  Whatever an accessor looks at may be written as JSON
and read again if there are no URI references and no distances from universal time of less than a
second; otherwise the accessor tells the difference. -/
theorem get_eq_iff (hvalues : ∀ b : Attribute, (headers.attributeValue b).FitsAttribute b)
    (a : Accessor) (hrenders : ∀ b ∈ a.attributes,
      Json.Renders (headers.attributeValue b) (headers'.attributeValue b)) :
    a.get headers' = a.get headers ↔ a.Keeps headers := by
  have hplain : ∀ b : Attribute, b ∈ a.attributes → b ∉ Attribute.typed →
      (Except.ok (headers'.attributeValue b) : Except Error Value)
        = .ok (headers.attributeValue b) := by
    intro b hb htyped
    rw [(hrenders b hb).eq_of_isJson ((hvalues b).isJson htyped)]
  cases a with
  | id => exact iff_of_true (hplain .id (by decide) (by decide)) trivial
  | specversion => exact iff_of_true (hplain .specversion (by decide) (by decide)) trivial
  | type => exact iff_of_true (hplain .type (by decide) (by decide)) trivial
  | subject => exact iff_of_true (hplain .subject (by decide) (by decide)) trivial
  | datacontenttype =>
    have htext := (hrenders .datacontenttype (by decide)).withMediaTypeText_eq
      (hvalues .datacontenttype).isJson_or_mediaType
    exact iff_of_true (congrArg Except.ok htext) trivial
  | source =>
    exact (hrenders .source (by decide)).uri_eq_iff
      ((hvalues .source).isJson_or_uri (by decide) (by decide)) .source
  | dataschema =>
    exact (renders_schemaValue (hvalues .dataschema) (hrenders .dataschema (by decide))
      (hrenders .schemaurl (by decide))).uri_eq_iff (isJson_or_uri_schemaValue hvalues) .dataschema
  | time => exact (hrenders .time (by decide)).timestamp_eq_iff (hvalues .time).isJson_or_time

end Accessor

end CloudEvents
