import CloudEvents.Conversion.Structured
import CloudEvents.Proofs.Attribute.Canonicalize
import CloudEvents.Proofs.Conversion.Body
import CloudEvents.Proofs.Encoding.Base64
import CloudEvents.Proofs.Json.Documents
import CloudEvents.Proofs.Message.Builder
/-!
# The document of an event

`toStructured` makes a document of the canonical headers in two steps: the attributes under their
bare names, and the content type of the data where none of them says it. What the document says
about each name is told here by the headers alone (`Conversion.get?_outline`), and so is the media
type of a body in bytes (`Conversion.declaredType_outline`).

If no bare name begins with a prefix or is one of the data, all members get their canonical keys
back.
-/

namespace CloudEvents

namespace Fields

/-- The content type that canonical headers declare for the data: as an attribute, or else as the
content type of the body. -/
def dataType (headers : Fields Value) : Value :=
  ((headers.value Attribute.datacontenttype.key).orElse
    (headers.value Header.contentType)).withMediaTypeText

/-- The media type of data in bytes: the one that is declared, or JSON. -/
def dataMediaType (headers : Fields Value) : Except Error MediaType :=
  if headers.dataType.isSet then MediaType.ofValue headers.dataType else .ok MediaType.json

/-- Canonical headers of an event that can be written as a document: its attributes are values that
JSON has, or that pass another test, none has a bare name that begins with a prefix or is one of the
data, and a content type of the data counts as something. -/
structure Writable (headers : Fields Value) (json : Value → Prop := Value.IsJson) : Prop where
  /-- The headers are those of an event in binary mode. -/
  event : headers.isCloudEvent = true
  /-- JSON has the values of the attributes. -/
  json : ∀ name v, headers.get? (Prefix.canonical.key name) = some v → json v
  /-- No bare name begins with a prefix or is one of the data. -/
  names : ∀ name, Prefix.canonical.key name ∈ headers →
    Prefix.ofKey name = .none ∧ name ≠ Attribute.data.name ∧ name ≠ Attribute.dataBase64.name
  /-- A content type of the data is no empty text. -/
  declared : ∀ v, headers.get? Attribute.datacontenttype.key = some v → v.isSet = true

end Fields

namespace Conversion

variable {headers : Fields Value}

theorem get?_members (headers : Fields Value) (name : String) :
    (members headers).get? name = headers.get? (Prefix.canonical.key name) := by
  have hinj : ∀ k ∈ (headers.filterKeys Prefix.canonical.marks).keys,
      ∀ k' ∈ (headers.filterKeys Prefix.canonical.marks).keys,
        Prefix.canonical.strip k = Prefix.canonical.strip k' → k = k' := by
    intro k hk k' hk' heq
    rw [Fields.keys_filterKeys, List.mem_filter] at hk hk'
    rw [← Prefix.key_strip hk.2, ← Prefix.key_strip hk'.2, heq]
  have hmembers : members headers = Fields.ofList
      ((headers.filterKeys Prefix.canonical.marks).entries.map fun e =>
        (Prefix.canonical.strip e.1, e.2)) := rfl
  have hget := Fields.get?_filterKeys Prefix.canonical.marks headers (Prefix.canonical.key name)
  rw [if_pos (Prefix.marks_key _ _)] at hget
  rw [hmembers, Fields.get?_ofList, Fields.lookup_reverse
    (Fields.nodup_map_of_injOn hinj (headers.filterKeys Prefix.canonical.marks).nodup), ← hget]
  by_cases hmem : Prefix.canonical.key name ∈ headers.filterKeys Prefix.canonical.marks
  · have hlookup := Fields.lookup_map_of_injOn hinj hmem
    rw [Prefix.strip_key] at hlookup
    exact hlookup
  · rw [Fields.get?_eq_none_iff.2 hmem, Fields.lookup_of_not_mem]
    rw [List.map_map]
    intro hname
    obtain ⟨e, he, heq⟩ := List.mem_map.1 hname
    have hkey : e.1 ∈ headers.filterKeys Prefix.canonical.marks := List.mem_map_of_mem he
    have hmark := hkey
    rw [Fields.mem_def, Fields.keys_filterKeys, List.mem_filter] at hmark
    rw [← heq, Function.comp_apply, Prefix.key_strip hmark.2] at hmem
    exact hmem hkey

/-- The content type stays on the envelope until it is taken from there. -/
theorem value_envelope_contentType (headers : Fields Value) :
    (envelope headers).value Header.contentType = headers.value Header.contentType := by
  have hkeep : (!Prefix.canonical.marks Header.contentType && Header.contentType != Header.identity)
      = true := by decide
  rw [Fields.value, Fields.value, envelope, Fields.get?_filterKeys, if_pos hkeep]

/-- The document of canonical headers before it gets its data. -/
def outline (headers : Fields Value) : Fields Value :=
  withContentType (members headers) .null ((envelope headers).value Header.contentType)

theorem outline_of_mem (h : Attribute.datacontenttype.key ∈ headers) :
    outline headers = members headers := by
  have hmem : Attribute.datacontenttype.name ∈ members headers := by
    rw [Fields.mem_iff_isSome_get?, get?_members]
    exact Fields.mem_iff_isSome_get?.1 h
  rw [outline, withContentType]
  simp [hmem, Value.isSet]

theorem dataType_of_not_mem (h : Attribute.datacontenttype.key ∉ headers) :
    headers.dataType = (headers.value Header.contentType).withMediaTypeText := by
  rw [Fields.dataType, Fields.value_of_not_mem h]
  rfl

theorem outline_of_not_mem (h : Attribute.datacontenttype.key ∉ headers) :
    outline headers =
      if headers.dataType.isSet then
        (members headers).insert Attribute.datacontenttype.name headers.dataType
      else members headers := by
  have hmem : Attribute.datacontenttype.name ∉ members headers := by
    rw [← Fields.get?_eq_none_iff, get?_members]
    exact Fields.get?_eq_none_iff.2 h
  have hnull : Value.null.isSet = false := rfl
  rw [dataType_of_not_mem h, Value.isSet_withMediaTypeText, outline, withContentType,
    value_envelope_contentType]
  simp [hmem, hnull]

/-- The document says what the attributes say, and the content type of the data where that is
declared for the body alone. -/
theorem get?_outline (headers : Fields Value) (name : String) :
    (outline headers).get? name = (headers.get? (Prefix.canonical.key name)).or
      (if name = Attribute.datacontenttype.name ∧ headers.dataType.isSet = true then
        some headers.dataType else none) := by
  by_cases h : Attribute.datacontenttype.key ∈ headers
  · rw [outline_of_mem h, get?_members]
    by_cases hname : name = Attribute.datacontenttype.name
    · obtain ⟨v, hv⟩ := Fields.exists_get?_of_mem h
      have hkey : headers.get? (Prefix.canonical.key name) = some v := by
        rw [hname]
        exact hv
      rw [hkey, Option.some_or]
    · rw [if_neg fun hboth => hname hboth.1, Option.or_none]
  · rw [outline_of_not_mem h]
    by_cases hset : headers.dataType.isSet = true
    · rw [if_pos hset, Fields.get?_insert, get?_members]
      by_cases hname : name = Attribute.datacontenttype.name
      · have hkey : headers.get? (Prefix.canonical.key name) = none := by
          rw [hname]
          exact Fields.get?_eq_none_iff.2 h
        rw [if_pos hname, if_pos ⟨hname, hset⟩, hkey, Option.none_or]
      · rw [if_neg hname, if_neg fun hboth => hname hboth.1, Option.or_none]
    · rw [if_neg hset, if_neg fun hboth => hset hboth.2, Option.or_none, get?_members]

/-- The content type in the document is the one that the headers declare. -/
theorem withMediaTypeText_outline (hw : headers.Writable) :
    ((outline headers).value Attribute.datacontenttype.name).withMediaTypeText
      = if headers.dataType.isSet then headers.dataType else .null := by
  have hget := get?_outline headers Attribute.datacontenttype.name
  rw [Attribute.canonical_key_name] at hget
  by_cases h : Attribute.datacontenttype.key ∈ headers
  · obtain ⟨v, hv⟩ := Fields.exists_get?_of_mem h
    have hset := hw.declared v hv
    have htype : headers.dataType = v.withMediaTypeText := by
      rw [Fields.dataType, Fields.value_of_get? hv, Value.orElse, if_pos hset]
    rw [hv, Option.some_or] at hget
    rw [Fields.value_of_get? hget, htype, Value.isSet_withMediaTypeText, if_pos hset]
  · rw [Fields.get?_eq_none_iff.2 h, Option.none_or] at hget
    by_cases hset : headers.dataType.isSet = true
    · rw [if_pos ⟨rfl, hset⟩] at hget
      rw [if_pos hset, Fields.value_of_get? hget, dataType_of_not_mem h,
        Value.withMediaTypeText_withMediaTypeText]
    · rw [if_neg fun hboth => hset hboth.2] at hget
      rw [if_neg hset, Fields.value, hget]
      rfl

theorem isSet_outline (hw : headers.Writable) :
    ((outline headers).value Attribute.datacontenttype.name).isSet = headers.dataType.isSet := by
  rw [← Value.isSet_withMediaTypeText, withMediaTypeText_outline hw]
  by_cases hset : headers.dataType.isSet = true
  · rw [if_pos hset]
  · rw [if_neg hset]
    exact (Bool.not_eq_true _ ▸ hset).symm

/-- The media type of data in bytes is the one that the headers declare. -/
theorem declaredType_outline (hw : headers.Writable) :
    declaredType (outline headers) = headers.dataMediaType := by
  rw [declaredType, Fields.dataMediaType, isSet_outline hw, withMediaTypeText_outline hw]
  by_cases hset : headers.dataType.isSet = true
  · rw [if_pos hset, if_pos hset, if_pos hset]
  · rw [if_neg hset, if_neg hset]

/-! ## The data -/

theorem ofKey_of_mem_outline (hw : headers.Writable) {name : String} (h : name ∈ outline headers) :
    Prefix.ofKey name = .none ∧ name ≠ Attribute.data.name ∧ name ≠ Attribute.dataBase64.name := by
  rw [Fields.mem_iff_isSome_get?, get?_outline, Option.isSome_or, Bool.or_eq_true] at h
  rcases h with h | h
  · exact hw.names name (Fields.mem_iff_isSome_get?.2 h)
  · split at h
    · rename_i hboth
      rw [hboth.1]
      decide
    · cases h

theorem isJson_of_get?_outline (hw : headers.Writable)
    (htype : headers.dataType.isSet = true → headers.dataType.IsJson) {name : String} {v : Value}
    (h : (outline headers).get? name = some v) : v.IsJson := by
  rw [get?_outline] at h
  cases hown : headers.get? (Prefix.canonical.key name) with
  | some w =>
    rw [hown, Option.some_or] at h
    exact hw.json name v (hown.trans h)
  | none =>
    rw [hown, Option.none_or] at h
    split at h
    · rename_i hboth
      exact Option.some.inj h ▸ htype hboth.2
    · cases h

/-- Fields whose values JSON has are a mapping that JSON has. -/
theorem isJson_ofFields {d : Fields Value} (h : ∀ name v, d.get? name = some v → v.IsJson) :
    (Value.ofFields d).IsJson := by
  refine .mapping _ d.nodup_textEntries d.isName_of_mem_textEntries fun e he => ?_
  obtain ⟨e', he', rfl⟩ := List.mem_map.1 he
  exact h e'.1 e'.2 (Fields.get?_eq_some_iff.2 he')

/-- Bare names get their canonical keys. -/
theorem get?_canonicalize_of_bare {d : Fields Value} (h : ∀ name ∈ d, Prefix.ofKey name = .none)
    (name : String) : (d.canonicalize true).get? (Prefix.canonical.key name) = d.get? name := by
  have hkey : ∀ k ∈ d, canonicalKey true k = Prefix.canonical.key k := fun k hk =>
    canonicalKey_of_none (h k hk) true
  by_cases hmem : name ∈ d
  · rw [← hkey name hmem]
    refine Fields.get?_canonicalize_of_injOn (fun k hk k' hk' heq => ?_) hmem
    rw [hkey k hk, hkey k' hk', Prefix.key_inj] at heq
    exact heq
  · have hnot : Prefix.canonical.key name ∉ d.canonicalize true := by
      rw [Fields.mem_canonicalize]
      rintro ⟨k, hk, hto⟩
      rw [hkey k hk, Prefix.key_inj] at hto
      exact hmem (hto ▸ hk)
    rw [Fields.get?_eq_none_iff.2 hmem, Fields.get?_eq_none_iff.2 hnot]

/-- A document of canonical headers with the data `p`. -/
structure IsDocument (headers : Fields Value) (p : Value) (d : Fields Value) : Prop where
  /-- Apart from the data it says what the headers say. -/
  members : ∀ name, name ≠ Attribute.data.name → name ≠ Attribute.dataBase64.name →
    d.get? name = (outline headers).get? name
  /-- No name begins with a prefix. -/
  bare : ∀ name ∈ d, Prefix.ofKey name = .none
  /-- JSON has it. -/
  json : (Value.ofFields d).IsJson
  /-- Its data is read from it. -/
  payload : payload (d.canonicalize true) = .ok p

theorem value_canonicalize_of_bare {d : Fields Value} (h : ∀ name ∈ d, Prefix.ofKey name = .none)
    (a : Attribute) : (d.canonicalize true).value a.key = d.value a.name := by
  rw [Fields.value, ← Attribute.canonical_key_name, get?_canonicalize_of_bare h]
  rfl

theorem bare_insert (hw : headers.Writable) {a : Attribute} (ha : a = .data ∨ a = .dataBase64)
    (v : Value) : ∀ name ∈ (outline headers).insert a.name v, Prefix.ofKey name = .none := by
  intro name hname
  rcases Fields.mem_insert.1 hname with rfl | hname
  · rcases ha with rfl | rfl <;> decide
  · exact (ofKey_of_mem_outline hw hname).1

/-- The outline with one of the two members for the data. -/
theorem isDocument_insert (hw : headers.Writable)
    (htype : headers.dataType.isSet = true → headers.dataType.IsJson) {a : Attribute}
    (ha : a = .data ∨ a = .dataBase64) {v p : Value} (hv : v.IsJson)
    (hp : payload (((outline headers).insert a.name v).canonicalize true) = .ok p) :
    IsDocument headers p ((outline headers).insert a.name v) where
  members name hdata hbase64 := by
    have hname : name ≠ a.name := by
      rcases ha with rfl | rfl
      · exact hdata
      · exact hbase64
    rw [Fields.get?_insert, if_neg hname]
  bare := bare_insert hw ha v
  json := by
    refine isJson_ofFields fun name w hw' => ?_
    rw [Fields.get?_insert] at hw'
    split at hw'
    · exact Option.some.inj hw' ▸ hv
    · exact isJson_of_get?_outline hw htype hw'
  payload := hp

theorem decodeData_encode (bs : List UInt8) :
    decodeData (.text (String.ofList (Encoding.Base64.encode bs))) = .ok bs := by
  have hascii : (Encoding.Base64.encode bs).all (fun c => c.toNat < 0x80) = true := by
    rw [List.all_eq_true]
    exact fun c hc => decide_eq_true (Encoding.Base64.isAscii_of_mem_encode hc)
  rw [decodeData, String.toList_ofList, if_pos hascii]
  change (Encoding.Base64.decode (Encoding.Base64.ascii _)).mapError _ = _
  rw [Encoding.Base64.decode_encode]
  rfl

/-- A value as the data. -/
theorem isDocument_data (hw : headers.Writable)
    (htype : headers.dataType.isSet = true → headers.dataType.IsJson) {p : Value} (hp : p.IsJson)
    (there : p.isNull = false) :
    IsDocument headers p ((outline headers).insert Attribute.data.name p) := by
  refine isDocument_insert hw htype (Or.inl rfl) hp ?_
  have hdata : (((outline headers).insert Attribute.data.name p).canonicalize true).value
      Attribute.data.key = p := by
    rw [value_canonicalize_of_bare (bare_insert hw (Or.inl rfl) p)]
    exact Fields.value_of_get? (by rw [Fields.get?_insert, if_pos rfl])
  rw [payload, hdata, there]
  rfl

/-- Bytes as Base64: there is no other data. -/
theorem isDocument_bytes (hw : headers.Writable)
    (htype : headers.dataType.isSet = true → headers.dataType.IsJson) (bs : List UInt8) :
    IsDocument headers (.bytes bs) ((outline headers).insert Attribute.dataBase64.name
      (.text (String.ofList (Encoding.Base64.encode bs)))) := by
  refine isDocument_insert hw htype (Or.inr rfl) (.text _) ?_
  have hbare := bare_insert hw (Or.inr rfl)
    (.text (String.ofList (Encoding.Base64.encode bs)))
  have hdata : Attribute.data.name ∉ (outline headers).insert Attribute.dataBase64.name
      (.text (String.ofList (Encoding.Base64.encode bs))) := by
    rw [Fields.mem_insert, not_or]
    exact ⟨by decide, fun h => (ofKey_of_mem_outline hw h).2.1 rfl⟩
  rw [payload, value_canonicalize_of_bare hbare, value_canonicalize_of_bare hbare,
    Fields.value_of_not_mem hdata, Fields.value_of_get? (v := .text
      (String.ofList (Encoding.Base64.encode bs))) (by rw [Fields.get?_insert, if_pos rfl])]
  simp only [decodeData_encode]
  rfl

end Conversion

theorem Value.IsJsonWith.bytes?_eq_none {double : Float → Prop} {v : Value}
    (h : v.IsJsonWith double) : v.bytes? = none := by
  cases h <;> rfl

theorem Value.IsJson.bytes?_eq_none {v : Value} (h : v.IsJson) : v.bytes? = none :=
  (h.isJsonWith fun _ => False).bytes?_eq_none

namespace Message

/-- The value that a message hands on as data: its payload if JSON has it, the bytes of a body that
the converter does not read, or the value that it reads from a body. -/
inductive Carries (m : Message) (c : JsonConverter) : Value → Prop where
  /-- The payload is a value that JSON has. -/
  | value (h : m.payload.IsJson) : Carries m c m.payload
  /-- The payload is bytes of a media type that is not read. -/
  | raw {bs : List UInt8} {mediaType : MediaType} (h : m.payload.bytes? = some bs)
      (declared : m.headers.canonicalize.dataMediaType = .ok mediaType)
      (unread : JsonConverter.supports (some mediaType) = false) : Carries m c (.bytes bs)
  /-- The payload is bytes of a media type that is read. -/
  | decoded {bs : List UInt8} {mediaType : MediaType} {v : Value} (h : m.payload.bytes? = some bs)
      (declared : m.headers.canonicalize.dataMediaType = .ok mediaType)
      (read : JsonConverter.supports (some mediaType) = true)
      (value : JsonConverter.payloadValue (c.encodingFor (some mediaType)) m.payload c.codecs
        = .ok v)
      (json : v.IsJson) (there : v.isNull = false) : Carries m c v

variable {m : Message} {c : JsonConverter} {p : Value}

/-- The document of a message gets the data that the message carries. -/
theorem exists_filled (hw : m.headers.canonicalize.Writable) (hp : m.Carries c p)
    (htype : m.headers.canonicalize.dataType.isSet = true →
      m.headers.canonicalize.dataType.IsJson) :
    ∃ d, Conversion.filled c m.payload (Conversion.outline m.headers.canonicalize) = .ok d ∧
      Conversion.IsDocument m.headers.canonicalize p d := by
  rw [Conversion.filled, Conversion.declaredType_outline hw]
  cases hp with
  | value h =>
    refine ⟨_, ?_, Conversion.isDocument_data hw htype h m.payload_there⟩
    rw [h.bytes?_eq_none]
  | raw h declared unread =>
    refine ⟨_, ?_, Conversion.isDocument_bytes hw htype _⟩
    rw [h, declared]
    exact if_neg (Bool.eq_false_iff.1 unread)
  | decoded h declared read value json there =>
    refine ⟨_, ?_, Conversion.isDocument_data hw htype json there⟩
    rw [h, declared]
    change (if _ then _ else _) = _
    rw [if_pos read, value]
    rfl

end Message

end CloudEvents
