import CloudEvents.Proofs.Conversion.Body
import CloudEvents.Proofs.Conversion.Document
import CloudEvents.Proofs.Json.Documents
/-!
# The data of a structured document

`toStructured` fills its document twice: with all attributes under their bare names, and then with
the payload, as `data` or as `data_base64`. Nothing keeps an attribute from having one of these two
names. If it has the name that the payload gets, the payload takes its place. If it has the other
one, the document says twice what its data is.

What the members are is settled on the document that is written (`exists_of_filled_eq_ok`,
`mem_outlineWith`) and carried over to the one that is read from the body
(`exists_isBody_of_write`): the body of every structured message can be read, whatever its
attributes are.

## Main statements

* `Message.toStructured_data`: the document in the body holds the payload in one of the two members,
  and has the other one exactly if an attribute has its name;
* `Message.toStructured_existsUnique_data_iff`: so there is exactly one of them if and only if no
  attribute has the name of the other.
-/

namespace CloudEvents

/-- An attribute with the name of one of the two members for the data. -/
def Attribute.IsData (a : Attribute) : Prop := a = .data ∨ a = .dataBase64

namespace JsonConverter

variable {c : JsonConverter}

/-- A payload is a JSON text of a value, in ASCII and in the character set of the converter. -/
def IsBody (c : JsonConverter) (payload v : Value) : Prop :=
  ∃ bs text, payload = .bytes bs ∧ c.bytesOf text = .ok bs ∧ (∀ x ∈ text, x.toNat < 0x80) ∧
    Json.read text = .ok v

/-- Where the converter reads back what it writes, such a payload is read as the value. -/
theorem IsBody.payloadValue_eq (hc : c.ReadsBack) {payload v : Value} (h : c.IsBody payload v) :
    payloadValue c.encoding payload c.codecs = .ok v := by
  obtain ⟨bs, text, rfl, hbytes, hascii, hread⟩ := h
  obtain ⟨bs', hbytes', htext⟩ := hc text hascii
  rw [hbytes, Except.ok.injEq] at hbytes'
  subst hbytes'
  refine payloadValue_bytes htext ?_
  rw [valueOf, hread]
  rfl

/-- A document that is written is the body of one with the same names, member by member. -/
theorem exists_isBody_of_write {d : Fields Value} {mediaType : Option MediaType} {bs : List UInt8}
    (h : c.write (.ofFields d) mediaType = .ok bs) :
    ∃ d' : Fields Value, c.IsBody (.bytes bs) (.ofFields d') ∧
      Fields.EntriesRelate Json.Renders d.entries d'.entries := by
  rw [write] at h
  obtain ⟨-, -, h⟩ := exists_of_bind_eq_ok h
  obtain ⟨text, htext, hbytes⟩ := exists_of_bind_eq_ok h
  obtain ⟨d', hreads, hsame⟩ := Json.exists_reads_ofFields (mapError_eq_ok_iff.1 htext)
  exact ⟨d', ⟨bs, text, rfl, hbytes, hreads.ascii, hreads.read⟩, hsame⟩

end JsonConverter

namespace Conversion

variable {c : JsonConverter} {payload override : Value} {headers document d : Fields Value}

/-- A member of a document is the payload: the payload itself or what is read of its bytes, as JSON
has that, under `data`, or bytes of a media type that is not read under `data_base64`. -/
inductive IsDataOf (c : JsonConverter) (payload : Value) (declared : Except Error MediaType) :
    Attribute → Value → Prop where
  /-- A payload that is not in bytes. -/
  | value {w : Value} (other : payload.bytes? = none) (same : Json.Renders payload w) :
    IsDataOf c payload declared .data w
  /-- The value of bytes. -/
  | read {bs : List UInt8} {mediaType : MediaType} {v w : Value} (bytes : payload.bytes? = some bs)
    (hdeclared : declared = .ok mediaType)
    (read : JsonConverter.supports (some mediaType) = true)
    (value : JsonConverter.payloadValue (c.encodingFor (some mediaType)) payload c.codecs = .ok v)
    (same : Json.Renders v w) : IsDataOf c payload declared .data w
  /-- Bytes that are not read. -/
  | encoded {bs : List UInt8} {mediaType : MediaType} {w : Value} (bytes : payload.bytes? = some bs)
    (hdeclared : declared = .ok mediaType)
    (unread : JsonConverter.supports (some mediaType) = false) (decodes : decodeData w = .ok bs) :
    IsDataOf c payload declared .dataBase64 w

/-- The document gets one member, which is the payload once it is written and read. -/
theorem exists_of_filled_eq_ok (h : filled c payload document = .ok d) :
    ∃ a v, a.IsData ∧ d = document.insert a.name v ∧
      ∀ w, Json.Renders v w → IsDataOf c payload (declaredType document) a w := by
  rw [filled] at h
  cases hbytes : payload.bytes? with
  | none =>
    rw [hbytes] at h
    exact ⟨.data, payload, Or.inl rfl, (Except.ok.inj h).symm, fun w hw => .value hbytes hw⟩
  | some bs =>
    rw [hbytes] at h
    obtain ⟨mediaType, hdeclared, h⟩ := exists_of_bind_eq_ok h
    by_cases hs : JsonConverter.supports (some mediaType) = true
    · rw [if_pos hs] at h
      obtain ⟨v, hv, h⟩ := exists_of_bind_eq_ok h
      exact ⟨.data, v, Or.inl rfl, (Except.ok.inj h).symm,
        fun w hw => .read hbytes hdeclared hs hv hw⟩
    · rw [if_neg hs] at h
      refine ⟨.dataBase64, _, Or.inr rfl, (Except.ok.inj h).symm, fun w hw => ?_⟩
      rw [hw.eq_of_isJson (.text _)]
      exact .encoded hbytes hdeclared (Bool.eq_false_iff.2 hs) (decodeData_encode bs)

/-- The document says what the attributes say, whatever becomes of the content type. -/
theorem mem_outlineWith {name : String} (h : name ≠ Attribute.datacontenttype.name) :
    name ∈ outlineWith override headers ↔ Prefix.canonical.key name ∈ headers := by
  have hmembers : name ∈ members headers ↔ Prefix.canonical.key name ∈ headers := by
    rw [Fields.mem_iff_isSome_get?, get?_members, ← Fields.mem_iff_isSome_get?]
  rw [outlineWith, withContentType, ← hmembers]
  split
  · rw [Fields.mem_insert, or_iff_right h]
  · split
    · rw [Fields.mem_insert, or_iff_right h]
    · exact Iff.rfl

/-- The document in a body has the member for the payload, and the other one if an attribute has its
name. -/
theorem exists_isBody_of_structuredBody {bs : List UInt8}
    (h : structuredBody c payload override headers = .ok bs) :
    ∃ (d : Fields Value) (a : Attribute) (w : Value), c.IsBody (.bytes bs) (.ofFields d) ∧
      d.get? a.name = some w ∧
      IsDataOf c payload (declaredType (outlineWith override headers)) a w ∧
      ∀ b : Attribute, b.IsData → (b.name ∈ d ↔ b = a ∨ b.key ∈ headers) := by
  rw [structuredBody] at h
  split at h
  · obtain ⟨document, hfilled, hwrite⟩ := exists_of_bind_eq_ok h
    obtain ⟨a, v, ha, rfl, hdata⟩ := exists_of_filled_eq_ok hfilled
    obtain ⟨d, hbody, hsame⟩ := JsonConverter.exists_isBody_of_write hwrite
    have hmember : ((outlineWith override headers).insert a.name v).get? a.name = some v := by
      rw [Fields.get?_insert, if_pos rfl]
    obtain ⟨w, hw, hrenders⟩ := hsame.exists_get? hmember
    refine ⟨d, a, w, hbody, hw, hdata w hrenders, fun b hb => ?_⟩
    have hname : b.name ≠ Attribute.datacontenttype.name := by
      rcases hb with rfl | rfl <;> decide
    rw [← hsame.mem_iff, Fields.mem_insert, mem_outlineWith hname, Attribute.name_inj]
    rfl
  · cases h

end Conversion

namespace Message

variable {m s : Message} {c : JsonConverter} {override : Value} {mint : Mint}
  {journal after : Journal}

/-- The document in the body holds the payload in one of the two members for the data, and has the
other one exactly if an attribute has its name. -/
theorem toStructured_data
    (h : (m.toStructured c.toConverter override).exec mint journal = (.ok s, after)) :
    ∃ (d : Fields Value) (a : Attribute) (w : Value), c.IsBody s.payload (.ofFields d) ∧
      d.get? a.name = some w ∧
      Conversion.IsDataOf c m.payload
        (Conversion.declaredType (Conversion.outlineWith override m.headers.canonicalize)) a w ∧
      ∀ b : Attribute, b.IsData → (b.name ∈ d ↔ b = a ∨ b.key ∈ m.headers.canonicalize) := by
  obtain ⟨n, hrun⟩ := m.exists_exec_toStructured c override mint journal
  rw [h] at hrun
  obtain ⟨bs, hbody, hs⟩ := exists_of_map_eq_ok hrun.symm
  have hpayload : s.payload = .bytes bs := by
    rw [← hs, Builder.payload_stamped]
    rfl
  rw [hpayload]
  exact Conversion.exists_isBody_of_structuredBody hbody

/-- **The data of a document stands there once, or an attribute says it again.**  The body of a
structured message can be read as a document that holds the payload in one of the members `data` and
`data_base64`. There is exactly one of them if and only if the message has no attribute with the
name of the other. -/
theorem toStructured_existsUnique_data_iff
    (h : (m.toStructured c.toConverter override).exec mint journal = (.ok s, after)) :
    ∃ (d : Fields Value) (a : Attribute) (w : Value), c.IsBody s.payload (.ofFields d) ∧
      d.get? a.name = some w ∧
      Conversion.IsDataOf c m.payload
        (Conversion.declaredType (Conversion.outlineWith override m.headers.canonicalize)) a w ∧
      ((∃! b : Attribute, b.IsData ∧ b.name ∈ d) ↔
        ∀ b : Attribute, b.IsData → b.key ∈ m.headers.canonicalize → b = a) := by
  obtain ⟨d, a, w, hbody, hw, hdata, hmem⟩ := toStructured_data h
  have ha : a.IsData := by
    cases hdata with
    | value => exact Or.inl rfl
    | read => exact Or.inl rfl
    | encoded => exact Or.inr rfl
  refine ⟨d, a, w, hbody, hw, hdata, ?_, fun hothers => ?_⟩
  · rintro ⟨x, -, honly⟩ b hb hkey
    rw [honly b ⟨hb, (hmem b hb).2 (Or.inr hkey)⟩, honly a ⟨ha, (hmem a ha).2 (Or.inl rfl)⟩]
  · refine ⟨a, ⟨ha, (hmem a ha).2 (Or.inl rfl)⟩, fun b hb => ?_⟩
    exact ((hmem b hb.1).1 hb.2).elim id (hothers b hb.1)

/-- An order in bytes of a media type that is not read. -/
def sealedOrder (others : List (String × Value)) : Message :=
  Message.stamp (.bytes [0, 1]) rfl
    (Fields.ofList ([("ce_specversion", .text "1.0"), ("ce_type", .text "order.created"),
      ("ce_source", .text "/orders"),
      ("ce_datacontenttype", .text "application/octet-stream")] ++ others)) "1" (.int 0) 0

theorem eq_dataBase64_of_isDataOf {a : Attribute} {w : Value}
    (h : Conversion.IsDataOf c (.bytes [0, 1]) (.ok ⟨"application", "octet-stream", .empty⟩) a w) :
    a = .dataBase64 ∧ Conversion.decodeData w = .ok [0, 1] := by
  cases h with
  | value other _ => cases other
  | read _ hdeclared hread _ _ =>
    cases hdeclared
    cases hread
  | encoded bytes _ _ decodes =>
    cases bytes
    exact ⟨rfl, decodes⟩

/-- The bytes of the order are the data of its document. -/
theorem toStructured_existsUnique_data_sealedOrder :
    ∃ s after d w,
      ((sealedOrder []).toStructured ({} : JsonConverter).toConverter).exec ⟨fun _ => "2", 0⟩ {}
          = (.ok s, after) ∧
        ({} : JsonConverter).IsBody s.payload (.ofFields d) ∧
        d.get? "data_base64" = some w ∧ Conversion.decodeData w = .ok [0, 1] ∧
        ∃! b : Attribute, b.IsData ∧ b.name ∈ d := by
  obtain ⟨s, after, hrun⟩ : ∃ s after,
      ((sealedOrder []).toStructured ({} : JsonConverter).toConverter).exec ⟨fun _ => "2", 0⟩ {}
        = (.ok s, after) := ⟨_, _, rfl⟩
  obtain ⟨d, a, w, hbody, hw, hdata, hunique⟩ := toStructured_existsUnique_data_iff hrun
  have hnone : ∀ b : Attribute, b.IsData → b.key ∉ (sealedOrder []).headers.canonicalize := by
    rintro b (rfl | rfl) <;> decide
  obtain ⟨rfl, hdecodes⟩ := eq_dataBase64_of_isDataOf hdata
  exact ⟨s, after, d, w, hrun, hbody, hw, hdecodes,
    hunique.2 fun b hb hkey => absurd hkey (hnone b hb)⟩

/-- Not every document says once what its data is: with an attribute of that name the order has
`data` beside its bytes. -/
theorem not_forall_toStructured_existsUnique_data :
    ¬∀ (m s : Message) (mint : Mint) (after : Journal),
      (m.toStructured ({} : JsonConverter).toConverter).exec mint {} = (.ok s, after) →
        ∃ d : Fields Value, ({} : JsonConverter).IsBody s.payload (.ofFields d) ∧
          ∃! b : Attribute, b.IsData ∧ b.name ∈ d := by
  intro h
  obtain ⟨s, after, hrun⟩ : ∃ s after,
      ((sealedOrder [("ce_data", .text "old")]).toStructured
        ({} : JsonConverter).toConverter).exec ⟨fun _ => "2", 0⟩ {} = (.ok s, after) :=
    ⟨_, _, rfl⟩
  obtain ⟨d, hbody, x, -, honly⟩ := h _ s _ after hrun
  obtain ⟨d', a, w, hbody', -, hdata, hmem⟩ := toStructured_data hrun
  have hsame : Value.ofFields d = Value.ofFields d' := by
    have hread := hbody.payloadValue_eq JsonConverter.readsBack_default
    rw [hbody'.payloadValue_eq JsonConverter.readsBack_default, Except.ok.injEq] at hread
    exact hread.symm
  have hd : d = d' := by
    rw [← Option.some_inj, ← Value.fields?_ofFields, hsame, Value.fields?_ofFields]
  obtain ⟨rfl, -⟩ := eq_dataBase64_of_isDataOf hdata
  subst hd
  have hdata := honly .data ⟨Or.inl rfl, (hmem .data (Or.inl rfl)).2 (Or.inr (by decide))⟩
  have hbase64 := honly .dataBase64 ⟨Or.inr rfl, (hmem .dataBase64 (Or.inr rfl)).2 (Or.inl rfl)⟩
  rw [← hdata] at hbase64
  cases hbase64

end Message

end CloudEvents
