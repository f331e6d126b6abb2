import CloudEvents.Proofs.Conversion.Merge
import CloudEvents.Proofs.Converter.Json
import CloudEvents.Conversion.Structured
/-!
# Bodies of structured messages

`toStructured` asks the converter for the value of a payload in bytes, and asks it again to write
the document. With the JSON converter neither question depends on more than the canonical headers
and the payload. So the whole body is one function of these two (`Conversion.structuredBody`), and
what is left of the run is the identity of the message that is made in the end.

## Main statements

* `Message.exec_withData`: the data of the document is told by the payload and the document;
* `Message.exec_toStructured`: the run with any converter;
* `Message.exists_exec_toStructured`: the outcome of a run is the body with the envelope around it.
-/

namespace CloudEvents

namespace Conversion

/-- A document with a payload as its data, as it is with the JSON converter. -/
def filled (c : JsonConverter) (payload : Value) (document : Fields Value) :
    Except Error (Fields Value) :=
  match payload.bytes? with
  | none => .ok (document.insert Attribute.data.name payload)
  | some bs => do
    let mediaType ← declaredType document
    if JsonConverter.supports (some mediaType) then
      let data ← JsonConverter.payloadValue (c.encodingFor (some mediaType)) payload c.codecs
      return document.insert Attribute.data.name data
    else
      let encoded := String.ofList (Encoding.Base64.encode bs)
      return document.insert Attribute.dataBase64.name (.text encoded)

/-- The document of canonical headers before it gets its data. -/
def outlineWith (override : Value) (headers : Fields Value) : Fields Value :=
  withContentType (members headers) override ((envelope headers).value Header.contentType)

/-- The body that the JSON converter writes for canonical headers and a payload. -/
def structuredBody (c : JsonConverter) (payload override : Value) (headers : Fields Value) :
    Except Error (List UInt8) :=
  if headers.isCloudEvent then do
    let document ← filled c payload (outlineWith override headers)
    c.write (Value.ofFields document) (some MediaType.json)
  else .error .notBinaryEvent

end Conversion

namespace Message

variable {m : Message} {c : JsonConverter}

theorem exec_withData (c : JsonConverter) (document : Fields Value) (mint : Mint)
    (journal : Journal) :
    ((m.withData c.toConverter document).exec mint journal).1
      = Conversion.filled c m.payload document := by
  rw [withData, Conversion.filled]
  cases m.payload.bytes? with
  | none => rfl
  | some bs =>
    simp only [Run.exec_bind, Run.exec_lift]
    cases Conversion.declaredType document with
    | error e => rfl
    | ok mediaType =>
      simp only
      change _ = if JsonConverter.supports (some mediaType) = true then _ else _
      by_cases hs : JsonConverter.supports (some mediaType) = true
      · have hsupports : c.toConverter.supports (some mediaType) = true := hs
        have there : ((Builder.ofMessage m).set Header.contentType
          (.mediaType mediaType)).payload.isNull = false := m.payload_there
        rw [if_pos hsupports, if_pos hs, Run.exec_bind, Builder.exec_build _ there]
        simp only
        rw [Run.exec_bind, Reader.ask, Run.exec_bind, Run.exec_emit]
        simp only [Run.exec_lift]
        rw [JsonConverter.read_toConverter, JsonConverter.read_any_stamped c hs there]
        cases JsonConverter.payloadValue (c.encodingFor (some mediaType)) m.payload c.codecs with
        | error e => rfl
        | ok v => rfl
      · have hsupports : c.toConverter.supports (some mediaType) = false :=
          Bool.eq_false_iff.2 hs
        rw [hsupports, if_neg hs, if_neg Bool.false_ne_true]
        rfl

theorem structuredBuilder_there (envelope : Fields Value) (body : List UInt8) :
    (Conversion.structuredBuilder envelope body).payload.isNull = false := rfl

/-- The document is put together first and written then, and the structured form is made last,
whatever the converter is. -/
theorem exec_toStructured (m : Message) (c : Converter) (override : Value) (mint : Mint)
    (journal : Journal) :
    (m.toStructured c override).exec mint journal =
      if m.headers.canonicalize.isCloudEvent then
        match (m.withData c (Conversion.outlineWith override m.headers.canonicalize)).exec mint
          journal with
        | (.error e, after) => (.error e, after)
        | (.ok document, after) =>
          match c.write (.ofFields document) (some MediaType.json) with
          | .error e => (.error e, after)
          | .ok body =>
            (Conversion.structuredBuilder (Conversion.envelope m.headers.canonicalize)
              body).build.exec mint after
      else (.error .notBinaryEvent, journal) := by
  rw [toStructured, Conversion.outlineWith]
  by_cases hevent : m.headers.canonicalize.isCloudEvent = true
  · simp only [hevent, if_true]
    rw [Run.exec_bind]
    rcases (m.withData c (Conversion.withContentType (Conversion.members m.headers.canonicalize)
      override ((Conversion.envelope m.headers.canonicalize).value Header.contentType))).exec mint
        journal with ⟨e | document, after⟩
    · rfl
    · simp only [Run.exec_bind, Run.exec_lift]
      cases c.write (.ofFields document) (some MediaType.json) with
      | error e => rfl
      | ok body => rfl
  · rw [Bool.not_eq_true] at hevent
    simp only [hevent]
    rfl

/-- The structured form is the body with the envelope around it. -/
theorem exists_exec_toStructured (m : Message) (c : JsonConverter) (override : Value) (mint : Mint)
    (journal : Journal) :
    ∃ n, ((m.toStructured c.toConverter override).exec mint journal).1 =
      (Conversion.structuredBody c m.payload override m.headers.canonicalize).map fun body =>
        (Conversion.structuredBuilder (Conversion.envelope m.headers.canonicalize) body).stamped
          (structuredBuilder_there _ body) mint n := by
  have hdata := exec_withData (m := m) c
    (Conversion.outlineWith override m.headers.canonicalize) mint journal
  rw [exec_toStructured, Conversion.structuredBody, ← hdata]
  split
  · rcases (m.withData c.toConverter (Conversion.outlineWith override
      m.headers.canonicalize)).exec mint journal with ⟨e | document, after⟩
    · exact ⟨0, rfl⟩
    · refine ⟨after.drawn, ?_⟩
      simp only [JsonConverter.write_toConverter]
      change _ = (c.write (Value.ofFields document) (some MediaType.json)).map _
      cases c.write (Value.ofFields document) (some MediaType.json) with
      | error e => rfl
      | ok body =>
        simp only
        rw [Builder.exec_build _ (structuredBuilder_there _ body)]
        rfl
  · exact ⟨0, rfl⟩

end Message

end CloudEvents
