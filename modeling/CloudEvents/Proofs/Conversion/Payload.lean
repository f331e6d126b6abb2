import CloudEvents.Proofs.Conversion.Branches
import CloudEvents.Proofs.Conversion.Document
/-!
# The payload that a document stands for

A document says what its data is in one of two members, each of which may come under several names,
and may say nothing or say it twice. Once its names are canonical, three cases divide all documents:

* the data is there: it is the payload, whatever it is and whatever the other member holds;
* the data is missing or null and the data in Base64 is there: the payload is the bytes that it is
  strict Base64 of (`Value.HoldsBase64`), and if it is none of any bytes, there is no canonical form;
* both are missing or null: the payload is an empty mapping.

Nothing else can keep a document from having a canonical form once the reader has answered with it.

## Main statements

* `Conversion.payload_eq_error_iff`: the documents without a payload;
* `Message.toCanonical_payload`: the payload of a canonical form.
-/

namespace CloudEvents

/-- A value holds bytes: it is an ASCII text or a byte string, in which the bytes are written in
strict Base64. -/
inductive Value.HoldsBase64 : Value → List UInt8 → Prop where
  /-- The Base64 is a text. -/
  | text {s : String} {bs : List UInt8} (isAscii : ∀ c ∈ s.toList, c.toNat < 0x80)
    (strict : Encoding.Base64.IsStrict (Encoding.Base64.ascii s.toList) bs) :
    HoldsBase64 (.text s) bs
  /-- The Base64 is a byte string. -/
  | bytes {codes bs : List UInt8} (strict : Encoding.Base64.IsStrict codes bs) :
    HoldsBase64 (.bytes codes) bs
  /-- The Base64 is a byte string that may be changed. -/
  | buffer {codes bs : List UInt8} (strict : Encoding.Base64.IsStrict codes bs) :
    HoldsBase64 (.buffer codes) bs

namespace Conversion

/-- What is decoded is what the value holds. -/
theorem decodeData_eq_ok_iff {v : Value} {bs : List UInt8} :
    decodeData v = .ok bs ↔ v.HoldsBase64 bs := by
  constructor
  · intro h
    cases v with
    | text s =>
      rw [decodeData] at h
      split at h
      · rename_i hascii
        rw [mapError_eq_ok_iff, Encoding.Base64.decode_eq_ok_iff] at h
        exact .text (by simpa using hascii) h
      · cases h
    | bytes codes => exact .bytes (Encoding.Base64.decode_eq_ok_iff.1 (mapError_eq_ok_iff.1 h))
    | buffer codes => exact .buffer (Encoding.Base64.decode_eq_ok_iff.1 (mapError_eq_ok_iff.1 h))
    | _ => cases h
  · intro h
    cases h with
    | @text s bs isAscii strict =>
      have hascii : (s.toList.all fun c => c.toNat < 0x80) = true := by simpa using isAscii
      rw [decodeData, if_pos hascii, mapError_eq_ok_iff, Encoding.Base64.decode_eq_ok_iff]
      exact strict
    | bytes strict => exact mapError_eq_ok_iff.2 (Encoding.Base64.decode_eq_ok_iff.2 strict)
    | buffer strict => exact mapError_eq_ok_iff.2 (Encoding.Base64.decode_eq_ok_iff.2 strict)

/-- The text that is written for bytes holds them. -/
theorem holdsBase64_encode (bs : List UInt8) :
    (Value.text (String.ofList (Encoding.Base64.encode bs))).HoldsBase64 bs :=
  decodeData_eq_ok_iff.1 (decodeData_encode bs)

/-! ## The three cases of a document -/

variable {document : Fields Value}

theorem payload_of_data (h : document.value Attribute.data.key ≠ .null) :
    payload document = .ok (document.value Attribute.data.key) := by
  rw [ne_eq, ← Value.isNull_iff, Bool.not_eq_true] at h
  rw [payload, h]
  rfl

theorem payload_of_encoded (hdata : document.value Attribute.data.key = .null)
    (h : document.value Attribute.dataBase64.key ≠ .null) :
    payload document
      = (decodeData (document.value Attribute.dataBase64.key)).map Value.bytes := by
  rw [ne_eq, ← Value.isNull_iff, Bool.not_eq_true] at h
  rw [payload, hdata, h]
  rfl

theorem payload_of_neither (hdata : document.value Attribute.data.key = .null)
    (h : document.value Attribute.dataBase64.key = .null) :
    payload document = .ok (.mapping []) := by
  rw [payload, hdata, h]
  rfl

/-- Only data that is given in nothing but Base64 can be refused. -/
theorem payload_eq_error_iff :
    (∃ e, payload document = .error e) ↔
      document.value Attribute.data.key = .null ∧
        document.value Attribute.dataBase64.key ≠ .null ∧
        ∀ bs, ¬(document.value Attribute.dataBase64.key).HoldsBase64 bs := by
  by_cases hdata : document.value Attribute.data.key = .null
  · by_cases hencoded : document.value Attribute.dataBase64.key = .null
    · rw [payload_of_neither hdata hencoded]
      exact iff_of_false (fun ⟨e, he⟩ => by cases he) fun h => h.2.1 hencoded
    · rw [payload_of_encoded hdata hencoded]
      cases hdecoded : decodeData (document.value Attribute.dataBase64.key) with
      | error e =>
        refine iff_of_true ⟨e, rfl⟩ ⟨hdata, hencoded, fun bs hbs => ?_⟩
        rw [decodeData_eq_ok_iff.2 hbs] at hdecoded
        cases hdecoded
      | ok bs =>
        exact iff_of_false (fun ⟨e, he⟩ => by cases he)
          fun h => h.2.2 bs (decodeData_eq_ok_iff.1 hdecoded)
  · rw [payload_of_data hdata]
    exact iff_of_false (fun ⟨e, he⟩ => by cases he) fun h => hdata h.1

end Conversion

namespace Message

variable {m : Message} {r : Reader} {resolver : Resolver} {mediaType : MediaType}
  {answer : Value} {d : Fields Value} {mint : Mint} {journal : Journal}

/-- Once the reader has answered with a document, the canonical form has the payload of that, or
there is none because it has no payload. -/
theorem exec_toCanonical_of_read (h : m.headers.canonicalize.Declares resolver mediaType)
    (hr : r.read (m.syntaxRequest mediaType mint journal.drawn) .mapping = .ok answer)
    (hd : answer.fields? = some d) (fallback : Value) :
    match Conversion.payload (d.canonicalize true) with
    | .error e => ∃ after,
      (m.toCanonical r resolver fallback).exec mint journal = (.error e, after)
    | .ok p => ∃ out after,
      (m.toCanonical r resolver fallback).exec mint journal = (.ok out, after) ∧
        out.payload = p := by
  have hdocument : Conversion.document (declares m.headers.canonicalize) answer
      = .ok (d.canonicalize true) := Conversion.document_eq_ok_iff.2 ⟨d, hd, rfl⟩
  rw [exec_toCanonical_structured mint journal (Fields.structuredType?_eq_some_iff.2 h)]
  cases hp : Conversion.payload (d.canonicalize true) with
  | error e =>
    rw [exec_ofStructured_eq, hr]
    simp only [hdocument, hp]
    exact ⟨_, rfl⟩
  | ok p =>
    have there := Conversion.binaryBuilder_there hp m.headers.canonicalize fallback
    rw [exec_ofStructured hr hdocument hp there]
    exact ⟨_, _, rfl, Conversion.payload_binaryBuilder _ _ p fallback⟩

/-- **The payload of a canonical form.**  For a message that declares an event in structured mode
and whose reader has answered with a document, let `data` and `encoded` be the two members for the
data under their canonical keys, null if they are missing. If `data` is not null it is the payload.
If it is null and `encoded` holds bytes in strict Base64, those are the payload. If both are null
the payload is an empty mapping. There is no canonical form exactly if `data` is null and `encoded`
is neither null nor strict Base64 of any bytes; what a structured form holds for bytes is strict
Base64 of them. -/
theorem toCanonical_payload (h : m.headers.canonicalize.Declares resolver mediaType)
    (hr : r.read (m.syntaxRequest mediaType mint journal.drawn) .mapping = .ok answer)
    (hd : answer.fields? = some d) (fallback : Value) :
    let data := (d.canonicalize true).value Attribute.data.key
    let encoded := (d.canonicalize true).value Attribute.dataBase64.key
    let run := (m.toCanonical r resolver fallback).exec mint journal
    (data ≠ .null → ∃ out, run.1 = .ok out ∧ out.payload = data) ∧
    (data = .null → ∀ bs, encoded.HoldsBase64 bs →
      ∃ out, run.1 = .ok out ∧ out.payload = .bytes bs) ∧
    (data = .null → encoded = .null → ∃ out, run.1 = .ok out ∧ out.payload = .mapping []) ∧
    ((∃ e, run.1 = .error e) ↔
      data = .null ∧ encoded ≠ .null ∧ ∀ bs, ¬encoded.HoldsBase64 bs) ∧
    ∀ bs, (Value.text (String.ofList (Encoding.Base64.encode bs))).HoldsBase64 bs := by
  intro data encoded run
  have hrun := exec_toCanonical_of_read h hr hd fallback
  have hok : ∀ p, Conversion.payload (d.canonicalize true) = .ok p →
      ∃ out, run.1 = .ok out ∧ out.payload = p := by
    intro p hp
    rw [hp] at hrun
    obtain ⟨out, after, hexec, hpayload⟩ := hrun
    exact ⟨out, congrArg Prod.fst hexec, hpayload⟩
  refine ⟨fun hdata => hok _ (Conversion.payload_of_data hdata), fun hdata bs hbs => ?_,
    fun hdata hencoded => hok _ (Conversion.payload_of_neither hdata hencoded), ?_,
    Conversion.holdsBase64_encode⟩
  · have hencoded : encoded ≠ .null := by
      intro hnull
      rw [hnull] at hbs
      cases hbs
    refine hok _ ((Conversion.payload_of_encoded hdata hencoded).trans ?_)
    rw [Conversion.decodeData_eq_ok_iff.2 hbs]
    rfl
  · rw [← Conversion.payload_eq_error_iff]
    cases hp : Conversion.payload (d.canonicalize true) with
    | error e =>
      rw [hp] at hrun
      obtain ⟨after, hexec⟩ := hrun
      exact iff_of_true ⟨e, congrArg Prod.fst hexec⟩ ⟨e, rfl⟩
    | ok p =>
      obtain ⟨out, hout, -⟩ := hok p hp
      refine iff_of_false (fun ⟨e, he⟩ => ?_) fun ⟨e, he⟩ => by cases he
      rw [hout] at he
      cases he

/-- Null data gives way to Base64, a zero does not, whatever the Base64 is, and Base64 without its
padding is refused. -/
theorem toCanonical_payload_nullData :
    let run (d : Fields Value) :=
      (tracedMessage.toCanonical ⟨fun _ _ => .ok (.ofFields d)⟩).exec ⟨fun _ => "2", 0⟩ {}
    (∃ out, (run (.ofList [("data", .null), ("ce_data_base64", .text "AAE=")])).1 = .ok out ∧
      out.payload = .bytes [0, 1]) ∧
    (∃ out, (run (.ofList [("data", .int 0), ("data_base64", .text "*")])).1 = .ok out ∧
      out.payload = .int 0) ∧
    ∃ e, (run (.ofList [("data_base64", .text "AAE")])).1 = .error e := by
  intro run
  have hdeclares : tracedMessage.headers.canonicalize.Declares {} .eventJson :=
    ⟨rfl, by decide, rfl, rfl, by decide⟩
  have hpayload (d : Fields Value) := @toCanonical_payload tracedMessage
    ⟨fun _ _ => .ok (.ofFields d)⟩ {} .eventJson (.ofFields d) d ⟨fun _ => "2", 0⟩ {} hdeclares rfl
    (Value.fields?_ofFields d) Conversion.defaultDataContentType
  refine ⟨?_, ?_, ?_⟩
  · exact (hpayload _).2.1 rfl [0, 1] (Conversion.decodeData_eq_ok_iff.1 rfl)
  · exact (hpayload _).1 fun h => by cases h
  · refine (hpayload _).2.2.2.1.2 ⟨rfl, (fun h => by cases h), fun bs hbs => ?_⟩
    have hdecoded := Conversion.decodeData_eq_ok_iff.2 hbs
    cases hdecoded

end Message

end CloudEvents
