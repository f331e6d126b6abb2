import CloudEvents.Converter.Json
import CloudEvents.Proofs.Encoding.Charset
import CloudEvents.Proofs.Json.RoundTrip
import CloudEvents.Proofs.Message.Builder
/-!
# Bodies of the JSON converter

What the converter writes for a value that JSON has, it reads as that value. The text between is
ASCII, whatever the value holds, so that nothing is asked of the codec but that it reads back the
ASCII texts that it writes (`JsonConverter.ReadsBack`). Those of all known character sets do.

## Main statements

* `JsonConverter.exists_write`: a value can be written, and its text is read as the value;
* `JsonConverter.read_of_resolve`: what is read of a message is told by its media type and payload;
* `JsonConverter.read_write`: a message with the written body, in whatever form, is read as the
  value if that has the wanted shape.
-/

namespace CloudEvents

namespace JsonConverter

variable {c : JsonConverter}

/-! ## Texts and their bytes -/

/-- The codec of a converter reads back the ASCII texts that it writes. -/
def ReadsBack (c : JsonConverter) : Prop :=
  ∀ text : List Char, (∀ x ∈ text, x.toNat < 0x80) →
    ∃ bs, c.bytesOf text = .ok bs ∧ textOf c.encoding bs c.codecs = .ok text

theorem codecs_of_hasName {charset : Encoding.Charset} {name : String}
    (hcodecs : c.codecs = .standard) (h : charset.HasName name) :
    c.codecs name = .ok charset.codec := by
  rw [hcodecs, Encoding.Registry.standard, h.named]
  rfl

/-- Under a name that stands for a known character set bytes are what they are in it. -/
theorem textOf_of_codec {charset : Encoding.Charset} {name : String} {bs : List UInt8}
    {text : List Char} (hzero : Encoding.holdsZero name = false)
    (hcodec : c.codecs name = .ok charset.codec) (hdecode : charset.decode bs = .ok text) :
    textOf name bs c.codecs = .ok text := by
  rw [textOf, hzero, if_neg Bool.false_ne_true, hcodec]
  split
  · rename_i hempty
    rw [List.isEmpty_iff.1 hempty, Encoding.Charset.decode_nil] at hdecode
    rw [Except.ok.inj hdecode]
  · change (charset.decode bs).mapError _ = _
    rw [hdecode]
    rfl

theorem textOf_of_hasName {charset : Encoding.Charset} {name : String} {bs : List UInt8}
    {text : List Char} (hcodecs : c.codecs = .standard) (h : charset.HasName name)
    (hdecode : charset.decode bs = .ok text) : textOf name bs c.codecs = .ok text :=
  textOf_of_codec h.noZero (codecs_of_hasName hcodecs h) hdecode

/-- Every known character set reads back what it writes, whatever other codecs there are. -/
theorem readsBack_of_codec {charset : Encoding.Charset}
    (hzero : Encoding.holdsZero c.encoding = false)
    (hcodec : c.codecs c.encoding = .ok charset.codec) : c.ReadsBack := by
  intro text htext
  obtain ⟨bs, hbs⟩ := charset.exists_encode?_of_ascii htext
  have hencode : charset.codec.encode? text = some bs := hbs
  refine ⟨bs, ?_, textOf_of_codec hzero hcodec (Encoding.Charset.decode_of_encode? hbs)⟩
  rw [bytesOf, hzero, if_neg Bool.false_ne_true, hcodec]
  simp only [Except.mapError, bind, Except.bind, hencode]

theorem readsBack_of_hasName {charset : Encoding.Charset} (h : charset.HasName c.encoding)
    (hcodecs : c.codecs = .standard) : c.ReadsBack :=
  readsBack_of_codec h.noZero (codecs_of_hasName hcodecs h)

theorem readsBack_default : ({} : JsonConverter).ReadsBack :=
  @readsBack_of_hasName {} .utf8 ⟨by decide, rfl⟩ rfl

theorem check_of_supports (refusal : MediaType → Error) {mediaType : Option MediaType}
    (h : supports mediaType = true) : check refusal mediaType = .ok () := by
  cases mediaType with
  | none => rfl
  | some mediaType => exact if_pos h

/-- A value with a text that is read back can be written, and is read as the value. -/
theorem exists_write_of_reads (hc : c.ReadsBack) {v : Value}
    (h : ∃ text, Json.write v = .ok text ∧ Json.Reads v text) :
    ∃ bs text, (∀ mediaType, supports mediaType = true → c.write v mediaType = .ok bs) ∧
      textOf c.encoding bs c.codecs = .ok text ∧ valueOf text = .ok v := by
  obtain ⟨text, hwrite, hreads⟩ := h
  obtain ⟨bs, hbytes, htext⟩ := hc text hreads.ascii
  refine ⟨bs, text, fun mediaType hs => ?_, htext, ?_⟩
  · rw [write, check_of_supports .unwritable hs, hwrite]
    exact hbytes
  · rw [valueOf, hreads.read]
    rfl

/-- A value that JSON has can be written, and its text is read as the value. -/
theorem exists_write (hc : c.ReadsBack) {v : Value} (h : v.IsJson) :
    ∃ bs text, (∀ mediaType, supports mediaType = true → c.write v mediaType = .ok bs) ∧
      textOf c.encoding bs c.codecs = .ok text ∧ valueOf text = .ok v :=
  exists_write_of_reads hc (Json.exists_reads h)

theorem payloadValue_of_bytes? {name : String} {payload : Value} {bs : List UInt8}
    {codecs : Encoding.Registry} (h : payload.bytes? = some bs) :
    payloadValue name payload codecs = textOf name bs codecs >>= valueOf := by
  cases payload <;> cases h <;> rfl

theorem payloadValue_bytes {name : String} {bs : List UInt8} {text : List Char} {v : Value}
    (ht : textOf name bs c.codecs = .ok text) (hv : valueOf text = .ok v) :
    payloadValue name (.bytes bs) c.codecs = .ok v := by
  rw [payloadValue, ht]
  exact hv

/-! ## Messages -/

@[simp] theorem read_toConverter (c : JsonConverter) : c.toConverter.read = c.read := rfl

@[simp] theorem write_toConverter (c : JsonConverter) : c.toConverter.write = c.write := rfl

/-- What is read of a message is told by the media type that its headers declare and its payload. -/
theorem read_of_resolve (c : JsonConverter) {m : Message} {declared : Option MediaType}
    (h : ({} : Resolver).resolve m.headers = .ok declared) (shape : Shape) :
    c.read m shape = (do
      check (.unreadable shape) declared
      let v ← payloadValue (c.encodingFor declared) m.payload c.codecs
      if shape.accepts v then .ok v else .error (.wrongShape v.kind shape)) := by
  rw [read, h]
  rfl

theorem resolve_stamped (m : Message) (mediaType : MediaType)
    (there : ((Builder.ofMessage m).set Header.contentType
      (.mediaType mediaType)).payload.isNull = false) (mint : Mint) (n : Nat) :
    ({} : Resolver).resolve (((Builder.ofMessage m).set Header.contentType
      (.mediaType mediaType)).stamped there mint n).headers = .ok (some mediaType) := by
  have htype : (((Builder.ofMessage m).set Header.contentType (.mediaType mediaType)).stamped
      there mint n).headers.get? Header.contentType = some (.mediaType mediaType) := by
    rw [Builder.get?_stamped _ _ _ _ (by decide), Builder.get?_set, if_pos rfl]
    rfl
  rw [Resolver.resolve, Fields.value_of_get? htype]

/-- A message that was given a media type is read in the character set that this names. -/
theorem read_stamped (c : JsonConverter) {m : Message} {mediaType : MediaType}
    (hs : supports (some mediaType) = true)
    (there : ((Builder.ofMessage m).set Header.contentType
      (.mediaType mediaType)).payload.isNull = false) (mint : Mint) (n : Nat) (shape : Shape) :
    c.read (((Builder.ofMessage m).set Header.contentType (.mediaType mediaType)).stamped
      there mint n) shape = (do
        let v ← payloadValue (c.encodingFor (some mediaType)) m.payload c.codecs
        if shape.accepts v then .ok v else .error (.wrongShape v.kind shape)) := by
  rw [read_of_resolve c (resolve_stamped m mediaType there mint n), check, if_pos hs]
  rfl

/-- Read in any shape, such a message is the value of its payload. -/
theorem read_any_stamped (c : JsonConverter) {m : Message} {mediaType : MediaType}
    (hs : supports (some mediaType) = true)
    (there : ((Builder.ofMessage m).set Header.contentType
      (.mediaType mediaType)).payload.isNull = false) (mint : Mint) (n : Nat) :
    c.read (((Builder.ofMessage m).set Header.contentType (.mediaType mediaType)).stamped
      there mint n) .any = payloadValue (c.encodingFor (some mediaType)) m.payload c.codecs := by
  rw [read_stamped c hs]
  simp only [Shape.accepts_any, if_true]
  cases payloadValue (c.encodingFor (some mediaType)) m.payload c.codecs with
  | error e => rfl
  | ok v => rfl

/-- Such a message is read as its value if that has the wanted shape. -/
theorem read_ofMessage (c : JsonConverter) {m : Message} {mediaType : MediaType}
    (hs : supports (some mediaType) = true) {v : Value}
    (hv : payloadValue (c.encodingFor (some mediaType)) m.payload c.codecs = .ok v) {shape : Shape}
    (hshape : shape.accepts v = true)
    (there : ((Builder.ofMessage m).set Header.contentType
      (.mediaType mediaType)).payload.isNull = false) (mint : Mint) (n : Nat) :
    c.read (((Builder.ofMessage m).set Header.contentType (.mediaType mediaType)).stamped
      there mint n) shape = .ok v := by
  rw [read_stamped c hs, hv]
  change (if shape.accepts v then _ else _) = _
  rw [hshape, if_pos rfl]

/-! ## Bodies in their forms -/

/-- A name stands for the codec that the converter writes with. -/
def Names (c : JsonConverter) (name : String) : Prop :=
  Encoding.holdsZero name = false ∧ c.codecs name = c.codecs c.encoding

/-- Another name of the same character set will do. -/
theorem names_of_hasName {charset : Encoding.Charset} {name : String}
    (hcodecs : c.codecs = .standard) (hown : charset.HasName c.encoding)
    (h : charset.HasName name) : c.Names name := by
  refine ⟨h.noZero, ?_⟩
  rw [codecs_of_hasName hcodecs h, codecs_of_hasName hcodecs hown]

/-- The forms in which a written body may arrive: as either kind of byte string, or as the text that
the bytes stand for. -/
inductive Holds (c : JsonConverter) (bs : List UInt8) : Value → Prop where
  /-- The bytes. -/
  | bytes : Holds c bs (.bytes bs)
  /-- The bytes, with an owner who may change them. -/
  | buffer : Holds c bs (.buffer bs)
  /-- The text of the bytes. -/
  | text {s : String} (h : textOf c.encoding bs c.codecs = .ok s.toList) : Holds c bs (.text s)

theorem textOf_of_names {name : String} {bs : List UInt8} {text : List Char} (h : c.Names name)
    (ht : textOf c.encoding bs c.codecs = .ok text) : textOf name bs c.codecs = .ok text := by
  rw [textOf] at ht ⊢
  rw [h.1, if_neg Bool.false_ne_true]
  split at ht
  · cases ht
  · split at ht
    · rename_i hempty
      rw [if_pos hempty, ht]
    · rename_i hempty
      rw [if_neg hempty, h.2]
      cases hlookup : c.codecs c.encoding with
      | error fault =>
        rw [hlookup] at ht
        cases ht
      | ok codec =>
        rw [hlookup] at ht
        simp only at ht ⊢
        cases hdecode : codec.decode bs with
        | error fault =>
          rw [hdecode] at ht
          cases ht
        | ok text' =>
          rw [hdecode] at ht
          exact ht

/-- A body is read in the character set of the converter if its media type names none, or one with
the same codec. -/
theorem textOf_encodingFor {declared : Option MediaType} {bs : List UInt8} {text : List Char}
    (h : ∀ name, declared.bind MediaType.charset? = some name → name = "" ∨ c.Names name)
    (ht : textOf c.encoding bs c.codecs = .ok text) :
    textOf (c.encodingFor declared) bs c.codecs = .ok text := by
  rw [encodingFor]
  cases hname : declared.bind MediaType.charset? with
  | none => exact ht
  | some name =>
    simp only
    by_cases hempty : name = ""
    · rw [if_pos hempty]
      exact ht
    · rw [if_neg hempty]
      exact textOf_of_names ((h name hname).resolve_left hempty) ht

theorem Holds.payloadValue_eq {declared : Option MediaType} {bs : List UInt8} {text : List Char}
    {payload v : Value} (h : c.Holds bs payload)
    (hcharset : ∀ name, declared.bind MediaType.charset? = some name → name = "" ∨ c.Names name)
    (ht : textOf c.encoding bs c.codecs = .ok text) (hv : valueOf text = .ok v) :
    payloadValue (c.encodingFor declared) payload c.codecs = .ok v := by
  have hbytes := payloadValue_bytes (textOf_encodingFor hcharset ht) hv
  cases h with
  | bytes => exact hbytes
  | buffer => exact hbytes
  | @text s hs =>
    rw [ht, Except.ok.injEq] at hs
    rw [payloadValue, ← hs, hv]

/-- **What the converter writes, it reads.**  A value that JSON has can be written as a body of
every media type that is written. A message with that body, in whatever form, without a content type
or with one that is read and that names no other character set, is read as the value itself. If a
shape is wanted that the value does not have, it is refused instead. -/
theorem read_write (hc : c.ReadsBack) {v : Value} (hv : v.IsJson) :
    ∃ bs, (∀ mediaType, supports mediaType = true → c.write v mediaType = .ok bs) ∧
      ∀ (m : Message) (declared : Option MediaType), c.Holds bs m.payload →
        ({} : Resolver).resolve m.headers = .ok declared → supports declared = true →
        (∀ name, declared.bind MediaType.charset? = some name → name = "" ∨ c.Names name) →
          c.read m .any = .ok v ∧
            ∀ shape : Shape, (shape.accepts v = true → c.read m shape = .ok v) ∧
              (shape.accepts v = false →
                ∃ e, c.read m shape = .error e ∧ e.family = .conversion) := by
  obtain ⟨bs, text, hwrite, htext, hvalue⟩ := exists_write hc hv
  refine ⟨bs, hwrite, fun m declared hpayload hresolve hs hcharset => ?_⟩
  have hread : ∀ shape : Shape, c.read m shape =
      if shape.accepts v then .ok v else .error (.wrongShape v.kind shape) := by
    intro shape
    rw [read_of_resolve c hresolve, check_of_supports _ hs,
      hpayload.payloadValue_eq hcharset htext hvalue]
    rfl
  refine ⟨by rw [hread, Shape.accepts_any, if_pos rfl], fun shape => ⟨fun h => ?_, fun h => ?_⟩⟩
  · rw [hread, h, if_pos rfl]
  · rw [hread, h, if_neg Bool.false_ne_true]
    exact ⟨_, rfl, rfl⟩

/-- A mapping with a truth value next to a number, and characters that are escaped. -/
def nested : Value :=
  .mapping [(.text "b", .list [.bool true, .int 1, .text "é\"\\"]), (.text "a", .mapping [])]

theorem isJson_nested : nested.IsJson := by
  refine .mapping _ (by simp) ?_ ?_
  · intro e he
    simp only [List.mem_cons, List.not_mem_nil, or_false] at he
    rcases he with rfl | rfl
    · exact Or.inl ⟨_, rfl⟩
    · exact Or.inl ⟨_, rfl⟩
  · intro e he
    simp only [List.mem_cons, List.not_mem_nil, or_false] at he
    rcases he with rfl | rfl
    · refine .list _ fun x hx => ?_
      simp only [List.mem_cons, List.not_mem_nil, or_false] at hx
      rcases hx with rfl | rfl | rfl
      · exact .bool true
      · exact .int 1 (by decide)
      · exact .text _
    · exact .mapping [] List.nodup_nil (by simp) (by simp)

/-- A message with a body in UTF-16. -/
def wideMessage (bs : List UInt8) : Message :=
  Message.stamp (.buffer bs) rfl
    (Fields.ofList [(Header.contentType, .text "application/json; charset=UTF-16")]) "1" (.int 5) 0

/-- The mapping comes back from UTF-16 under another spelling of its name, and is no list. -/
theorem read_write_nested :
    ∃ bs e, ({ encoding := "utf-16" } : JsonConverter).write nested none = .ok bs ∧
      ({ encoding := "utf-16" } : JsonConverter).read (wideMessage bs) .any = .ok nested ∧
      ({ encoding := "utf-16" } : JsonConverter).read (wideMessage bs) .list = .error e := by
  have hown : Encoding.Charset.utf16.HasName "utf-16" := ⟨by decide, by decide +kernel⟩
  have hother : Encoding.Charset.utf16.HasName "UTF-16" := ⟨by decide, by decide +kernel⟩
  obtain ⟨bs, hwrite, hread⟩ := read_write (c := { encoding := "utf-16" })
    (readsBack_of_hasName hown rfl) isJson_nested
  obtain ⟨hany, hshape⟩ := hread (wideMessage bs)
    (some ⟨"application", "json", Fields.ofList [("charset", "UTF-16")]⟩) .buffer rfl (by decide)
    fun name hname => by
      rw [← Option.some.inj hname]
      exact Or.inr (names_of_hasName rfl hown hother)
  obtain ⟨e, he, -⟩ := (hshape .list).2 rfl
  exact ⟨bs, e, hwrite none rfl, hany, he⟩

end JsonConverter

end CloudEvents
