import CloudEvents.Proofs.Conversion.Errors
import CloudEvents.Proofs.Converter.Errors
import CloudEvents.Proofs.MediaType.Inclusion
/-!
# The syntax of structured bodies

The media type of an event in structured mode is not the one that its body is read as. That one has
the suffix for its subtype, or `json` where there is none, and keeps the parameters. So the JSON
converter is asked about a subtype without a plus sign, and reads only one of these: its pattern
`*+json` covers none of them. What stands before the last plus sign does not matter, and neither
does a plus sign at the end.

The parameters are kept, and the character set of a body in bytes is among them.

## Main statements

* `MediaType.supports_syntaxType_iff`: the syntaxes that are read;
* `JsonConverter.read_syntaxRequest`: what the converter answers to the question of a conversion;
* `Message.toCanonical_syntax`: which conversions get past the media type, and how bytes are read.
-/

namespace CloudEvents

/-! ## Media types -/

namespace MediaType

variable {m : MediaType}

/-- The subtype names no other syntax than JSON: it has no suffix or this one. -/
def IsInJson (m : MediaType) : Prop :=
  ∀ suffix, HasSuffix m.subtype.toList suffix → suffix = "json".toList

theorem isInJson_iff : m.IsInJson ↔ m.suffix? = none ∨ m.suffix? = some "json" := by
  constructor
  · intro h
    cases hs : m.suffix? with
    | none => exact Or.inl rfl
    | some s =>
      rw [String.toList_inj.1 (h _ (suffix?_eq_some_iff.1 hs))]
      exact Or.inr rfl
  · rintro (hnone | hjson) suffix hsuffix
    · rw [suffix?_of_hasSuffix hsuffix] at hnone
      cases hnone
    · exact hsuffix.unique (suffix?_eq_some_iff.1 hjson)

/-- The subtype of a syntax is a suffix or JSON, and so without a plus sign. -/
theorem not_mem_subtype_syntaxType (m : MediaType) : '+' ∉ m.syntaxType.subtype.toList := by
  have hjson : '+' ∉ json.subtype.toList := by decide
  rw [syntaxType]
  cases hs : m.suffix? with
  | none => exact hjson
  | some s => exact (suffix?_eq_some_iff.1 hs).free

theorem syntaxType_of_hasSuffix {suffix : List Char} (h : HasSuffix m.subtype.toList suffix) :
    m.syntaxType = ⟨m.mainType, String.ofList suffix, m.parameters⟩ := by
  rw [syntaxType, suffix?_of_hasSuffix h, Option.getD_some]

/-- The syntax of an application type is read if and only if it is JSON. -/
theorem supports_syntaxType_iff (hmain : m.mainType = "application") :
    JsonConverter.supports (some m.syntaxType) = true ↔ m.IsInJson := by
  have hmain' : m.syntaxType.mainType = "application" := hmain
  have hplain := not_mem_subtype_syntaxType m
  have hany : m.syntaxType.subtype ≠ "*+json" := by
    intro h
    rw [h] at hplain
    exact hplain (by decide)
  have hsuffix : m.syntaxType.suffix? ≠ some "json" := fun h =>
    hplain (suffix?_eq_some_iff.1 h).mem
  rw [JsonConverter.supports_some_iff, and_iff_right hmain',
    or_iff_left (not_or_intro hany hsuffix), isInJson_iff, syntaxType]
  cases m.suffix? with
  | none => exact iff_of_true rfl (Or.inl rfl)
  | some s => simp

end MediaType

theorem Fields.isStructured_eq_true_iff {headers : Fields Value} {resolver : Resolver} :
    headers.isStructured resolver = .ok true ↔
      ∃ mediaType, headers.Declares resolver mediaType := by
  constructor
  · intro h
    obtain ⟨found, hfound, hsome⟩ := exists_of_map_eq_ok h
    obtain ⟨mediaType, rfl⟩ := Option.isSome_iff_exists.1 hsome
    exact ⟨mediaType, structuredType?_eq_some_iff.1 hfound⟩
  · rintro ⟨mediaType, h⟩
    rw [isStructured, structuredType?_eq_some_iff.2 h]
    rfl

/-! ## The answer of the converter -/

/-- A reader that has one value, or one error, for every body, and looks at the shape only. -/
def Reader.giving (value : Except Error Value) : Reader where
  read _ shape := do
    let v ← value
    if shape.accepts v then .ok v else .error (.wrongShape v.kind shape)

namespace JsonConverter

/-- The character set of a body is the one that the media type names, if that is a name, and else
the one of the converter. -/
theorem encodingFor_some (c : JsonConverter) (m : MediaType) :
    c.encodingFor (some m) = (m.charset?.filter (· ≠ "")).getD c.encoding := by
  rw [encodingFor, Option.bind_some]
  cases m.charset? with
  | none => rfl
  | some name => by_cases h : name = "" <;> simp [h, Option.filter_some]

/-- The converter looks at the syntax and at nothing else of the media type but its parameters. -/
theorem read_syntaxRequest (c : JsonConverter) (m : Message) (mediaType : MediaType) (mint : Mint)
    (n : Nat) (shape : Shape) :
    c.read (m.syntaxRequest mediaType mint n) shape =
      if supports (some mediaType.syntaxType) = true then
        (Reader.giving (payloadValue (c.encodingFor (some mediaType)) m.payload c.codecs)).read
          (m.syntaxRequest mediaType mint n) shape
      else .error (.unreadable shape mediaType.syntaxType) := by
  have hresolve : ({} : Resolver).resolve (m.syntaxRequest mediaType mint n).headers
      = .ok (some mediaType.syntaxType) := resolve_stamped m _ m.payload_there mint n
  rw [read_of_resolve c hresolve, check]
  split
  · rfl
  · rfl

end JsonConverter

/-! ## Conversions -/

namespace Message

variable {m : Message} {r r' : Reader} {resolver : Resolver} {fallback : Value} {mint : Mint}
  {journal : Journal} {mediaType : MediaType}

/-- Of a reader no more than the answer to the one question counts. -/
theorem exec_toCanonical_congr
    (h : m.headers.canonicalize.structuredType? resolver = .ok (some mediaType))
    (hread : r.read (m.syntaxRequest mediaType mint journal.drawn) .mapping
      = r'.read (m.syntaxRequest mediaType mint journal.drawn) .mapping) :
    (m.toCanonical r resolver fallback).exec mint journal
      = (m.toCanonical r' resolver fallback).exec mint journal := by
  rw [exec_toCanonical_structured mint journal h, exec_toCanonical_structured mint journal h,
    exec_ofStructured_eq, exec_ofStructured_eq, hread]

/-- A body in another syntax is refused, whatever it is. -/
theorem toCanonical_of_not_isInJson (c : JsonConverter)
    (h : m.headers.canonicalize.Declares resolver mediaType) (hjson : ¬mediaType.IsInJson) :
    ((m.toCanonical c.toConverter.toReader resolver fallback).exec mint journal).1
      = .error (.unreadable .mapping mediaType.syntaxType) := by
  have hread := c.read_syntaxRequest m mediaType mint journal.drawn .mapping
  rw [if_neg (mt (MediaType.supports_syntaxType_iff h.mainType).1 hjson)] at hread
  rw [exec_toCanonical_structured mint journal (Fields.structuredType?_eq_some_iff.2 h),
    exec_ofStructured_eq, JsonConverter.read_toConverter, hread]

/-- A body in JSON is read in its character set, and its media type does not matter any more. -/
theorem exec_toCanonical_of_isInJson (c : JsonConverter)
    (h : m.headers.canonicalize.Declares resolver mediaType) (hjson : mediaType.IsInJson) :
    (m.toCanonical c.toConverter.toReader resolver fallback).exec mint journal =
      (m.toCanonical (.giving (JsonConverter.payloadValue (c.encodingFor (some mediaType)) m.payload
        c.codecs)) resolver fallback).exec mint journal := by
  refine exec_toCanonical_congr (Fields.structuredType?_eq_some_iff.2 h) ?_
  rw [JsonConverter.read_toConverter, c.read_syntaxRequest,
    if_pos ((MediaType.supports_syntaxType_iff h.mainType).2 hjson)]

/-- Then no media type is refused. -/
theorem ne_unreadable_of_isInJson (c : JsonConverter)
    (h : m.headers.canonicalize.Declares resolver mediaType) (hjson : mediaType.IsInJson)
    (shape : Shape) (refused : MediaType) :
    ((m.toCanonical c.toConverter.toReader resolver fallback).exec mint journal).1
      ≠ .error (.unreadable shape refused) := by
  intro hrun
  rw [exec_toCanonical_of_isInJson c h hjson] at hrun
  rcases toCanonical_error (Prod.ext hrun rfl) with hfamily | ⟨request, hread⟩ | hrefuses
  · cases hfamily
  · rcases eq_error_of_bind hread with hpayload | ⟨v, -, hshape⟩
    · cases JsonConverter.payloadValue_eq_error hpayload
    · split at hshape
      · cases hshape
      · cases hshape
  · cases hrefuses

/-- **The syntaxes that are read.**  Let the canonical headers of a message declare an event in
structured mode, in whatever header the resolver finds its media type. The converter accepts that if
and only if its subtype has no suffix or the suffix `json`. With any other suffix the conversion
fails with an error of conversion, about the application type of that name. A body in bytes that
gets past this is decoded in the character set that the media type names, or if that is no name in
the one of the converter, and nothing but the value of the decoded text counts from there on. -/
theorem toCanonical_syntax (c : JsonConverter)
    (h : m.headers.canonicalize.isStructured resolver = .ok true) (fallback : Value) (mint : Mint)
    (journal : Journal) :
    ∃ mediaType, resolver.resolve m.headers.canonicalize = .ok (some mediaType) ∧
      let run := (m.toCanonical c.toConverter.toReader resolver fallback).exec mint journal
      let charset := (mediaType.charset?.filter (· ≠ "")).getD c.encoding
      ((¬∃ shape refused, run.1 = .error (.unreadable shape refused)) ↔ mediaType.IsInJson) ∧
      (∀ suffix, MediaType.HasSuffix mediaType.subtype.toList suffix → suffix ≠ "json".toList →
        ∃ e, run.1 = .error e ∧ e.family = .conversion ∧
          e = .unreadable .mapping ⟨"application", String.ofList suffix, mediaType.parameters⟩) ∧
      (mediaType.IsInJson → ∀ bs, m.payload.bytes? = some bs →
        run = (m.toCanonical (.giving
          (JsonConverter.textOf charset bs c.codecs >>= JsonConverter.valueOf)) resolver
          fallback).exec mint journal) := by
  obtain ⟨mediaType, hdeclares⟩ := Fields.isStructured_eq_true_iff.1 h
  refine ⟨mediaType, hdeclares.resolved, ⟨fun hpasses => ?_, ?_⟩, fun suffix hsuffix hother => ?_,
    fun hjson bs hbs => ?_⟩
  · by_contra hjson
    exact hpasses ⟨_, _, toCanonical_of_not_isInJson c hdeclares hjson⟩
  · rintro hjson ⟨shape, refused, hrun⟩
    exact ne_unreadable_of_isInJson c hdeclares hjson shape refused hrun
  · have hjson : ¬mediaType.IsInJson := fun hjson => hother (hjson _ hsuffix)
    refine ⟨_, toCanonical_of_not_isInJson c hdeclares hjson, rfl, ?_⟩
    rw [MediaType.syntaxType_of_hasSuffix hsuffix, hdeclares.mainType]
  · rw [exec_toCanonical_of_isInJson c hdeclares hjson, c.encodingFor_some,
      JsonConverter.payloadValue_of_bytes? hbs]

/-- An empty mapping in UTF-16. -/
def wideBody : List UInt8 := [0xFF, 0xFE, 0x7B, 0, 0x7D, 0]

theorem value_wideBody :
    JsonConverter.textOf "utf-16" wideBody >>= JsonConverter.valueOf = .ok (.mapping []) := by
  have hcharset : Encoding.Charset.utf16.HasName "utf-16" := ⟨by decide, by decide +kernel⟩
  have htext : JsonConverter.textOf "utf-16" wideBody = .ok ['{', '}'] :=
    @JsonConverter.textOf_of_hasName {} _ _ _ _ rfl hcharset rfl
  rw [htext]
  rfl

/-- A message with that body and a content type. -/
def wideEvent (contentType : String) : Message :=
  stamp (.bytes wideBody) rfl (Fields.ofList [(Header.contentType, .text contentType)]) "1" (.int 5)
    0

/-- The last plus sign has nothing after it. -/
def trailingPlus : Message := wideEvent "application/cloudevents-batch+xml+; charset=utf-16"

theorem declares_trailingPlus : trailingPlus.headers.canonicalize.Declares {}
    ⟨"application", "cloudevents-batch+xml+", Fields.ofList [("charset", "utf-16")]⟩ :=
  ⟨rfl, by decide, rfl, rfl, by decide⟩

/-- JSON is named before the last plus sign, and something else after it. -/
def twoSyntaxes : Message := wideEvent "application/cloudevents+json+avro"

theorem declares_twoSyntaxes : twoSyntaxes.headers.canonicalize.Declares {}
    ⟨"application", "cloudevents+json+avro", Fields.empty⟩ := ⟨rfl, by decide, rfl, rfl, by decide⟩

/-- The one is read as JSON in UTF-16, the other is refused. -/
theorem toCanonical_syntax_wideEvents :
    let run (m : Message) :=
      (m.toCanonical ({} : JsonConverter).toConverter.toReader).exec ⟨fun _ => "2", 0⟩ {}
    (trailingPlus.headers.canonicalize.isStructured {} = .ok true ∧
      ∃ out, (run trailingPlus).1 = .ok out ∧ out.payload = .mapping []) ∧
    (twoSyntaxes.headers.canonicalize.isStructured {} = .ok true ∧
      (run twoSyntaxes).1
        = .error (.unreadable .mapping ⟨"application", "avro", Fields.empty⟩)) := by
  have hplus := Fields.isStructured_eq_true_iff.2 ⟨_, declares_trailingPlus⟩
  have htwo := Fields.isStructured_eq_true_iff.2 ⟨_, declares_twoSyntaxes⟩
  refine ⟨⟨hplus, ?_⟩, htwo, ?_⟩
  · obtain ⟨_, hresolved, -, -, hreads⟩ :=
      toCanonical_syntax {} hplus Conversion.defaultDataContentType ⟨fun _ => "2", 0⟩ {}
    cases declares_trailingPlus.resolved.symm.trans hresolved
    have hrun := hreads (MediaType.isInJson_iff.2 (Or.inl rfl)) wideBody rfl
    change _ = (toCanonical _ (.giving (JsonConverter.textOf "utf-16" wideBody
      >>= JsonConverter.valueOf)) _ _).exec _ _ at hrun
    rw [value_wideBody] at hrun
    exact ⟨_, congrArg Prod.fst hrun, rfl⟩
  · obtain ⟨_, hresolved, -, hrefused, -⟩ :=
      toCanonical_syntax {} htwo Conversion.defaultDataContentType ⟨fun _ => "2", 0⟩ {}
    cases declares_twoSyntaxes.resolved.symm.trans hresolved
    obtain ⟨e, hrun, -, rfl⟩ := hrefused "avro".toList ⟨by decide, by decide, by decide⟩ (by decide)
    exact hrun

end Message

end CloudEvents
