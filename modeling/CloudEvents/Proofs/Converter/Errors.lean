import CloudEvents.Proofs.Conversion.Branches
import CloudEvents.Proofs.Converter.Json
import CloudEvents.Proofs.Json.LongNumbers
/-!
# Errors of the JSON converter

Whoever calls the converter wants to know one family of errors only, that of conversion, and beside
it the error of a content type that is no media type. Everything that can go wrong underneath has to
be put into these terms: names that stand for no character set, bytes that are no text, texts that
are no JSON, keys that JSON has no text for.

Reading and writing each put into these terms what the other one lets through.

* Writing looks a name up outside of what is put into these terms, so that a name which stands for
  no character set comes out as an error of its own (`JsonConverter.Misnamed`).  Reading puts such a
  name into these terms.
* Reading does not do so with a name that holds the character zero (`JsonConverter.ZeroNamed`), nor
  with an integer that is too long (`JsonConverter.LongNumbered`), and writing does with both.

Nothing else is let through, whatever codecs are registered.

## Main statements

* `JsonConverter.read_eq_error`, `JsonConverter.write_eq_error`: where the errors come from;
* `JsonConverter.LongNumbered.exists_digits`: a body with an integer that is too long has all of its
  digits;
* `JsonConverter.fails_in_own_terms_iff`: the converter fails in its own terms but for these three.
-/

namespace CloudEvents

namespace JsonConverter

variable {c : JsonConverter} {m : Message} {shape : Shape} {v : Value}
  {mediaType : Option MediaType} {e : Error}

/-- A body in bytes is to be read in a character set whose name holds the character zero. -/
def ZeroNamed (c : JsonConverter) (m : Message) : Prop :=
  ∃ declared bs, ({} : Resolver).resolve m.headers = .ok declared ∧ supports declared = true ∧
    m.payload.bytes? = some bs ∧ Encoding.holdsZero (c.encodingFor declared) = true

/-- The text of a payload, whose bytes are in the character set with a name. -/
inductive BodyText (name : String) (codecs : Encoding.Registry) : Value → List Char → Prop where
  /-- A text is its own. -/
  | text (s : String) : BodyText name codecs (.text s) s.toList
  /-- Surrogates are read as they are shown. -/
  | unpaired (t : Text.Unpaired) : BodyText name codecs (.unpaired t) t.shown
  /-- Bytes have the text that is decoded. -/
  | bytes {payload : Value} {bs : List UInt8} {text : List Char} (h : payload.bytes? = some bs)
      (decoded : textOf name bs codecs = .ok text) : BodyText name codecs payload text

/-- A body is to be read whose text has an integer that is too long, and is JSON as far as there. -/
def LongNumbered (c : JsonConverter) (m : Message) (fault : Text.LongInteger) : Prop :=
  ∃ declared text, ({} : Resolver).resolve m.headers = .ok declared ∧ supports declared = true ∧
    BodyText (c.encodingFor declared) c.codecs m.payload text ∧
    Json.read text = .error (.integer fault)

/-- A value that could be written is to be written in a character set whose name can be looked up,
but stands for none. -/
def Misnamed (c : JsonConverter) (v : Value) (mediaType : Option MediaType) : Prop :=
  supports mediaType = true ∧ (∃ text, Json.write v = .ok text) ∧
    Encoding.holdsZero c.encoding = false ∧ ∃ fault, c.codecs c.encoding = .error fault

/-! ## Reading -/

theorem check_eq_error {refusal : MediaType → Error}
    (hrefusal : ∀ m, (refusal m).family = .conversion)
    (h : check refusal mediaType = .error e) : e.family = .conversion := by
  cases mediaType with
  | none => cases h
  | some m =>
    rw [check] at h
    split at h
    · cases h
    · rw [← Except.error.inj h]
      exact hrefusal m

theorem supports_of_check {refusal : MediaType → Error} (h : check refusal mediaType = .ok ()) :
    supports mediaType = true := by
  cases mediaType with
  | none => rfl
  | some m =>
    rw [check] at h
    split at h
    · assumption
    · cases h

/-- What can be wrong with a payload as a body under the name of a character set. -/
inductive BodyFault (name : String) (codecs : Encoding.Registry) (payload : Value) :
    Error → Prop where
  /-- The payload is of a kind that has no body. -/
  | kind (kind : String) : BodyFault name codecs payload (.payloadKind kind)
  /-- Bytes are to be read under a name with the character zero. -/
  | zero {bs : List UInt8} (bytes : payload.bytes? = some bs)
      (holds : Encoding.holdsZero name = true) : BodyFault name codecs payload .zeroInCharset
  /-- The bytes are no text under the name. -/
  | notText (fault : TextFault) : BodyFault name codecs payload (.notText name fault)
  /-- The text is no JSON. -/
  | notJson (report : Json.Report) : BodyFault name codecs payload (.notJson report)
  /-- The text has an integer that is too long. -/
  | longInteger {text : List Char} {fault : Text.LongInteger}
      (body : BodyText name codecs payload text) (long : Json.read text = .error (.integer fault)) :
      BodyFault name codecs payload (.longInteger fault)

variable {name : String} {codecs : Encoding.Registry} {payload : Value}

theorem textOf_eq_error {bs : List UInt8} (hbs : payload.bytes? = some bs)
    (h : textOf name bs codecs = .error e) : BodyFault name codecs payload e := by
  rw [textOf] at h
  split at h
  · rename_i hzero
    rw [← Except.error.inj h]
    exact .zero hbs hzero
  · split at h
    · cases h
    · split at h
      · rw [← Except.error.inj h]
        exact .notText _
      · obtain ⟨fault, -, rfl⟩ := exists_of_mapError_eq_error h
        exact .notText _

theorem valueOf_eq_error {text : List Char} (hbody : BodyText name codecs payload text)
    (h : valueOf text = .error e) : BodyFault name codecs payload e := by
  obtain ⟨refusal, hread, rfl⟩ := exists_of_mapError_eq_error h
  cases refusal with
  | malformed report => exact .notJson report
  | integer fault => exact .longInteger hbody hread

theorem payloadValue_eq_error (h : payloadValue name payload codecs = .error e) :
    BodyFault name codecs payload e := by
  have hbytes : ∀ bs, payload.bytes? = some bs → textOf name bs codecs >>= valueOf = .error e →
      BodyFault name codecs payload e := by
    intro bs hbs hvalue
    rcases eq_error_of_bind hvalue with htext | ⟨text, htext, hvalue⟩
    · exact textOf_eq_error hbs htext
    · exact valueOf_eq_error (.bytes hbs htext) hvalue
  unfold payloadValue at h
  split at h
  · cases h
  · exact valueOf_eq_error (.text _) h
  · exact valueOf_eq_error (.unpaired _) h
  · exact hbytes _ rfl h
  · exact hbytes _ rfl h
  · rw [← Except.error.inj h]
    exact .kind _

/-- Reading fails in the terms of the converter, because of the content type, at a name with the
character zero, or at an integer that is too long. -/
theorem read_eq_error (h : c.read m shape = .error e) :
    e.family = .conversion ∨
      (e.family = .mediaType ∧ ({} : Resolver).resolve m.headers = .error e) ∨
      (e = .zeroInCharset ∧ c.ZeroNamed m) ∨
      ∃ fault, e = .longInteger fault ∧ c.LongNumbered m fault := by
  rw [read] at h
  rcases eq_error_of_bind h with hresolve | ⟨declared, hresolve, h⟩
  · exact Or.inr (Or.inl ⟨Resolver.family_of_resolve_eq_error hresolve, hresolve⟩)
  rcases eq_error_of_bind h with hcheck | ⟨_, hcheck, h⟩
  · exact Or.inl (check_eq_error (fun _ => rfl) hcheck)
  rcases eq_error_of_bind h with hpayload | ⟨v, -, h⟩
  · cases payloadValue_eq_error hpayload with
    | kind => exact Or.inl rfl
    | zero hbs hzero =>
      exact Or.inr (Or.inr (Or.inl
        ⟨rfl, declared, _, hresolve, supports_of_check hcheck, hbs, hzero⟩))
    | notText => exact Or.inl rfl
    | notJson => exact Or.inl rfl
    | longInteger hbody hlong =>
      exact Or.inr (Or.inr (Or.inr
        ⟨_, rfl, declared, _, hresolve, supports_of_check hcheck, hbody, hlong⟩))
  · split at h
    · cases h
    · rw [← Except.error.inj h]
      exact Or.inl rfl

/-- At such a name reading fails with an error that is none of conversion. -/
theorem ZeroNamed.read_eq (h : c.ZeroNamed m) (shape : Shape) :
    c.read m shape = .error .zeroInCharset := by
  obtain ⟨declared, bs, hresolve, hsupports, hbs, hzero⟩ := h
  have htext : textOf (c.encodingFor declared) bs c.codecs = .error .zeroInCharset := by
    rw [textOf, if_pos hzero]
  rw [read_of_resolve c hresolve, check_of_supports _ hsupports, payloadValue_of_bytes? hbs, htext]
  rfl

theorem BodyText.payloadValue_eq {text : List Char} (h : BodyText name codecs payload text) :
    payloadValue name payload codecs = valueOf text := by
  cases h with
  | text s => rfl
  | unpaired t => rfl
  | bytes hbs htext =>
    rw [payloadValue_of_bytes? hbs, htext]
    rfl

/-- So it does at such an integer. -/
theorem LongNumbered.read_eq {fault : Text.LongInteger} (h : c.LongNumbered m fault)
    (shape : Shape) : c.read m shape = .error (.longInteger fault) := by
  obtain ⟨declared, text, hresolve, hsupports, hbody, hlong⟩ := h
  rw [read_of_resolve c hresolve, check_of_supports _ hsupports, hbody.payloadValue_eq, valueOf,
    hlong]
  rfl

/-- All the digits of such an integer stand in the text of the body. -/
theorem LongNumbered.exists_digits {fault : Text.LongInteger} (h : c.LongNumbered m fault) :
    ∃ declared text ds, ({} : Resolver).resolve m.headers = .ok declared ∧
      BodyText (c.encodingFor declared) c.codecs m.payload text ∧
      Text.IsDigits ds ∧ ds <:+: text ∧ Text.digitLimit < ds.length ∧ fault = .read ds.length := by
  obtain ⟨declared, text, hresolve, -, hbody, hlong⟩ := h
  obtain ⟨ds, hds⟩ := Json.exists_digits_of_read hlong
  exact ⟨declared, text, ds, hresolve, hbody, hds⟩

/-! ## Writing -/

/-- A text cannot be written in the character set, or the name stands for none. -/
theorem bytesOf_eq_error {text : List Char} (h : c.bytesOf text = .error e) :
    e.family = .conversion ∨ Encoding.holdsZero c.encoding = false ∧
      ∃ fault, e = .encodingName fault ∧ c.codecs c.encoding = .error fault := by
  rw [bytesOf] at h
  split at h
  · rw [← Except.error.inj h]
    exact Or.inl rfl
  · rename_i hzero
    rcases eq_error_of_bind h with hname | ⟨codec, -, h⟩
    · obtain ⟨fault, hfault, rfl⟩ := exists_of_mapError_eq_error hname
      exact Or.inr ⟨by simpa using hzero, fault, rfl, hfault⟩
    · split at h
      · cases h
      · rw [← Except.error.inj h]
        exact Or.inl rfl

/-- Writing fails in the terms of the converter, or because the name stands for no character set. -/
theorem write_eq_error (h : c.write v mediaType = .error e) :
    e.family = .conversion ∨ (∃ fault, e = .encodingName fault) ∧ c.Misnamed v mediaType := by
  rw [write] at h
  rcases eq_error_of_bind h with hcheck | ⟨_, hcheck, h⟩
  · exact Or.inl (check_eq_error (fun _ => rfl) hcheck)
  rcases eq_error_of_bind h with hkey | ⟨text, htext, h⟩
  · obtain ⟨fault, -, rfl⟩ := exists_of_mapError_eq_error hkey
    exact Or.inl rfl
  · have hwritten : ∃ text, Json.write v = .ok text := by
      cases hwrite : Json.write v with
      | ok text => exact ⟨text, rfl⟩
      | error fault =>
        rw [hwrite] at htext
        cases htext
    rcases bytesOf_eq_error h with hfamily | ⟨hzero, fault, rfl, hfault⟩
    · exact Or.inl hfamily
    · exact Or.inr ⟨⟨fault, rfl⟩, supports_of_check hcheck, hwritten, hzero, fault, hfault⟩

/-- Such a name comes out as an error that is none of conversion. -/
theorem Misnamed.exists_write_eq (h : c.Misnamed v mediaType) :
    ∃ fault, c.write v mediaType = .error (.encodingName fault) := by
  obtain ⟨hsupports, ⟨text, htext⟩, hzero, fault, hfault⟩ := h
  refine ⟨fault, ?_⟩
  rw [write, check_of_supports _ hsupports, htext]
  change c.bytesOf text = _
  rw [bytesOf, hzero, if_neg Bool.false_ne_true, hfault]
  rfl

/-! ## In its own terms -/

/-- **Where the converter fails in its own terms.**  Reading a message gives a value or fails with
an error of conversion or with the one of its content type, if and only if its body is not to be
read under a name with the character zero and has no integer that is too long.  Writing a value
gives bytes or fails with an error of conversion, if and only if the name of the character set
stands for one, or nothing gets as far as to look it up.  Otherwise both fail, with an error of
another family, and a body with an integer that is too long has all of its digits in its text.  This
holds for all codecs. -/
theorem fails_in_own_terms_iff (c : JsonConverter) :
    (∀ m shape,
      ((∀ e, c.read m shape = .error e → e.family = .conversion ∨
          e.family = .mediaType ∧ ({} : Resolver).resolve m.headers = .error e) ↔
        ¬c.ZeroNamed m ∧ ∀ fault, ¬c.LongNumbered m fault) ∧
      (c.ZeroNamed m → c.read m shape = .error .zeroInCharset) ∧
      ∀ fault, c.LongNumbered m fault → c.read m shape = .error (.longInteger fault) ∧
        ∃ declared text ds, ({} : Resolver).resolve m.headers = .ok declared ∧
          BodyText (c.encodingFor declared) c.codecs m.payload text ∧ Text.IsDigits ds ∧
          ds <:+: text ∧ Text.digitLimit < ds.length ∧ fault = .read ds.length) ∧
    ∀ v mediaType,
      ((∀ e, c.write v mediaType = .error e → e.family = .conversion) ↔
        ¬c.Misnamed v mediaType) ∧
      (c.Misnamed v mediaType →
        ∃ fault, c.write v mediaType = .error (.encodingName fault)) := by
  refine ⟨fun m shape => ⟨⟨fun hown => ⟨fun hzero => ?_, fun fault hlong => ?_⟩,
      fun hmeets e h => ?_⟩, fun h => h.read_eq shape,
      fun _ h => ⟨h.read_eq shape, h.exists_digits⟩⟩,
    fun v mediaType => ⟨⟨fun hown hname => ?_, fun hname e h => ?_⟩, fun h => h.exists_write_eq⟩⟩
  · rcases hown _ (hzero.read_eq shape) with hfamily | ⟨hfamily, -⟩ <;> cases hfamily
  · rcases hown _ (hlong.read_eq shape) with hfamily | ⟨hfamily, -⟩ <;> cases hfamily
  · rcases read_eq_error h with hfamily | hresolve | ⟨-, hzero⟩ | ⟨fault, -, hlong⟩
    · exact Or.inl hfamily
    · exact Or.inr hresolve
    · exact absurd hzero hmeets.1
    · exact absurd hlong (hmeets.2 fault)
  · obtain ⟨fault, hfault⟩ := hname.exists_write_eq
    cases hown _ hfault
  · rcases write_eq_error h with hfamily | ⟨-, hmeets⟩
    · exact hfamily
    · exact absurd hmeets hname

/-- A converter with a character set that nobody knows. -/
def misnamed : JsonConverter := { encoding := "nope" }

/-- Its name is looked up in vain, among the character sets as among the other codings. -/
theorem codecs_misnamed : misnamed.codecs misnamed.encoding = .error (.unknown "nope") := by
  have hcharsets : (Encoding.Charset.names.find? fun entry =>
      entry.2.covers (Encoding.normalName "nope")) = none :=
    List.find?_eq_none.2 (by decide +kernel)
  have htransforms : (Encoding.transforms.any fun names =>
      names.covers (Encoding.normalName "nope")) = false := by decide +kernel
  change (Encoding.Charset.named "nope").map Encoding.Charset.codec = _
  rw [Encoding.Charset.named]
  simp only [hcharsets, htransforms]
  rfl

/-- A message in bytes that names its character set with the character zero. -/
def zeroNamedNote : Message where
  given := Fields.ofList [("contentType",
    .mediaType ⟨"application", "json", Fields.ofList [("charset", "utf\x008")]⟩)]
  identity := "1"
  timestamp := .int 1700000000500
  payload := .bytes [0x7B, 0x7D]
  given_free := by decide
  timestamp_there := rfl
  payload_there := rfl

/-- A message whose text is one digit too many. -/
def countingNote : Message where
  given := Fields.ofList [("contentType", .text "application/json")]
  identity := "1"
  timestamp := .int 1700000000500
  payload := .text (String.ofList (List.replicate (Text.digitLimit + 1) '1'))
  given_free := by decide
  timestamp_there := rfl
  payload_there := rfl

theorem longNumbered_countingNote (c : JsonConverter) :
    c.LongNumbered countingNote (.read (Text.digitLimit + 1)) := by
  have hwhole : Text.IsWhole (List.replicate (Text.digitLimit + 1) '1') :=
    Or.inr ⟨fun x hx => List.eq_of_mem_replicate hx ▸ rfl, '1', _, rfl, by decide⟩
  have hread := Json.read_of_long hwhole (by rw [List.length_replicate]; exact Nat.lt_succ_self _)
  rw [List.length_replicate] at hread
  refine ⟨some MediaType.json, _, rfl, by decide, .text _, ?_⟩
  rw [String.toList_ofList]
  exact hread

/-- Neither can the mapping be written, nor the messages be read, in the terms of the converter. -/
theorem fails_in_own_terms_iff_misnamed :
    misnamed.Misnamed (.mapping [(.text "a", .int 1)]) none ∧ misnamed.ZeroNamed zeroNamedNote ∧
      ¬(∀ e, misnamed.write (.mapping [(.text "a", .int 1)]) none = .error e →
        e.family = .conversion) ∧
      misnamed.read zeroNamedNote .mapping = .error .zeroInCharset ∧
      misnamed.read countingNote .any = .error (.longInteger (.read (Text.digitLimit + 1))) := by
  have hname : misnamed.Misnamed (.mapping [(.text "a", .int 1)]) none :=
    ⟨rfl, ⟨_, rfl⟩, by decide, _, codecs_misnamed⟩
  have hzero : misnamed.ZeroNamed zeroNamedNote := ⟨_, _, rfl, by decide, rfl, by decide⟩
  obtain ⟨hread, hwrite⟩ := fails_in_own_terms_iff misnamed
  exact ⟨hname, hzero, fun hown => (hwrite _ _).1.1 hown hname, (hread _ _).2.1 hzero,
    ((hread _ _).2.2 _ (longNumbered_countingNote misnamed)).1⟩

/-- A name that stands for no character set comes out of the writer as it is. -/
theorem not_forall_fails_in_own_terms :
    ¬∀ c : JsonConverter,
      (∀ m shape e, c.read m shape = .error e → e.family = .conversion ∨
        e.family = .mediaType ∧ ({} : Resolver).resolve m.headers = .error e) ∧
      ∀ v mediaType e, c.write v mediaType = .error e → e.family = .conversion := by
  intro h
  have hwrite : misnamed.write (.mapping [(.text "a", .int 1)]) none
      = .error (.encodingName (.unknown "nope")) := by
    change misnamed.bytesOf _ = _
    rw [bytesOf, codecs_misnamed]
    rfl
  cases (h misnamed).2 _ _ _ hwrite

end JsonConverter

end CloudEvents
