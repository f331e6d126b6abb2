import CloudEvents.Conversion.Canonical
import CloudEvents.Proofs.Message.Builder
/-!
# The outcomes of bringing a message to canonical form

`toCanonical` has one way in and four ways out: the resolver fails, the body is read as a document,
the message is built again with canonical headers, or it is handed back as it is. Which one is taken
is decided by the canonical headers alone, in two steps. `structuredType?` tells the first two from
the others; among the others `rebuiltType?` gives the content type that the message is built again
with, and `none` where it is handed back.

## Main statements

* `Message.exec_toCanonical_structured`, `Message.exec_toCanonical_rebuilt`,
  `Message.exec_toCanonical_same`, `Message.exec_toCanonical_error`: the run for each way out;
* `Message.exec_ofStructured`: the run of a reading that succeeds in all its steps;
* `Message.toCanonical_outcome`: a canonical form is the result of one of three ways.
-/

namespace CloudEvents

namespace Fields

/-- Whether headers are those of an event is told by the attributes that are there. -/
theorem isCloudEvent_congr {f g : Fields Value} (h : ∀ a : Attribute, a.key ∈ f ↔ a.key ∈ g) :
    f.isCloudEvent = g.isCloudEvent := by
  rw [isCloudEvent, isCloudEvent]
  exact congrArg Attribute.required.all (funext fun a => decide_eq_decide.2 (h a))

/-- The content type with which a message that is not structured is built again, if it is. -/
def rebuiltType? (headers : Fields Value) : Option Value :=
  let declared := headers.value Attribute.datacontenttype.key
  let contentType := headers.value Header.contentType
  if headers.isCloudEvent && declared.isSet then some declared.withMediaTypeText
  else if contentType.isSet then some contentType
  else none

/-- A message is not built again if it is no event that declares a content type for its data, and
has none that counts as something. -/
theorem rebuiltType?_eq_none_iff {headers : Fields Value} :
    headers.rebuiltType? = none ↔
      ¬(headers.isCloudEvent = true ∧
          (headers.value Attribute.datacontenttype.key).isSet = true) ∧
        (headers.value Header.contentType).isSet = false := by
  rw [rebuiltType?, ← Bool.and_eq_true]
  constructor
  · intro h
    split at h
    · cases h
    · rename_i hevent
      split at h
      · cases h
      · rename_i hct
        exact ⟨hevent, by simpa using hct⟩
  · rintro ⟨hevent, hct⟩
    simp [hevent, hct]

/-- The content type of a message that is built again is there. -/
theorem not_isNull_of_rebuiltType? {headers : Fields Value} {v : Value}
    (h : headers.rebuiltType? = some v) : v.isNull = false := by
  rw [rebuiltType?] at h
  split at h
  · rename_i hset
    rw [Bool.and_eq_true] at hset
    rw [← Option.some.inj h, Value.isNull_withMediaTypeText]
    exact Value.not_isNull_of_isSet hset.2
  · split at h
    · rename_i hset
      rw [← Option.some.inj h]
      exact Value.not_isNull_of_isSet hset
    · cases h

/-- Headers that declare an event in structured mode have a content type. -/
theorem contentType_mem_of_structuredType? {headers : Fields Value} {resolver : Resolver}
    {mediaType : MediaType} (h : headers.structuredType? resolver = .ok (some mediaType)) :
    headers.isCloudEvent = false ∧ Header.contentType ∈ headers := by
  rw [structuredType?] at h
  split at h
  · cases h
  · rename_i hgate
    simpa using hgate

end Fields

namespace Message

/-- What a message is built from when it is built again with canonical headers. -/
def rebuilder (m : Message) (contentType : Value) : Builder :=
  (Builder.mk m.payload m.headers.canonicalize).set Header.contentType contentType

theorem rebuilder_there (m : Message) (contentType : Value) :
    (m.rebuilder contentType).payload.isNull = false := m.payload_there

/-- What the reader of a structured body is asked about: the message as it came, with the media type
of its syntax as content type. -/
def syntaxRequest (m : Message) (mediaType : MediaType) (mint : Mint) (n : Nat) : Message :=
  ((Builder.ofMessage m).set Header.contentType (.mediaType mediaType.syntaxType)).stamped
    m.payload_there mint n

variable {m : Message} {r : Reader} {resolver : Resolver} {fallback : Value}
  (mint : Mint) (journal : Journal)

/-! ## The four ways out -/

theorem exec_toCanonical_error {e : Error}
    (h : m.headers.canonicalize.structuredType? resolver = .error e) :
    (m.toCanonical r resolver fallback).exec mint journal = (.error e, journal) := by
  rw [toCanonical, h]
  rfl

theorem exec_toCanonical_structured {mediaType : MediaType}
    (h : m.headers.canonicalize.structuredType? resolver = .ok (some mediaType)) :
    (m.toCanonical r resolver fallback).exec mint journal
      = (m.ofStructured m.headers.canonicalize mediaType r fallback).exec mint journal := by
  rw [toCanonical, h]
  rfl

theorem exec_toCanonical_rebuilt {contentType : Value}
    (h : m.headers.canonicalize.structuredType? resolver = .ok none)
    (hc : m.headers.canonicalize.rebuiltType? = some contentType) :
    (m.toCanonical r resolver fallback).exec mint journal
      = (.ok ((m.rebuilder contentType).stamped (m.rebuilder_there contentType) mint journal.drawn),
          { journal with drawn := journal.drawn + 1 }) := by
  have hrun : (m.toCanonical r resolver fallback).exec mint journal
      = (m.rebuilder contentType).build.exec mint journal := by
    rw [Fields.rebuiltType?] at hc
    rw [toCanonical, h, Run.exec_bind, Run.exec_lift]
    simp only
    split at hc
    · rename_i hset
      rw [if_pos hset, ← Option.some.inj hc]
      rfl
    · rename_i hset
      rw [if_neg hset]
      split at hc
      · rename_i hct
        rw [if_pos hct, ← Option.some.inj hc]
        rfl
      · cases hc
  rw [hrun, Builder.exec_build _ (m.rebuilder_there contentType)]

theorem exec_toCanonical_same
    (h : m.headers.canonicalize.structuredType? resolver = .ok none)
    (hc : m.headers.canonicalize.rebuiltType? = none) :
    (m.toCanonical r resolver fallback).exec mint journal = (.ok m, journal) := by
  rw [Fields.rebuiltType?] at hc
  rw [toCanonical, h, Run.exec_bind, Run.exec_lift]
  simp only
  split at hc
  · cases hc
  · rename_i hset
    rw [if_neg hset]
    split at hc
    · cases hc
    · rename_i hct
      rw [if_neg hct]
      rfl

/-! ## Reading a body -/

end Message

/-- A document is a mapping under canonical keys. -/
theorem Conversion.document_eq_ok_iff {declared : Bool} {answer : Value} {document : Fields Value} :
    Conversion.document declared answer = .ok document ↔
      ∃ d, answer.fields? = some d ∧ document = d.canonicalize true := by
  rw [Conversion.document]
  cases answer.fields? with
  | none => simp
  | some d => simp [eq_comm]

theorem Conversion.document_ofFields (declared : Bool) (d : Fields Value) :
    Conversion.document declared (.ofFields d) = .ok (d.canonicalize true) :=
  document_eq_ok_iff.2 ⟨d, Value.fields?_ofFields d, rfl⟩

/-- The payload of a canonical document is there. -/
theorem Conversion.payload_there {document : Fields Value} {p : Value}
    (h : Conversion.payload document = .ok p) : p.isNull = false := by
  rw [payload] at h
  split at h
  · rename_i hdata
    rw [← Except.ok.inj h]
    simpa using hdata
  · split at h
    · cases hd : decodeData (document.value Attribute.dataBase64.key) with
      | error e => rw [hd] at h; cases h
      | ok bs => rw [hd] at h; rw [← Except.ok.inj h]; rfl
    · rw [← Except.ok.inj h]
      rfl

@[simp] theorem Conversion.payload_binaryBuilder (envelope document : Fields Value)
    (p fallback : Value) : (Conversion.binaryBuilder envelope document p fallback).payload = p := by
  rw [binaryBuilder, Builder.payload_set, Builder.payload_setEntries]

theorem Conversion.binaryBuilder_there {document : Fields Value} {p : Value}
    (h : Conversion.payload document = .ok p) (envelope : Fields Value) (fallback : Value) :
    (Conversion.binaryBuilder envelope document p fallback).payload.isNull = false := by
  rw [payload_binaryBuilder]
  exact payload_there h

/-- The keys of a binary form are those of the envelope and the document, and the content type. -/
theorem Conversion.mem_binaryBuilder {envelope document : Fields Value} {p fallback : Value}
    {k : String} (h : k ∈ (binaryBuilder envelope document p fallback).headers) :
    k = Header.contentType ∨ k ∈ envelope ∨ k ∈ document := by
  rcases Builder.mem_set h with hk | hset
  · exact Or.inl hk
  · rcases Builder.mem_setEntries hset with hk | hk
    · obtain ⟨e, he, rfl⟩ := List.mem_map.1 hk
      exact Or.inr (Or.inl (List.mem_map_of_mem (List.mem_filter.1 he).1))
    · rw [attributes, Fields.mem_erase, Fields.mem_erase] at hk
      exact Or.inr (Or.inr hk.2.2)

namespace Message

variable {m : Message} {r : Reader} {resolver : Resolver} {fallback : Value}

/-- Whether the envelope declares the content type of the data. -/
abbrev declares (envelope : Fields Value) : Bool :=
  (envelope.value Attribute.datacontenttype.key).isSet

/-- The journal after the reader was asked. -/
def asked (m : Message) (mediaType : MediaType) (mint : Mint) (journal : Journal) : Journal :=
  { drawn := journal.drawn + 1
    effects := journal.effects ++ [.read (m.syntaxRequest mediaType mint journal.drawn) .mapping] }

/-- A reading draws an identity for the question and asks it; then it is carried on without further
effects until the message is made. -/
theorem exec_ofStructured_eq (envelope : Fields Value) (mediaType : MediaType) (mint : Mint)
    (journal : Journal) :
    (m.ofStructured envelope mediaType r fallback).exec mint journal =
      match r.read (m.syntaxRequest mediaType mint journal.drawn) .mapping with
      | .error e => (.error e, m.asked mediaType mint journal)
      | .ok answer =>
        match Conversion.document (declares envelope) answer with
        | .error e => (.error e, m.asked mediaType mint journal)
        | .ok d =>
          match Conversion.payload d with
          | .error e => (.error e, m.asked mediaType mint journal)
          | .ok p =>
            (Conversion.binaryBuilder envelope d p fallback).build.exec mint
              (m.asked mediaType mint journal) := by
  have there : ((Builder.ofMessage m).set Header.contentType
      (.mediaType mediaType.syntaxType)).payload.isNull = false := m.payload_there
  rw [ofStructured, Run.exec_bind, Builder.exec_build _ there]
  simp only
  rw [Run.exec_bind, Reader.ask, Run.exec_bind, Run.exec_emit]
  simp only [Run.exec_lift]
  rw [show ((Builder.ofMessage m).set Header.contentType
      (.mediaType mediaType.syntaxType)).stamped there mint journal.drawn
      = m.syntaxRequest mediaType mint journal.drawn from rfl]
  cases r.read (m.syntaxRequest mediaType mint journal.drawn) .mapping with
  | error e => rfl
  | ok answer =>
    simp only [Run.exec_bind, Run.exec_lift]
    cases Conversion.document (declares envelope) answer with
    | error e => rfl
    | ok d =>
      simp only
      cases Conversion.payload d with
      | error e => rfl
      | ok p => rfl

/-- A reading that succeeds in all its steps makes a message of the envelope and the document. -/
theorem exec_ofStructured {envelope : Fields Value} {mediaType : MediaType} {mint : Mint}
    {journal : Journal} {answer : Value} {d : Fields Value} {p : Value}
    (hr : r.read (m.syntaxRequest mediaType mint journal.drawn) .mapping = .ok answer)
    (hd : Conversion.document (declares envelope) answer = .ok d)
    (hp : Conversion.payload d = .ok p)
    (there : (Conversion.binaryBuilder envelope d p fallback).payload.isNull = false) :
    (m.ofStructured envelope mediaType r fallback).exec mint journal
      = (.ok ((Conversion.binaryBuilder envelope d p fallback).stamped there mint
            (journal.drawn + 1)),
          { m.asked mediaType mint journal with drawn := journal.drawn + 2 }) := by
  rw [exec_ofStructured_eq, hr]
  simp only [hd, hp]
  rw [Builder.exec_build _ there]
  rfl

/-- A reading that succeeds has succeeded in all its steps. -/
theorem ofStructured_ok {envelope : Fields Value} {mediaType : MediaType} {mint : Mint}
    {journal : Journal} {out : Message} {after : Journal}
    (h : (m.ofStructured envelope mediaType r fallback).exec mint journal = (.ok out, after)) :
    ∃ answer d p, r.read (m.syntaxRequest mediaType mint journal.drawn) .mapping = .ok answer ∧
      Conversion.document (declares envelope) answer = .ok d ∧ Conversion.payload d = .ok p ∧
      ∃ there, out = (Conversion.binaryBuilder envelope d p fallback).stamped there mint
        (journal.drawn + 1) := by
  rw [exec_ofStructured_eq] at h
  cases hr : r.read (m.syntaxRequest mediaType mint journal.drawn) .mapping with
  | error e => rw [hr] at h; cases h
  | ok answer =>
    rw [hr] at h
    simp only at h
    cases hd : Conversion.document (declares envelope) answer with
    | error e => rw [hd] at h; cases h
    | ok d =>
      rw [hd] at h
      simp only at h
      cases hp : Conversion.payload d with
      | error e => rw [hp] at h; cases h
      | ok p =>
        rw [hp] at h
        simp only at h
        have there := Conversion.binaryBuilder_there hp envelope fallback
        rw [Builder.exec_build _ there, Prod.mk.injEq] at h
        exact ⟨answer, d, p, rfl, hd, hp, there, (Except.ok.inj h.1).symm⟩

/-- A canonical form comes from a document, is the message built again, or is the message itself. -/
theorem toCanonical_outcome {mint : Mint} {journal : Journal} {out : Message} {after : Journal}
    (h : (m.toCanonical r resolver fallback).exec mint journal = (.ok out, after)) :
    (∃ mediaType, m.headers.canonicalize.structuredType? resolver = .ok (some mediaType) ∧
      (m.ofStructured m.headers.canonicalize mediaType r fallback).exec mint journal
        = (.ok out, after)) ∨
    m.headers.canonicalize.structuredType? resolver = .ok none ∧
      ((∃ contentType, m.headers.canonicalize.rebuiltType? = some contentType ∧
          out = (m.rebuilder contentType).stamped (m.rebuilder_there contentType) mint
            journal.drawn) ∨
        m.headers.canonicalize.rebuiltType? = none ∧ out = m) := by
  cases hs : m.headers.canonicalize.structuredType? resolver with
  | error e =>
    rw [exec_toCanonical_error mint journal hs] at h
    cases h
  | ok found =>
    cases found with
    | some mediaType =>
      rw [exec_toCanonical_structured mint journal hs] at h
      exact Or.inl ⟨mediaType, rfl, h⟩
    | none =>
      refine Or.inr ⟨rfl, ?_⟩
      cases hc : m.headers.canonicalize.rebuiltType? with
      | some contentType =>
        rw [exec_toCanonical_rebuilt mint journal hs hc, Prod.mk.injEq] at h
        exact Or.inl ⟨contentType, rfl, (Except.ok.inj h.1).symm⟩
      | none =>
        rw [exec_toCanonical_same mint journal hs hc, Prod.mk.injEq] at h
        exact Or.inr ⟨rfl, (Except.ok.inj h.1).symm⟩

end Message

end CloudEvents
