import CloudEvents.Proofs.Conversion.Branches
/-!
# Whence the errors of a conversion come

`toCanonical` fails for one of three reasons. The content type is no media type, which is seen
before anything is read; or the reader fails, and its error goes on unchanged; or the answer of the
reader is refused, because it is no document or because its encoded data cannot be decoded
(`Conversion.Refuses`). Making the message cannot fail any more, because there is always a payload.

## Main statements

* `Message.toCanonical_error`: the three reasons;
* `Message.exists_read_of_emptyPayload`: a payload is missed only by the reader.
-/

namespace CloudEvents

/-- What a conversion itself finds wrong with a document. -/
inductive Conversion.Refuses : Error → Prop where
  /-- The answer of the reader is no document. -/
  | notDocument (fault : DocumentFault) : Refuses (.notDocument fault)
  /-- The encoded data is no ASCII. -/
  | encodedNotAscii : Refuses .encodedNotAscii
  /-- The encoded data is no text and no bytes. -/
  | encodedKind (kind : String) : Refuses (.encodedKind kind)
  /-- The encoded data is no Base64. -/
  | encodedMalformed (fault : Encoding.Base64.Fault) : Refuses (.encodedMalformed fault)

namespace Conversion

theorem Refuses.of_document {declared : Bool} {answer : Value} {e : Error}
    (h : document declared answer = .error e) : Refuses e := by
  unfold document at h
  split at h
  · cases h
  · rw [← Except.error.inj h]
    exact .notDocument _

theorem Refuses.of_decode {bs : List UInt8} {e : Error}
    (h : (Encoding.Base64.decode bs).mapError Error.encodedMalformed = .error e) : Refuses e := by
  cases hd : Encoding.Base64.decode bs with
  | ok out =>
    rw [hd] at h
    cases h
  | error fault =>
    rw [hd] at h
    rw [← Except.error.inj h]
    exact .encodedMalformed fault

theorem Refuses.of_decodeData {encoded : Value} {e : Error} (h : decodeData encoded = .error e) :
    Refuses e := by
  unfold decodeData at h
  split at h
  · split at h
    · exact .of_decode h
    · rw [← Except.error.inj h]
      exact .encodedNotAscii
  · rw [← Except.error.inj h]
    exact .encodedNotAscii
  · exact .of_decode h
  · exact .of_decode h
  · rw [← Except.error.inj h]
    exact .encodedKind _

theorem Refuses.of_payload {d : Fields Value} {e : Error} (h : payload d = .error e) :
    Refuses e := by
  rw [payload] at h
  split at h
  · cases h
  · split at h
    · cases hdata : decodeData (d.value Attribute.dataBase64.key) with
      | ok bs =>
        rw [hdata] at h
        cases h
      | error e' =>
        rw [hdata] at h
        exact Except.error.inj h ▸ .of_decodeData hdata
    · cases h

end Conversion

namespace Message

variable {m : Message} {r : Reader} {resolver : Resolver} {fallback : Value} {mint : Mint}
  {journal after : Journal} {e : Error}

/-- A conversion fails because of the content type, or because the reader does, or because of the
document; in the end there is always a payload. -/
theorem toCanonical_error
    (h : (m.toCanonical r resolver fallback).exec mint journal = (.error e, after)) :
    e.family = .mediaType ∨ (∃ request, r.read request .mapping = .error e) ∨
      Conversion.Refuses e := by
  cases hs : m.headers.canonicalize.structuredType? resolver with
  | error e' =>
    rw [exec_toCanonical_error mint journal hs, Prod.mk.injEq] at h
    obtain ⟨-, -, hresolve⟩ := Fields.structuredType?_eq_error_iff.1 hs
    exact Or.inl (Except.error.inj h.1 ▸ Resolver.family_of_resolve_eq_error hresolve)
  | ok found =>
    cases found with
    | none =>
      obtain ⟨out, after', hrun, -⟩ := exists_quiet r fallback hs mint journal
      rw [hrun] at h
      cases h
    | some mediaType =>
      rw [exec_toCanonical_structured mint journal hs, exec_ofStructured_eq] at h
      cases hr : r.read (m.syntaxRequest mediaType mint journal.drawn) .mapping with
      | error e' =>
        rw [hr, Prod.mk.injEq] at h
        exact Or.inr (Or.inl ⟨_, Except.error.inj h.1 ▸ hr⟩)
      | ok answer =>
        rw [hr] at h
        simp only at h
        cases hd : Conversion.document (declares m.headers.canonicalize) answer with
        | error e' =>
          rw [hd, Prod.mk.injEq] at h
          exact Or.inr (Or.inr (Except.error.inj h.1 ▸ .of_document hd))
        | ok d =>
          rw [hd] at h
          simp only at h
          cases hp : Conversion.payload d with
          | error e' =>
            rw [hp, Prod.mk.injEq] at h
            exact Or.inr (Or.inr (Except.error.inj h.1 ▸ .of_payload hp))
          | ok p =>
            rw [hp] at h
            simp only at h
            rw [Builder.exec_build _ (Conversion.binaryBuilder_there hp _ fallback)] at h
            cases h

/-- So a conversion does not miss a payload, unless the reader says so. -/
theorem exists_read_of_emptyPayload
    (h : (m.toCanonical r resolver fallback).exec mint journal = (.error .emptyPayload, after)) :
    ∃ request, r.read request .mapping = .error .emptyPayload := by
  rcases toCanonical_error h with hfamily | hread | hrefuses
  · cases hfamily
  · exact hread
  · cases hrefuses

end Message

end CloudEvents
