import CloudEvents.Proofs.Attribute.Canonicalize
import CloudEvents.Proofs.Conversion.Outcome
/-!
# The shape of a canonical form

A handler that is given canonical forms looks for attributes under `ce-` only. Which canonical
forms keep this promise is decided by the way that they came about.

* A message that is built again has the canonical headers of the one that came.
* A message that is read from a document has the members of the document, all of them under the
  canonical prefix, and the canonical headers of its envelope.
* A message that is handed back has the headers with which it came, attributes under `ce_` and
  `cloudEvents:` among them.

So the only forms with a foreign key are messages that came with one and were handed back
(`Message.keys_toCanonical`), and there are events in binary mode among them
(`Message.not_forall_toCanonical_canonical`).
-/

namespace CloudEvents

/-- Whether a key has a recognized prefix that is not the canonical one. -/
def Prefix.Foreign (k : String) : Prop :=
  Prefix.kafka.marks k = true ∨ Prefix.amqp.marks k = true

instance (k : String) : Decidable (Prefix.Foreign k) :=
  inferInstanceAs (Decidable (_ ∨ _))

theorem Prefix.foreign_iff {k : String} :
    Prefix.Foreign k ↔ Prefix.ofKey k = .kafka ∨ Prefix.ofKey k = .amqp := by
  rw [Foreign, marks_iff_ofKey_eq (by decide), marks_iff_ofKey_eq (by decide)]

theorem Prefix.not_foreign_of_ofKey {k : String}
    (h : Prefix.ofKey k = .canonical ∨ Prefix.ofKey k = .none) : ¬Prefix.Foreign k := by
  rw [foreign_iff]
  rcases h with h | h <;> simp [h]

theorem Fields.not_foreign_of_mem_canonicalize {forceAll : Bool} {f : Fields Value} {k : String}
    (h : k ∈ f.canonicalize forceAll) : ¬Prefix.Foreign k := by
  rcases ofKey_of_mem_canonicalize h with hk | ⟨-, hk⟩
  · exact Prefix.not_foreign_of_ofKey (Or.inl hk)
  · exact Prefix.not_foreign_of_ofKey (Or.inr hk)

theorem Header.not_foreign_contentType : ¬Prefix.Foreign Header.contentType := by
  simp [Prefix.Foreign, Prefix.marks, Prefix.text, Header.contentType, List.isPrefixOf]

theorem Header.not_foreign_of_isStamp {k : String} (h : Header.isStamp k = true) :
    ¬Prefix.Foreign k := by
  rcases Header.isStamp_iff.1 h with rfl | rfl
  · simp [Prefix.Foreign, Prefix.marks, Prefix.text, Header.identity, List.isPrefixOf]
  · simp [Prefix.Foreign, Prefix.marks, Prefix.text, Header.timestamp, List.isPrefixOf]

namespace Message

/-- Whether `toCanonical` hands a message back as it is: its canonical headers declare no event in
structured mode, they are not an event in binary mode whose data has a content type, and they have
no content type that counts as something. -/
def HandedBack (m : Message) (resolver : Resolver) : Prop :=
  m.headers.canonicalize.structuredType? resolver = .ok none ∧
    ¬(m.headers.canonicalize.isCloudEvent = true ∧
      (m.headers.canonicalize.value Attribute.datacontenttype.key).isSet = true) ∧
    (m.headers.canonicalize.value Header.contentType).isSet = false

theorem handedBack_iff {m : Message} {resolver : Resolver} :
    m.HandedBack resolver ↔
      m.headers.canonicalize.structuredType? resolver = .ok none ∧
        m.headers.canonicalize.rebuiltType? = none := by
  rw [HandedBack, Fields.rebuiltType?_eq_none_iff]

/-- **The keys of a canonical form.**  Either the message is handed back with the headers that it
has, or the form has no attribute under another prefix than the canonical one. -/
theorem keys_toCanonical {m : Message} {r : Reader} {resolver : Resolver} {fallback : Value}
    {mint : Mint} {journal : Journal} {out : Message} {after : Journal}
    (h : (m.toCanonical r resolver fallback).exec mint journal = (.ok out, after)) :
    (m.HandedBack resolver ∧ out = m) ∨
      (¬m.HandedBack resolver ∧ ∀ k ∈ out.headers, ¬Prefix.Foreign k) := by
  rw [handedBack_iff]
  rcases toCanonical_outcome h with
    ⟨mediaType, hs, hread⟩ | ⟨hs, ⟨contentType, hc, rfl⟩ | ⟨hc, rfl⟩⟩
  · refine Or.inr ⟨fun hback => by rw [hs] at hback; simp at hback, fun k hk => ?_⟩
    obtain ⟨answer, d, p, -, hd, -, there, rfl⟩ := ofStructured_ok hread
    rw [Builder.mem_stamped] at hk
    rcases hk with hstamp | hk
    · exact Header.not_foreign_of_isStamp hstamp
    · rcases Conversion.mem_binaryBuilder hk with rfl | hk | hk
      · exact Header.not_foreign_contentType
      · exact Fields.not_foreign_of_mem_canonicalize hk
      · -- the document was brought under the canonical prefix as a whole
        obtain ⟨fields, -, rfl⟩ := Conversion.document_eq_ok_iff.1 hd
        exact Fields.not_foreign_of_mem_canonicalize hk
  · refine Or.inr ⟨fun hback => by rw [hc] at hback; simp at hback, fun k hk => ?_⟩
    rw [Builder.mem_stamped] at hk
    rcases hk with hstamp | hk
    · exact Header.not_foreign_of_isStamp hstamp
    · rcases Builder.mem_set hk with rfl | hk
      · exact Header.not_foreign_contentType
      · exact Fields.not_foreign_of_mem_canonicalize hk
  · exact Or.inl ⟨⟨hs, hc⟩, rfl⟩

/-- An event that declares a content type is built again, under the canonical prefix. -/
theorem keys_toCanonical_order :
    ∃ out after,
      ((order .kafka [(Header.contentType, .text "text/plain")]).toCanonical
        ⟨fun _ _ => .ok .null⟩ {} .null).exec ⟨fun _ => "2", 0⟩ {} = (.ok out, after) ∧
      ∀ k ∈ out.headers, ¬Prefix.Foreign k := by
  have hs : (order .kafka
      [(Header.contentType, .text "text/plain")]).headers.canonicalize.structuredType? {}
        = .ok none := rfl
  have hc : (order .kafka
      [(Header.contentType, .text "text/plain")]).headers.canonicalize.rebuiltType?
        = some (.text "text/plain") := rfl
  have hrun := @exec_toCanonical_rebuilt _ ⟨fun _ _ => .ok .null⟩ {} .null ⟨fun _ => "2", 0⟩ {} _
    hs hc
  refine ⟨_, _, hrun, ?_⟩
  rcases keys_toCanonical hrun with ⟨hback, -⟩ | ⟨-, hkeys⟩
  · rw [handedBack_iff, hc] at hback
    cases hback.2
  · exact hkeys

/-- Not every canonical form is under the canonical prefix: an event that declares no content type
comes back under `ce_`. -/
theorem not_forall_toCanonical_canonical :
    ¬∀ (m : Message) (r : Reader) (resolver : Resolver) (fallback : Value) (mint : Mint)
      (journal : Journal) (out : Message) (after : Journal),
      (m.toCanonical r resolver fallback).exec mint journal = (.ok out, after) →
        ∀ k ∈ out.headers, ¬Prefix.Foreign k := by
  intro h
  have hrun := @exec_toCanonical_same (order .kafka []) ⟨fun _ _ => .ok .null⟩ {}
    Conversion.defaultDataContentType ⟨fun _ => "2", 0⟩ {} rfl rfl
  exact h _ _ _ _ _ _ _ _ hrun "ce_type" (by decide) (by decide)

end Message

end CloudEvents
