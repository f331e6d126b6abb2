import CloudEvents.Proofs.Conversion.Branches
import CloudEvents.Proofs.Text.Trim
/-!
# Canonical forms of canonical forms

A canonical form is taken for what it is when it comes in again. Whichever way it was made, its keys
are canonical, nothing in its headers asks for a reader, and if it is an event that declares a
content type for its data, then this is its content type (`Fields.Rests`). A message with such
headers is built again with the very content type that it has, or handed back.

* Of a message that was built again this is so because the headers that decide are the ones that
  decided before (`Message.Rebuilds.rests`).
* Of a body that was read it is so as soon as the result is an event: what the envelope and the
  document say about the data's content type has gone into an attribute that counts as something,
  or else the attribute that is left counts as nothing and is not looked at
  (`Message.rests_stamped`). If the result is no event, its content type may declare one in
  structured mode anew, and the reader would be asked again.

The identity is the one header that changes. A resolver that looks at it finds no media type there:
identities are hexadecimal digits and hyphens.

## Main statements

* `Message.exists_exec_toCanonical_of_rests`: what becomes of a message with such headers;
* `Message.toCanonical_toCanonical`: a canonical form is its own canonical form, but for the
  identity.
-/

namespace CloudEvents

/-! ## Identities -/

/-- Whether a text is written as an identity: in hexadecimal digits and hyphens. -/
def Message.isIdentity (s : String) : Bool :=
  s.toList.all fun c => "0123456789abcdef-".toList.contains c

/-- An identity is no media type: it has no slash, and is no lone star. -/
theorem MediaType.exists_read_eq_error {s : String} (h : Message.isIdentity s = true) :
    ∃ fault, MediaType.read s = .error fault := by
  have hmem : ∀ c ∈ s.toList, c ∈ "0123456789abcdef-".toList := by
    intro c hc
    simpa using List.all_eq_true.1 h c hc
  have hcut : ∀ c ∈ Text.trim (Text.cut ';' s.toList).1, c ∈ s.toList := by
    intro c hc
    rw [Text.cut_eq ';' s.toList]
    exact List.mem_append_left _ (Text.mem_of_mem_trimOf hc)
  have hstar : Text.trim (Text.cut ';' s.toList).1 ≠ ['*'] := by
    intro heq
    have hin := hmem '*' (hcut '*' (by rw [heq]; exact List.mem_singleton_self '*'))
    exact absurd hin (by decide)
  have hslash : '/' ∉ fullText s.toList := by
    rw [fullText, if_neg hstar]
    intro hin
    exact absurd (hmem '/' (hcut '/' hin)) (by decide)
  rw [read]
  by_cases hblank : Text.trim s.toList = []
  · exact ⟨.blank, if_pos hblank⟩
  · refine ⟨.slashes, ?_⟩
    rw [if_neg hblank, readNames, Text.pieces_of_not_mem hslash]
    rfl

/-- A resolver that looks at the identity fails. -/
theorem Message.exists_resolve_eq_error {m : Message} {resolver : Resolver}
    (hheader : resolver.header = Header.identity) (h : Message.isIdentity m.identity = true) :
    ∃ e, resolver.resolve m.headers.canonicalize = .error e := by
  have hplain : Prefix.ofKey Header.identity = .none := by decide
  have hvalue : m.headers.canonicalize.value resolver.header = .text m.identity := by
    refine Fields.value_of_get? ?_
    rw [hheader, Fields.get?_canonicalize_of_none hplain, get?_headers, if_neg (by decide),
      if_pos rfl]
  obtain ⟨fault, hfault⟩ := MediaType.exists_read_eq_error h
  refine ⟨.mediaType (.text m.identity) fault, ?_⟩
  rw [Resolver.resolve, hvalue]
  change (MediaType.ofValue (.text m.identity)).map some = _
  rw [MediaType.ofValue, Value.text?]
  simp only [hfault]
  rfl

/-! ## Headers that rest -/

/-- Headers that a conversion has nothing to do with, but for the identity: every key is canonical,
nothing has to be read, and an event that declares a content type for its data has it as content
type. -/
structure Fields.Rests (headers : Fields Value) (resolver : Resolver) : Prop where
  /-- Every key is canonical. -/
  canonical : headers.canonicalize = headers
  /-- The headers declare no event in structured mode. -/
  quiet : headers.structuredType? resolver = .ok none
  /-- The content type is the one of the data. -/
  contentType : headers.isCloudEvent = true →
    (headers.value Attribute.datacontenttype.key).isSet = true →
      headers.value Header.contentType
        = (headers.value Attribute.datacontenttype.key).withMediaTypeText

/-- The content type of the data is the one that the attribute declares, unless this counts as
nothing. -/
theorem Conversion.dataContentType_of_isSet {envelope document : Fields Value} {p fallback : Value}
    (hset : ((binaryBuilder envelope document p fallback).headers.value
      Attribute.datacontenttype.key).isSet = true) :
    dataContentType envelope document fallback
      = (binaryBuilder envelope document p fallback).headers.value
          Attribute.datacontenttype.key := by
  rw [Fields.value, get?_binaryBuilder _ _ _ _ (by decide), if_neg (by decide)] at hset ⊢
  rw [dataContentType, Fields.value, Fields.value]
  cases hown : envelope.get? Attribute.datacontenttype.key with
  | some v =>
    rw [hown] at hset
    simp only [Value.toOption] at hset ⊢
    by_cases hnull : v.isNull = true
    · rw [if_pos hnull] at hset
      cases hset
    · rw [if_neg hnull] at hset ⊢
      have hv : v.isSet = true := hset
      simp only [Value.ofOption, Option.getD_some, Value.orElse, hv, if_true]
  | none =>
    rw [hown] at hset
    simp only [if_neg (show ¬(Attribute.datacontenttype.key = Attribute.data.key ∨
      Attribute.datacontenttype.key = Attribute.dataBase64.key) by decide)] at hset ⊢
    change (Value.orElse (Value.orElse .null _) fallback) = _
    rw [Value.null_orElse, Value.orElse, if_pos hset]

namespace Message

variable {m out : Message} {r : Reader} {resolver : Resolver} {fallback : Value}

theorem insert_identity (m : Message) :
    m.headers.insert Header.identity (.text m.identity) = m.headers := by
  refine Fields.ext_get? ?_ fun k => ?_
  · rw [Fields.keys_insert, if_pos (mem_headers.2 (Or.inl rfl))]
  · rw [Fields.get?_insert]
    by_cases hk : k = Header.identity
    · rw [if_pos hk, hk, get?_headers, if_neg (by decide), if_pos rfl]
    · rw [if_neg hk]

/-- A message that is built again with the headers that it has gets a new identity. -/
theorem Rebuilds.headers_eq {identity : String}
    (h : m.Rebuilds (m.headers.value Header.contentType) identity out)
    (hcanonical : m.headers.canonicalize = m.headers)
    (hset : (m.headers.value Header.contentType).isSet = true) :
    out.headers = m.headers.insert Header.identity (.text identity) := by
  have hmem : Header.contentType ∈ m.headers := by
    by_contra hnot
    rw [Fields.value_of_not_mem hnot] at hset
    cases hset
  have hidentity : Header.identity ∈ m.headers := mem_headers.2 (Or.inl rfl)
  refine Fields.ext_get? ?_ fun k => ?_
  · rw [h.keys, hcanonical, if_pos hmem, List.append_nil, filter_keys_headers, Fields.keys_insert,
      if_pos hidentity, keys_headers]
  · rw [Fields.get?_insert]
    by_cases hk : k = Header.identity
    · rw [if_pos hk, hk, h.identity]
    · rw [if_neg hk]
      by_cases hct : k = Header.contentType
      · obtain ⟨v, hv⟩ := Fields.exists_get?_of_mem hmem
        rw [hct, h.contentType, Fields.value_of_get? hv, hv]
      · rw [h.others k hk hct, hcanonical]

/-- A message whose headers rest is handed back, or built again with a new identity. -/
theorem exists_exec_toCanonical_of_rests (h : m.headers.Rests resolver) (r : Reader)
    (fallback : Value) (mint : Mint) (journal : Journal) :
    ∃ again after identity, (m.toCanonical r resolver fallback).exec mint journal
        = (.ok again, after) ∧ after.effects = journal.effects ∧ again.payload = m.payload ∧
      again.headers = m.headers.insert Header.identity (.text identity) := by
  obtain ⟨again, after, hrun, heffects, hsame, hrebuilt⟩ :=
    exists_quiet r fallback (h.canonical.symm ▸ h.quiet) mint journal
  rw [h.canonical] at hsame hrebuilt
  by_cases hsettled : m.headers.Settled
  · obtain ⟨rfl, -⟩ := Prod.mk.inj (hsame.2 hsettled)
    exact ⟨_, after, again.identity, hrun, heffects, rfl, (insert_identity again).symm⟩
  · have hbuilt := hrebuilt hsettled
    have htype : (if m.headers.isCloudEvent = true ∧
        (m.headers.value Attribute.datacontenttype.key).isSet = true then
          (m.headers.value Attribute.datacontenttype.key).withMediaTypeText
        else m.headers.value Header.contentType) = m.headers.value Header.contentType := by
      split
      · rename_i hdata
        exact (h.contentType hdata.1 hdata.2).symm
      · rfl
    rw [htype] at hbuilt
    have hset : (m.headers.value Header.contentType).isSet = true := by
      by_contra hnot
      refine hsettled ⟨fun hdata => hnot ?_, Bool.eq_false_iff.2 hnot⟩
      rw [h.contentType hdata.1 hdata.2, Value.isSet_withMediaTypeText]
      exact hdata.2
    exact ⟨again, after, _, hrun, heffects, hbuilt.payload,
      hbuilt.headers_eq h.canonical hset⟩

/-! ## Forms that rest -/

theorem Rebuilds.value_eq {contentType : Value} {identity : String}
    (h : m.Rebuilds contentType identity out) {k : String} (hid : k ≠ Header.identity)
    (hct : k ≠ Header.contentType) :
    out.headers.value k = m.headers.canonicalize.value k := by
  rw [Fields.value, h.others k hid hct]
  rfl

/-- Every key of a message that was built again is canonical. -/
theorem Rebuilds.canonicalize_eq {contentType : Value} {identity : String}
    (h : m.Rebuilds contentType identity out) : out.headers.canonicalize = out.headers := by
  refine Fields.canonicalize_eq_self fun k hk => canonicalKey_eq_self_iff.2 ?_
  by_cases hid : k = Header.identity
  · exact Or.inr ⟨rfl, by rw [hid]; rfl⟩
  · by_cases hct : k = Header.contentType
    · exact Or.inr ⟨rfl, by rw [hct]; rfl⟩
    · rw [Fields.mem_iff_isSome_get?, h.others k hid hct] at hk
      exact Fields.ofKey_of_mem_canonicalize (Fields.mem_iff_isSome_get?.2 hk)

theorem Rebuilds.isCloudEvent_eq {contentType : Value} {identity : String}
    (h : m.Rebuilds contentType identity out) :
    out.headers.isCloudEvent = m.headers.canonicalize.isCloudEvent := by
  refine Fields.isCloudEvent_congr fun a => ?_
  rw [Fields.mem_iff_isSome_get?, Fields.mem_iff_isSome_get?,
    h.others a.key (by cases a <;> decide) (by cases a <;> decide)]

/-- The resolver finds in a message that was built again what it found before. -/
theorem Rebuilds.resolve_eq {identity : String}
    (h : m.Rebuilds (m.headers.canonicalize.value Header.contentType) identity out)
    (hheader : resolver.header ≠ Header.identity) :
    resolver.resolve out.headers = resolver.resolve m.headers.canonicalize := by
  have hvalue : out.headers.value resolver.header
      = m.headers.canonicalize.value resolver.header := by
    by_cases hct : resolver.header = Header.contentType
    · rw [hct, Fields.value_of_get? h.contentType]
    · exact h.value_eq hheader hct
  rw [Resolver.resolve, Resolver.resolve, hvalue]

/-- A message that was built again has headers that rest. -/
theorem Rebuilds.rests {contentType : Value} {identity : String}
    (h : m.Rebuilds contentType identity out)
    (hs : m.headers.canonicalize.structuredType? resolver = .ok none)
    (hc : m.headers.canonicalize.rebuiltType? = some contentType)
    (hid : resolver.header = Header.identity → isIdentity m.identity = true) :
    out.headers.Rests resolver := by
  have hdata : out.headers.value Attribute.datacontenttype.key
      = m.headers.canonicalize.value Attribute.datacontenttype.key :=
    h.value_eq (by decide) (by decide)
  have htype := Fields.eq_of_rebuiltType?_eq_some hc
  refine ⟨h.canonicalize_eq, ?_, fun hevent hset => ?_⟩
  · by_cases hevent : m.headers.canonicalize.isCloudEvent = true
    · refine Fields.structuredType?_of_not_gate fun hgate => ?_
      rw [h.isCloudEvent_eq, hevent] at hgate
      cases hgate.1
    · rw [if_neg fun hboth => hevent hboth.1] at htype
      subst htype
      rw [Bool.not_eq_true] at hevent
      -- the resolver was asked before, about a content type that is still there
      have hmem : Header.contentType ∈ m.headers.canonicalize := by
        by_contra hnot
        have hnull := Fields.not_isNull_of_rebuiltType? hc
        rw [Fields.value_of_not_mem hnot] at hnull
        cases hnull
      rw [Fields.structuredType?_of_gate hevent hmem] at hs
      have hheader : resolver.header ≠ Header.identity := by
        intro heq
        obtain ⟨e, he⟩ := exists_resolve_eq_error heq (hid heq)
        rw [he] at hs
        cases hs
      rw [Fields.structuredType?_of_gate (h.isCloudEvent_eq.trans hevent)
        (Fields.mem_of_get?_eq_some h.contentType), h.resolve_eq hheader, hs]
  · rw [h.isCloudEvent_eq] at hevent
    rw [hdata] at hset ⊢
    rw [Fields.value_of_get? h.contentType, htype, if_pos ⟨hevent, hset⟩]

/-- An event that was read from a body has headers that rest: the content type of its data is the
one that its attribute declares, unless this counts as nothing. -/
theorem rests_stamped (document : Fields Value) (p fallback : Value)
    (there : (Conversion.binaryBuilder m.headers.canonicalize (document.canonicalize true) p
      fallback).payload.isNull = false) (mint : Mint) (n : Nat)
    (hevent : ((Conversion.binaryBuilder m.headers.canonicalize (document.canonicalize true) p
      fallback).stamped there mint n).headers.isCloudEvent = true) :
    ((Conversion.binaryBuilder m.headers.canonicalize (document.canonicalize true) p
      fallback).stamped there mint n).headers.Rests resolver := by
  refine ⟨Fields.canonicalize_eq_self fun k hk => canonicalKey_eq_self_iff.2 ?_, ?_,
    fun _ hset => ?_⟩
  · rcases Builder.mem_stamped.1 hk with hstamp | hk
    · rcases Header.isStamp_iff.1 hstamp with rfl | rfl
      · exact Or.inr ⟨rfl, rfl⟩
      · exact Or.inr ⟨rfl, rfl⟩
    · rcases Conversion.mem_binaryBuilder hk with rfl | hk | hk
      · exact Or.inr ⟨rfl, rfl⟩
      · exact Fields.ofKey_of_mem_canonicalize hk
      · exact Or.inl (Fields.ofKey_of_mem_canonicalize_true hk)
  · refine Fields.structuredType?_of_not_gate fun hgate => ?_
    rw [hevent] at hgate
    cases hgate.1
  · have hvalue {k : String} (hstamp : Header.isStamp k = false) :
        ((Conversion.binaryBuilder m.headers.canonicalize (document.canonicalize true) p
          fallback).stamped there mint n).headers.value k
          = (Conversion.binaryBuilder m.headers.canonicalize (document.canonicalize true) p
            fallback).headers.value k :=
      congrArg Value.ofOption (Builder.get?_stamped _ there mint n hstamp)
    rw [hvalue (by decide)] at hset ⊢
    rw [hvalue (by decide)]
    refine Fields.value_of_get? ?_
    rw [Conversion.get?_binaryBuilder _ _ _ _ (by decide), if_pos rfl,
      Conversion.dataContentType_of_isSet hset]
    refine Value.toOption_of_not_isNull ?_
    rw [Value.isNull_withMediaTypeText]
    exact Value.not_isNull_of_isSet hset

/-- **A canonical form is its own canonical form.**  Take a message with a canonical form that the
reader was not asked for, or that is an event in binary mode.  Then the same conversion of this form
succeeds without the reader being asked, with the same payload and the same headers in the same
order, but for the identity.  The identity of the message is written as identities are; only a
resolver that looks for the media type there would see it. -/
theorem toCanonical_toCanonical {mint : Mint} {journal : Journal} {out : Message} {after : Journal}
    (hid : resolver.header = Header.identity → isIdentity m.identity = true)
    (hrun : (m.toCanonical r resolver fallback).exec mint journal = (.ok out, after))
    (hway : (∀ mediaType, ¬m.headers.canonicalize.Declares resolver mediaType) ∨
      out.headers.isCloudEvent = true) (mint' : Mint) (journal' : Journal) :
    ∃ again after' identity,
      (out.toCanonical r resolver fallback).exec mint' journal' = (.ok again, after') ∧
        after'.effects = journal'.effects ∧ again.payload = out.payload ∧
          again.headers = out.headers.insert Header.identity (.text identity) := by
  rcases toCanonical_outcome hrun with
    ⟨mediaType, hs, hread⟩ | ⟨hs, ⟨contentType, hc, rfl⟩ | ⟨hc, rfl⟩⟩
  · have hevent := hway.resolve_left fun hnone =>
      hnone mediaType (Fields.structuredType?_eq_some_iff.1 hs)
    obtain ⟨answer, d, p, -, hd, -, there, rfl⟩ := ofStructured_ok hread
    obtain ⟨fields, -, rfl⟩ := Conversion.document_eq_ok_iff.1 hd
    exact exists_exec_toCanonical_of_rests (rests_stamped _ p fallback there mint _ hevent) r
      fallback mint' journal'
  · have hbuilt : m.Rebuilds contentType _ _ :=
      rebuilds_rebuilder (Fields.not_isNull_of_rebuiltType? hc) mint journal.drawn
    exact exists_exec_toCanonical_of_rests (hbuilt.rests hs hc hid) r fallback mint' journal'
  · have hsame := @exec_toCanonical_same out r resolver fallback mint' journal' hs hc
    exact ⟨out, journal', out.identity, hsame, rfl, rfl, (insert_identity out).symm⟩

/-- The document of an order whose content type counts as nothing. -/
def untypedDocument : Fields Value :=
  Fields.ofList [("specversion", .text "1.0"), ("type", .text "order.created"),
    ("source", .text "/orders"), ("datacontenttype", .text ""), ("data", .text "hello")]

/-- The first conversion reads a body and gives the data the fallback as content type; the second
one finds it there, and an attribute that it does not look at. -/
theorem toCanonical_toCanonical_untypedDocument :
    let r : Reader := ⟨fun _ _ => .ok (.ofFields untypedDocument)⟩
    let mint : Mint := ⟨fun _ => "2", 0⟩
    ∃ out after again after' identity,
      (tracedMessage.toCanonical r).exec mint {} = (.ok out, after) ∧
        out.headers.get? Attribute.datacontenttype.key = some (.text "") ∧
        out.headers.get? Header.contentType = some (.text "application/json") ∧
        (out.toCanonical r).exec mint after = (.ok again, after') ∧
        after'.effects = after.effects ∧ again.payload = .text "hello" ∧
        again.headers = out.headers.insert Header.identity (.text identity) := by
  intro r mint
  have hs : tracedMessage.headers.canonicalize.structuredType? {} = .ok (some .eventJson) := rfl
  have there : (Conversion.binaryBuilder tracedMessage.headers.canonicalize
      (untypedDocument.canonicalize true) (.text "hello")
      Conversion.defaultDataContentType).payload.isNull = false := rfl
  have hrun := (exec_toCanonical_structured mint {} hs).trans
    (exec_ofStructured (r := r) rfl rfl rfl there)
  obtain ⟨again, after', identity, hagain, heffects, hpayload, hheaders⟩ :=
    toCanonical_toCanonical (fun _ => by decide) hrun (Or.inr rfl) mint _
  exact ⟨_, _, again, after', identity, hrun, rfl, rfl, hagain, heffects, hpayload, hheaders⟩

end Message

end CloudEvents
