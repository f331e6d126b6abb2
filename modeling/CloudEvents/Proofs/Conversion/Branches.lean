import CloudEvents.Proofs.Conversion.Merge
/-!
# Which way a message takes

`toCanonical` looks at the canonical headers before it does anything else, and what it sees there
decides whether the reader is asked at all. The conditions are stated here in the terms of the
headers and the resolver (`Fields.Declares`), apart from the order in which they are tested.

* If the headers declare an event in structured mode, the reader is asked exactly once, for the
  message as it came with the media type of its syntax (`Message.headers_syntaxRequest`).
* If the resolver fails on headers that are no event in binary mode, so does the conversion.
* Otherwise nothing is asked and nothing fails. The message is handed back, without a new identity
  being drawn, or it is built again with its canonical headers (`Message.Rebuilds`).

## Main statements

* `Fields.structuredType?_eq_some_iff`, `Fields.structuredType?_eq_error_iff`: what the two tests
  together decide;
* `Message.toCanonical_branches`: the three ways of a conversion.
-/

namespace CloudEvents

/-- A resolver fails only on what is no media type. -/
theorem Resolver.family_of_resolve_eq_error {resolver : Resolver} {headers : Fields Value}
    {e : Error} (h : resolver.resolve headers = .error e) : e.family = .mediaType := by
  have hread : ∀ {v : Value} {shown s : String}, v.literal = .ok shown → v.text? = some s →
      (MediaType.ofValue v).map some = .error e → e.family = .mediaType := by
    intro v shown s hshown hs hv
    rw [MediaType.ofValue, hs] at hv
    cases hm : MediaType.read s with
    | ok m =>
      simp only [hm] at hv
      cases hv
    | error fault =>
      simp only [hm] at hv
      cases hv
      exact Error.family_of_words (congrArg (Except.map _) hshown)
  rw [resolve] at h
  split at h
  · cases h
  · cases h
  · exact hread rfl rfl h
  · exact hread rfl rfl h
  · cases h
    rfl

namespace Fields

variable {headers : Fields Value} {resolver : Resolver}

/-- Canonical headers declare an event in structured mode: they are no event in binary mode, they
have a content type, and what the resolver finds is `application/cloudevents` with anything after
it. -/
structure Declares (headers : Fields Value) (resolver : Resolver) (mediaType : MediaType) :
    Prop where
  /-- The headers are not those of an event in binary mode. -/
  noEvent : headers.isCloudEvent = false
  /-- There is a content type. -/
  contentType : Header.contentType ∈ headers
  /-- The resolver finds the media type. -/
  resolved : resolver.resolve headers = .ok (some mediaType)
  /-- Its type is the one of events. -/
  mainType : mediaType.mainType = "application"
  /-- Its subtype begins like the one of events. -/
  subtype : "cloudevents".toList <+: mediaType.subtype.toList

theorem structuredType?_of_gate (hevent : headers.isCloudEvent = false)
    (hmem : Header.contentType ∈ headers) :
    headers.structuredType? resolver
      = (resolver.resolve headers).map fun found => found.filter MediaType.isStructuredEvent := by
  rw [structuredType?, hevent, decide_eq_true hmem]
  rfl

theorem structuredType?_of_not_gate
    (h : ¬(headers.isCloudEvent = false ∧ Header.contentType ∈ headers)) :
    headers.structuredType? resolver = .ok none := by
  rw [structuredType?, if_pos]
  rw [not_and_or, Bool.not_eq_false] at h
  rcases h with h | h
  · rw [h, Bool.true_or]
  · rw [decide_eq_false h, Bool.not_false, Bool.or_true]

theorem isStructuredEvent_iff {mediaType : MediaType} :
    mediaType.isStructuredEvent = true ↔
      mediaType.mainType = "application" ∧ "cloudevents".toList <+: mediaType.subtype.toList := by
  rw [MediaType.isStructuredEvent, Bool.and_eq_true, beq_iff_eq, List.isPrefixOf_iff_prefix]
  rfl

theorem structuredType?_eq_some_iff {mediaType : MediaType} :
    headers.structuredType? resolver = .ok (some mediaType)
      ↔ headers.Declares resolver mediaType := by
  constructor
  · intro h
    obtain ⟨hevent, hmem⟩ := contentType_mem_of_structuredType? h
    rw [structuredType?_of_gate hevent hmem] at h
    cases hfound : resolver.resolve headers with
    | error e =>
      rw [hfound] at h
      cases h
    | ok found =>
      rw [hfound] at h
      obtain ⟨rfl, hstructured⟩ := Option.filter_eq_some_iff.1 (Except.ok.inj h)
      obtain ⟨hmain, hsub⟩ := isStructuredEvent_iff.1 hstructured
      exact ⟨hevent, hmem, hfound, hmain, hsub⟩
  · intro h
    have hstructured := isStructuredEvent_iff.2 ⟨h.mainType, h.subtype⟩
    rw [structuredType?_of_gate h.noEvent h.contentType, h.resolved]
    exact congrArg Except.ok (Option.filter_eq_some_iff.2 ⟨rfl, hstructured⟩)

theorem structuredType?_eq_error_iff {e : Error} :
    headers.structuredType? resolver = .error e ↔
      headers.isCloudEvent = false ∧ Header.contentType ∈ headers ∧
        resolver.resolve headers = .error e := by
  by_cases hgate : headers.isCloudEvent = false ∧ Header.contentType ∈ headers
  · rw [structuredType?_of_gate hgate.1 hgate.2]
    cases resolver.resolve headers with
    | ok found => exact iff_of_false (fun h => by cases h) fun h => by cases h.2.2
    | error e' =>
      refine ⟨fun h => ⟨hgate.1, hgate.2, ?_⟩, fun h => ?_⟩
      · rw [Except.error.inj h]
      · rw [Except.error.inj h.2.2]
        rfl
  · rw [structuredType?_of_not_gate hgate]
    exact iff_of_false (fun h => by cases h) fun h => hgate ⟨h.1, h.2.1⟩

/-- Where nothing is declared and the resolver does not fail, the test finds nothing. -/
theorem structuredType?_eq_none (hnone : ∀ mediaType, ¬headers.Declares resolver mediaType)
    (hresolve : headers.isCloudEvent = false → Header.contentType ∈ headers →
      ∃ found, resolver.resolve headers = .ok found) :
    headers.structuredType? resolver = .ok none := by
  cases hs : headers.structuredType? resolver with
  | error e =>
    obtain ⟨hevent, hmem, herror⟩ := structuredType?_eq_error_iff.1 hs
    obtain ⟨found, hfound⟩ := hresolve hevent hmem
    rw [hfound] at herror
    cases herror
  | ok found =>
    cases found with
    | none => rfl
    | some mediaType => exact absurd (structuredType?_eq_some_iff.1 hs) (hnone mediaType)

/-- Nothing calls for canonical headers to be built again: they are no event that declares a content
type for its data, and their content type counts as nothing. -/
def Settled (headers : Fields Value) : Prop :=
  ¬(headers.isCloudEvent = true ∧ (headers.value Attribute.datacontenttype.key).isSet = true) ∧
    (headers.value Header.contentType).isSet = false

/-- The content type that a message is built again with: that of the data for an event which
declares it, and otherwise the one that is there. -/
theorem eq_of_rebuiltType?_eq_some {v : Value} (h : headers.rebuiltType? = some v) :
    v = if headers.isCloudEvent = true ∧
          (headers.value Attribute.datacontenttype.key).isSet = true then
        (headers.value Attribute.datacontenttype.key).withMediaTypeText
      else headers.value Header.contentType := by
  simp only [rebuiltType?, Bool.and_eq_true] at h
  split at h
  · rename_i hdata
    rw [if_pos hdata, Option.some.inj h]
  · rename_i hdata
    split at h
    · rw [if_neg hdata, Option.some.inj h]
    · cases h

end Fields

namespace Message

variable {m : Message} {mint : Mint}

/-! ## What the reader is asked about -/

theorem contentType_mem_headers (h : Header.contentType ∈ m.headers.canonicalize) :
    Header.contentType ∈ m.headers := by
  have hplain : Prefix.ofKey Header.contentType = .none := by decide
  rw [Fields.mem_iff_isSome_get?, Fields.get?_canonicalize_of_none hplain] at h
  exact Fields.mem_iff_isSome_get?.2 h

theorem filter_keys_headers (m : Message) :
    (m.headers.keys.filter fun k => !Header.isStamp k) = m.given.keys := by
  rw [keys_headers, List.filter_append, List.filter_eq_self.2 fun k hk => ?_]
  · exact List.append_nil _
  · rw [m.given_free k hk]
    rfl

/-- The reader is asked about the message as it came, with a new identity and with the media type of
the syntax in the place of its content type. -/
theorem headers_syntaxRequest (hmem : Header.contentType ∈ m.headers) (mediaType : MediaType)
    (mint : Mint) (n : Nat) :
    (m.syntaxRequest mediaType mint n).headers =
      (m.headers.insert Header.contentType (.mediaType mediaType.syntaxType)).insert
        Header.identity (.text (mint.identity n)) := by
  let b := (Builder.ofMessage m).set Header.contentType (.mediaType mediaType.syntaxType)
  have there : b.payload.isNull = false := m.payload_there
  have hrequest : m.syntaxRequest mediaType mint n = b.stamped there mint n := rfl
  have hheaders : b.headers
      = m.headers.insert Header.contentType (.mediaType mediaType.syntaxType) := rfl
  have hid : Header.identity ∈ m.headers := mem_headers.2 (Or.inl rfl)
  have htime : b.headers.get? Header.timestamp = some m.timestamp := by
    rw [hheaders, Fields.get?_insert, if_neg (by decide), get?_headers, if_pos rfl]
  rw [hrequest, ← hheaders]
  refine Fields.ext_get? ?_ fun k => ?_
  · have hkeys : b.headers.keys = m.headers.keys := by
      rw [hheaders, Fields.keys_insert, if_pos hmem]
    have hmember : Header.identity ∈ b.headers := by
      rw [hheaders, Fields.mem_insert]
      exact Or.inr hid
    rw [Builder.keys_stamped, Fields.keys_insert, if_pos hmember, hkeys, filter_keys_headers,
      keys_headers]
  · rw [Fields.get?_insert]
    by_cases hk : k = Header.identity
    · rw [if_pos hk, hk, Builder.get?_identity_stamped]
    · rw [if_neg hk, Builder.get?_stamped_of_timestamp htime m.timestamp_there _ _ _ hk]

/-! ## Messages that are built again -/

/-- A message is another one built again: it has the payload and the canonical headers of that, in
their order, with a new identity and the content type `contentType`. Its own two headers come
last, and before them a content type that was not there. -/
structure Rebuilds (m : Message) (contentType : Value) (identity : String) (out : Message) :
    Prop where
  /-- The payload is the same. -/
  payload : out.payload = m.payload
  /-- The keys come in the same order. -/
  keys : out.headers.keys =
    (m.headers.canonicalize.keys.filter fun k => !Header.isStamp k)
      ++ (if Header.contentType ∈ m.headers.canonicalize then [] else [Header.contentType])
      ++ [Header.identity, Header.timestamp]
  /-- The identity is new. -/
  identity : out.headers.get? Header.identity = some (.text identity)
  /-- The content type is the given one. -/
  contentType : out.headers.get? Header.contentType = some contentType
  /-- All other headers are the same, the timestamp among them. -/
  others : ∀ k, k ≠ Header.identity → k ≠ Header.contentType →
    out.headers.get? k = m.headers.canonicalize.get? k

theorem rebuilds_rebuilder {contentType : Value} (hthere : contentType.isNull = false)
    (mint : Mint) (n : Nat) :
    m.Rebuilds contentType (mint.identity n)
      ((m.rebuilder contentType).stamped (m.rebuilder_there contentType) mint n) where
  payload := rfl
  keys := by
    have hkeys : (m.rebuilder contentType).headers.keys =
        if Header.contentType ∈ m.headers.canonicalize then m.headers.canonicalize.keys
        else m.headers.canonicalize.keys ++ [Header.contentType] :=
      Builder.keys_set _ _ hthere
    rw [Builder.keys_stamped, hkeys]
    split
    · rw [List.append_nil]
    · rw [List.filter_append]
      rfl
  identity := Builder.get?_identity_stamped _ _ mint n
  contentType := by
    rw [Builder.get?_stamped _ _ _ _ (by decide), rebuilder, Builder.get?_set, if_pos rfl,
      Value.toOption_of_not_isNull hthere]
  others k hid hct := by
    have hget : ∀ k, k ≠ Header.contentType → (m.rebuilder contentType).headers.get? k
        = m.headers.canonicalize.get? k := by
      intro k hk
      rw [rebuilder, Builder.get?_set, if_neg hk]
    have htime : (m.rebuilder contentType).headers.get? Header.timestamp = some m.timestamp := by
      rw [hget _ (by decide), get?_timestamp_canonicalize]
    rw [Builder.get?_stamped_of_timestamp htime m.timestamp_there _ _ _ hid, hget k hct]

/-! ## The ways of a conversion -/

variable {r : Reader} {resolver : Resolver} {fallback : Value}

/-- The reader is asked once, whatever becomes of its answer. -/
theorem effects_toCanonical_structured {mediaType : MediaType} (mint : Mint) (journal : Journal)
    (h : m.headers.canonicalize.structuredType? resolver = .ok (some mediaType)) :
    ((m.toCanonical r resolver fallback).exec mint journal).2.effects =
      journal.effects ++ [.read (m.syntaxRequest mediaType mint journal.drawn) .mapping] := by
  rw [exec_toCanonical_structured mint journal h, exec_ofStructured_eq]
  cases r.read (m.syntaxRequest mediaType mint journal.drawn) .mapping with
  | error e => rfl
  | ok answer =>
    cases hd : Conversion.document (declares m.headers.canonicalize) answer with
    | error e =>
      simp only [hd]
      rfl
    | ok d =>
      simp only [hd]
      cases hp : Conversion.payload d with
      | error e => rfl
      | ok p =>
        simp only
        rw [Builder.exec_build _ (Conversion.binaryBuilder_there hp _ fallback)]
        rfl

/-- What the reader is asked about, in the words of the headers and the media type. -/
theorem exists_asked (r : Reader) (fallback : Value) {mediaType : MediaType}
    (h : m.headers.canonicalize.Declares resolver mediaType) (mint : Mint) (journal : Journal) :
    ∃ request,
      ((m.toCanonical r resolver fallback).exec mint journal).2.effects
          = journal.effects ++ [.read request .mapping] ∧
        request.payload = m.payload ∧
        request.headers = (m.headers.insert Header.contentType (.mediaType
            ⟨"application", mediaType.suffix?.getD "json", mediaType.parameters⟩)).insert
          Header.identity (.text (mint.identity journal.drawn)) := by
  have hsyntax : mediaType.syntaxType
      = ⟨"application", mediaType.suffix?.getD "json", mediaType.parameters⟩ := by
    rw [← h.mainType]
    rfl
  refine ⟨m.syntaxRequest mediaType mint journal.drawn, ?_, rfl, ?_⟩
  · exact effects_toCanonical_structured mint journal (Fields.structuredType?_eq_some_iff.2 h)
  · rw [headers_syntaxRequest (contentType_mem_headers h.contentType), hsyntax]

/-- A message that declares no event in structured mode is handed back or built again. -/
theorem exists_quiet (r : Reader) (fallback : Value)
    (h : m.headers.canonicalize.structuredType? resolver = .ok none) (mint : Mint)
    (journal : Journal) :
    ∃ out after, (m.toCanonical r resolver fallback).exec mint journal = (.ok out, after) ∧
      after.effects = journal.effects ∧
      ((out, after) = (m, journal) ↔ m.headers.canonicalize.Settled) ∧
      (¬m.headers.canonicalize.Settled → m.Rebuilds
        (if m.headers.canonicalize.isCloudEvent = true ∧
            (m.headers.canonicalize.value Attribute.datacontenttype.key).isSet = true then
          (m.headers.canonicalize.value Attribute.datacontenttype.key).withMediaTypeText
        else m.headers.canonicalize.value Header.contentType)
        (mint.identity journal.drawn) out) := by
  cases hc : m.headers.canonicalize.rebuiltType? with
  | none =>
    have hsettled : m.headers.canonicalize.Settled := Fields.rebuiltType?_eq_none_iff.1 hc
    exact ⟨m, journal, exec_toCanonical_same mint journal h hc, rfl, iff_of_true rfl hsettled,
      fun hnot => absurd hsettled hnot⟩
  | some contentType =>
    have hsettled : ¬m.headers.canonicalize.Settled := fun hs => by
      rw [Fields.rebuiltType?_eq_none_iff.2 hs] at hc
      cases hc
    refine ⟨_, _, exec_toCanonical_rebuilt mint journal h hc, rfl,
      iff_of_false (fun heq => ?_) hsettled, fun _ => ?_⟩
    · -- an identity has been drawn
      have hdrawn : journal.drawn + 1 = journal.drawn :=
        congrArg (fun x : Message × Journal => x.2.drawn) heq
      omega
    · rw [← Fields.eq_of_rebuiltType?_eq_some hc]
      exact rebuilds_rebuilder (Fields.not_isNull_of_rebuiltType? hc) mint journal.drawn

/-- Nobody is asked unless the headers declare an event in structured mode. -/
theorem effects_toCanonical_of_not_declares (r : Reader) (fallback : Value)
    (h : ∀ mediaType, ¬m.headers.canonicalize.Declares resolver mediaType) (mint : Mint)
    (journal : Journal) :
    ((m.toCanonical r resolver fallback).exec mint journal).2.effects = journal.effects := by
  cases hs : m.headers.canonicalize.structuredType? resolver with
  | error e => rw [exec_toCanonical_error mint journal hs]
  | ok found =>
    cases found with
    | some mediaType => exact absurd (Fields.structuredType?_eq_some_iff.1 hs) (h mediaType)
    | none =>
      obtain ⟨out, after, hrun, heffects, -⟩ :=
        exists_quiet r fallback hs mint journal
      rw [hrun]
      exact heffects

/-- **The three ways of a conversion.**  The reader is asked if and only if the canonical headers
declare an event in structured mode; it is then asked once, for a mapping, about the message as it
came with the media type of the syntax.  A resolver that fails on headers of no event in binary mode
ends the conversion.  In all other cases the reader is not asked and nothing fails: the message is
handed back if nothing calls for more, and otherwise it is built again with its canonical headers.
-/
theorem toCanonical_branches (m : Message) (r : Reader) (resolver : Resolver) (fallback : Value)
    (mint : Mint) (journal : Journal) :
    let headers := m.headers.canonicalize
    let run := (m.toCanonical r resolver fallback).exec mint journal
    ((∃ request shape, run.2.effects = journal.effects ++ [.read request shape]) ↔
      ∃ mediaType, headers.Declares resolver mediaType) ∧
    (∀ mediaType, headers.Declares resolver mediaType →
      ∃ request, run.2.effects = journal.effects ++ [.read request .mapping] ∧
        request.payload = m.payload ∧
        request.headers = (m.headers.insert Header.contentType (.mediaType
            ⟨"application", mediaType.suffix?.getD "json", mediaType.parameters⟩)).insert
          Header.identity (.text (mint.identity journal.drawn))) ∧
    (∀ e, headers.isCloudEvent = false → Header.contentType ∈ headers →
      resolver.resolve headers = .error e →
        run = (.error e, journal) ∧ e.family = .mediaType) ∧
    ((∀ mediaType, ¬headers.Declares resolver mediaType) →
      (headers.isCloudEvent = false → Header.contentType ∈ headers →
        ∃ found, resolver.resolve headers = .ok found) →
      ∃ out, run.1 = .ok out ∧ run.2.effects = journal.effects ∧
        (run = (.ok m, journal) ↔ headers.Settled) ∧
        (¬headers.Settled → m.Rebuilds
          (if headers.isCloudEvent = true ∧
              (headers.value Attribute.datacontenttype.key).isSet = true then
            (headers.value Attribute.datacontenttype.key).withMediaTypeText
          else headers.value Header.contentType) (mint.identity journal.drawn) out)) := by
  intro headers run
  refine ⟨⟨fun hasked => ?_, fun ⟨mediaType, h⟩ => ?_⟩, fun mediaType h => ?_,
    fun e hevent hmem hresolve => ?_, fun hnone hresolve => ?_⟩
  · by_contra hnone
    obtain ⟨request, shape, heffects⟩ := hasked
    have hquiet := effects_toCanonical_of_not_declares r fallback (not_exists.1 hnone) mint journal
    have hlength := congrArg List.length (hquiet.symm.trans heffects)
    rw [List.length_append, List.length_singleton] at hlength
    omega
  · obtain ⟨request, heffects, -⟩ := exists_asked r fallback h mint journal
    exact ⟨request, _, heffects⟩
  · exact exists_asked r fallback h mint journal
  · have hs := Fields.structuredType?_eq_error_iff.2 ⟨hevent, hmem, hresolve⟩
    exact ⟨exec_toCanonical_error mint journal hs, Resolver.family_of_resolve_eq_error hresolve⟩
  · have hs : headers.structuredType? resolver = .ok none :=
      Fields.structuredType?_eq_none hnone hresolve
    obtain ⟨out, after, hrun, heffects, hsame, hrebuilt⟩ :=
      exists_quiet r fallback hs mint journal
    have hrun' : run = (.ok out, after) := hrun
    refine ⟨out, by rw [hrun'], by rw [hrun', heffects], ?_, hrebuilt⟩
    rw [← hsame, hrun', Prod.mk.injEq, Prod.mk.injEq, Except.ok.injEq]

/-- A message with a trace and a content type. -/
def typedTrace (contentType : Value) : Message :=
  stamp (.text "hello") (Value.isNull_text _)
    (Fields.ofList [("traceparent", .text "00-1"), (Header.contentType, contentType)]) "1" (.int 5)
    0

/-- A reader is asked for Avro, a number is no content type, and null is none. -/
theorem toCanonical_branches_typedTrace :
    let run (contentType : Value) :=
      ((typedTrace contentType).toCanonical ⟨fun _ _ => .ok .null⟩).exec ⟨fun _ => "2", 0⟩ {}
    (∃ request,
      (run (.text "application/cloudevents+avro; charset=utf-16")).2.effects
          = [.read request .mapping] ∧
        request.headers.get? Header.contentType = some (.mediaType
          ⟨"application", "avro", Fields.ofList [("charset", "utf-16")]⟩)) ∧
      run (.int 5) = (.error (.contentTypeKind "contentType" "int"), {}) ∧
      run .null = (.ok (typedTrace .null), {}) := by
  intro run
  have hbranches (contentType : Value) := toCanonical_branches (typedTrace contentType)
    ⟨fun _ _ => .ok .null⟩ {} Conversion.defaultDataContentType ⟨fun _ => "2", 0⟩ {}
  refine ⟨?_, ?_, ?_⟩
  · obtain ⟨-, hasked, -⟩ := hbranches (.text "application/cloudevents+avro; charset=utf-16")
    obtain ⟨request, heffects, -, hheaders⟩ := hasked
      ⟨"application", "cloudevents+avro", Fields.ofList [("charset", "utf-16")]⟩
      ⟨rfl, by decide, rfl, rfl, by decide⟩
    exact ⟨request, heffects, by rw [hheaders]; rfl⟩
  · obtain ⟨-, -, hfails, -⟩ := hbranches (.int 5)
    exact (hfails _ rfl (by decide) rfl).1
  · obtain ⟨-, -, -, hquiet⟩ := hbranches .null
    have hnone : ∀ mediaType,
        ¬(typedTrace .null).headers.canonicalize.Declares {} mediaType := by
      intro mediaType h
      cases h.resolved
    obtain ⟨out, -, -, hsame, -⟩ := hquiet hnone fun _ _ => ⟨none, rfl⟩
    exact hsame.2 ⟨by decide, by decide⟩

end Message

end CloudEvents
