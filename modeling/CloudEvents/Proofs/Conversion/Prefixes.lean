import CloudEvents.Proofs.Attribute.Order
import CloudEvents.Proofs.Conversion.Body
import CloudEvents.Proofs.Conversion.Syntax
/-!
# Events under different prefixes

Bringing headers to the canonical prefix takes the attributes of Kafka and AMQP out and puts them
last, while those under `ce-` stay where they are. So the canonical headers of one event under two
prefixes are not the same mapping. They are the same in two parts (`Fields.SameParts`): the
attributes are the same in the same order, and so are the other headers but for the identity.

* Writing in structured mode uses the two parts and nothing else: the document is made of the one,
  the envelope is the other (`Fields.SameParts.structuredBody_eq`).
* Bringing a message to canonical form asks the headers for values, never for their order, unless
  the message is handed back (`Message.sameOutcome_toCanonical`).

## Main statements

* `Message.sameParts_underPrefix`: the canonical headers of an event under two prefixes;
* `Message.conversions_underPrefix`: neither conversion tells the two apart.
-/

namespace CloudEvents

/-! ## Outcomes -/

/-- Two outcomes are the same error, or results that are related. -/
inductive SameOutcome {α : Type} (related : α → α → Prop) :
    Except Error α → Except Error α → Prop where
  /-- The same error. -/
  | error (e : Error) : SameOutcome related (.error e) (.error e)
  /-- Related results. -/
  | ok {a b : α} (h : related a b) : SameOutcome related (.ok a) (.ok b)

theorem SameOutcome.exists_eq_ok {α : Type} {related : α → α → Prop} {x y : Except Error α}
    (h : SameOutcome related x y) {a : α} (ha : x = .ok a) : ∃ b, y = .ok b ∧ related a b := by
  cases h with
  | error e => cases ha
  | ok h => exact ⟨_, rfl, Except.ok.inj ha ▸ h⟩

theorem SameOutcome.map {α β : Type} {related : β → β → Prop} {f g : α → β}
    (h : ∀ a, related (f a) (g a)) (x : Except Error α) :
    SameOutcome related (x.map f) (x.map g) := by
  cases x with
  | error e => exact .error e
  | ok a => exact .ok (h a)

namespace Message

/-- Two messages are the same but for the identity, and perhaps for the order of their headers. -/
structure SameButIdentity (m m' : Message) : Prop where
  /-- The payloads are the same. -/
  payload : m.payload = m'.payload
  /-- The headers are the same but for the identity. -/
  headers : ∀ k, k ≠ Header.identity → m.headers.get? k = m'.headers.get? k

/-- Messages of builders with the same payload and the same headers are the same but for the
identity if the builders hold a timestamp. -/
theorem sameButIdentity_stamped {b b' : Builder} (hp : b.payload = b'.payload)
    (hh : ∀ k, k ≠ Header.identity → b.headers.get? k = b'.headers.get? k) {t : Value}
    (ht : b.headers.get? Header.timestamp = some t) (hthere : t.isNull = false)
    (there : b.payload.isNull = false) (there' : b'.payload.isNull = false) (mint mint' : Mint)
    (n n' : Nat) : (b.stamped there mint n).SameButIdentity (b'.stamped there' mint' n') where
  payload := hp
  headers k hk := by
    have ht' : b'.headers.get? Header.timestamp = some t := by rw [← hh _ (by decide), ht]
    rw [Builder.get?_stamped_of_timestamp ht hthere _ _ _ hk,
      Builder.get?_stamped_of_timestamp ht' hthere _ _ _ hk, hh k hk]

end Message

/-! ## Canonical headers in two parts -/

theorem Attribute.key_ne_identity (a : Attribute) : a.key ≠ Header.identity := by
  cases a <;> decide

namespace Fields

/-- Two mappings of canonical headers have the same attributes and, but for the identity, the same
other headers, in the same order each. How the two parts are mixed is left open. -/
structure SameParts (f g : Fields Value) : Prop where
  /-- The attributes are the same. -/
  attributes : f.filterKeys Prefix.canonical.marks = g.filterKeys Prefix.canonical.marks
  /-- The other headers are the same but for the identity. -/
  others : Conversion.envelope f = Conversion.envelope g

variable {f g : Fields Value}

theorem SameParts.get?_eq (h : f.SameParts g) {k : String} (hk : k ≠ Header.identity) :
    f.get? k = g.get? k := by
  by_cases hmark : Prefix.canonical.marks k = true
  · have hattributes := congrArg (fun x => x.get? k) h.attributes
    simp only [get?_filterKeys] at hattributes
    rwa [if_pos hmark, if_pos hmark] at hattributes
  · have hothers := congrArg (fun x => x.get? k) h.others
    have hkeep : (!Prefix.canonical.marks k && k != Header.identity) = true := by
      simp [hmark, hk]
    simp only [Conversion.envelope, get?_filterKeys] at hothers
    rwa [if_pos hkeep, if_pos hkeep] at hothers

theorem SameParts.value_eq (h : f.SameParts g) {k : String} (hk : k ≠ Header.identity) :
    f.value k = g.value k := by
  rw [value, value, h.get?_eq hk]

theorem SameParts.mem_iff (h : f.SameParts g) {k : String} (hk : k ≠ Header.identity) :
    k ∈ f ↔ k ∈ g := by
  rw [mem_iff_isSome_get?, mem_iff_isSome_get?, h.get?_eq hk]

theorem SameParts.isCloudEvent_eq (h : f.SameParts g) : f.isCloudEvent = g.isCloudEvent :=
  isCloudEvent_congr fun a => h.mem_iff a.key_ne_identity

theorem SameParts.members_eq (h : f.SameParts g) :
    Conversion.members f = Conversion.members g := by
  have hentries : (f.entries.filter fun e => Prefix.canonical.marks e.1)
      = g.entries.filter fun e => Prefix.canonical.marks e.1 := congrArg entries h.attributes
  rw [Conversion.members, Conversion.members, hentries]

/-- The body of a structured message is made of the two parts. -/
theorem SameParts.structuredBody_eq (h : f.SameParts g) (c : JsonConverter)
    (payload override : Value) :
    Conversion.structuredBody c payload override f
      = Conversion.structuredBody c payload override g := by
  rw [Conversion.structuredBody, Conversion.structuredBody, Conversion.outlineWith,
    Conversion.outlineWith, h.isCloudEvent_eq, h.members_eq, h.others]

theorem SameParts.structuredType?_eq (h : f.SameParts g) {resolver : Resolver}
    (hr : resolver.header ≠ Header.identity) :
    f.structuredType? resolver = g.structuredType? resolver := by
  have hmem : decide (Header.contentType ∈ f) = decide (Header.contentType ∈ g) :=
    decide_eq_decide.2 (h.mem_iff (by decide))
  rw [structuredType?, structuredType?, h.isCloudEvent_eq, hmem, Resolver.resolve,
    Resolver.resolve, h.value_eq hr]

theorem SameParts.rebuiltType?_eq (h : f.SameParts g) : f.rebuiltType? = g.rebuiltType? := by
  rw [rebuiltType?, rebuiltType?, h.isCloudEvent_eq,
    h.value_eq (k := Header.contentType) (by decide),
    h.value_eq (k := Attribute.datacontenttype.key) (by decide)]

end Fields

namespace Message

variable {m m' : Message}

/-- The structured forms of messages with the same parts are the same but for the identity, with
their headers in the same order. -/
theorem sameOutcome_toStructured (hp : m.payload = m'.payload)
    (h : m.headers.canonicalize.SameParts m'.headers.canonicalize) (c : JsonConverter)
    (override : Value) (mint mint' : Mint) (journal journal' : Journal) :
    SameOutcome (fun s s' => s.SameButIdentity s' ∧ s.headers.keys = s'.headers.keys)
      ((m.toStructured c.toConverter override).exec mint journal).1
      ((m'.toStructured c.toConverter override).exec mint' journal').1 := by
  obtain ⟨n, hrun⟩ := exists_exec_toStructured m c override mint journal
  obtain ⟨n', hrun'⟩ := exists_exec_toStructured m' c override mint' journal'
  rw [hrun, hrun', ← hp, ← h.structuredBody_eq, ← h.others]
  refine SameOutcome.map (fun body => ⟨?_, ?_⟩) _
  · have htime : (Conversion.structuredBuilder (Conversion.envelope m.headers.canonicalize)
        body).headers.get? Header.timestamp = some m.timestamp := by
      rw [Conversion.structuredBuilder, Builder.get?_set, if_neg (by decide), Fields.get?_erase,
        if_neg (by decide), Conversion.envelope, Fields.get?_filterKeys, if_pos (by decide),
        get?_timestamp_canonicalize]
    exact sameButIdentity_stamped rfl (fun _ _ => rfl) htime m.timestamp_there _ _ _ _ _ _
  · rw [Builder.keys_stamped, Builder.keys_stamped]

/-- What is asked about a structured body is told by the payload alone. -/
theorem read_syntaxRequest_eq (hp : m.payload = m'.payload) (c : JsonConverter)
    (mediaType : MediaType) (mint mint' : Mint) (n n' : Nat) (shape : Shape) :
    c.read (m.syntaxRequest mediaType mint n) shape
      = c.read (m'.syntaxRequest mediaType mint' n') shape := by
  rw [c.read_syntaxRequest, c.read_syntaxRequest, hp]
  rfl

/-- What is made of a document and an envelope is told by the parts of the envelope. -/
theorem sameButIdentity_binaryBuilder
    (h : m.headers.canonicalize.SameParts m'.headers.canonicalize) (d : Fields Value)
    (p fallback : Value)
    (there : (Conversion.binaryBuilder m.headers.canonicalize d p
      fallback).payload.isNull = false)
    (there' : (Conversion.binaryBuilder m'.headers.canonicalize d p
      fallback).payload.isNull = false) (mint mint' : Mint) (n n' : Nat) :
    ((Conversion.binaryBuilder m.headers.canonicalize d p fallback).stamped there mint
      n).SameButIdentity
        ((Conversion.binaryBuilder m'.headers.canonicalize d p fallback).stamped there' mint'
          n') := by
  have htype : Conversion.dataContentType m.headers.canonicalize d fallback
      = Conversion.dataContentType m'.headers.canonicalize d fallback := by
    rw [Conversion.dataContentType, Conversion.dataContentType,
      h.value_eq (Attribute.key_ne_identity _)]
  refine sameButIdentity_stamped ?_ (fun k hk => ?_) (t := m.timestamp) ?_ m.timestamp_there _ _ _
    _ _ _
  · rw [Conversion.payload_binaryBuilder, Conversion.payload_binaryBuilder]
  · rw [Conversion.get?_binaryBuilder _ _ _ _ hk, Conversion.get?_binaryBuilder _ _ _ _ hk, htype,
      h.get?_eq hk]
  · rw [Conversion.get?_binaryBuilder _ _ _ _ (by decide), if_neg (by decide),
      get?_timestamp_canonicalize]
    exact Value.toOption_of_not_isNull m.timestamp_there

/-- The canonical forms of messages with the same parts are the same but for the identity, unless
the messages are handed back. -/
theorem sameOutcome_toCanonical (hp : m.payload = m'.payload)
    (h : m.headers.canonicalize.SameParts m'.headers.canonicalize) (c : JsonConverter)
    {resolver : Resolver} (hr : resolver.header ≠ Header.identity) (fallback : Value)
    (hbuilt : m.headers.canonicalize.rebuiltType? ≠ none) (mint mint' : Mint)
    (journal journal' : Journal) :
    SameOutcome SameButIdentity
      ((m.toCanonical c.toConverter.toReader resolver fallback).exec mint journal).1
      ((m'.toCanonical c.toConverter.toReader resolver fallback).exec mint' journal').1 := by
  cases hs : m.headers.canonicalize.structuredType? resolver with
  | error e =>
    rw [exec_toCanonical_error mint journal hs,
      exec_toCanonical_error mint' journal' (h.structuredType?_eq hr ▸ hs)]
    exact .error e
  | ok found =>
    cases found with
    | none =>
      obtain ⟨contentType, hc⟩ := Option.ne_none_iff_exists'.1 hbuilt
      rw [exec_toCanonical_rebuilt mint journal hs hc,
        exec_toCanonical_rebuilt mint' journal' (h.structuredType?_eq hr ▸ hs)
          (h.rebuiltType?_eq ▸ hc)]
      have hget : ∀ (m : Message) k, (m.rebuilder contentType).headers.get? k
          = if k = Header.contentType then contentType.toOption
            else m.headers.canonicalize.get? k := by
        intro m k
        rw [rebuilder, Builder.get?_set]
      refine .ok (sameButIdentity_stamped hp (fun k hk => ?_) (t := m.timestamp) ?_
        m.timestamp_there _ _ _ _ _ _)
      · rw [hget, hget, h.get?_eq hk]
      · rw [hget, if_neg (by decide), get?_timestamp_canonicalize]
    | some mediaType =>
      rw [exec_toCanonical_structured mint journal hs,
        exec_toCanonical_structured mint' journal' (h.structuredType?_eq hr ▸ hs),
        exec_ofStructured_eq, exec_ofStructured_eq]
      have hread := read_syntaxRequest_eq hp c mediaType mint mint' journal.drawn journal'.drawn
        .mapping
      have hdeclares : declares m.headers.canonicalize = declares m'.headers.canonicalize :=
        congrArg Value.isSet (h.value_eq (Attribute.key_ne_identity _))
      rw [JsonConverter.read_toConverter, hread, hdeclares]
      cases c.read (m'.syntaxRequest mediaType mint' journal'.drawn) .mapping with
      | error e => exact .error e
      | ok answer =>
        simp only
        cases Conversion.document (declares m'.headers.canonicalize) answer with
        | error e => exact .error e
        | ok d =>
          simp only
          cases hdata : Conversion.payload d with
          | error e => exact .error e
          | ok p =>
            simp only
            rw [Builder.exec_build _ (Conversion.binaryBuilder_there hdata _ fallback),
              Builder.exec_build _ (Conversion.binaryBuilder_there hdata _ fallback)]
            exact .ok (sameButIdentity_binaryBuilder h d p fallback _ _ _ _ _ _)

end Message

/-! ## One event under two prefixes -/

/-- The envelope of canonical headers is what was under no prefix before, but for the identity. -/
theorem Conversion.envelope_canonicalize (f : Fields Value) :
    envelope f.canonicalize
      = f.filterKeys fun k => k != Header.identity && !Prefix.isAttributeKey k := by
  have hsplit : envelope f.canonicalize = (f.canonicalize.filterKeys fun k =>
      !Prefix.canonical.marks k).filterKeys (· != Header.identity) := by
    rw [envelope, Fields.filterKeys_filterKeys]
    exact congrArg f.canonicalize.filterKeys (funext fun k => Bool.and_comm _ _)
  rw [hsplit, Fields.filterKeys_not_marks_canonicalize, Fields.filterKeys_filterKeys]

namespace Prefix

/-- An attribute key under another prefix; other keys stay. -/
def rekey (p : Prefix) (k : String) : String :=
  if ofKey k = none then k else p.key ((ofKey k).strip k)

variable {p : Prefix} {k : String}

theorem rekey_of_none (h : ofKey k = none) : p.rekey k = k := if_pos h

theorem ofKey_rekey (hp : p ≠ none) (h : ofKey k ≠ none) : ofKey (p.rekey k) = p := by
  rw [rekey, if_neg h, ofKey_key hp]

@[simp] theorem isAttributeKey_rekey (hp : p ≠ none) :
    isAttributeKey (p.rekey k) = isAttributeKey k := by
  by_cases h : ofKey k = none
  · rw [rekey_of_none h]
  · rw [isAttributeKey, isAttributeKey, ofKey_rekey hp h, bne_iff_ne.2 h, bne_iff_ne.2 hp]

/-- The canonical form of a key does not depend on the prefix that it is put under. -/
theorem canonicalKey_rekey (hp : p ≠ none) :
    canonicalKey false (p.rekey k) = canonicalKey false k := by
  by_cases h : ofKey k = none
  · rw [rekey_of_none h]
  · rw [rekey, if_neg h, canonicalKey_key hp]
    conv_rhs => rw [← key_ofKey_strip k, canonicalKey_key h]

theorem isStamp_rekey (hp : p ≠ none) (h : isAttributeKey k = true) :
    Header.isStamp (p.rekey k) = false := by
  have hstamp : ∀ k, Header.isStamp k = true → isAttributeKey k = false := by
    intro k hk
    rcases Header.isStamp_iff.1 hk with rfl | rfl <;> decide
  rw [← Bool.not_eq_true]
  intro hk
  have hplain := hstamp _ hk
  rw [isAttributeKey_rekey hp, h] at hplain
  cases hplain

end Prefix

namespace Message

/-- The headers of a list with their attributes under a prefix. -/
def rekeyed (p : Prefix) (l : List (String × Value)) : List (String × Value) :=
  l.map fun e => (p.rekey e.1, e.2)

/-- The message with the headers of a list whose attributes are put under a prefix. -/
def underPrefix (p : Prefix) (l : List (String × Value)) (payload : Value)
    (there : payload.isNull = false) (identity : String) (timestamp : Value) (now : Int) :
    Message :=
  stamp payload there (Fields.ofList (rekeyed p l)) identity timestamp now

section

variable {p : Prefix} (l : List (String × Value)) (payload : Value)
  (there : payload.isNull = false) (identity : String) (timestamp : Value) (now : Int)

theorem keysUnder_underPrefix (hp : p ≠ .none) :
    (underPrefix p l payload there identity timestamp now).headers.KeysUnder p := by
  intro k hk
  rcases mem_headers.1 hk with hstamp | hgiven
  · rcases Header.isStamp_iff.1 hstamp with rfl | rfl
    · exact Or.inl rfl
    · exact Or.inl rfl
  · rw [underPrefix, stamp, Fields.mem_def, Fields.keys_filterKeys, List.mem_filter] at hgiven
    obtain ⟨e, he, rfl⟩ := List.mem_map.1 (Fields.mem_ofList.1 hgiven.1)
    obtain ⟨x, -, rfl⟩ := List.mem_map.1 he
    by_cases hx : Prefix.ofKey x.1 = .none
    · rw [Prefix.rekey_of_none hx]
      exact Or.inl hx
    · exact Or.inr (Prefix.ofKey_rekey hp hx)

theorem given_underPrefix :
    (underPrefix p l payload there identity timestamp now).given
      = Fields.ofList ((rekeyed p l).filter fun e => !Header.isStamp e.1) :=
  Fields.filterKeys_ofList (fun k => !Header.isStamp k) (rekeyed p l)

/-- The attributes of such a message are those of the list under the prefix. -/
theorem attributes_underPrefix (hp : p ≠ .none) :
    (underPrefix p l payload there identity timestamp now).headers.attributes
      = Fields.ofList (rekeyed p (l.filter fun e => Prefix.isAttributeKey e.1)) := by
  have hid : Prefix.isAttributeKey Header.identity = false := by decide
  have hts : Prefix.isAttributeKey Header.timestamp = false := by decide
  have hlist : ((rekeyed p l).filter fun e => !Header.isStamp e.1).filter
        (fun e => Prefix.isAttributeKey e.1)
      = rekeyed p (l.filter fun e => Prefix.isAttributeKey e.1) := by
    rw [List.filter_filter, rekeyed, List.filter_map, rekeyed]
    refine congrArg _ (List.filter_congr fun e _ => ?_)
    rw [Function.comp_apply, Prefix.isAttributeKey_rekey hp]
    cases hattr : Prefix.isAttributeKey e.1 with
    | false => rfl
    | true => rw [Prefix.isStamp_rekey hp hattr]; rfl
  rw [Fields.attributes, headers, Fields.filterKeys_insert, Fields.filterKeys_insert, hts, hid,
    if_neg Bool.false_ne_true, if_neg Bool.false_ne_true, given_underPrefix,
    Fields.filterKeys_ofList, hlist]

/-- The canonical attributes of such a message do not depend on the prefix. -/
theorem canonical_underPrefix (hp : p ≠ .none) :
    (underPrefix p l payload there identity timestamp
        now).headers.canonicalize.filterKeys Prefix.canonical.marks =
      Fields.ofList ((l.filter fun e => Prefix.isAttributeKey e.1).map fun e =>
        (canonicalKey false e.1, e.2)) := by
  have hunder := keysUnder_underPrefix l payload there identity timestamp now hp
  have hattributes := attributes_underPrefix l payload there identity timestamp now hp
  have hinj : ∀ k ∈ (rekeyed p (l.filter fun e => Prefix.isAttributeKey e.1)).map Prod.fst,
      ∀ k' ∈ (rekeyed p (l.filter fun e => Prefix.isAttributeKey e.1)).map Prod.fst,
        canonicalKey false k = canonicalKey false k' → k = k' := by
    have hmem : ∀ k ∈ (rekeyed p (l.filter fun e => Prefix.isAttributeKey e.1)).map Prod.fst,
        k ∈ (underPrefix p l payload there identity timestamp now).headers := by
      intro k hk
      rw [← Fields.mem_ofList, ← hattributes, Fields.attributes, Fields.mem_def,
        Fields.keys_filterKeys, List.mem_filter] at hk
      exact hk.1
    exact fun k hk k' hk' => hunder.canonicalKey_injOn k (hmem k hk) k' (hmem k' hk')
  rw [hunder.filterKeys_marks_canonicalize, hattributes, Fields.ofList_map_entries hinj, rekeyed,
    List.map_map]
  refine congrArg _ (List.map_congr_left fun e _ => ?_)
  rw [Function.comp_apply, Prefix.canonicalKey_rekey hp]

/-- The envelope of such a message does not depend on the prefix, nor on the identity. -/
theorem envelope_underPrefix (hp : p ≠ .none) :
    Conversion.envelope (underPrefix p l payload there identity timestamp
        now).headers.canonicalize =
      (Fields.ofList ((l.filter fun e => !Header.isStamp e.1).filter fun e =>
        !Prefix.isAttributeKey e.1)).insert Header.timestamp
          (if timestamp.isNull then .int now else timestamp) := by
  have hlist : ((rekeyed p l).filter fun e => !Header.isStamp e.1).filter
        (fun e => e.1 != Header.identity && !Prefix.isAttributeKey e.1)
      = (l.filter fun e => !Header.isStamp e.1).filter fun e => !Prefix.isAttributeKey e.1 := by
    have hsame : ∀ e ∈ (l.filter fun e => !Header.isStamp e.1).filter
        (fun e => !Prefix.isAttributeKey e.1), (p.rekey e.1, e.2) = e := by
      intro e he
      have hplain := (List.mem_filter.1 he).2
      rw [Bool.not_eq_true', Fields.isAttributeKey_eq_false_iff] at hplain
      rw [Prefix.rekey_of_none hplain]
    rw [List.filter_filter, rekeyed, List.filter_map]
    conv_rhs => rw [← List.map_id' (List.filter _ _), ← List.map_congr_left hsame]
    rw [List.filter_filter]
    refine congrArg _ (List.filter_congr fun e _ => ?_)
    rw [Function.comp_apply, Prefix.isAttributeKey_rekey hp]
    cases hattr : Prefix.isAttributeKey e.1 with
    | true => simp
    | false =>
      rw [Prefix.rekey_of_none (Fields.isAttributeKey_eq_false_iff.1 hattr)]
      by_cases hid : e.1 = Header.identity
      · simp [hid, Header.isStamp]
      · simp [hid]
  rw [Conversion.envelope_canonicalize, filterKeys_headers (by decide) (by decide),
    given_underPrefix, Fields.filterKeys_ofList, hlist]
  rfl

end

/-- The canonical headers of an event under two prefixes have the same parts. -/
theorem sameParts_underPrefix {p q : Prefix} (hp : p ≠ .none) (hq : q ≠ .none)
    (l : List (String × Value)) (payload : Value) (there : payload.isNull = false)
    (identity identity' : String) (timestamp : Value) (now : Int) :
    (underPrefix p l payload there identity timestamp now).headers.canonicalize.SameParts
      (underPrefix q l payload there identity' timestamp now).headers.canonicalize where
  attributes := by rw [canonical_underPrefix _ _ _ _ _ _ hp, canonical_underPrefix _ _ _ _ _ _ hq]
  others := by rw [envelope_underPrefix _ _ _ _ _ _ hp, envelope_underPrefix _ _ _ _ _ _ hq]

/-- **Neither conversion tells prefixes apart.**  An event whose attributes are put under one prefix
or another is written in structured mode with the same body and the same headers in the same order,
up to the identity, or with the same error. Unless it is handed back, its canonical forms are the
same up to the identity and the order of the headers, or the same error. -/
theorem conversions_underPrefix {p q : Prefix} (hp : p ≠ .none) (hq : q ≠ .none)
    (l : List (String × Value)) (payload : Value) (there : payload.isNull = false)
    (timestamp : Value) (now : Int) (identity identity' : String) (c : JsonConverter)
    (override fallback : Value) (mint mint' : Mint) (journal journal' : Journal) :
    let m := underPrefix p l payload there identity timestamp now
    let m' := underPrefix q l payload there identity' timestamp now
    SameOutcome (fun s s' => s.SameButIdentity s' ∧ s.headers.keys = s'.headers.keys)
      ((m.toStructured c.toConverter override).exec mint journal).1
      ((m'.toStructured c.toConverter override).exec mint' journal').1 ∧
    ((m.headers.value Header.contentType).isSet = true ∨
        m.headers.canonicalize.isCloudEvent = true ∧
          (m.headers.canonicalize.value Attribute.datacontenttype.key).isSet = true →
      SameOutcome SameButIdentity
        ((m.toCanonical c.toConverter.toReader {} fallback).exec mint journal).1
        ((m'.toCanonical c.toConverter.toReader {} fallback).exec mint' journal').1) := by
  intro m m'
  have hparts := sameParts_underPrefix hp hq l payload there identity identity' timestamp now
  have hpayload : m.payload = m'.payload := rfl
  refine ⟨sameOutcome_toStructured hpayload hparts c override mint mint' journal journal',
    fun htype => ?_⟩
  refine sameOutcome_toCanonical hpayload hparts c (by decide) fallback (fun hnone => ?_) mint mint'
    journal journal'
  obtain ⟨hevent, hcontent⟩ := Fields.rebuiltType?_eq_none_iff.1 hnone
  have hplain : Prefix.ofKey Header.contentType = .none := by decide
  rw [Fields.value, Fields.get?_canonicalize_of_none hplain, ← Fields.value] at hcontent
  rcases htype with hset | hdata
  · cases hset.symm.trans hcontent
  · exact hevent hdata

/-- An order with a trace before its attributes, under a prefix. -/
def tracedOrder (p : Prefix) : Message :=
  underPrefix p [("ce-specversion", .text "1.0"), ("traceparent", .text "00-1"),
    ("ce-type", .text "order"), ("ce-source", .text "/orders"),
    (Header.contentType, .text "text/plain")] (.text "hello") rfl p.text (.int 5) 0

/-- The Kafka and the AMQP form of the order have the same structured form, and canonical forms with
the same source. -/
theorem conversions_underPrefix_tracedOrder :
    ∃ s s' out out',
      (((tracedOrder .kafka).toStructured ({} : JsonConverter).toConverter).exec
        ⟨fun _ => "2", 0⟩ {}).1 = .ok s ∧
      (((tracedOrder .amqp).toStructured ({} : JsonConverter).toConverter).exec
        ⟨fun _ => "3", 1⟩ {}).1 = .ok s' ∧
      s.payload = s'.payload ∧ s.headers.keys = s'.headers.keys ∧
      (((tracedOrder .kafka).toCanonical ({} : JsonConverter).toConverter.toReader).exec
        ⟨fun _ => "2", 0⟩ {}).1 = .ok out ∧
      (((tracedOrder .amqp).toCanonical ({} : JsonConverter).toConverter.toReader).exec
        ⟨fun _ => "3", 1⟩ {}).1 = .ok out' ∧
      out.headers.get? "ce-source" = out'.headers.get? "ce-source" := by
  obtain ⟨hstructured, hcanonical⟩ := conversions_underPrefix (p := .kafka) (q := .amqp)
    (by decide) (by decide) [("ce-specversion", .text "1.0"), ("traceparent", .text "00-1"),
      ("ce-type", .text "order"), ("ce-source", .text "/orders"),
      (Header.contentType, .text "text/plain")] (.text "hello") rfl (.int 5) 0 "ce_" "cloudEvents:"
    {} .null Conversion.defaultDataContentType ⟨fun _ => "2", 0⟩ ⟨fun _ => "3", 1⟩ {} {}
  obtain ⟨s, hs⟩ : ∃ s, (((tracedOrder .kafka).toStructured
      ({} : JsonConverter).toConverter).exec ⟨fun _ => "2", 0⟩ {}).1 = .ok s := ⟨_, rfl⟩
  obtain ⟨out, hout⟩ : ∃ out, (((tracedOrder .kafka).toCanonical
      ({} : JsonConverter).toConverter.toReader).exec ⟨fun _ => "2", 0⟩ {}).1 = .ok out := ⟨_, rfl⟩
  obtain ⟨s', hs', hsame, hkeys⟩ := SameOutcome.exists_eq_ok hstructured hs
  obtain ⟨out', hout', hsame'⟩ := SameOutcome.exists_eq_ok (hcanonical (Or.inl rfl)) hout
  exact ⟨s, s', out, out', hs, hs', hsame.payload, hkeys, hout, hout',
    hsame'.headers _ (by decide)⟩

end Message

end CloudEvents
