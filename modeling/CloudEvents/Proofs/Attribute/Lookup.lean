import CloudEvents.Proofs.Attribute.Order
import CloudEvents.Proofs.Value
import CloudEvents.Tracing.Attributes
/-!
# Where attributes are looked up

Accessors look under the prefix of the first attribute key. Bringing headers to the canonical prefix
moves keys, so the first attribute afterwards need not be the first one before. If all attributes
are under one prefix this does not matter: wherever the prefix is taken from, the attribute is found
under it, or there is no attribute at all (`Fields.KeysUnder.attributeValue_canonicalize`).

Spans get the source on a way of its own, from the attributes alone and under the detected prefix
even if that is none. It leads to the same value (`Fields.storedSource_eq`). So everything that is
read off headers is told by the values of their attributes, and these by the entries with a
recognized prefix (`Fields.attributeValue_attributes`): no bare header is ever taken for one.

## Main statements

* `Fields.LookAlike.of_attributeValue_eq`: headers with the same attribute values look alike;
* `Fields.LookAlike.of_attributes_eq`: and so do headers that differ in bare headers only;
* `Fields.looks_alike_under_any_prefix`: headers look as their canonical form does.
-/

namespace CloudEvents

universe u

namespace Fields

variable {α : Type u} {p : Prefix} {f : Fields α}

/-! ## The prefix of the headers -/

/-- No prefix is found only where there is no attribute. -/
theorem detectPrefix_eq_none_iff : f.detectPrefix = .none ↔ ∀ k ∈ f, Prefix.ofKey k = .none := by
  rw [detectPrefix]
  cases hfound : (f.keys.map Prefix.ofKey).find? (· != .none) with
  | none =>
    refine iff_of_true rfl fun k hk => ?_
    simpa using List.find?_eq_none.1 hfound _ (List.mem_map_of_mem hk)
  | some q =>
    obtain ⟨k, hk, rfl⟩ := List.mem_map.1 (List.mem_of_find?_eq_some hfound)
    have hkey : Prefix.ofKey k ≠ .none :=
      bne_iff_ne.1 (List.find?_some (p := (· != Prefix.none)) hfound)
    exact iff_of_false hkey fun h => hkey (h k hk)

theorem KeysUnder.detectPrefix_eq (h : f.KeysUnder p) :
    f.detectPrefix = .none ∨ f.detectPrefix = p := by
  rw [detectPrefix]
  cases hfound : (f.keys.map Prefix.ofKey).find? (· != .none) with
  | none => exact Or.inl rfl
  | some q =>
    obtain ⟨k, hk, rfl⟩ := List.mem_map.1 (List.mem_of_find?_eq_some hfound)
    exact h k hk

theorem lookupPrefix_of_detectPrefix (h : f.detectPrefix ≠ .none) :
    f.lookupPrefix = f.detectPrefix := by
  rw [lookupPrefix]
  split
  · rename_i hnone
    exact absurd hnone h
  · rfl

theorem lookupPrefix_of_none (h : f.detectPrefix = .none) : f.lookupPrefix = .canonical := by
  rw [lookupPrefix, h]

/-- Attributes are looked up under a recognized prefix. -/
theorem lookupPrefix_ne_none (f : Fields α) : f.lookupPrefix ≠ .none := by
  by_cases h : f.detectPrefix = .none
  · rw [lookupPrefix_of_none h]
    decide
  · rwa [lookupPrefix_of_detectPrefix h]

/-- Headers with nothing but canonical attributes are looked up under the canonical prefix. -/
theorem KeysUnder.lookupPrefix_canonical (h : f.KeysUnder .canonical) :
    f.lookupPrefix = .canonical := by
  rw [lookupPrefix]
  rcases h.detectPrefix_eq with heq | heq <;> rw [heq]

/-- Under any prefix there has to be an attribute at least. -/
theorem KeysUnder.lookupPrefix_eq (h : f.KeysUnder p) {k : String} (hk : k ∈ f)
    (hkey : Prefix.ofKey k ≠ .none) : f.lookupPrefix = p := by
  have hdetect : f.detectPrefix ≠ .none := fun hnone => hkey (detectPrefix_eq_none_iff.1 hnone k hk)
  rw [lookupPrefix_of_detectPrefix hdetect, h.detectPrefix_eq.resolve_left hdetect]

/-! ## Entries with a recognized prefix -/

theorem get?_attributes (f : Fields α) (k : String) :
    f.attributes.get? k = if Prefix.isAttributeKey k then f.get? k else none :=
  get?_filterKeys Prefix.isAttributeKey f k

theorem isAttributeKey_key (hp : p ≠ .none) (name : String) :
    Prefix.isAttributeKey (p.key name) = true := by
  rw [Prefix.isAttributeKey, Prefix.ofKey_key hp]
  exact bne_iff_ne.2 hp

theorem detectPrefix_attributes (f : Fields α) : f.attributes.detectPrefix = f.detectPrefix := by
  have hkeys : f.attributes.keys = f.keys.filter Prefix.isAttributeKey := keys_filterKeys _ f
  have hfind : ((f.keys.filter Prefix.isAttributeKey).map Prefix.ofKey).find? (· != .none)
      = (f.keys.map Prefix.ofKey).find? (· != .none) := by
    rw [List.find?_map, List.find?_map, List.find?_filter]
    refine congrArg (Option.map Prefix.ofKey) (congrArg (fun q => f.keys.find? q) ?_)
    funext k
    by_cases hk : Prefix.ofKey k = .none <;> simp [Prefix.isAttributeKey, hk]
  rw [detectPrefix, hkeys, hfind, detectPrefix]

theorem lookupPrefix_attributes (f : Fields α) : f.attributes.lookupPrefix = f.lookupPrefix := by
  rw [lookupPrefix, lookupPrefix, detectPrefix_attributes]

/-- A bare header is no attribute, whatever its value. -/
theorem attributes_insert_of_none {k : String} (hk : Prefix.ofKey k = .none) (v : α) :
    (f.insert k v).attributes = f.attributes := by
  rw [attributes, filterKeys_insert, isAttributeKey_eq_false_iff.2 hk, if_neg Bool.false_ne_true]
  rfl

theorem attributes_erase_of_none {k : String} (hk : Prefix.ofKey k = .none) :
    (f.erase k).attributes = f.attributes :=
  filterKeys_erase_of_not (isAttributeKey_eq_false_iff.2 hk) f

/-- The attributes of the canonical form are the same ones in the same order. -/
theorem KeysUnder.entries_attributes_canonicalize (hp : p ≠ .none) (h : f.KeysUnder p) :
    f.canonicalize.attributes.entries
      = f.attributes.entries.map fun e => (Prefix.canonical.key (p.strip e.1), e.2) := by
  have hmarks : f.canonicalize.attributes = f.canonicalize.filterKeys Prefix.canonical.marks := by
    refine Fields.ext (List.filter_congr fun e he => ?_)
    have hmem : e.1 ∈ f.canonicalize := List.mem_map_of_mem he
    rcases ofKey_of_mem_canonicalize hmem with hkey | ⟨-, hkey⟩
    · rw [Prefix.isAttributeKey, hkey, (Prefix.marks_iff_ofKey_eq (by decide)).2 hkey]
      decide
    · rw [isAttributeKey_eq_false_iff.2 hkey, Prefix.marks_eq_false_iff (by decide) |>.2]
      rw [hkey]
      decide
  have hrekeyed : (f.attributes.entries.map fun e => (canonicalKey false e.1, e.2))
      = f.attributes.entries.map fun e => (Prefix.canonical.key (p.strip e.1), e.2) := by
    refine List.map_congr_left fun e he => ?_
    obtain ⟨hmem, hattribute⟩ := List.mem_filter.1 he
    have hkey : Prefix.ofKey e.1 = p :=
      (h e.1 (List.mem_map_of_mem hmem)).resolve_left fun hnone => by
        rw [isAttributeKey_eq_false_iff.2 hnone] at hattribute
        cases hattribute
    have hto : canonicalKey false e.1 = Prefix.canonical.key (p.strip e.1) := by
      conv_lhs => rw [← Prefix.key_ofKey_strip e.1, hkey, canonicalKey_key hp]
    rw [hto]
  have hnodup : ((f.attributes.entries.map fun e => (canonicalKey false e.1, e.2)).map
      Prod.fst).Nodup := by
    refine nodup_map_of_injOn (fun k hk k' hk' => ?_) f.attributes.nodup
    have hin : ∀ x ∈ f.attributes.entries.map Prod.fst, x ∈ f := by
      intro x hx
      obtain ⟨e, he, rfl⟩ := List.mem_map.1 hx
      exact List.mem_map_of_mem (List.mem_filter.1 he).1
    exact h.canonicalKey_injOn k (hin k hk) k' (hin k' hk')
  rw [hmarks, h.filterKeys_marks_canonicalize, entries_ofList hnodup, hrekeyed]

/-! ## The values of attributes -/

section Values

variable {headers headers' : Fields Value}

theorem keysUnder_canonicalize (f : Fields α) : f.canonicalize.KeysUnder .canonical :=
  fun _ hk => (ofKey_of_mem_canonicalize hk).symm.imp_left And.right

/-- Where all attributes are under one prefix, the canonical form has the same values of attributes.
-/
theorem KeysUnder.attributeValue_canonicalize (h : headers.KeysUnder p) (hp : p ≠ .none)
    (a : Attribute) : headers.canonicalize.attributeValue a = headers.attributeValue a := by
  by_cases hdetect : headers.detectPrefix = .none
  · -- there is no attribute, and nothing is moved
    have hnone := detectPrefix_eq_none_iff.1 hdetect
    have hself : headers.canonicalize = headers :=
      canonicalize_eq_self fun k hk => Or.inl (hnone k hk)
    rw [hself]
  · have hprefix : headers.lookupPrefix = p := by
      rw [lookupPrefix_of_detectPrefix hdetect, h.detectPrefix_eq.resolve_left hdetect]
    rw [attributeValue, (keysUnder_canonicalize headers).lookupPrefix_canonical, attributeValue,
      hprefix, value, value, h.get?_canonicalize hp]

/-- The values of attributes are those of the entries with a recognized prefix. -/
theorem attributeValue_attributes (headers : Fields Value) (a : Attribute) :
    headers.attributes.attributeValue a = headers.attributeValue a := by
  rw [attributeValue, lookupPrefix_attributes, value, get?_attributes,
    isAttributeKey_key headers.lookupPrefix_ne_none, if_pos rfl]
  rfl

/-- The source that spans get is the one that is looked up. -/
theorem storedSource_eq (headers : Fields Value) :
    headers.storedSource = headers.attributeValue .source := by
  by_cases hdetect : headers.detectPrefix = .none
  · -- a bare source is none of the attributes, and a canonical one is not there
    have hnone := detectPrefix_eq_none_iff.1 hdetect
    have hbare : Prefix.isAttributeKey (Prefix.none.key Attribute.source.name) = false := by decide
    have hkey : Prefix.canonical.key Attribute.source.name ∉ headers := fun hmem => by
      have hbareKey := hnone _ hmem
      rw [Prefix.ofKey_key (by decide)] at hbareKey
      cases hbareKey
    rw [storedSource, hdetect, value, get?_attributes, hbare, if_neg Bool.false_ne_true,
      attributeValue, lookupPrefix_of_none hdetect, value_of_not_mem hkey]
    rfl
  · rw [storedSource, value, get?_attributes, isAttributeKey_key hdetect, if_pos rfl,
      attributeValue, lookupPrefix_of_detectPrefix hdetect]
    rfl

end Values

end Fields

/-! ## Headers that look alike -/

/-- Two headers look alike to whoever asks for attributes: every accessor gives the same value or
fails with the same error, and spans get the same attributes. -/
structure Fields.LookAlike (f g : Fields Value) : Prop where
  /-- Accessors do not tell them apart. -/
  accessors : ∀ a : Accessor, a.get f = a.get g
  /-- Spans do not tell them apart. -/
  spans : f.spanAttributes = g.spanAttributes

namespace Fields

variable {headers headers' : Fields Value}

/-- Headers with the same values of attributes look alike. -/
theorem LookAlike.of_attributeValue_eq
    (h : ∀ a : Attribute, headers'.attributeValue a = headers.attributeValue a) :
    headers'.LookAlike headers where
  accessors a := by
    have hschema : headers'.schemaValue = headers.schemaValue := by
      rw [schemaValue, schemaValue, h, h]
    cases a <;> simp only [Accessor.get, h, hschema]
  spans := by
    have hvalues : headers'.spanValues = headers.spanValues := by
      simp only [spanValues, storedSource_eq, h]
    rw [spanAttributes, spanAttributes, hvalues]

/-- Headers with the same attributes look alike, whatever else they hold. -/
theorem LookAlike.of_attributes_eq (h : headers'.attributes = headers.attributes) :
    headers'.LookAlike headers :=
  .of_attributeValue_eq fun a => by
    rw [← attributeValue_attributes headers', h, attributeValue_attributes]

/-- **Nobody sees the prefix.**  Headers whose attributes are all under one recognized prefix, or
that have none, look as their canonical form does, and they have the same attributes in the same
order, under their canonical keys. A header without a recognized prefix is never read as an
attribute: whether it is there and what it holds makes no difference, under whatever prefixes the
attributes are. -/
theorem looks_alike_under_any_prefix {p : Prefix} (hp : p ≠ .none) {headers : Fields Value}
    (h : headers.KeysUnder p) :
    headers.canonicalize.LookAlike headers ∧
    headers.canonicalize.attributes.entries
      = (headers.attributes.entries.map fun e => (Prefix.canonical.key (p.strip e.1), e.2)) ∧
    ∀ (others : Fields Value) (k : String) (v : Value), Prefix.ofKey k = .none →
      (others.insert k v).LookAlike others ∧ (others.insert k v).attributes = others.attributes ∧
      (others.erase k).LookAlike others ∧ (others.erase k).attributes = others.attributes := by
  refine ⟨.of_attributeValue_eq (h.attributeValue_canonicalize hp),
    h.entries_attributes_canonicalize hp, fun others k v hk => ?_⟩
  have hinsert := attributes_insert_of_none (f := others) hk v
  have herase := attributes_erase_of_none (f := others) hk
  exact ⟨.of_attributes_eq hinsert, hinsert, .of_attributes_eq herase, herase⟩

/-- Headers of an event under the prefix of AMQP, with bare headers among them. -/
def mingledHeaders : Fields Value :=
  ofList [("source", .text "/bare"), ("cloudEvents:type", .text "order"), ("id", .int 1),
    ("cloudEvents:schemaurl", .text "urn:orders"), ("traceparent", .text "00-1")]

/-- The schema is found under its former name on both sides, and the bare source on neither. -/
theorem looks_alike_under_any_prefix_mingledHeaders :
    mingledHeaders.KeysUnder .amqp ∧
      mingledHeaders.canonicalize.attributes.keys = ["ce-type", "ce-schemaurl"] ∧
      Accessor.dataschema.get mingledHeaders.canonicalize
        = Accessor.dataschema.get mingledHeaders ∧
      mingledHeaders.canonicalize.spanAttributes.map Fields.keys
        = .ok ["cloudevents.event_type"] ∧
      Accessor.source.get mingledHeaders = .ok .null := by
  have hunder : mingledHeaders.KeysUnder .amqp := by decide
  obtain ⟨halike, hattributes, hbare⟩ := looks_alike_under_any_prefix (by decide) hunder
  obtain ⟨-, -, hsource, -⟩ := hbare mingledHeaders "source" .null (by decide)
  refine ⟨hunder, ?_, halike.accessors .dataschema, ?_, ?_⟩
  · rw [keys, hattributes]
    decide
  · rw [halike.spans]
    decide
  · rw [← hsource.accessors .source]
    rfl

end Fields

end CloudEvents
