import CloudEvents.Proofs.Message.Event
/-!
# Events for another transport

A builder that is started from an event in binary mode and builds it for a transport should give the
same event under the prefix of that transport. It collects attributes under canonical keys: what it
fills in goes there, and only what stands there is put under the prefix of the transport.

* An event that came under the canonical prefix is preserved: nothing but a missing identity is
  filled in, and every attribute changes its prefix.
* An event that came under another prefix has no canonical key, so all four attributes are filled
  in. Built for its own prefix, they take the place of its identity, version, source and type; built
  for any other, the old keys stay beside the new ones.

`buildEvent_retargets_iff` says so exactly: outside the canonical prefix an event is preserved only
if it goes back under its own prefix and has nothing else than what is filled in.
-/

namespace CloudEvents

namespace Builder

/-! ## Builders without canonical keys -/

theorem entries_setIfAbsent {b : Builder} {name : String} {v : Value} (hname : name ∉ b.headers)
    (hv : v.isNull = false) :
    (b.setIfAbsent name v).headers.entries = b.headers.entries ++ [(name, v)] := by
  rw [setIfAbsent, if_neg hname, set, hv, if_neg Bool.false_ne_true]
  exact Fields.put_of_not_mem v hname

theorem entries_foldl_setIfAbsent (l : List (String × Value)) (hl : ∀ e ∈ l, e.2.isNull = false)
    (hnodup : (l.map Prod.fst).Nodup) {b : Builder} (hnew : ∀ e ∈ l, e.1 ∉ b.headers) :
    (l.foldl (fun b e => b.setIfAbsent e.1 e.2) b).headers.entries = b.headers.entries ++ l := by
  induction l generalizing b with
  | nil => rw [List.foldl_nil, List.append_nil]
  | cons e l ih =>
    rw [List.map_cons, List.nodup_cons] at hnodup
    have hentries := entries_setIfAbsent (hnew e List.mem_cons_self) (hl e List.mem_cons_self)
    have hlater : ∀ e' ∈ l, e'.1 ∉ (b.setIfAbsent e.1 e.2).headers := by
      intro e' he' hmem
      rw [Fields.mem_def, Fields.keys, hentries, List.map_append, List.mem_append] at hmem
      rcases hmem with hold | hnew'
      · exact hnew e' (List.mem_cons_of_mem e he') hold
      · rw [List.map_singleton, List.mem_singleton] at hnew'
        exact hnodup.1 (hnew' ▸ List.mem_map_of_mem he')
    rw [List.foldl_cons, ih (fun e' h => hl e' (List.mem_cons_of_mem e h)) hnodup.2 hlater,
      hentries, List.append_assoc, List.singleton_append]

/-- Without canonical keys all four attributes are filled in, after everything else. -/
theorem entries_filled {b : Builder} (h : ∀ k ∈ b.headers, Prefix.ofKey k ≠ .canonical)
    (identity : String) :
    (b.filled identity).headers.entries = b.headers.entries ++ defaults b.payload identity := by
  rw [filled_eq_foldl]
  exact entries_foldl_setIfAbsent _ (fun _ => not_isNull_of_mem_defaults) (nodup_defaults _ _)
    fun e he hmem => h e.1 hmem (ofKey_of_mem_defaults he)

theorem transportKey_injOn_defaults (payload : Value) (identity : String) (q : Prefix) :
    ∀ k ∈ (defaults payload identity).map Prod.fst,
      ∀ k' ∈ (defaults payload identity).map Prod.fst,
        transportKey q k = transportKey q k' → k = k' := by
  intro k hk k' hk' heq
  obtain ⟨e, he, rfl⟩ := List.mem_map.1 hk
  obtain ⟨e', he', rfl⟩ := List.mem_map.1 hk'
  exact transportKey_inj (ofKey_of_mem_defaults he) (ofKey_of_mem_defaults he') heq

/-- What is filled in gets the prefix of the transport. -/
theorem lookup_map_transportKey_defaults (payload : Value) (identity : String) (q : Prefix)
    (name : String) :
    ((defaults payload identity).map fun e => (transportKey q e.1, e.2)).lookup (q.key name)
      = (defaults payload identity).lookup (Prefix.canonical.key name) := by
  by_cases hmem : Prefix.canonical.key name ∈ (defaults payload identity).map Prod.fst
  · rw [← transportKey_key]
    exact Fields.lookup_map_of_injOn (transportKey_injOn_defaults payload identity q) hmem
  · rw [Fields.lookup_of_not_mem hmem, Fields.lookup_of_not_mem]
    rw [List.map_map]
    intro hnew
    obtain ⟨e, he, heq⟩ := List.mem_map.1 hnew
    have hkey := ofKey_of_mem_defaults he
    rw [Function.comp_apply, transportKey_of_canonical hkey, Prefix.key_inj] at heq
    rw [← heq, ← hkey, Prefix.key_ofKey_strip] at hmem
    exact hmem (List.mem_map_of_mem he)

/-- Without canonical keys, what is filled in takes the place of what is there. -/
theorem get?_forTransport_filled {b : Builder} (h : ∀ k ∈ b.headers, Prefix.ofKey k ≠ .canonical)
    (identity : String) (q : Prefix) (name : String) :
    ((b.filled identity).forTransport q).headers.get? (q.key name) =
      ((defaults b.payload identity).lookup (Prefix.canonical.key name)).or
        (b.headers.get? (q.key name)) := by
  have hold : b.headers.entries.map (fun e => (transportKey q e.1, e.2)) = b.headers.entries := by
    rw [List.map_congr_left fun e he => ?_, List.map_id]
    rw [transportKey_of_ne (h e.1 (List.mem_map_of_mem he)), id]
  have hnew := Fields.nodup_map_of_injOn (transportKey_injOn_defaults b.payload identity q)
    (nodup_defaults b.payload identity)
  rw [forTransport, Fields.get?_ofList, entries_filled h, List.map_append, hold,
    List.reverse_append, List.lookup_append, Fields.lookup_reverse b.headers.nodup,
    Fields.lookup_reverse hnew, lookup_map_transportKey_defaults]
  rfl

/-! ## The keys of the event -/

/-- A key of the event is under the prefix of the transport, except where it was under another one
that is not canonical. -/
theorem keysUnder_forTransport_filled {b : Builder} {p q : Prefix} (h : b.headers.KeysUnder p)
    (hq : q ≠ .none) (hpq : p = .canonical ∨ p = q) (identity : String) :
    ((b.filled identity).forTransport q).headers.KeysUnder q := by
  refine keysUnder_forTransport hq fun k hk => ?_
  rcases ofKey_of_mem_filled h hk with hnone | hkey | ⟨-, hkey⟩
  · exact Or.inl hnone
  · exact Or.inr (Or.inl hkey)
  · rcases hpq with rfl | rfl
    · exact Or.inr (Or.inl hkey)
    · exact Or.inr (Or.inr hkey)

/-- A key that is neither canonical nor under the prefix of the transport stays as it is. -/
theorem mem_forTransport_of_ne {b : Builder} {q : Prefix} {k : String} (hk : k ∈ b.headers)
    (hcanonical : Prefix.ofKey k ≠ .canonical) (identity : String) :
    k ∈ ((b.filled identity).forTransport q).headers :=
  mem_forTransport.2 ⟨k, mem_filled.2 (Or.inl hk), transportKey_of_ne hcanonical⟩

end Builder

namespace Message

/-! ## Events that are preserved -/

/-- A message is the event of another one for a transport: its attributes are all under the prefix
of the transport and are those of the event, with defaults where the event has none. -/
def Retargets (m out : Message) (q : Prefix) (identity : String) : Prop :=
  out.headers.KeysUnder q ∧
    ∀ k, Prefix.canonical.marks k = true →
      out.headers.canonicalize.get? k =
        (m.headers.canonicalize.get? k).or ((Builder.defaults m.payload identity).lookup k)

variable {m : Message} {p q : Prefix}

/-- The event that a builder makes, from what it has filled in. -/
def retargeted (m : Message) (q : Prefix) (mint : Mint) (journal : Journal) : Message :=
  ((((Builder.ofMessage m).filled (mint.identity journal.drawn)).forTransport q).stamped
    (by rw [Builder.forTransport, Builder.payload_filled]; exact m.payload_there) mint
    (journal.drawn + (Builder.ofMessage m).drawnFor))

theorem exec_buildEvent_ofMessage (hq : q ≠ .none) (mint : Mint) (journal : Journal) :
    ((Builder.ofMessage m).buildEvent q).exec mint journal =
      (.ok ((Builder.ofMessage m).filled (mint.identity journal.drawn),
          .ok (m.retargeted q mint journal)),
        { journal with drawn := journal.drawn + (Builder.ofMessage m).drawnFor + 1 }) :=
  Builder.exec_buildEvent (Builder.ofMessage m) m.payload_there hq mint journal

theorem mem_retargeted {mint : Mint} {journal : Journal} {k : String} :
    k ∈ (m.retargeted q mint journal).headers ↔ Header.isStamp k = true ∨
      k ∈ (((Builder.ofMessage m).filled (mint.identity journal.drawn)).forTransport q).headers :=
  Builder.mem_stamped

theorem keysUnder_retargeted (hq : q ≠ .none) (hm : m.headers.KeysUnder p)
    (hpq : p = .canonical ∨ p = q) (mint : Mint) (journal : Journal) :
    (m.retargeted q mint journal).headers.KeysUnder q :=
  Builder.keysUnder_stamped
    (Builder.keysUnder_forTransport_filled (b := Builder.ofMessage m) hm hq hpq _) _ mint _

theorem get?_retargeted (hq : q ≠ .none) (mint : Mint) (journal : Journal) (name : String) :
    (m.retargeted q mint journal).headers.get? (q.key name) =
      (((Builder.ofMessage m).filled (mint.identity journal.drawn)).forTransport q).headers.get?
        (q.key name) :=
  Builder.get?_stamped _ _ _ _ (Header.isStamp_key hq name)

/-- Under the canonical prefix everything is preserved. -/
theorem retargets_of_canonical (hq : q ≠ .none) (hm : m.headers.KeysUnder .canonical) (mint : Mint)
    (journal : Journal) :
    m.Retargets (m.retargeted q mint journal) q (mint.identity journal.drawn) := by
  have hunder := keysUnder_retargeted hq hm (Or.inl rfl) mint journal
  refine ⟨hunder, fun k hk => ?_⟩
  have hfilled : ((Builder.ofMessage m).filled (mint.identity journal.drawn)).headers.KeysUnder
      .canonical := by
    intro x hx
    rcases Builder.ofKey_of_mem_filled (b := Builder.ofMessage m) hm hx with h | h | ⟨-, h⟩
    · exact Or.inl h
    · exact Or.inr h
    · exact Or.inr h
  rw [← Prefix.key_strip hk, hunder.get?_canonicalize hq, get?_retargeted hq,
    Builder.get?_forTransport_canonical hfilled hq, Builder.get?_filled,
    hm.get?_canonicalize (by decide)]
  rfl

/-- Under any other prefix than its own the old keys stay. -/
theorem not_retargets_of_ne (hp : p ≠ .none) (hcanonical : p ≠ .canonical) (hpq : p ≠ q)
    (hm : m.headers.KeysUnder p) (hevent : m.headers.canonicalize.isCloudEvent = true)
    (mint : Mint) (journal : Journal) (identity : String) :
    ¬m.Retargets (m.retargeted q mint journal) q identity := by
  rintro ⟨hunder, -⟩
  have htype : Attribute.type.key ∈ m.headers.canonicalize := by
    simpa using List.all_eq_true.1 hevent .type (by decide)
  obtain ⟨k, hk, hto⟩ := Fields.mem_canonicalize.1 htype
  have hkey : k = p.key Attribute.type.name := hm.key_eq hk hto
  have hofKey : Prefix.ofKey k = p := by rw [hkey, Prefix.ofKey_key hp]
  have hstays := Builder.mem_forTransport_of_ne (b := Builder.ofMessage m) (q := q) hk
    (by rw [hofKey]; exact hcanonical) (mint.identity journal.drawn)
  rcases hunder k (mem_retargeted.2 (Or.inr hstays)) with h | h
  · exact hp (hofKey ▸ h)
  · exact hpq (hofKey ▸ h)

/-- Under its own prefix, an attribute that is filled in takes the place of the one that is there.
-/
theorem get?_canonicalize_retargeted (hq : q ≠ .none) (hcanonical : q ≠ .canonical)
    (hm : m.headers.KeysUnder q) (mint : Mint) (journal : Journal) {k : String}
    (hk : Prefix.canonical.marks k = true) :
    (m.retargeted q mint journal).headers.canonicalize.get? k =
      ((Builder.defaults m.payload (mint.identity journal.drawn)).lookup k).or
        (m.headers.canonicalize.get? k) := by
  have hunder := keysUnder_retargeted hq hm (Or.inr rfl) mint journal
  have hforeign : ∀ k ∈ (Builder.ofMessage m).headers, Prefix.ofKey k ≠ .canonical := by
    intro k hk hkey
    rcases hm k hk with h | h
    · cases hkey.symm.trans h
    · exact hcanonical (h.symm.trans hkey)
  rw [← Prefix.key_strip hk, hunder.get?_canonicalize hq, get?_retargeted hq,
    Builder.get?_forTransport_filled hforeign, hm.get?_canonicalize hq]
  rfl

/-- So nothing is lost exactly if nothing else is there under the names that are filled in. -/
theorem retargets_self_iff (hq : q ≠ .none) (hcanonical : q ≠ .canonical)
    (hm : m.headers.KeysUnder q) (mint : Mint) (journal : Journal) :
    m.Retargets (m.retargeted q mint journal) q (mint.identity journal.drawn) ↔
      ∀ e ∈ Builder.defaults m.payload (mint.identity journal.drawn),
        m.headers.canonicalize.get? e.1 = none ∨ m.headers.canonicalize.get? e.1 = some e.2 := by
  have hget : ∀ k, Prefix.canonical.marks k = true →
      (m.retargeted q mint journal).headers.canonicalize.get? k =
        ((Builder.defaults m.payload (mint.identity journal.drawn)).lookup k).or
          (m.headers.canonicalize.get? k) :=
    fun _ hk => get?_canonicalize_retargeted hq hcanonical hm mint journal hk
  have hlookup := fun (e : String × Value) =>
    Fields.lookup_eq_some_iff (Builder.nodup_defaults m.payload (mint.identity journal.drawn))
      (k := e.1) (v := e.2)
  constructor
  · rintro ⟨-, hsame⟩ e he
    have hmarks : Prefix.canonical.marks e.1 = true :=
      (Prefix.marks_iff_ofKey_eq (by decide)).2 (Builder.ofKey_of_mem_defaults he)
    have heq := (hget e.1 hmarks).symm.trans (hsame e.1 hmarks)
    rw [(hlookup e).2 he, Option.some_or] at heq
    cases hown : m.headers.canonicalize.get? e.1 with
    | none => exact Or.inl rfl
    | some v =>
      rw [hown, Option.some_or] at heq
      exact Or.inr heq.symm
  · intro hown
    refine ⟨keysUnder_retargeted hq hm (Or.inr rfl) mint journal, fun k hk => ?_⟩
    rw [hget k hk]
    cases hdefault : (Builder.defaults m.payload (mint.identity journal.drawn)).lookup k with
    | none => rw [Option.none_or, Option.or_none]
    | some v =>
      rcases hown (k, v) ((hlookup (k, v)).1 hdefault) with h | h
      · rw [h, Option.some_or, Option.none_or]
      · rw [h, Option.some_or]

/-- An event that came under one prefix is preserved when it is built for a transport if that prefix
is canonical, or if it is the one of the transport and the event has nothing else than what is
filled in. -/
theorem buildEvent_retargets_iff (hp : p ≠ .none) (hq : q ≠ .none) (hm : m.headers.KeysUnder p)
    (hevent : m.headers.canonicalize.isCloudEvent = true) (mint : Mint) (journal : Journal) :
    ∃ b out after,
      ((Builder.ofMessage m).buildEvent q).exec mint journal = (.ok (b, .ok out), after) ∧
        (m.Retargets out q (mint.identity journal.drawn) ↔
          p = .canonical ∨
            p = q ∧ ∀ e ∈ Builder.defaults m.payload (mint.identity journal.drawn),
              m.headers.canonicalize.get? e.1 = none
                ∨ m.headers.canonicalize.get? e.1 = some e.2) := by
  refine ⟨_, m.retargeted q mint journal, _,
    exec_buildEvent_ofMessage hq mint journal, ?_⟩
  by_cases hcanonical : p = .canonical
  · subst hcanonical
    exact iff_of_true (retargets_of_canonical hq hm mint journal) (Or.inl rfl)
  · by_cases hpq : p = q
    · subst hpq
      rw [retargets_self_iff hq hcanonical hm]
      simp [hcanonical]
    · refine iff_of_false (not_retargets_of_ne hp hcanonical hpq hm hevent mint journal _) ?_
      rintro (h | ⟨h, -⟩)
      · exact hcanonical h
      · exact hpq h

/-- Under the canonical prefix the order only gets an identity. -/
theorem buildEvent_retargets_canonical_order :
    ∃ b out after,
      ((Builder.ofMessage (order .canonical [])).buildEvent .kafka).exec ⟨fun _ => "2", 0⟩ {}
          = (.ok (b, .ok out), after) ∧ (order .canonical []).Retargets out .kafka "2" := by
  obtain ⟨b, out, after, hrun, hiff⟩ := buildEvent_retargets_iff (m := order .canonical [])
    (p := .canonical) (q := .kafka) (by decide) (by decide) (by decide) (by decide)
    ⟨fun _ => "2", 0⟩ {}
  exact ⟨b, out, after, hrun, hiff.2 (Or.inl rfl)⟩

/-- Not every event is preserved: under its own prefix the order loses its source and its type. -/
theorem not_forall_buildEvent_retargets :
    ¬∀ (m out : Message) (p q : Prefix) (mint : Mint) (b : Builder) (after : Journal),
      p ≠ .none → q ≠ .none → m.headers.KeysUnder p →
        m.headers.canonicalize.isCloudEvent = true →
          ((Builder.ofMessage m).buildEvent q).exec mint {} = (.ok (b, .ok out), after) →
            m.Retargets out q (mint.identity 0) := by
  intro h
  have hsame := h (order .kafka []) _ .kafka .kafka ⟨fun _ => "2", 0⟩ _ _ (by decide) (by decide)
    (by decide) (by decide) (exec_buildEvent_ofMessage (by decide) _ {})
  have hsource := (retargets_self_iff (by decide) (by decide) (by decide) _ {}).1 hsame
    (Attribute.source.key, .text Attribute.defaultSource) (by simp [Builder.defaults])
  have hown : (order .kafka []).headers.canonicalize.get? Attribute.source.key
      = some (.text "/orders") := rfl
  rw [hown] at hsource
  simp [Attribute.defaultSource] at hsource

end Message

end CloudEvents
