import CloudEvents.Proofs.Attribute.Canonicalize
import CloudEvents.Proofs.Message.Builder
/-!
# Events of a builder

A builder that makes an event first fills in what is missing of the four attributes that every event
has, and keeps it. Then it brings its canonical keys under the prefix of the transport, for this one
message.

So an event is told by two things: what the builder holds after it was filled (`filled`), and the
prefix. If the builder holds no attributes under other prefixes than the canonical one, then nothing
is lost on the way: bringing the keys of the event back under the canonical prefix gives what the
builder holds, whichever transport the event was for.

## Main statements

* `Builder.exec_buildEvent`, `Builder.exec_buildEvent_of_isNull`: the run that makes an event;
* `Builder.get?_filled`: what is there stays, and what is missing is filled in;
* `Builder.get?_canonicalize_event`, `Builder.timestamp_event`: the headers of an event.
-/

namespace CloudEvents

namespace Builder

/-! ## What is filled in -/

/-- The attributes that are filled in where they are missing, with a new identity. -/
def defaults (payload : Value) (identity : String) : List (String × Value) :=
  [(Attribute.id.key, .text identity),
    (Attribute.specversion.key, .text Attribute.defaultSpecversion),
    (Attribute.source.key, .text Attribute.defaultSource),
    (Attribute.type.key, .text payload.kind)]

/-- A builder with all four attributes of an event. -/
def filled (b : Builder) (identity : String) : Builder :=
  (b.setIfAbsent Attribute.id.key (.text identity)).withConstants

@[simp] theorem payload_filled (b : Builder) (identity : String) :
    (b.filled identity).payload = b.payload := by
  simp [filled, withConstants]

/-- Attributes are filled in one after another, each where it is missing. -/
theorem filled_eq_foldl (b : Builder) (identity : String) :
    b.filled identity =
      (defaults b.payload identity).foldl (fun b e => b.setIfAbsent e.1 e.2) b := by
  simp only [filled, withConstants, defaults, List.foldl_cons, List.foldl_nil, payload_setIfAbsent]

theorem get?_foldl_setIfAbsent (l : List (String × Value)) (hl : ∀ e ∈ l, e.2.isNull = false)
    (b : Builder) (k : String) :
    (l.foldl (fun b e => b.setIfAbsent e.1 e.2) b).headers.get? k
      = (b.headers.get? k).or (l.lookup k) := by
  induction l generalizing b with
  | nil => rw [List.foldl_nil, List.lookup_nil, Option.or_none]
  | cons e l ih =>
    rw [List.foldl_cons, ih (fun e' h => hl e' (List.mem_cons_of_mem e h)), get?_setIfAbsent,
      Value.toOption_of_not_isNull (hl e List.mem_cons_self), Option.or_assoc,
      Fields.lookup_cons_eq]
    split <;> rfl

theorem not_isNull_of_mem_defaults {payload : Value} {identity : String} {e : String × Value}
    (h : e ∈ defaults payload identity) : e.2.isNull = false := by
  simp only [defaults, List.mem_cons, List.not_mem_nil, or_false] at h
  rcases h with rfl | rfl | rfl | rfl <;> rfl

/-- What is there stays, and what is missing is filled in. -/
theorem get?_filled (b : Builder) (identity k : String) :
    (b.filled identity).headers.get? k
      = (b.headers.get? k).or ((defaults b.payload identity).lookup k) := by
  rw [filled_eq_foldl]
  exact get?_foldl_setIfAbsent _ (fun _ => not_isNull_of_mem_defaults) b k

theorem nodup_defaults (payload : Value) (identity : String) :
    ((defaults payload identity).map Prod.fst).Nodup := by
  simp only [defaults, List.map_cons, List.map_nil]
  decide

theorem ofKey_of_mem_defaults {payload : Value} {identity : String} {e : String × Value}
    (h : e ∈ defaults payload identity) : Prefix.ofKey e.1 = .canonical := by
  simp only [defaults, List.mem_cons, List.not_mem_nil, or_false] at h
  rcases h with rfl | rfl | rfl | rfl <;> exact Prefix.ofKey_key (by decide) _

theorem mem_filled {b : Builder} {identity k : String} :
    k ∈ (b.filled identity).headers
      ↔ k ∈ b.headers ∨ k ∈ (defaults b.payload identity).map Prod.fst := by
  rw [Fields.mem_iff_isSome_get?, get?_filled, Option.isSome_or, Bool.or_eq_true,
    ← Fields.mem_iff_isSome_get?, Fields.lookup_isSome, decide_eq_true_iff]

theorem ofKey_of_mem_filled {b : Builder} {p : Prefix} (h : b.headers.KeysUnder p)
    {identity k : String} (hk : k ∈ (b.filled identity).headers) :
    Prefix.ofKey k = .none ∨ Prefix.ofKey k = .canonical ∨ k ∈ b.headers ∧ Prefix.ofKey k = p := by
  rcases mem_filled.1 hk with hold | hnew
  · exact (h k hold).imp id fun hkey => Or.inr ⟨hold, hkey⟩
  · obtain ⟨e, he, rfl⟩ := List.mem_map.1 hnew
    exact Or.inr (Or.inl (ofKey_of_mem_defaults he))

theorem keysUnder_filled {b : Builder} (h : b.headers.KeysUnder .canonical) (identity : String) :
    (b.filled identity).headers.KeysUnder .canonical := by
  intro k hk
  rcases ofKey_of_mem_filled h hk with hnone | hkey | ⟨-, hkey⟩
  · exact Or.inl hnone
  · exact Or.inr hkey
  · exact Or.inr hkey

/-! ## Making an event -/

/-- The number of identities that are drawn for the event itself. -/
def drawnFor (b : Builder) : Nat := if Attribute.id.key ∈ b.headers then 0 else 1

theorem exec_withDefaults (b : Builder) (mint : Mint) (journal : Journal) :
    b.withDefaults.exec mint journal
      = (.ok (b.filled (mint.identity journal.drawn)),
          { journal with drawn := journal.drawn + b.drawnFor }) := by
  rw [withDefaults, Run.exec_map, withIdentity, drawnFor, filled, setIfAbsent]
  by_cases hid : Attribute.id.key ∈ b.headers
  · rw [if_pos hid, if_pos hid, if_pos hid]
    rfl
  · rw [if_neg hid, if_neg hid, if_neg hid]
    rfl

/-- The payload of an event is the one of the builder. -/
theorem there_forTransport_filled {b : Builder} (there : b.payload.isNull = false)
    (identity : String) (q : Prefix) :
    ((b.filled identity).forTransport q).payload.isNull = false := by
  rw [forTransport, payload_filled]
  exact there

/-- The event that a builder makes for a transport, from the `n`-th identity on. -/
def event (b : Builder) (there : b.payload.isNull = false) (q : Prefix) (mint : Mint) (n : Nat) :
    Message :=
  ((b.filled (mint.identity n)).forTransport q).stamped (there_forTransport_filled there _ q) mint
    (n + b.drawnFor)

theorem exec_buildEvent (b : Builder) (there : b.payload.isNull = false) {q : Prefix}
    (hq : q ≠ .none) (mint : Mint) (journal : Journal) :
    (b.buildEvent q).exec mint journal =
      (.ok (b.filled (mint.identity journal.drawn), .ok (b.event there q mint journal.drawn)),
        { journal with drawn := journal.drawn + b.drawnFor + 1 }) := by
  rw [buildEvent, if_neg hq, Run.exec_bind, exec_withDefaults]
  simp only
  rw [Run.exec_bind, Run.exec_attempt, exec_build _ (there_forTransport_filled there _ q)]
  rfl

/-- Without a payload there is no event, but the builder is filled all the same. -/
theorem exec_buildEvent_of_isNull (b : Builder) (hnull : b.payload.isNull = true) {q : Prefix}
    (hq : q ≠ .none) (mint : Mint) (journal : Journal) :
    (b.buildEvent q).exec mint journal =
      (.ok (b.filled (mint.identity journal.drawn), .error .emptyPayload),
        { journal with drawn := journal.drawn + b.drawnFor }) := by
  have hnull' : ((b.filled (mint.identity journal.drawn)).forTransport q).payload.isNull = true := by
    rw [forTransport, payload_filled, hnull]
  rw [buildEvent, if_neg hq, Run.exec_bind, exec_withDefaults]
  simp only
  rw [Run.exec_bind, Run.exec_attempt, exec_build_of_isNull _ hnull']
  rfl

/-! ## The prefix of a transport -/

theorem transportKey_key (q : Prefix) (name : String) :
    transportKey q (Prefix.canonical.key name) = q.key name := by
  rw [transportKey, if_pos (Prefix.marks_key _ _), Prefix.strip_key]

theorem transportKey_of_ne {q : Prefix} {k : String} (h : Prefix.ofKey k ≠ .canonical) :
    transportKey q k = k := by
  rw [transportKey, (Prefix.marks_eq_false_iff (by decide)).2 h, if_neg Bool.false_ne_true]

theorem transportKey_of_canonical {q : Prefix} {k : String} (h : Prefix.ofKey k = .canonical) :
    transportKey q k = q.key (Prefix.canonical.strip k) := by
  rw [transportKey, if_pos ((Prefix.marks_iff_ofKey_eq (by decide)).2 h)]

theorem transportKey_inj {q : Prefix} {k k' : String} (hk : Prefix.ofKey k = .canonical)
    (hk' : Prefix.ofKey k' = .canonical) (h : transportKey q k = transportKey q k') : k = k' := by
  rw [transportKey_of_canonical hk, transportKey_of_canonical hk', Prefix.key_inj] at h
  rw [← Prefix.key_ofKey_strip k, ← Prefix.key_ofKey_strip k', hk, hk', h]

theorem mem_forTransport {b : Builder} {q : Prefix} {x : String} :
    x ∈ (b.forTransport q).headers ↔ ∃ k ∈ b.headers, transportKey q k = x := by
  rw [forTransport, Fields.mem_ofList]
  simp [Fields.mem_def, Fields.keys]

/-- The canonical form of a key under the prefix of a transport is the key that it was. -/
theorem canonicalKey_transportKey {q : Prefix} (hq : q ≠ .none) {k : String}
    (hk : Prefix.ofKey k = .none ∨ Prefix.ofKey k = .canonical) :
    canonicalKey false (transportKey q k) = k := by
  rcases hk with hnone | hcanonical
  · rw [transportKey_of_ne (by rw [hnone]; decide), canonicalKey_of_none hnone]
    rfl
  · rw [← Prefix.key_ofKey_strip k, hcanonical, transportKey_key, canonicalKey_key hq]

/-- Where all attributes are canonical, every value is found under the key of the transport. -/
theorem get?_forTransport {b : Builder} (h : b.headers.KeysUnder .canonical) {q : Prefix}
    (hq : q ≠ .none) {k : String} (hk : Prefix.ofKey k = .none ∨ Prefix.ofKey k = .canonical) :
    (b.forTransport q).headers.get? (transportKey q k) = b.headers.get? k := by
  have hinj : ∀ k ∈ b.headers.entries.map Prod.fst, ∀ k' ∈ b.headers.entries.map Prod.fst,
      transportKey q k = transportKey q k' → k = k' := by
    intro k hk k' hk' heq
    rw [← canonicalKey_transportKey hq (h k hk), ← canonicalKey_transportKey hq (h k' hk'), heq]
  by_cases hmem : k ∈ b.headers
  · rw [forTransport, Fields.get?_ofList, Fields.lookup_reverse
      (Fields.nodup_map_of_injOn hinj b.headers.nodup)]
    exact Fields.lookup_map_of_injOn hinj hmem
  · have hnot : transportKey q k ∉ (b.forTransport q).headers := by
      rw [mem_forTransport]
      rintro ⟨k', hk', hto⟩
      have hkey := canonicalKey_transportKey hq (h k' hk')
      rw [hto, canonicalKey_transportKey hq hk] at hkey
      exact hmem (hkey ▸ hk')
    rw [Fields.get?_eq_none_iff.2 hmem, Fields.get?_eq_none_iff.2 hnot]

/-- Attributes under the canonical prefix are the same attributes under that of the transport. -/
theorem get?_forTransport_canonical {b : Builder} (h : b.headers.KeysUnder .canonical) {q : Prefix}
    (hq : q ≠ .none) (name : String) :
    (b.forTransport q).headers.get? (q.key name) = b.headers.get? (Prefix.canonical.key name) := by
  rw [← transportKey_key]
  exact get?_forTransport h hq (Or.inr (Prefix.ofKey_key (by decide) name))

/-- Under the prefix of a transport comes what was canonical. -/
theorem keysUnder_forTransport {b : Builder} {q : Prefix} (hq : q ≠ .none)
    (h : ∀ k ∈ b.headers,
      Prefix.ofKey k = .none ∨ Prefix.ofKey k = .canonical ∨ Prefix.ofKey k = q) :
    (b.forTransport q).headers.KeysUnder q := by
  intro x hx
  obtain ⟨k, hk, rfl⟩ := mem_forTransport.1 hx
  by_cases hcanonical : Prefix.ofKey k = .canonical
  · rw [transportKey_of_canonical hcanonical]
    exact Or.inr (Prefix.ofKey_key hq _)
  · rw [transportKey_of_ne hcanonical]
    exact (h k hk).imp id fun hkey => hkey.resolve_left hcanonical

end Builder

theorem Header.isStamp_key {p : Prefix} (hp : p ≠ .none) (name : String) :
    isStamp (p.key name) = false := by
  rw [← Bool.not_eq_true, isStamp_iff]
  rintro (h | h)
  · exact hp (by rw [← Prefix.ofKey_key hp name, h]; rfl)
  · exact hp (by rw [← Prefix.ofKey_key hp name, h]; rfl)

namespace Builder

/-! ## The headers of an event -/

theorem keysUnder_stamped {b : Builder} {p : Prefix} (h : b.headers.KeysUnder p)
    (there : b.payload.isNull = false) (mint : Mint) (n : Nat) :
    (b.stamped there mint n).headers.KeysUnder p := by
  intro k hk
  rcases mem_stamped.1 hk with hstamp | hk
  · rcases Header.isStamp_iff.1 hstamp with rfl | rfl
    · exact Or.inl rfl
    · exact Or.inl rfl
  · exact h k hk

section Canonical

variable {b : Builder} (h : b.headers.KeysUnder .canonical) {q : Prefix} (hq : q ≠ .none)

include h hq

theorem keysUnder_event (there : b.payload.isNull = false) (mint : Mint) (n : Nat) :
    (b.event there q mint n).headers.KeysUnder q := by
  refine keysUnder_stamped (keysUnder_forTransport hq fun k hk => ?_) _ mint _
  exact (keysUnder_filled h _ k hk).imp id Or.inl

/-- Apart from its identity and its timestamp, an event has what the builder holds after it was
filled, with every attribute under the prefix of the transport. -/
theorem get?_event (there : b.payload.isNull = false) (mint : Mint) (n : Nat) {k : String}
    (hk : Prefix.ofKey k = .none ∨ Prefix.ofKey k = .canonical) (hstamp : Header.isStamp k = false) :
    (b.event there q mint n).headers.get? (transportKey q k)
      = (b.filled (mint.identity n)).headers.get? k := by
  have hkey : Header.isStamp (transportKey q k) = false := by
    rcases hk with hnone | hcanonical
    · rw [transportKey_of_ne (by rw [hnone]; decide), hstamp]
    · rw [transportKey_of_canonical hcanonical, Header.isStamp_key hq]
  rw [event, get?_stamped _ _ _ _ hkey, get?_forTransport (keysUnder_filled h _) hq hk]

/-- Brought back under the canonical prefix, an event has what the builder holds. -/
theorem get?_canonicalize_event (there : b.payload.isNull = false) (mint : Mint) (n : Nat)
    {k : String} (hstamp : Header.isStamp k = false) :
    (b.event there q mint n).headers.canonicalize.get? k
      = (b.filled (mint.identity n)).headers.get? k := by
  have hunder := keysUnder_event h hq there mint n
  by_cases hnone : Prefix.ofKey k = .none
  · rw [Fields.get?_canonicalize_of_none hnone, ← get?_event h hq there mint n (Or.inl hnone) hstamp,
      transportKey_of_ne (by rw [hnone]; decide)]
  · by_cases hcanonical : Prefix.ofKey k = .canonical
    · rw [← get?_event h hq there mint n (Or.inr hcanonical) hstamp,
        transportKey_of_canonical hcanonical, ← hunder.get?_canonicalize hq,
        Prefix.key_strip ((Prefix.marks_iff_ofKey_eq (by decide)).2 hcanonical)]
    · -- no key under a third prefix is left, and the builder holds none
      have hleft : k ∉ (b.event there q mint n).headers.canonicalize := fun hk =>
        (Fields.ofKey_of_mem_canonicalize hk).elim hcanonical fun hkey => hnone hkey.2
      have hright : k ∉ (b.filled (mint.identity n)).headers := fun hk =>
        (keysUnder_filled h _ k hk).elim hnone hcanonical
      rw [Fields.get?_eq_none_iff.2 hleft, Fields.get?_eq_none_iff.2 hright]

/-- An event has the timestamp that the builder holds. -/
theorem timestamp_event (there : b.payload.isNull = false) (mint : Mint) (n : Nat) {t : Value}
    (ht : b.headers.get? Header.timestamp = some t) (hthere : t.isNull = false) :
    (b.event there q mint n).timestamp = t := by
  have hplain : Prefix.ofKey Header.timestamp = .none := by decide
  have hfilled : (b.filled (mint.identity n)).headers.get? Header.timestamp = some t := by
    rw [get?_filled, ht, Option.some_or]
  refine timestamp_stamped ?_ hthere _ mint _
  rw [← hfilled, ← get?_forTransport (keysUnder_filled h _) hq (Or.inl hplain),
    transportKey_of_ne (by rw [hplain]; decide)]

end Canonical

end Builder

end CloudEvents
