import CloudEvents.Message.Builder
import CloudEvents.Proofs.Attribute.Canonicalize
import CloudEvents.Proofs.Value
/-!
# What a builder makes

Making a message from a payload that is there cannot fail: it draws one identity, and the message
has the headers of the builder except where they name the identity or the timestamp. So what a
conversion hands out is told by the headers of its last builder, and those by what was set one
after the other.

## Main statements

* `Builder.exec_build`: the message that a builder makes, and what making it leaves behind;
* `Builder.get?_stamped`: its headers;
* `Builder.get?_setEntries`: under every name the entry decides if there is one, and null takes
  away.
-/

namespace CloudEvents

namespace Header

theorem isStamp_iff {k : String} : isStamp k = true ↔ k = identity ∨ k = timestamp := by
  simp [isStamp]

@[simp] theorem timestamp_ne_identity : timestamp ≠ identity := by decide

end Header

namespace Message

theorem get?_headers (m : Message) (k : String) :
    m.headers.get? k =
      if k = Header.timestamp then some m.timestamp
      else if k = Header.identity then some (.text m.identity) else m.given.get? k := by
  rw [headers, Fields.get?_insert, Fields.get?_insert]

theorem mem_headers {m : Message} {k : String} :
    k ∈ m.headers ↔ Header.isStamp k = true ∨ k ∈ m.given := by
  rw [Fields.mem_def, keys_headers, Header.isStamp_iff]
  simp [Fields.mem_def, or_comm]

/-- A message is made of a payload that is there, with the next identity. -/
theorem exec_of {payload : Value} (there : payload.isNull = false) (headers : Fields Value)
    (timestamp : Value) (mint : Mint) (journal : Journal) :
    (Message.of payload headers timestamp).exec mint journal
      = (.ok (stamp payload there headers (mint.identity journal.drawn) timestamp mint.now),
          { journal with drawn := journal.drawn + 1 }) := by
  rw [Message.of, dif_pos there]
  rfl

theorem exec_of_of_isNull {payload : Value} (hnull : payload.isNull = true)
    (headers : Fields Value) (timestamp : Value) (mint : Mint) (journal : Journal) :
    (Message.of payload headers timestamp).exec mint journal = (.error .emptyPayload, journal) := by
  rw [Message.of, dif_neg (by rw [hnull]; exact fun h => Bool.noConfusion h)]
  rfl

end Message

namespace Builder

/-! ## Making a message -/

/-- The message that is made with one of the identities of a mint. -/
def stamped (b : Builder) (there : b.payload.isNull = false) (mint : Mint) (n : Nat) : Message :=
  Message.stamp b.payload there b.headers (mint.identity n) (b.headers.value Header.timestamp)
    mint.now

@[simp] theorem payload_stamped (b : Builder) (there : b.payload.isNull = false) (mint : Mint)
    (n : Nat) : (b.stamped there mint n).payload = b.payload := rfl

@[simp] theorem identity_stamped (b : Builder) (there : b.payload.isNull = false) (mint : Mint)
    (n : Nat) : (b.stamped there mint n).identity = mint.identity n := rfl

theorem exec_build (b : Builder) (there : b.payload.isNull = false) (mint : Mint)
    (journal : Journal) :
    b.build.exec mint journal
      = (.ok (b.stamped there mint journal.drawn),
          { journal with drawn := journal.drawn + 1 }) :=
  Message.exec_of there b.headers (b.headers.value Header.timestamp) mint journal

theorem exec_build_of_isNull (b : Builder) (hnull : b.payload.isNull = true) (mint : Mint)
    (journal : Journal) : b.build.exec mint journal = (.error .emptyPayload, journal) :=
  Message.exec_of_of_isNull hnull b.headers (b.headers.value Header.timestamp) mint journal

theorem get?_given_stamped (b : Builder) (there : b.payload.isNull = false) (mint : Mint) (n : Nat)
    (k : String) :
    (b.stamped there mint n).given.get? k
      = if Header.isStamp k then none else b.headers.get? k := by
  rw [stamped, Message.stamp, Fields.get?_filterKeys]
  cases Header.isStamp k <;> rfl

/-- A message that was made has the headers of its builder under all names but those of its own two
headers. -/
theorem get?_stamped (b : Builder) (there : b.payload.isNull = false) (mint : Mint) (n : Nat)
    {k : String} (hk : Header.isStamp k = false) :
    (b.stamped there mint n).headers.get? k = b.headers.get? k := by
  have hne : k ≠ Header.identity ∧ k ≠ Header.timestamp := by
    rw [← not_or, ← Header.isStamp_iff, hk]
    exact Bool.false_ne_true
  rw [Message.get?_headers, if_neg hne.2, if_neg hne.1, get?_given_stamped, hk]
  rfl

theorem timestamp_stamped {b : Builder} {v : Value} (h : b.headers.get? Header.timestamp = some v)
    (hv : v.isNull = false) (there : b.payload.isNull = false) (mint : Mint) (n : Nat) :
    (b.stamped there mint n).timestamp = v := by
  rw [stamped, Message.stamp, Fields.value_of_get? h]
  simp [hv]

/-- If the builder holds a timestamp, the identity is the only header that is not the one of the
builder. -/
theorem get?_stamped_of_timestamp {b : Builder} {t : Value}
    (ht : b.headers.get? Header.timestamp = some t) (hthere : t.isNull = false)
    (there : b.payload.isNull = false) (mint : Mint) (n : Nat) {k : String}
    (hk : k ≠ Header.identity) : (b.stamped there mint n).headers.get? k = b.headers.get? k := by
  by_cases hts : k = Header.timestamp
  · rw [hts, Message.get?_headers, if_pos rfl, timestamp_stamped ht hthere, ht]
  · have hstamp : Header.isStamp k = false := by simp [Header.isStamp, hk, hts]
    exact get?_stamped b there mint n hstamp

/-- The keys of a message that was made are its own two and those of the builder. -/
theorem mem_stamped {b : Builder} {there : b.payload.isNull = false} {mint : Mint} {n : Nat}
    {k : String} :
    k ∈ (b.stamped there mint n).headers ↔ Header.isStamp k = true ∨ k ∈ b.headers := by
  rw [Message.mem_headers, Fields.mem_iff_isSome_get?, get?_given_stamped]
  cases hk : Header.isStamp k with
  | true => simp
  | false => simp [Fields.mem_iff_isSome_get?]

/-- The keys of a message that was made are those of the builder, but for its own two, which come
last. -/
theorem keys_stamped (b : Builder) (there : b.payload.isNull = false) (mint : Mint) (n : Nat) :
    (b.stamped there mint n).headers.keys =
      (b.headers.keys.filter fun k => !Header.isStamp k)
        ++ [Header.identity, Header.timestamp] := by
  rw [Message.keys_headers, stamped, Message.stamp, Fields.keys_filterKeys]

@[simp] theorem get?_identity_stamped (b : Builder) (there : b.payload.isNull = false) (mint : Mint)
    (n : Nat) : (b.stamped there mint n).headers.get? Header.identity
      = some (.text (mint.identity n)) := by
  rw [Message.get?_headers, if_neg (by decide), if_pos rfl, identity_stamped]

/-! ## Setting headers -/

@[simp] theorem payload_set (b : Builder) (name : String) (v : Value) :
    (b.set name v).payload = b.payload := rfl

theorem keys_set (b : Builder) (name : String) {v : Value} (hv : v.isNull = false) :
    (b.set name v).headers.keys =
      if name ∈ b.headers then b.headers.keys else b.headers.keys ++ [name] := by
  rw [set, hv, if_neg Bool.false_ne_true]
  exact Fields.keys_insert b.headers name v

theorem get?_set (b : Builder) (name : String) (v : Value) (k : String) :
    (b.set name v).headers.get? k = if k = name then v.toOption else b.headers.get? k := by
  rw [set, Value.toOption]
  by_cases hv : v.isNull = true
  · simp [hv]
  · simp [hv]

theorem get?_setIfAbsent (b : Builder) (name : String) (v : Value) (k : String) :
    (b.setIfAbsent name v).headers.get? k
      = (b.headers.get? k).or (if k = name then v.toOption else none) := by
  rw [setIfAbsent]
  by_cases hname : name ∈ b.headers
  · rw [if_pos hname]
    by_cases hk : k = name
    · obtain ⟨w, hw⟩ := Fields.exists_get?_of_mem hname
      rw [hk, hw, Option.some_or]
    · rw [if_neg hk, Option.or_none]
  · rw [if_neg hname, get?_set]
    by_cases hk : k = name
    · rw [if_pos hk, if_pos hk, hk, Fields.get?_eq_none_iff.2 hname, Option.none_or]
    · rw [if_neg hk, if_neg hk, Option.or_none]

@[simp] theorem payload_setIfAbsent (b : Builder) (name : String) (v : Value) :
    (b.setIfAbsent name v).payload = b.payload := by
  rw [setIfAbsent]
  split <;> rfl

@[simp] theorem payload_setEntries (b : Builder) (entries : List (String × Value)) :
    (b.setEntries entries).payload = b.payload := by
  induction entries generalizing b with
  | nil => rfl
  | cons e rest ih => exact ih (b.set e.1 e.2)

/-- After a row of entries each of their names stands for its value, or for nothing if that is null;
all other names are as before. -/
theorem get?_setEntries {entries : List (String × Value)} (h : (entries.map Prod.fst).Nodup)
    (b : Builder) (k : String) :
    (b.setEntries entries).headers.get? k =
      match entries.lookup k with
      | some v => v.toOption
      | none => b.headers.get? k := by
  induction entries generalizing b with
  | nil => rfl
  | cons e rest ih =>
    rw [List.map_cons, List.nodup_cons] at h
    have hstep : b.setEntries (e :: rest) = (b.set e.1 e.2).setEntries rest := rfl
    rw [hstep, ih h.2, Fields.lookup_cons_eq, get?_set]
    by_cases hk : k = e.1
    · subst hk
      rw [Fields.lookup_of_not_mem h.1]
      simp
    · simp [hk]

/-- Setting a header makes no other key than its own. -/
theorem mem_set {b : Builder} {name : String} {v : Value} {k : String}
    (h : k ∈ (b.set name v).headers) : k = name ∨ k ∈ b.headers := by
  rw [Fields.mem_iff_isSome_get?, get?_set] at h
  by_cases hk : k = name
  · exact Or.inl hk
  · rw [if_neg hk] at h
    exact Or.inr (Fields.mem_iff_isSome_get?.2 h)

theorem mem_setEntries {entries : List (String × Value)} {b : Builder} {k : String}
    (h : k ∈ (b.setEntries entries).headers) : k ∈ entries.map Prod.fst ∨ k ∈ b.headers := by
  induction entries generalizing b with
  | nil => exact Or.inr h
  | cons e rest ih =>
    rw [List.map_cons, List.mem_cons]
    rcases ih (b := b.set e.1 e.2) h with hrest | hset
    · exact Or.inl (Or.inr hrest)
    · rcases mem_set hset with hk | hb
      · exact Or.inl (Or.inl hk)
      · exact Or.inr hb

end Builder

/-! ## Orders -/

namespace Message

/-- An order as an event in binary mode under some prefix, with further headers. -/
def order (p : Prefix) (others : List (String × Value)) : Message :=
  stamp (.text "hello") (Value.isNull_text _)
    (Fields.ofList ([(p.key "specversion", .text "1.0"), (p.key "type", .text "order.created"),
      (p.key "source", .text "/orders")] ++ others)) "1" (.int 0) 0

variable {p : Prefix} {others : List (String × Value)} {name : String} {v : Value}

/-- The headers of an order are three texts as attributes, the further headers, and its own two. -/
theorem get?_order {k : String} (h : (order p others).headers.get? k = some v) :
    (∃ name ∈ ["specversion", "type", "source"], k = p.key name ∧ ∃ s, v = .text s) ∨
      (k, v) ∈ others ∨ k = Header.identity ∧ v = .text "1" ∨
      k = Header.timestamp ∧ v = .int 0 := by
  rw [get?_headers] at h
  split at h
  · rename_i hk
    exact Or.inr (Or.inr (Or.inr ⟨hk, (Option.some.inj h).symm⟩))
  split at h
  · rename_i hk
    exact Or.inr (Or.inr (Or.inl ⟨hk, (Option.some.inj h).symm⟩))
  rw [order, stamp, Fields.get?_filterKeys] at h
  split at h
  · have hmem := Fields.mem_of_mem_entries_ofList (Fields.get?_eq_some_iff.1 h)
    rcases List.mem_append.1 hmem with hmem | hmem
    · simp only [List.mem_cons, Prod.mk.injEq, List.not_mem_nil, or_false] at hmem
      refine Or.inl ?_
      rcases hmem with ⟨hk, hv⟩ | ⟨hk, hv⟩ | ⟨hk, hv⟩
      · exact ⟨_, by decide, hk, _, hv⟩
      · exact ⟨_, by decide, hk, _, hv⟩
      · exact ⟨_, by decide, hk, _, hv⟩
    · exact Or.inr (Or.inl hmem)
  · cases h

/-- An attribute of an order is one of the three, or comes from the further headers. -/
theorem get?_key_order (hp : p ≠ .none)
    (h : (order p others).headers.get? (p.key name) = some v) :
    (name ∈ ["specversion", "type", "source"] ∧ ∃ s, v = .text s) ∨ (p.key name, v) ∈ others := by
  have hkey := Prefix.ofKey_key hp name
  rcases get?_order h with ⟨name', hname, hk, hv⟩ | hmem | ⟨hk, -⟩ | ⟨hk, -⟩
  · exact Or.inl ⟨Prefix.key_inj.1 hk ▸ hname, hv⟩
  · exact Or.inr hmem
  · rw [hk] at hkey
    exact absurd hkey.symm hp
  · rw [hk] at hkey
    exact absurd hkey.symm hp

theorem keysUnder_order (keys : List String) (hkeys : others.map Prod.fst = keys)
    (hothers : ∀ k ∈ keys, Prefix.ofKey k = .none ∨ Prefix.ofKey k = .canonical) :
    (order .canonical others).headers.KeysUnder .canonical := by
  subst hkeys
  intro k hk
  obtain ⟨v, hv⟩ := Fields.exists_get?_of_mem hk
  rcases get?_order hv with ⟨name, -, rfl, -⟩ | hmem | ⟨rfl, -⟩ | ⟨rfl, -⟩
  · exact Or.inr (Prefix.ofKey_key (by decide) name)
  · exact hothers k (List.mem_map_of_mem hmem)
  · exact Or.inl rfl
  · exact Or.inl rfl

/-- No bare name of an order begins with a prefix or is one of the data, if that is so for the
further headers. -/
theorem names_order (keys : List String) (hkeys : others.map Prod.fst = keys)
    (hothers : ∀ k ∈ keys, Prefix.ofKey k = .none ∨
      Prefix.ofKey k = .canonical ∧ Prefix.ofKey (Prefix.canonical.strip k) = .none ∧
        Prefix.canonical.strip k ≠ Attribute.data.name ∧
        Prefix.canonical.strip k ≠ Attribute.dataBase64.name)
    (h : Prefix.canonical.key name ∈ (order .canonical others).headers.canonicalize) :
    Prefix.ofKey name = .none ∧ name ≠ Attribute.data.name ∧ name ≠ Attribute.dataBase64.name := by
  have hunder := keysUnder_order keys hkeys fun k hk => (hothers k hk).imp_right And.left
  subst hkeys
  rw [hunder.canonicalize_eq_self] at h
  obtain ⟨v, hv⟩ := Fields.exists_get?_of_mem h
  rcases get?_key_order (by decide) hv with ⟨hname, -⟩ | hmem
  · have hown : ∀ name ∈ ["specversion", "type", "source"], Prefix.ofKey name = .none ∧
        name ≠ Attribute.data.name ∧ name ≠ Attribute.dataBase64.name := by decide
    exact hown name hname
  · rcases hothers _ (List.mem_map_of_mem hmem) with hnone | ⟨-, hstrip⟩
    · rw [Prefix.ofKey_key (by decide)] at hnone
      cases hnone
    · rwa [Prefix.strip_key] at hstrip

end Message

end CloudEvents
