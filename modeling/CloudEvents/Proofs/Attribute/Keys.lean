import CloudEvents.Proofs.Attribute.Order
/-!
# The canonical keys of a mapping

`canonicalize` takes keys out of the mapping that it goes through and puts others into it. What it
leaves is told by the keys as they stood at first.

* Every key that is still to be taken out is there when its turn comes: the keys that a move makes
  are canonical, and a canonical key is never taken out. So a loop that has to stop at a missing key
  (`canonicalizeKey?`) never stops.
* The keys that are their own canonical form come first, and after them the new ones, each at the
  place of the first key that became it.
* Two keys that stand for one attribute (`Denotes`) get the same canonical key, and so only one of
  them is left.

## Main statements

* `Fields.foldlM_canonicalizeKey?`: the loop goes through;
* `Fields.keys_canonicalize`: the keys in order;
* `Fields.canonicalize_keys_and_values`: the keys and the values, and that a second pass changes
  nothing.
-/

namespace CloudEvents

universe u

/-! ## What keys stand for -/

/-- A key stands for the attribute with a name: it is the name under a recognized prefix, or, where
all keys are attributes, the name itself, which has no such prefix then. -/
inductive Denotes (forceAll : Bool) : String → String → Prop where
  /-- The name is under `ce-`. -/
  | canonical (name : String) : Denotes forceAll ("ce-" ++ name) name
  /-- The name is under `ce_`. -/
  | kafka (name : String) : Denotes forceAll ("ce_" ++ name) name
  /-- The name is under `cloudEvents:`. -/
  | amqp (name : String) : Denotes forceAll ("cloudEvents:" ++ name) name
  /-- The name is bare. -/
  | bare {name : String} (forced : forceAll = true)
    (plain : ∀ text ∈ ["ce-", "ce_", "cloudEvents:"], ¬text.toList <+: name.toList) :
    Denotes forceAll name name

/-- A key has no prefix if it begins with none of the three texts. -/
theorem Prefix.ofKey_eq_none_iff {k : String} :
    ofKey k = none ↔ ∀ text ∈ ["ce-", "ce_", "cloudEvents:"], ¬text.toList <+: k.toList := by
  constructor
  · intro h text htext hbegins
    have hmarks : ∀ p : Prefix, p ≠ none → ¬p.text.toList <+: k.toList := by
      intro p hp hbegins
      have hkey := (marks_iff_ofKey_eq hp).1 (List.isPrefixOf_iff_prefix.2 hbegins)
      exact hp (hkey.symm.trans h)
    simp only [List.mem_cons, List.not_mem_nil, or_false] at htext
    rcases htext with rfl | rfl | rfl
    · exact hmarks .canonical (by decide) hbegins
    · exact hmarks .kafka (by decide) hbegins
    · exact hmarks .amqp (by decide) hbegins
  · intro h
    have hbegins : (ofKey k).text.toList <+: k.toList :=
      List.isPrefixOf_iff_prefix.1 (marks_ofKey k)
    cases hk : ofKey k with
    | none => rfl
    | canonical =>
      rw [hk] at hbegins
      exact absurd hbegins (h "ce-" (by simp))
    | kafka =>
      rw [hk] at hbegins
      exact absurd hbegins (h "ce_" (by simp))
    | amqp =>
      rw [hk] at hbegins
      exact absurd hbegins (h "cloudEvents:" (by simp))

theorem Denotes.key (forceAll : Bool) {p : Prefix} (hp : p ≠ .none) (name : String) :
    Denotes forceAll (p.key name) name := by
  cases p with
  | none => exact absurd rfl hp
  | canonical => exact .canonical name
  | kafka => exact .kafka name
  | amqp => exact .amqp name

/-- A key that stands for an attribute becomes its canonical key. -/
theorem Denotes.canonicalKey_eq {forceAll : Bool} {k name : String} (h : Denotes forceAll k name) :
    canonicalKey forceAll k = "ce-" ++ name := by
  cases h with
  | canonical => exact canonicalKey_key (p := .canonical) (by decide) name forceAll
  | kafka => exact canonicalKey_key (p := .kafka) (by decide) name forceAll
  | amqp => exact canonicalKey_key (p := .amqp) (by decide) name forceAll
  | bare forced plain =>
    rw [canonicalKey_of_none (Prefix.ofKey_eq_none_iff.2 plain), forced]
    rfl

/-- A key that stands for no attribute stays. -/
theorem canonicalKey_of_not_denotes {forceAll : Bool} {k : String}
    (h : ∀ name, ¬Denotes forceAll k name) : canonicalKey forceAll k = k := by
  by_cases hk : Prefix.ofKey k = .none
  · rw [canonicalKey_of_none hk]
    cases forceAll with
    | false => rfl
    | true => exact absurd (.bare rfl (Prefix.ofKey_eq_none_iff.1 hk)) (h k)
  · have hdenotes := Denotes.key forceAll hk ((Prefix.ofKey k).strip k)
    rw [Prefix.key_ofKey_strip] at hdenotes
    exact absurd hdenotes (h _)

namespace Fields

variable {α : Type u} {forceAll : Bool}

/-! ## The loop -/

/-- Brings one key to its canonical form, if the key is there or stays as it is. -/
def canonicalizeKey? (forceAll : Bool) (f : Fields α) (k : String) : Option (Fields α) :=
  if canonicalKey forceAll k = k then some f
  else (f.get? k).map fun v => (f.erase k).insert (canonicalKey forceAll k) v

theorem canonicalizeKey?_eq_some {f : Fields α} {k : String} (hk : k ∈ f) :
    canonicalizeKey? forceAll f k = some (canonicalizeKey forceAll f k) := by
  obtain ⟨v, hv⟩ := exists_get?_of_mem hk
  rw [canonicalizeKey?, canonicalizeKey, rename, hv]
  split <;> rfl

/-- Keys that are all there can be brought to their canonical forms one after another. The induction
is on the keys that are left: the present move takes out none of them. -/
theorem foldlM_canonicalizeKey?_of_mem {ks : List String} {f : Fields α} (hnodup : ks.Nodup)
    (hmem : ∀ k ∈ ks, k ∈ f) :
    ks.foldlM (canonicalizeKey? forceAll) f = some (ks.foldl (canonicalizeKey forceAll) f) := by
  induction ks generalizing f with
  | nil => rfl
  | cons k rest ih =>
    rw [List.nodup_cons] at hnodup
    have hk : k ∈ f := hmem k List.mem_cons_self
    rw [List.foldlM_cons, canonicalizeKey?_eq_some hk, List.foldl_cons]
    refine ih hnodup.2 fun x hx => ?_
    exact mem_canonicalizeKey_of_ne hk (hmem x (List.mem_cons_of_mem k hx))
      fun h => hnodup.1 (h ▸ hx)

/-- No key is missing when it is to be taken out. -/
theorem foldlM_canonicalizeKey? (forceAll : Bool) (f : Fields α) :
    f.keys.foldlM (canonicalizeKey? forceAll) f = some (f.canonicalize forceAll) :=
  foldlM_canonicalizeKey?_of_mem f.nodup_keys fun _ hk => hk

/-! ## The keys in order -/

theorem map_fst_staying (f : Fields α) :
    (staying forceAll f.entries).map Prod.fst
      = f.keys.filter fun k => canonicalKey forceAll k == k := by
  rw [staying, keys, List.filter_map]
  rfl

theorem map_fst_moved (f : Fields α) :
    (moved forceAll f.entries).map Prod.fst
      = (f.keys.filter fun k => canonicalKey forceAll k != k).map (canonicalKey forceAll) := by
  rw [moved, keys, List.filter_map, List.map_map, List.map_map]
  rfl

/-- The keys that are new are the canonical forms that were not there. -/
theorem removeAll_map_fst_moved (f : Fields α) :
    ((moved forceAll f.entries).map Prod.fst).removeAll
        ((staying forceAll f.entries).map Prod.fst)
      = (f.keys.map (canonicalKey forceAll)).filter fun c => decide (c ∉ f) := by
  have hstays : ∀ k, canonicalKey forceAll k
      ∈ f.keys.filter (fun k => canonicalKey forceAll k == k) ↔ canonicalKey forceAll k ∈ f := by
    intro k
    simp [mem_def]
  rw [map_fst_staying, map_fst_moved, List.removeAll, List.filter_map, List.filter_map,
    List.filter_filter]
  refine congrArg _ (List.filter_congr fun k hk => ?_)
  have hk' : k ∈ f := hk
  by_cases hfix : canonicalKey forceAll k = k
  · simp [hfix, hk']
  · have hmoves := hstays k
    simp only [Function.comp_apply, List.elem_eq_mem, bne_iff_ne.2 hfix, hmoves, Bool.and_true]
    exact (decide_not ..).symm

/-- The keys that stay come first, and after them the new ones, each at the place of the first key
that became it. -/
theorem keys_canonicalize (forceAll : Bool) (f : Fields α) :
    (f.canonicalize forceAll).keys =
      (f.keys.filter fun k => canonicalKey forceAll k == k) ++
        ((f.keys.map (canonicalKey forceAll)).filter fun c => decide (c ∉ f)).eraseDups := by
  have hnodup : ((staying forceAll f.entries).map Prod.fst).Nodup := by
    rw [map_fst_staying]
    exact f.nodup_keys.filter _
  have hstays : ((staying forceAll f.entries).map Prod.fst).eraseDups
      = (staying forceAll f.entries).map Prod.fst := by
    rw [← keys_ofList, keys, entries_ofList hnodup]
  rw [canonicalize_eq_ofList, keys_ofList, List.map_append, List.eraseDups_append, hstays,
    removeAll_map_fst_moved, map_fst_staying]

/-! ## One pass and a second one -/

/-- Every key that results is its own canonical form, with or without force. -/
theorem canonicalKey_of_mem_canonicalize {f : Fields α} {c : String}
    (h : c ∈ f.canonicalize forceAll) {again : Bool} (hagain : again = false ∨ again = forceAll) :
    canonicalKey again c = c := by
  refine canonicalKey_eq_self_iff.2 ((ofKey_of_mem_canonicalize h).imp_right fun hplain => ?_)
  refine ⟨?_, hplain.2⟩
  rcases hagain with hfalse | hsame
  · exact hfalse
  · rw [hsame, hplain.1]

/-- **Keys and values of a canonical mapping.**  No key is missing when it is to be taken out. A key
that stands for an attribute becomes the name under `ce-`, and every other key stays. The keys that
stay come first, and after them the new ones, each at the place of the first key that became it.
Under a key stands the value of the last other key that became it, and its own value if there is
none. A second pass without force, or with the same force, changes nothing, and of the keys that
stand for one attribute only one is left. -/
theorem canonicalize_keys_and_values (forceAll : Bool) (f : Fields α) :
    let r := f.canonicalize forceAll
    f.keys.foldlM (canonicalizeKey? forceAll) f = some r ∧
    (∀ k name, Denotes forceAll k name → canonicalKey forceAll k = "ce-" ++ name) ∧
    (∀ k, (∀ name, ¬Denotes forceAll k name) → canonicalKey forceAll k = k) ∧
    (∀ c, c ∈ r ↔ ∃ k ∈ f, canonicalKey forceAll k = c) ∧
    r.keys = (f.keys.filter fun k => canonicalKey forceAll k == k) ++
      ((f.keys.map (canonicalKey forceAll)).filter fun c => decide (c ∉ f)).eraseDups ∧
    (∀ c ∈ r, r.get? c =
      match (f.keys.filter fun k => canonicalKey forceAll k == c && k != c).getLast? with
      | some k => f.get? k
      | none => f.get? c) ∧
    r.canonicalize = r ∧ r.canonicalize forceAll = r ∧
    ∀ name k k', Denotes forceAll k name → Denotes forceAll k' name → k ∈ r → k' ∈ r →
      k = k' := by
  intro r
  refine ⟨foldlM_canonicalizeKey? forceAll f, fun k name h => h.canonicalKey_eq,
    fun k h => canonicalKey_of_not_denotes h, fun c => mem_canonicalize,
    keys_canonicalize forceAll f, fun c hc => ?_, ?_, ?_, fun name k k' hk hk' hmem hmem' => ?_⟩
  · have hfix := canonicalKey_of_mem_canonicalize hc (Or.inr rfl)
    rw [get?_canonicalize, if_pos hfix]
    rfl
  · exact canonicalize_eq_self fun c hc => canonicalKey_of_mem_canonicalize hc (Or.inl rfl)
  · exact canonicalize_eq_self fun c hc => canonicalKey_of_mem_canonicalize hc (Or.inr rfl)
  · rw [← canonicalKey_of_mem_canonicalize hmem (Or.inr rfl), hk.canonicalKey_eq,
      ← hk'.canonicalKey_eq, canonicalKey_of_mem_canonicalize hmem' (Or.inr rfl)]

/-- Two attributes under all prefixes, one of them canonical already. -/
def crossing : Fields Nat :=
  ofList [("ce_a", 1), ("x", 2), ("ce-a", 3), ("cloudEvents:b", 4), ("ce_b", 5)]

/-- The canonical key keeps its place and loses its value, and of two foreign keys the first gives
the place and the last the value. -/
theorem canonicalize_keys_and_values_crossing :
    crossing.canonicalize.keys = ["x", "ce-a", "ce-b"] ∧
      crossing.canonicalize.get? "ce-a" = some 1 ∧ crossing.canonicalize.get? "ce-b" = some 5 ∧
      crossing.canonicalize.canonicalize = crossing.canonicalize ∧
      ("ce-b" ∈ crossing.canonicalize → "ce_b" ∉ crossing.canonicalize) := by
  obtain ⟨-, -, -, hmem, hkeys, hvalues, hagain, -, honly⟩ :=
    canonicalize_keys_and_values false crossing
  have ha : "ce-a" ∈ crossing.canonicalize := (hmem "ce-a").2 ⟨"ce-a", by decide, by decide⟩
  have hb : "ce-b" ∈ crossing.canonicalize := (hmem "ce-b").2 ⟨"ce_b", by decide, by decide⟩
  refine ⟨hkeys.trans (by decide), (hvalues "ce-a" ha).trans (by decide),
    (hvalues "ce-b" hb).trans (by decide), hagain, fun hcanonical hkafka => ?_⟩
  exact absurd (honly "b" "ce-b" "ce_b" (.canonical "b") (.kafka "b") hcanonical hkafka) (by decide)

end Fields

end CloudEvents
