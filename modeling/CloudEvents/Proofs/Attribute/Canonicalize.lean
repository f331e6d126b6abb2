import CloudEvents.Attribute.Headers
import CloudEvents.Proofs.Fields
import Mathlib.Tactic.ByContra
/-!
# What canonical keys hold

`canonicalize` moves one key after the other, and a move may land on a key that is there or that an
earlier move has made. The values that result are nevertheless told by the headers alone.

* A canonical key is fixed by `canonicalKey`, so no key that a move makes is moved again, and a key
  that is still to be moved keeps its value until then.
* Under a fixed key stands the value of the last key that was moved there (`lastMoved?`), and its
  own value if none was. No other key is left.

If no two keys have the same canonical form, every value is found under the canonical form of its
key (`get?_canonicalize_of_injOn`).
-/

namespace CloudEvents

universe u

namespace Prefix

/-- A name under a recognized prefix belongs to that prefix: none of the texts starts another. -/
theorem ofKey_key {p : Prefix} (hp : p ≠ none) (name : String) : ofKey (p.key name) = p := by
  cases p with
  | none => exact absurd rfl hp
  | canonical => simp [ofKey, recognized, marks, text]
  | kafka => simp [ofKey, recognized, marks, text, List.isPrefixOf]
  | amqp => simp [ofKey, recognized, marks, text, List.isPrefixOf]

theorem marks_iff_ofKey_eq {p : Prefix} (hp : p ≠ none) {k : String} :
    p.marks k = true ↔ ofKey k = p := by
  constructor
  · intro h
    rw [← key_strip h, ofKey_key hp]
  · intro h
    rw [← h]
    exact marks_ofKey k

theorem marks_eq_false_iff {p : Prefix} (hp : p ≠ none) {k : String} :
    p.marks k = false ↔ ofKey k ≠ p := by
  rw [← Bool.not_eq_true, marks_iff_ofKey_eq hp]

/-- A key is its bare name under its own prefix. -/
theorem key_ofKey_strip (k : String) : (ofKey k).key ((ofKey k).strip k) = k :=
  key_strip (marks_ofKey k)

theorem key_inj {p : Prefix} {a b : String} : p.key a = p.key b ↔ a = b := by
  constructor
  · intro h
    rw [← p.strip_key a, h, strip_key]
  · exact congrArg p.key

end Prefix

/-- An attribute is told by its name. -/
theorem Attribute.name_inj {a b : Attribute} : a.name = b.name ↔ a = b := by
  constructor
  · intro h
    cases a <;> cases b <;> first | rfl | exact absurd h (by decide)
  · exact congrArg name

theorem Attribute.canonical_key_name (a : Attribute) : Prefix.canonical.key a.name = a.key := rfl

/-! ## Canonical keys -/

/-- A key without a prefix stays, or becomes the bare name of an attribute. -/
theorem canonicalKey_of_none {k : String} (h : Prefix.ofKey k = .none) (forceAll : Bool) :
    canonicalKey forceAll k = if forceAll then Prefix.canonical.key k else k := by
  rw [canonicalKey, h]

/-- A name under any recognized prefix goes under the canonical one. -/
theorem canonicalKey_key {p : Prefix} (hp : p ≠ .none) (name : String) (forceAll : Bool) :
    canonicalKey forceAll (p.key name) = Prefix.canonical.key name := by
  rw [canonicalKey, Prefix.ofKey_key hp]
  cases p with
  | none => exact absurd rfl hp
  | canonical => rfl
  | kafka => simp
  | amqp => simp

theorem canonicalKey_of_marks {k : String} (h : Prefix.canonical.marks k = true)
    (forceAll : Bool) : canonicalKey forceAll k = k := by
  rw [← Prefix.key_strip h, canonicalKey_key (by decide)]

/-- The canonical form of a key is canonical unless the key has no prefix and keeps none. -/
theorem marks_canonicalKey {k : String} {forceAll : Bool}
    (h : forceAll = true ∨ Prefix.ofKey k ≠ .none) :
    Prefix.canonical.marks (canonicalKey forceAll k) = true := by
  by_cases hk : Prefix.ofKey k = .none
  · have hforce : forceAll = true := h.resolve_right fun hne => hne hk
    rw [canonicalKey_of_none hk, if_pos hforce, Prefix.marks_key]
  · rw [← Prefix.key_ofKey_strip k, canonicalKey_key hk, Prefix.marks_key]

/-- Nothing but the canonical prefix is left in the canonical form of a key. -/
theorem ofKey_canonicalKey (forceAll : Bool) (k : String) :
    Prefix.ofKey (canonicalKey forceAll k) = .canonical
      ∨ forceAll = false ∧ Prefix.ofKey (canonicalKey forceAll k) = .none := by
  by_cases h : forceAll = true ∨ Prefix.ofKey k ≠ .none
  · exact Or.inl ((Prefix.marks_iff_ofKey_eq (by decide)).1 (marks_canonicalKey h))
  · rw [not_or, not_not, Bool.not_eq_true] at h
    rw [canonicalKey_of_none h.2, h.1]
    exact Or.inr ⟨rfl, h.2⟩

@[simp] theorem canonicalKey_canonicalKey (forceAll : Bool) (k : String) :
    canonicalKey forceAll (canonicalKey forceAll k) = canonicalKey forceAll k := by
  rcases ofKey_canonicalKey forceAll k with h | ⟨hforce, h⟩
  · exact canonicalKey_of_marks ((Prefix.marks_iff_ofKey_eq (by decide)).2 h) forceAll
  · rw [canonicalKey_of_none h, hforce]
    rfl

/-- A key that is its own canonical form has the canonical prefix, or none that would be given to
it. -/
theorem canonicalKey_eq_self_iff {forceAll : Bool} {k : String} :
    canonicalKey forceAll k = k
      ↔ Prefix.ofKey k = .canonical ∨ forceAll = false ∧ Prefix.ofKey k = .none := by
  constructor
  · intro h
    rw [← h]
    exact ofKey_canonicalKey forceAll k
  · rintro (h | ⟨hforce, h⟩)
    · exact canonicalKey_of_marks ((Prefix.marks_iff_ofKey_eq (by decide)).2 h) forceAll
    · rw [canonicalKey_of_none h, hforce]
      rfl

/-- A bare name, and the name under the two foreign prefixes, get the same canonical key. -/
theorem eq_or_eq_key_of_canonicalKey {k name : String}
    (h : canonicalKey true k = Prefix.canonical.key name) :
    k = name ∨ ∃ p, p ≠ .none ∧ k = Prefix.key p name := by
  by_cases hk : Prefix.ofKey k = .none
  · rw [canonicalKey_of_none hk, if_pos rfl, Prefix.key_inj] at h
    exact Or.inl h
  · refine Or.inr ⟨Prefix.ofKey k, hk, ?_⟩
    rw [← Prefix.key_ofKey_strip k, canonicalKey_key hk, Prefix.key_inj] at h
    rw [← h, Prefix.key_ofKey_strip]

namespace Fields

variable {α : Type u}

/-! ## Values under canonical keys -/

/-- Of some keys the last one that is moved to a key. -/
def lastMoved? (forceAll : Bool) (ks : List String) (c : String) : Option String :=
  (ks.filter fun k => canonicalKey forceAll k == c && k != c).getLast?

theorem lastMoved?_cons (forceAll : Bool) (k : String) (ks : List String) (c : String) :
    lastMoved? forceAll (k :: ks) c
      = (lastMoved? forceAll ks c).or
          (if canonicalKey forceAll k = c ∧ k ≠ c then some k else none) := by
  rw [lastMoved?, lastMoved?, List.filter_cons]
  by_cases h : canonicalKey forceAll k = c ∧ k ≠ c
  · rw [if_pos (by simpa using h), if_pos h, List.getLast?_cons]
    cases (ks.filter fun k => canonicalKey forceAll k == c && k != c).getLast? <;> rfl
  · rw [if_neg (by simpa using h), if_neg h, Option.or_none]

theorem of_lastMoved?_eq_some {forceAll : Bool} {ks : List String} {c k : String}
    (h : lastMoved? forceAll ks c = some k) :
    k ∈ ks ∧ canonicalKey forceAll k = c ∧ k ≠ c := by
  have hmem := List.mem_of_getLast? h
  simpa using hmem

/-- The step for a key that is not its own canonical form. -/
theorem get?_canonicalizeKey {forceAll : Bool} {f : Fields α} {k : String} (hk : k ∈ f)
    (hne : canonicalKey forceAll k ≠ k) (x : String) :
    (canonicalizeKey forceAll f k).get? x
      = if x = canonicalKey forceAll k then f.get? k else if x = k then none else f.get? x := by
  obtain ⟨v, hv⟩ := exists_get?_of_mem hk
  rw [canonicalizeKey, if_neg hne, rename, hv]
  simp only [get?_insert, get?_erase]

/-- A key stays there while another one is moved. -/
theorem mem_canonicalizeKey_of_ne {forceAll : Bool} {f : Fields α} {k x : String} (hk : k ∈ f)
    (hx : x ∈ f) (hne : x ≠ k) : x ∈ canonicalizeKey forceAll f k := by
  by_cases hfix : canonicalKey forceAll k = k
  · rw [canonicalizeKey, if_pos hfix]
    exact hx
  · rw [mem_iff_isSome_get?, get?_canonicalizeKey hk hfix]
    by_cases hto : x = canonicalKey forceAll k
    · rw [if_pos hto]
      exact mem_iff_isSome_get?.1 hk
    · rw [if_neg hto, if_neg hne]
      exact mem_iff_isSome_get?.1 hx

/-- A key that is moved is none that is made by moving. -/
theorem ne_canonicalKey_of_moved {forceAll : Bool} {k c : String} (h : canonicalKey forceAll k = c)
    (hne : k ≠ c) (k' : String) : k ≠ canonicalKey forceAll k' := by
  intro heq
  rw [heq, canonicalKey_canonicalKey] at h
  exact hne (heq.trans h)

/-- What a row of moves leaves. The induction is on the keys that are still to be moved: they are
there, and the key that the present move makes is none of them. -/
theorem get?_foldl_canonicalizeKey (forceAll : Bool) (c : String) {ks : List String}
    {f : Fields α} (hnodup : ks.Nodup) (hmem : ∀ k ∈ ks, k ∈ f) :
    (ks.foldl (canonicalizeKey forceAll) f).get? c =
      match lastMoved? forceAll ks c with
      | some k => f.get? k
      | none => if c ∈ ks ∧ canonicalKey forceAll c ≠ c then none else f.get? c := by
  induction ks generalizing f with
  | nil => simp [lastMoved?]
  | cons k rest ih =>
    rw [List.nodup_cons] at hnodup
    have hmem' : ∀ x ∈ rest, x ∈ canonicalizeKey forceAll f k := fun x hx =>
      mem_canonicalizeKey_of_ne (hmem k (by simp)) (hmem x (List.mem_cons_of_mem _ hx))
        fun h => hnodup.1 (h ▸ hx)
    rw [List.foldl_cons, lastMoved?_cons, ih hnodup.2 hmem']
    by_cases hfix : canonicalKey forceAll k = k
    · have hstep : canonicalizeKey forceAll f k = f := by rw [canonicalizeKey, if_pos hfix]
      have hmove : ¬(canonicalKey forceAll k = c ∧ k ≠ c) := by
        rintro ⟨hc, hne⟩
        exact hne (hfix ▸ hc)
      rw [hstep, if_neg hmove, Option.or_none]
      cases lastMoved? forceAll rest c with
      | some k' => rfl
      | none =>
        by_cases hck : c = k
        · simp [hck, hfix]
        · simp [hck]
    · have hget := get?_canonicalizeKey (hmem k (by simp)) hfix
      cases hlast : lastMoved? forceAll rest c with
      | some k' =>
        obtain ⟨hk', hto, hne⟩ := of_lastMoved?_eq_some hlast
        have hkk : k' ≠ k := fun h => hnodup.1 (h ▸ hk')
        simp only [Option.some_or]
        rw [hget k', if_neg (ne_canonicalKey_of_moved hto hne k), if_neg hkk]
      | none =>
        rw [Option.none_or]
        by_cases hto : canonicalKey forceAll k = c
        · have hkc : k ≠ c := fun h => hfix (hto.trans h.symm)
          have hcc : canonicalKey forceAll c = c := by
            rw [← hto, canonicalKey_canonicalKey]
          have hlanded : canonicalKey forceAll k = c ∧ k ≠ c := ⟨hto, hkc⟩
          simp [hlanded, hget, hcc]
        · have hlanded : ¬(canonicalKey forceAll k = c ∧ k ≠ c) := fun h => hto h.1
          rw [if_neg hlanded]
          by_cases hck : c = k
          · subst hck
            simp [hnodup.1, hget, hfix, Ne.symm hfix]
          · simp [hget, hck, Ne.symm hto]

/-- Under a key stands the value of the last key that was moved there, or else its own value if it
is its own canonical form. -/
theorem get?_canonicalize (forceAll : Bool) (f : Fields α) (c : String) :
    (f.canonicalize forceAll).get? c =
      match lastMoved? forceAll f.keys c with
      | some k => f.get? k
      | none => if canonicalKey forceAll c = c then f.get? c else none := by
  rw [canonicalize, get?_foldl_canonicalizeKey forceAll c f.nodup_keys fun k hk => hk]
  cases lastMoved? forceAll f.keys c with
  | some k => rfl
  | none =>
    by_cases hfix : canonicalKey forceAll c = c
    · simp [hfix]
    · by_cases hc : c ∈ f.keys
      · simp [hfix, hc]
      · have hnone : f.get? c = none := get?_eq_none_iff.2 hc
        simp [hnone]

/-- The keys that result are the canonical forms of the keys. -/
theorem mem_canonicalize {forceAll : Bool} {f : Fields α} {c : String} :
    c ∈ f.canonicalize forceAll ↔ ∃ k ∈ f, canonicalKey forceAll k = c := by
  rw [mem_iff_isSome_get?, get?_canonicalize]
  cases hlast : lastMoved? forceAll f.keys c with
  | some k =>
    obtain ⟨hk, hto, -⟩ := of_lastMoved?_eq_some hlast
    exact iff_of_true (mem_iff_isSome_get?.1 hk) ⟨k, hk, hto⟩
  | none =>
    have hmove : ∀ k ∈ f.keys, canonicalKey forceAll k = c → k = c := by
      intro k hk hto
      have hempty := List.getLast?_eq_none_iff.1 hlast
      by_contra hne
      have hin : k ∈ f.keys.filter fun k => canonicalKey forceAll k == c && k != c := by
        simp [hk, hto, hne]
      rw [hempty] at hin
      exact List.not_mem_nil hin
    constructor
    · intro h
      by_cases hfix : canonicalKey forceAll c = c
      · rw [if_pos hfix] at h
        exact ⟨c, mem_iff_isSome_get?.2 h, hfix⟩
      · rw [if_neg hfix] at h
        cases h
    · rintro ⟨k, hk, hto⟩
      have hkc := hmove k hk hto
      subst hkc
      rw [if_pos hto]
      exact mem_iff_isSome_get?.1 hk

/-- A key without a prefix keeps its value, whatever is moved around it. -/
theorem get?_canonicalize_of_none {f : Fields α} {c : String} (h : Prefix.ofKey c = .none) :
    f.canonicalize.get? c = f.get? c := by
  have hfix : canonicalKey false c = c := canonicalKey_of_none h false
  rw [get?_canonicalize]
  cases hlast : lastMoved? false f.keys c with
  | none => rw [if_pos hfix]
  | some k =>
    obtain ⟨-, hto, hne⟩ := of_lastMoved?_eq_some hlast
    have hmoved : Prefix.ofKey (canonicalKey false k) = .none := by rw [hto, h]
    by_cases hk : Prefix.ofKey k = .none
    · rw [canonicalKey_of_none hk] at hto
      exact absurd hto hne
    · have hmark := @marks_canonicalKey k false (Or.inr hk)
      rw [Prefix.marks_iff_ofKey_eq (by decide), hmoved] at hmark
      cases hmark

/-- If no two keys have the same canonical form, no value is lost. -/
theorem get?_canonicalize_of_injOn {forceAll : Bool} {f : Fields α}
    (h : ∀ k ∈ f, ∀ k' ∈ f, canonicalKey forceAll k = canonicalKey forceAll k' → k = k')
    {k : String} (hk : k ∈ f) :
    (f.canonicalize forceAll).get? (canonicalKey forceAll k) = f.get? k := by
  rw [get?_canonicalize]
  cases hlast : lastMoved? forceAll f.keys (canonicalKey forceAll k) with
  | some k' =>
    obtain ⟨hk', hto, -⟩ := of_lastMoved?_eq_some hlast
    rw [h k' hk' k hk hto]
  | none =>
    rw [canonicalKey_canonicalKey, if_pos rfl]
    by_cases hfix : canonicalKey forceAll k = k
    · rw [hfix]
    · have hempty := List.getLast?_eq_none_iff.1 hlast
      have hin : k ∈ f.keys.filter fun x =>
          canonicalKey forceAll x == canonicalKey forceAll k && x != canonicalKey forceAll k := by
        have hk' : k ∈ f.keys := hk
        simp [hk', Ne.symm hfix]
      rw [hempty] at hin
      exact absurd hin List.not_mem_nil

/-- A member with a bare name goes under its canonical key, unless one under a foreign prefix gets
there as well. -/
theorem get?_canonicalize_of_foreign {d : Fields α} {name : String}
    (hname : Prefix.ofKey name = .none) (hmem : name ∈ d)
    (hforeign : ∀ p : Prefix, p ≠ .none → p ≠ .canonical → p.key name ∉ d) :
    (d.canonicalize true).get? (Prefix.canonical.key name) = d.get? name := by
  have hmoves : canonicalKey true name = Prefix.canonical.key name := by
    rw [canonicalKey_of_none hname, if_pos rfl]
  have hne : name ≠ Prefix.canonical.key name := by
    intro h
    rw [h, Prefix.ofKey_key (by decide)] at hname
    cases hname
  rw [get?_canonicalize]
  cases hlast : lastMoved? true d.keys (Prefix.canonical.key name) with
  | some k =>
    obtain ⟨hk, hto, hother⟩ := of_lastMoved?_eq_some hlast
    rcases eq_or_eq_key_of_canonicalKey hto with rfl | ⟨p, hp, rfl⟩
    · rfl
    · by_cases hcanonical : p = .canonical
      · exact absurd (by rw [hcanonical]) hother
      · exact absurd hk (hforeign p hp hcanonical)
  | none =>
    have hempty := List.getLast?_eq_none_iff.1 hlast
    have hin : name ∈ d.keys.filter fun k => canonicalKey true k == Prefix.canonical.key name
        && k != Prefix.canonical.key name := by
      have hkey : name ∈ d.keys := hmem
      simp [hkey, hmoves, hne]
    rw [hempty] at hin
    exact absurd hin List.not_mem_nil

/-- Whether all attribute keys are under one prefix. -/
def KeysUnder (p : Prefix) (f : Fields α) : Prop :=
  ∀ k ∈ f, Prefix.ofKey k = .none ∨ Prefix.ofKey k = p

instance (p : Prefix) (f : Fields α) : Decidable (f.KeysUnder p) :=
  inferInstanceAs (Decidable (∀ k ∈ f.keys, Prefix.ofKey k = .none ∨ Prefix.ofKey k = p))

theorem KeysUnder.key_eq {p : Prefix} {f : Fields α} (h : f.KeysUnder p) {k name : String}
    (hk : k ∈ f) (hto : canonicalKey false k = Prefix.canonical.key name) : k = p.key name := by
  rcases h k hk with hnone | hp
  · have hkey : Prefix.ofKey k = .canonical := by
      rw [canonicalKey_of_none hnone] at hto
      rw [show k = Prefix.canonical.key name from hto, Prefix.ofKey_key (by decide)]
    rw [hnone] at hkey
    cases hkey
  · have hsplit := Prefix.key_ofKey_strip k
    rw [hp] at hsplit
    by_cases hpn : p = .none
    · subst hpn
      rw [canonicalKey_of_none hp] at hto
      rw [show k = Prefix.canonical.key name from hto, Prefix.ofKey_key (by decide)] at hp
      cases hp
    · rw [← hsplit, canonicalKey_key hpn, Prefix.key_inj] at hto
      rw [← hsplit, hto]

/-- Where all attributes are under one prefix, they are the same attributes under the canonical one.
-/
theorem KeysUnder.get?_canonicalize {p : Prefix} (hp : p ≠ .none) {f : Fields α}
    (h : f.KeysUnder p) (name : String) :
    f.canonicalize.get? (Prefix.canonical.key name) = f.get? (p.key name) := by
  rw [Fields.get?_canonicalize]
  cases hlast : lastMoved? false f.keys (Prefix.canonical.key name) with
  | some k =>
    obtain ⟨hk, hto, -⟩ := of_lastMoved?_eq_some hlast
    rw [h.key_eq hk hto]
  | none =>
    have hfix := canonicalKey_key (p := .canonical) (by decide) name false
    rw [if_pos hfix]
    by_cases hcanonical : p = .canonical
    · rw [hcanonical]
    · -- neither key is there: one would be moved, the other is under another prefix
      have hleft : Prefix.canonical.key name ∉ f := by
        intro hk
        have hself := h.key_eq hk hfix
        rw [hself] at hfix
        have hkey : Prefix.ofKey (p.key name) = .canonical := by
          rw [← hself, Prefix.ofKey_key (by decide)]
        exact hcanonical (by rw [← hkey, Prefix.ofKey_key hp])
      have hright : p.key name ∉ f := by
        intro hk
        have hto := canonicalKey_key hp name false
        have hmem : Prefix.canonical.key name ∈ f.canonicalize :=
          mem_canonicalize.2 ⟨_, hk, hto⟩
        rw [mem_iff_isSome_get?, Fields.get?_canonicalize, hlast] at hmem
        simp only [hfix, if_true] at hmem
        exact hleft (mem_iff_isSome_get?.2 hmem)
      rw [get?_eq_none_iff.2 hleft, get?_eq_none_iff.2 hright]

/-- Nothing happens to keys that are canonical already. -/
theorem canonicalize_eq_self {forceAll : Bool} {f : Fields α}
    (h : ∀ k ∈ f, canonicalKey forceAll k = k) : f.canonicalize forceAll = f := by
  have hsteps : ∀ ks : List String, (∀ k ∈ ks, canonicalKey forceAll k = k) →
      ks.foldl (canonicalizeKey forceAll) f = f := by
    intro ks hks
    induction ks with
    | nil => rfl
    | cons k rest ih =>
      rw [List.foldl_cons, canonicalizeKey, if_pos (hks k (by simp))]
      exact ih fun x hx => hks x (List.mem_cons_of_mem _ hx)
  exact hsteps f.keys h

/-- Every key that results has the canonical prefix, or none; if all keys were forced it is the
canonical one. -/
theorem ofKey_of_mem_canonicalize {forceAll : Bool} {f : Fields α} {c : String}
    (h : c ∈ f.canonicalize forceAll) :
    Prefix.ofKey c = .canonical ∨ forceAll = false ∧ Prefix.ofKey c = .none := by
  obtain ⟨k, -, rfl⟩ := mem_canonicalize.1 h
  exact ofKey_canonicalKey forceAll k

theorem ofKey_of_mem_canonicalize_true {f : Fields α} {c : String} (h : c ∈ f.canonicalize true) :
    Prefix.ofKey c = .canonical :=
  (ofKey_of_mem_canonicalize h).resolve_right fun hforce => Bool.false_ne_true hforce.1.symm

/-- Attributes that are all under the canonical prefix stay there. -/
theorem KeysUnder.canonicalize_eq_self {f : Fields α} (h : f.KeysUnder .canonical) :
    f.canonicalize = f :=
  Fields.canonicalize_eq_self fun k hk =>
    canonicalKey_eq_self_iff.2 ((h k hk).symm.imp_right fun hnone => ⟨rfl, hnone⟩)

end Fields

end CloudEvents
