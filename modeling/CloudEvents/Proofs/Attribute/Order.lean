import CloudEvents.Proofs.Attribute.Canonicalize
/-!
# Where canonical keys stand

A key that is its own canonical form stays where it is, and every other one is taken out and put
back last. After all moves the mapping is a row of insertions that is known beforehand
(`Fields.canonicalize_eq_ofList`): first the entries that stay, in their order, and then the ones
that were moved, in their order and under their new keys. A move that lands on a key which is there
is an insertion of a known name, and so nothing has to be said about it.

The parts of the result are rows of the same kind. What is outside the canonical prefix is untouched
(`filterKeys_not_marks_canonicalize`), and if all attributes are under one prefix, those of the
result are the same ones in the same order (`KeysUnder.filterKeys_marks_canonicalize`). Only how the
two parts are mixed depends on the prefix.
-/

namespace CloudEvents

universe u

namespace Fields

variable {α : Type u} {forceAll : Bool}

/-- The entries that stay: those whose keys are their own canonical form. -/
def staying (forceAll : Bool) (l : List (String × α)) : List (String × α) :=
  l.filter fun e => canonicalKey forceAll e.1 == e.1

/-- The entries that are moved, under their canonical keys. -/
def moved (forceAll : Bool) (l : List (String × α)) : List (String × α) :=
  (l.filter fun e => canonicalKey forceAll e.1 != e.1).map fun e => (canonicalKey forceAll e.1, e.2)

theorem staying_append (l l' : List (String × α)) :
    staying forceAll (l ++ l') = staying forceAll l ++ staying forceAll l' :=
  List.filter_append ..

theorem moved_append (l l' : List (String × α)) :
    moved forceAll (l ++ l') = moved forceAll l ++ moved forceAll l' := by
  rw [moved, List.filter_append, List.map_append]
  rfl

theorem staying_singleton (e : String × α) :
    staying forceAll [e] = if canonicalKey forceAll e.1 = e.1 then [e] else [] := by
  simp [staying, List.filter_cons]

theorem moved_singleton (e : String × α) :
    moved forceAll [e]
      = if canonicalKey forceAll e.1 = e.1 then [] else [(canonicalKey forceAll e.1, e.2)] := by
  by_cases h : canonicalKey forceAll e.1 = e.1 <;> simp [moved, h]

/-- No entry that was moved has a key that is still to be moved. -/
theorem not_mem_moved {k : String} (hk : canonicalKey forceAll k ≠ k) (l : List (String × α)) :
    k ∉ (moved forceAll l).map Prod.fst := by
  intro hmem
  rw [moved, List.map_map] at hmem
  obtain ⟨e, -, rfl⟩ := List.mem_map.1 hmem
  exact hk (canonicalKey_canonicalKey forceAll e.1)

/-- One move in a row of insertions: the entry goes from its place to the end. -/
theorem canonicalizeKey_ofList {a b : List (String × α)} {e : String × α}
    (hne : canonicalKey forceAll e.1 ≠ e.1) (ha : e.1 ∉ a.map Prod.fst)
    (hb : e.1 ∉ b.map Prod.fst) :
    canonicalizeKey forceAll (ofList (a ++ e :: b)) e.1
      = ofList (a ++ b ++ [(canonicalKey forceAll e.1, e.2)]) := by
  have hvalue : (ofList (a ++ e :: b)).get? e.1 = some e.2 := by
    have hlast : b.reverse.lookup e.1 = none := by
      refine lookup_of_not_mem ?_
      rw [List.map_reverse, List.mem_reverse]
      exact hb
    rw [get?_ofList, List.reverse_append, List.reverse_cons, List.append_assoc, List.lookup_append,
      hlast, Option.none_or, List.singleton_append, lookup_cons_eq, if_pos rfl]
  have hothers : ∀ l : List (String × α), e.1 ∉ l.map Prod.fst →
      (l.filter fun x => x.1 != e.1) = l := by
    intro l hl
    refine List.filter_eq_self.2 fun x hx => ?_
    have hx' : x.1 ≠ e.1 := fun heq => hl (heq ▸ List.mem_map_of_mem hx)
    simpa using hx'
  have herase : (ofList (a ++ e :: b)).erase e.1 = ofList (a ++ b) := by
    rw [erase, filterKeys_ofList, List.filter_append, List.filter_cons, hothers a ha, hothers b hb]
    simp
  rw [canonicalizeKey, if_neg hne, rename, hvalue]
  simp only
  rw [herase, ofList_concat]

/-- A row of moves. The induction is on the entries that are still to be looked at; they stand
between those that stay and those that were moved already. -/
theorem foldl_canonicalizeKey_ofList {rest done : List (String × α)}
    (h : ((done ++ rest).map Prod.fst).Nodup) :
    (rest.map Prod.fst).foldl (canonicalizeKey forceAll)
        (ofList (staying forceAll done ++ (rest ++ moved forceAll done)))
      = ofList (staying forceAll (done ++ rest) ++ moved forceAll (done ++ rest)) := by
  induction rest generalizing done with
  | nil => simp
  | cons e rest ih =>
    have hassoc : done ++ e :: rest = (done ++ [e]) ++ rest := by simp
    have hnext := @ih (done ++ [e]) (by rw [← hassoc]; exact h)
    rw [hassoc, ← hnext, List.map_cons, List.foldl_cons, staying_append, moved_append,
      staying_singleton, moved_singleton]
    refine congrArg (fun f => (rest.map Prod.fst).foldl (canonicalizeKey forceAll) f) ?_
    by_cases hfix : canonicalKey forceAll e.1 = e.1
    · rw [if_pos hfix, if_pos hfix, canonicalizeKey, if_pos hfix]
      simp
    · rw [List.map_append, List.map_cons, List.nodup_append] at h
      have hdone : e.1 ∉ (staying forceAll done).map Prod.fst := by
        intro hmem
        obtain ⟨x, hx, heq⟩ := List.mem_map.1 hmem
        have hx' : x.1 ∈ done.map Prod.fst := List.mem_map_of_mem (List.mem_filter.1 hx).1
        exact h.2.2 x.1 hx' e.1 (by simp) heq
      have hlater : e.1 ∉ (rest ++ moved forceAll done).map Prod.fst := by
        rw [List.map_append, List.mem_append, not_or]
        exact ⟨(List.nodup_cons.1 h.2.1).1, not_mem_moved hfix done⟩
      rw [if_neg hfix, if_neg hfix, List.cons_append, canonicalizeKey_ofList hfix hdone hlater]
      simp

/-- **The order of canonical keys.**  The entries that stay come first, and after them those that
are moved, each part in its order. -/
theorem canonicalize_eq_ofList (forceAll : Bool) (f : Fields α) :
    f.canonicalize forceAll
      = ofList (staying forceAll f.entries ++ moved forceAll f.entries) := by
  have hrow := @foldl_canonicalizeKey_ofList α forceAll f.entries [] f.nodup
  have hnil : staying forceAll [] ++ (f.entries ++ moved forceAll []) = f.entries :=
    List.append_nil f.entries
  rw [hnil, ofList_entries] at hrow
  exact hrow

/-! ## The two parts -/

theorem isAttributeKey_eq_false_iff {k : String} :
    Prefix.isAttributeKey k = false ↔ Prefix.ofKey k = .none := by
  simp [Prefix.isAttributeKey]

/-- Outside the canonical prefix nothing changes but that all other attributes are gone. -/
theorem filterKeys_not_marks_canonicalize (f : Fields α) :
    f.canonicalize.filterKeys (fun k => !Prefix.canonical.marks k)
      = f.filterKeys fun k => !Prefix.isAttributeKey k := by
  have hmoved : (moved false f.entries).filter (fun e => !Prefix.canonical.marks e.1) = [] := by
    refine List.filter_eq_nil_iff.2 fun e he => ?_
    obtain ⟨x, hx, rfl⟩ := List.mem_map.1 he
    have hne : Prefix.ofKey x.1 ≠ .none := by
      intro hnone
      have hfix := canonicalKey_of_none hnone false
      simp [hfix] at hx
    simp [marks_canonicalKey (Or.inr hne)]
  have hstaying : (staying false f.entries).filter (fun e => !Prefix.canonical.marks e.1)
      = f.entries.filter fun e => !Prefix.isAttributeKey e.1 := by
    rw [staying, List.filter_filter]
    refine List.filter_congr fun e _ => ?_
    by_cases hnone : Prefix.ofKey e.1 = .none
    · have hmark : Prefix.canonical.marks e.1 = false := by
        rw [Prefix.marks_eq_false_iff (by decide), hnone]
        decide
      have hfix := canonicalKey_of_none hnone false
      simp [hmark, hfix, isAttributeKey_eq_false_iff.2 hnone]
    · have hattr : Prefix.isAttributeKey e.1 = true := by simpa [Prefix.isAttributeKey] using hnone
      by_cases hmark : Prefix.canonical.marks e.1 = true
      · simp [hmark, hattr]
      · have hmove : canonicalKey false e.1 ≠ e.1 := by
          intro hfix
          have hmark' := @marks_canonicalKey e.1 false (Or.inr hnone)
          exact hmark (hfix ▸ hmark')
        simp [hmove, hattr]
  rw [canonicalize_eq_ofList, filterKeys_ofList, List.filter_append, hmoved, hstaying,
    List.append_nil]
  exact ofList_entries (f.filterKeys fun k => !Prefix.isAttributeKey k)

/-- Keys under one prefix have different canonical forms. -/
theorem KeysUnder.canonicalKey_injOn {p : Prefix} {f : Fields α} (h : f.KeysUnder p) :
    ∀ k ∈ f, ∀ k' ∈ f, canonicalKey false k = canonicalKey false k' → k = k' := by
  intro k hk k' hk' heq
  by_cases hnone : Prefix.ofKey k = .none
  · by_cases hnone' : Prefix.ofKey k' = .none
    · rwa [canonicalKey_of_none hnone, canonicalKey_of_none hnone'] at heq
    · rw [canonicalKey_of_none hnone] at heq
      have hmark := @marks_canonicalKey k' false (Or.inr hnone')
      rw [← heq, Prefix.marks_iff_ofKey_eq (by decide)] at hmark
      cases hnone.symm.trans hmark
  · have hkey := Prefix.key_ofKey_strip k
    have hto : canonicalKey false k
        = Prefix.canonical.key ((Prefix.ofKey k).strip k) := by
      conv_lhs => rw [← hkey, canonicalKey_key hnone]
    rw [h.key_eq hk hto, h.key_eq hk' (heq ▸ hto)]

/-- Nothing is moved if all attributes are canonical. -/
theorem moved_of_canonical {f : Fields α} (h : f.KeysUnder .canonical) :
    moved false f.entries = [] := by
  rw [moved, List.map_eq_nil_iff]
  refine List.filter_eq_nil_iff.2 fun e he => ?_
  have hfix : canonicalKey false e.1 = e.1 := by
    rw [canonicalKey_eq_self_iff]
    rcases h e.1 (List.mem_map_of_mem he) with hnone | hcanonical
    · exact Or.inr ⟨rfl, hnone⟩
    · exact Or.inl hcanonical
  simp [hfix]

/-- All attributes are moved if they are under another prefix. -/
theorem moved_of_ne {p : Prefix} (hp : p ≠ .canonical) {f : Fields α} (h : f.KeysUnder p) :
    moved false f.entries = f.attributes.entries.map fun e => (canonicalKey false e.1, e.2) := by
  have htest : ∀ e ∈ f.entries,
      (canonicalKey false e.1 != e.1) = Prefix.isAttributeKey e.1 := by
    intro e he
    by_cases hnone : Prefix.ofKey e.1 = .none
    · have hfix := canonicalKey_of_none hnone false
      rw [isAttributeKey_eq_false_iff.2 hnone]
      simp [hfix]
    · have hkey := (h e.1 (List.mem_map_of_mem he)).resolve_left hnone
      have hmove : canonicalKey false e.1 ≠ e.1 := by
        intro hfix
        rcases canonicalKey_eq_self_iff.1 hfix with hcanonical | ⟨-, hnone'⟩
        · exact hp (hkey.symm.trans hcanonical)
        · exact hnone hnone'
      rw [bne_iff_ne.2 hmove, Prefix.isAttributeKey, bne_iff_ne.2 hnone]
  rw [moved, List.filter_congr htest]
  rfl

/-- If all attributes are under one prefix, the canonical ones are the same in the same order. -/
theorem KeysUnder.filterKeys_marks_canonicalize {p : Prefix} {f : Fields α} (h : f.KeysUnder p) :
    f.canonicalize.filterKeys Prefix.canonical.marks =
      ofList (f.attributes.entries.map fun e => (canonicalKey false e.1, e.2)) := by
  have hmarks : ∀ k, Prefix.canonical.marks k = true ↔ Prefix.ofKey k = .canonical := fun _ =>
    Prefix.marks_iff_ofKey_eq (by decide)
  have hmoved : (moved false f.entries).filter (fun e => Prefix.canonical.marks e.1)
      = moved false f.entries := by
    refine List.filter_eq_self.2 fun e he => ?_
    obtain ⟨x, hx, rfl⟩ := List.mem_map.1 he
    refine marks_canonicalKey (Or.inr fun hnone => ?_)
    simp [canonicalKey_of_none hnone] at hx
  have hstaying : (staying false f.entries).filter (fun e => Prefix.canonical.marks e.1)
      = f.entries.filter fun e => Prefix.canonical.marks e.1 := by
    rw [staying, List.filter_filter]
    refine List.filter_congr fun e _ => ?_
    by_cases hmark : Prefix.canonical.marks e.1 = true
    · simp [hmark, canonicalKey_of_marks hmark]
    · simp [hmark]
  rw [canonicalize_eq_ofList, filterKeys_ofList, List.filter_append, hmoved, hstaying]
  by_cases hp : p = .canonical
  · -- the attributes stay, and are their own canonical forms
    subst hp
    have hattributes : (f.entries.filter fun e => Prefix.canonical.marks e.1)
        = f.attributes.entries := by
      refine List.filter_congr fun e he => ?_
      rcases h e.1 (List.mem_map_of_mem he) with hnone | hkey
      · rw [isAttributeKey_eq_false_iff.2 hnone, Prefix.marks_eq_false_iff (by decide), hnone]
        decide
      · simp [(hmarks e.1).2 hkey, Prefix.isAttributeKey, hkey]
    have hsame : ∀ e ∈ f.attributes.entries, (canonicalKey false e.1, e.2) = e := by
      intro e he
      rw [← hattributes, List.mem_filter] at he
      rw [canonicalKey_of_marks he.2]
    rw [moved_of_canonical h, List.append_nil, hattributes, List.map_congr_left hsame, List.map_id']
  · -- there are no canonical attributes, and all others are moved
    have hnone : (f.entries.filter fun e => Prefix.canonical.marks e.1) = [] := by
      refine List.filter_eq_nil_iff.2 fun e he hmark => ?_
      have hcanonical := (hmarks e.1).1 hmark
      rcases h e.1 (List.mem_map_of_mem he) with hkey | hkey
      · cases hcanonical.symm.trans hkey
      · exact hp (hkey.symm.trans hcanonical)
    rw [hnone, List.nil_append, moved_of_ne hp h]

end Fields

end CloudEvents
