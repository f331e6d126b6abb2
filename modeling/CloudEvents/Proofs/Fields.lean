import CloudEvents.Fields
import Mathlib.Data.List.Induction
import Mathlib.Data.List.Nodup
/-!
# Laws of ordered fields

A mapping is its keys in order together with the value under each of them. The laws here say when
two mappings are the same, and what a row of insertions leaves: under every name the value of the
last entry with that name, and the entries themselves if no name comes twice.
-/

namespace CloudEvents

namespace Fields

universe u

variable {α : Type u}

theorem lookup_eq_some_iff {l : List (String × α)} (h : (l.map Prod.fst).Nodup) {k : String}
    {v : α} : l.lookup k = some v ↔ (k, v) ∈ l := by
  induction l with
  | nil => simp
  | cons e rest ih =>
    rw [List.map_cons, List.nodup_cons] at h
    rw [lookup_cons_eq, List.mem_cons]
    by_cases hk : k = e.1
    · subst hk
      have hrest : (e.1, v) ∉ rest := fun hm => h.1 (List.mem_map.2 ⟨_, hm, rfl⟩)
      rw [if_pos rfl, Option.some_inj, Prod.ext_iff]
      simp [hrest, eq_comm]
    · have he : (k, v) ≠ e := fun he => hk (by rw [← he])
      rw [if_neg hk, ih h.2]
      simp [he]

theorem nodup_keys (f : Fields α) : f.keys.Nodup := f.nodup

theorem get?_eq_some_iff {f : Fields α} {k : String} {v : α} :
    f.get? k = some v ↔ (k, v) ∈ f.entries :=
  lookup_eq_some_iff f.nodup

theorem mem_of_get?_eq_some {f : Fields α} {k : String} {v : α} (h : f.get? k = some v) :
    k ∈ f := by
  rw [mem_iff_isSome_get?, h]
  rfl

theorem exists_get?_of_mem {f : Fields α} {k : String} (h : k ∈ f) : ∃ v, f.get? k = some v :=
  Option.isSome_iff_exists.1 (mem_iff_isSome_get?.1 h)

theorem lookup_of_not_mem {l : List (String × α)} {k : String} (h : k ∉ l.map Prod.fst) :
    l.lookup k = none := by
  have hsome := lookup_isSome l k
  simpa [h] using hsome

theorem lookup_ext {l l' : List (String × α)} (hk : l.map Prod.fst = l'.map Prod.fst)
    (hn : (l.map Prod.fst).Nodup) (hv : ∀ k, l.lookup k = l'.lookup k) : l = l' := by
  induction l generalizing l' with
  | nil => exact (List.map_eq_nil_iff.1 hk.symm).symm
  | cons e rest ih =>
    cases l' with
    | nil => simp at hk
    | cons e' rest' =>
      simp only [List.map_cons, List.cons.injEq] at hk
      rw [List.map_cons, List.nodup_cons] at hn
      have he : e = e' := by
        have hhead := hv e.1
        rw [lookup_cons_eq, lookup_cons_eq, if_pos rfl, if_pos hk.1, Option.some_inj] at hhead
        exact Prod.ext hk.1 hhead
      subst he
      refine congrArg _ (ih hk.2 hn.2 fun k => ?_)
      by_cases h : k = e.1
      · rw [h, lookup_of_not_mem hn.1, lookup_of_not_mem (hk.2 ▸ hn.1)]
      · have htail := hv k
        rwa [lookup_cons_eq, lookup_cons_eq, if_neg h, if_neg h] at htail

/-- Two mappings with the same keys in the same order and the same values are the same. -/
theorem ext_get? {f g : Fields α} (hk : f.keys = g.keys) (hv : ∀ k, f.get? k = g.get? k) :
    f = g :=
  Fields.ext (lookup_ext hk f.nodup hv)

theorem put_of_not_mem {k : String} (v : α) {l : List (String × α)} (h : k ∉ l.map Prod.fst) :
    put k v l = l ++ [(k, v)] := by
  induction l with
  | nil => rfl
  | cons e rest ih =>
    rw [List.map_cons, List.mem_cons, not_or] at h
    rw [put_cons, if_neg (Ne.symm h.1), ih h.2, List.cons_append]

/-! ## Rows of insertions -/

theorem get?_foldl_insert (l : List (String × α)) (f : Fields α) (k : String) :
    (l.foldl (fun f e => f.insert e.1 e.2) f).get? k = (l.reverse.lookup k).or (f.get? k) := by
  induction l generalizing f with
  | nil => simp
  | cons e rest ih =>
    rw [List.foldl_cons, ih, get?_insert, List.reverse_cons, List.lookup_append]
    by_cases h : k = e.1
    · simp [h, lookup_cons_eq]
    · simp [h, lookup_cons_eq]

/-- The value under a name is that of its last entry. -/
theorem get?_ofList (l : List (String × α)) (k : String) :
    (ofList l).get? k = l.reverse.lookup k := by
  rw [ofList, get?_foldl_insert, get?_empty, Option.or_none]

theorem mem_ofList {l : List (String × α)} {k : String} :
    k ∈ ofList l ↔ k ∈ l.map Prod.fst := by
  rw [mem_iff_isSome_get?, get?_ofList, lookup_isSome, decide_eq_true_iff, List.map_reverse,
    List.mem_reverse]

theorem mem_of_mem_entries_ofList {l : List (String × α)} {e : String × α}
    (h : e ∈ (ofList l).entries) : e ∈ l := by
  have hlookup := get?_eq_some_iff.2 h
  rw [get?_ofList] at hlookup
  obtain ⟨l₁, l₂, hl, -⟩ := List.lookup_eq_some_iff.1 hlookup
  rw [← List.mem_reverse, hl]
  simp

/-- What holds of all given values holds of what stands under a name. -/
theorem forall_get?_ofList {P : α → Prop} {l : List (String × α)} (h : ∀ e ∈ l, P e.2)
    {k : String} {v : α} (hv : (ofList l).get? k = some v) : P v :=
  h _ (mem_of_mem_entries_ofList (get?_eq_some_iff.1 hv))

/-- Entries that are inserted one after the other are there in that order if no name comes twice. -/
theorem entries_foldl_insert {l : List (String × α)} {f : Fields α}
    (h : ((f.entries ++ l).map Prod.fst).Nodup) :
    (l.foldl (fun f e => f.insert e.1 e.2) f).entries = f.entries ++ l := by
  induction l generalizing f with
  | nil => simp
  | cons e rest ih =>
    have he : e.1 ∉ f.entries.map Prod.fst := by
      intro hmem
      rw [List.map_append, List.nodup_append] at h
      exact h.2.2 _ hmem e.1 (by simp) rfl
    have hput : (f.insert e.1 e.2).entries = f.entries ++ [e] := put_of_not_mem e.2 he
    rw [List.foldl_cons, ih (by rw [hput]; simpa using h), hput]
    simp

theorem entries_ofList {l : List (String × α)} (h : (l.map Prod.fst).Nodup) :
    (ofList l).entries = l :=
  entries_foldl_insert (f := empty) h

/-- The value of an entry does not depend on the order if no name comes twice. -/
theorem lookup_reverse {l : List (String × α)} (h : (l.map Prod.fst).Nodup) (k : String) :
    l.reverse.lookup k = l.lookup k := by
  have hreverse : (l.reverse.map Prod.fst).Nodup := by
    rw [List.map_reverse]
    exact List.nodup_reverse.2 h
  refine Option.ext fun v => ?_
  rw [lookup_eq_some_iff hreverse, lookup_eq_some_iff h, List.mem_reverse]

/-- Under a new name stands the value of the old one if no two names become the same. -/
theorem lookup_map_of_injOn {l : List (String × α)} {g : String → String}
    (hg : ∀ k ∈ l.map Prod.fst, ∀ k' ∈ l.map Prod.fst, g k = g k' → k = k') {k : String}
    (hk : k ∈ l.map Prod.fst) : (l.map fun e => (g e.1, e.2)).lookup (g k) = l.lookup k := by
  induction l with
  | nil => cases hk
  | cons e rest ih =>
    rw [List.map_cons, lookup_cons_eq, lookup_cons_eq]
    by_cases he : k = e.1
    · rw [if_pos he, if_pos (congrArg g he)]
    · have hne : g k ≠ g e.1 := fun h => he (hg k hk e.1 (by simp) h)
      rw [if_neg he, if_neg hne]
      refine ih (fun a ha b hb => hg a ?_ b ?_) ?_
      · exact List.mem_cons_of_mem _ ha
      · exact List.mem_cons_of_mem _ hb
      · exact (List.mem_cons.1 hk).resolve_left he

theorem nodup_map_of_injOn {l : List (String × α)} {g : String → String}
    (hg : ∀ k ∈ l.map Prod.fst, ∀ k' ∈ l.map Prod.fst, g k = g k' → k = k')
    (hl : (l.map Prod.fst).Nodup) : ((l.map fun e => (g e.1, e.2)).map Prod.fst).Nodup := by
  have hmap : (l.map fun e => (g e.1, e.2)).map Prod.fst = (l.map Prod.fst).map g := by
    simp [List.map_map, Function.comp_def]
  rw [hmap]
  exact hl.map_on hg

@[simp] theorem ofList_entries (f : Fields α) : ofList f.entries = f :=
  Fields.ext (entries_ofList f.nodup)

theorem entries_insert (f : Fields α) (k : String) (v : α) :
    (f.insert k v).entries = put k v f.entries := rfl

theorem ofList_concat (l : List (String × α)) (e : String × α) :
    ofList (l ++ [e]) = (ofList l).insert e.1 e.2 := by
  rw [ofList, List.foldl_append]
  rfl

theorem put_map_of_injOn {l : List (String × α)} {g : String → String} {k : String} (v : α)
    (hg : ∀ k' ∈ l.map Prod.fst, g k' = g k → k' = k) :
    put (g k) v (l.map fun e => (g e.1, e.2)) = (put k v l).map fun e => (g e.1, e.2) := by
  induction l with
  | nil => rfl
  | cons e rest ih =>
    have hrest := ih fun k' hk' => hg k' (List.mem_cons_of_mem _ hk')
    rw [List.map_cons, put_cons, put_cons, hrest]
    by_cases he : e.1 = k
    · rw [if_pos he, if_pos (congrArg g he), List.map_cons]
    · rw [if_neg he, if_neg fun h => he (hg e.1 (by simp) h), List.map_cons]

/-- Entries may be put under new names before or after they are inserted if no two names become the
same. -/
theorem ofList_map_entries {l : List (String × α)} {g : String → String}
    (hg : ∀ k ∈ l.map Prod.fst, ∀ k' ∈ l.map Prod.fst, g k = g k' → k = k') :
    ofList ((ofList l).entries.map fun e => (g e.1, e.2))
      = ofList (l.map fun e => (g e.1, e.2)) := by
  have hentries : (ofList (l.map fun e => (g e.1, e.2))).entries
      = (ofList l).entries.map fun e => (g e.1, e.2) := by
    induction l using List.reverseRecOn with
    | nil => rfl
    | append_singleton l e ih =>
      rw [List.map_append, List.map_singleton] at hg
      rw [List.map_append, List.map_singleton, ofList_concat, ofList_concat]
      have hinit := ih fun k hk k' hk' =>
        hg k (List.mem_append_left _ hk) k' (List.mem_append_left _ hk')
      have hput : put (g e.1) e.2 ((ofList l).entries.map fun e => (g e.1, e.2))
          = (put e.1 e.2 (ofList l).entries).map fun e => (g e.1, e.2) := by
        refine put_map_of_injOn e.2 fun k hk heq => ?_
        exact hg k (List.mem_append_left _ (mem_ofList.1 hk)) e.1 (by simp) heq
      rw [entries_insert, hinit, hput, entries_insert]
  rw [← hentries, ofList_entries]

/-- The keys are the names in order, each at its first place. -/
theorem keys_ofList (l : List (String × α)) : (ofList l).keys = (l.map Prod.fst).eraseDups := by
  induction l using List.reverseRecOn with
  | nil => rfl
  | append_singleton l e ih =>
    rw [ofList_concat, keys_insert, ih, List.map_append, List.map_singleton, List.eraseDups_append]
    by_cases h : e.1 ∈ l.map Prod.fst
    · rw [if_pos (mem_ofList.2 h)]
      simp [List.removeAll, h]
    · rw [if_neg (fun hmem => h (mem_ofList.1 hmem))]
      simp [List.removeAll, h, List.eraseDups_cons]

/-! ## Parts of a mapping -/

theorem filter_put (p : String → Bool) (k : String) (v : α) (l : List (String × α)) :
    (put k v l).filter (fun e => p e.1)
      = if p k then put k v (l.filter fun e => p e.1) else l.filter fun e => p e.1 := by
  induction l with
  | nil => by_cases hp : p k <;> simp [hp]
  | cons e rest ih =>
    by_cases he : e.1 = k
    · subst he
      by_cases hp : p e.1 <;> simp [put_cons, hp]
    · rw [put_cons, if_neg he, List.filter_cons, List.filter_cons, ih]
      by_cases hk : p k <;> by_cases hp : p e.1 <;> simp [put_cons, he, hk, hp]

theorem filterKeys_insert (p : String → Bool) (f : Fields α) (k : String) (v : α) :
    (f.insert k v).filterKeys p
      = if p k then (f.filterKeys p).insert k v else f.filterKeys p := by
  refine Fields.ext ?_
  have hput := filter_put p k v f.entries
  by_cases hp : p k
  · rw [if_pos hp] at hput ⊢
    exact hput
  · rw [if_neg hp] at hput ⊢
    exact hput

theorem filterKeys_ofList (p : String → Bool) (l : List (String × α)) :
    (ofList l).filterKeys p = ofList (l.filter fun e => p e.1) := by
  induction l using List.reverseRecOn with
  | nil => rfl
  | append_singleton l e ih =>
    rw [ofList_concat, filterKeys_insert, ih, List.filter_append, List.filter_singleton]
    by_cases he : p e.1 = true
    · rw [if_pos he, he, cond_true, ofList_concat]
    · rw [if_neg he, Bool.eq_false_iff.2 he, cond_false, List.append_nil]

theorem filterKeys_filterKeys (p q : String → Bool) (f : Fields α) :
    (f.filterKeys p).filterKeys q = f.filterKeys fun k => q k && p k :=
  Fields.ext List.filter_filter

theorem filterKeys_comm (p q : String → Bool) (f : Fields α) :
    (f.filterKeys p).filterKeys q = (f.filterKeys q).filterKeys p := by
  rw [filterKeys_filterKeys, filterKeys_filterKeys]
  exact congrArg f.filterKeys (funext fun k => Bool.and_comm _ _)

theorem filterKeys_erase (p : String → Bool) (f : Fields α) (k : String) :
    (f.erase k).filterKeys p = (f.filterKeys p).erase k :=
  filterKeys_comm _ _ f

theorem filterKeys_erase_of_not {p : String → Bool} {k : String} (hk : p k = false)
    (f : Fields α) : (f.erase k).filterKeys p = f.filterKeys p := by
  refine Fields.ext ?_
  simp only [erase, filterKeys, List.filter_filter]
  refine List.filter_congr fun e _ => ?_
  by_cases he : e.1 = k
  · simp [he, hk]
  · simp [he]

/-- Nothing is kept of a mapping whose keys all fail the test. -/
theorem filterKeys_eq_empty {p : String → Bool} {f : Fields α} (h : ∀ k ∈ f, p k = false) :
    f.filterKeys p = empty := by
  refine Fields.ext (List.filter_eq_nil_iff.2 fun e he => ?_)
  simp [h e.1 (List.mem_map_of_mem he)]

/-! ## Values one by one -/

variable {β : Type u}

/-- The same names with what a function makes of the values. -/
def mapValues (g : α → β) (f : Fields α) : Fields β where
  entries := f.entries.map fun e => (e.1, g e.2)
  nodup := by
    rw [List.map_map]
    exact f.nodup

@[simp] theorem keys_mapValues (g : α → β) (f : Fields α) : (f.mapValues g).keys = f.keys :=
  List.map_map

theorem lookup_map (g : α → β) (l : List (String × α)) (k : String) :
    (l.map fun e => (e.1, g e.2)).lookup k = (l.lookup k).map g := by
  induction l with
  | nil => rfl
  | cons e rest ih =>
    rw [List.map_cons, lookup_cons_eq, lookup_cons_eq, ih]
    by_cases h : k = e.1
    · rw [if_pos h, if_pos h, Option.map_some]
    · rw [if_neg h, if_neg h]

@[simp] theorem get?_mapValues (g : α → β) (f : Fields α) (k : String) :
    (f.mapValues g).get? k = (f.get? k).map g :=
  lookup_map g f.entries k

theorem mapValues_eq_self_iff {g : α → α} {f : Fields α} :
    f.mapValues g = f ↔ ∀ k v, f.get? k = some v → g v = v := by
  constructor
  · intro h k v hv
    have hk := get?_mapValues g f k
    rw [h, hv, Option.map_some, Option.some_inj] at hk
    exact hk.symm
  · intro h
    refine ext_get? (keys_mapValues g f) fun k => ?_
    rw [get?_mapValues]
    cases hv : f.get? k with
    | none => rfl
    | some v => rw [Option.map_some, h k v hv]

/-! ## Mappings side by side -/

/-- Entries have the same names one after another, with related values under them. -/
def EntriesRelate (r : α → α → Prop) (l l' : List (String × α)) : Prop :=
  List.Forall₂ (fun e e' => e.1 = e'.1 ∧ r e.2 e'.2) l l'

variable {r : α → α → Prop}

theorem EntriesRelate.map_fst_eq {l l' : List (String × α)} (h : EntriesRelate r l l') :
    l.map Prod.fst = l'.map Prod.fst := by
  rw [← List.forall₂_eq_eq_eq, List.forall₂_map_left_iff, List.forall₂_map_right_iff]
  exact h.imp fun _ _ hboth => hboth.1

theorem EntriesRelate.exists_mem {l l' : List (String × α)} (h : EntriesRelate r l l')
    {k : String} {v : α} (hv : (k, v) ∈ l) : ∃ w, (k, w) ∈ l' ∧ r v w := by
  induction h with
  | nil => cases hv
  | @cons e e' l l' hhead _ ih =>
    rcases List.mem_cons.1 hv with rfl | hv
    · have hname : k = e'.1 := hhead.1
      exact ⟨e'.2, by rw [hname]; exact List.mem_cons_self, hhead.2⟩
    · obtain ⟨w, hw, hr⟩ := ih hv
      exact ⟨w, List.mem_cons_of_mem e' hw, hr⟩

theorem EntriesRelate.mem_iff {f g : Fields α} (h : EntriesRelate r f.entries g.entries)
    {k : String} : k ∈ f ↔ k ∈ g := by
  rw [mem_def, mem_def, keys, keys, h.map_fst_eq]

/-- Under every name stand related values. -/
theorem EntriesRelate.exists_get? {f g : Fields α} (h : EntriesRelate r f.entries g.entries)
    {k : String} {v : α} (hv : f.get? k = some v) : ∃ w, g.get? k = some w ∧ r v w := by
  obtain ⟨w, hw, hr⟩ := h.exists_mem (get?_eq_some_iff.1 hv)
  exact ⟨w, get?_eq_some_iff.2 hw, hr⟩

end Fields

end CloudEvents
