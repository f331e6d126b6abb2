/-!
# Ordered fields

Headers, event documents, media type parameters and span attributes are all the same thing: a
finite mapping from names to values whose order is part of it. `Fields α` holds the entries in that
order and the proof that no name occurs twice.

## Order

* `insert` keeps the place of a name that is already there, and puts a new one last;
* `erase` leaves the others as they were, so erasing and inserting again moves a name to the end;
* `ofList` inserts from left to right: a repeated name keeps its first place and its last value.

## Main statements

* `get?_insert`, `get?_erase`, `get?_filterKeys`: what each operation does to the values;
* `keys_insert`, `keys_erase`, `keys_filterKeys`: what each operation does to the order;
* `mem_iff_isSome_get?`: a name is a key exactly when it has a value.
-/

namespace CloudEvents

universe u

/-- A finite mapping from names to `α` in a fixed order, each name at most once. -/
@[ext]
structure Fields (α : Type u) where
  /-- The names with their values, in order. -/
  entries : List (String × α)
  /-- No name occurs twice. -/
  nodup : (entries.map Prod.fst).Nodup

namespace Fields

variable {α : Type u}

/-- The mapping without entries. -/
def empty : Fields α := ⟨[], by simp⟩

instance : EmptyCollection (Fields α) := ⟨empty⟩

instance : Inhabited (Fields α) := ⟨empty⟩

/-- The names, in order. -/
def keys (f : Fields α) : List String := f.entries.map Prod.fst

/-- The value under a name. -/
def get? (f : Fields α) (k : String) : Option α := f.entries.lookup k

instance : Membership String (Fields α) := ⟨fun f k => k ∈ f.keys⟩

instance (f : Fields α) (k : String) : Decidable (k ∈ f) :=
  inferInstanceAs (Decidable (k ∈ f.keys))

/-- Whether there are no entries. -/
def isEmpty (f : Fields α) : Bool := f.entries.isEmpty

/-- `put k v` on bare entries: in place of the entry of `k`, or last. -/
def put (k : String) (v : α) : List (String × α) → List (String × α)
  | [] => [(k, v)]
  | e :: rest => if e.1 = k then (k, v) :: rest else e :: put k v rest

@[simp] theorem put_nil (k : String) (v : α) : put k v [] = [(k, v)] := rfl

theorem put_cons (k : String) (v : α) (e : String × α) (rest : List (String × α)) :
    put k v (e :: rest) = if e.1 = k then (k, v) :: rest else e :: put k v rest := rfl

theorem map_fst_put (k : String) (v : α) (l : List (String × α)) :
    (put k v l).map Prod.fst
      = if k ∈ l.map Prod.fst then l.map Prod.fst else l.map Prod.fst ++ [k] := by
  induction l with
  | nil => simp
  | cons e rest ih =>
    by_cases h : e.1 = k
    · simp [put_cons, h]
    · have h' : k ≠ e.1 := fun hk => h hk.symm
      rw [put_cons, if_neg h, List.map_cons, ih]
      by_cases hr : k ∈ rest.map Prod.fst <;> simp_all

theorem lookup_cons_eq (e : String × α) (rest : List (String × α)) (x : String) :
    (e :: rest).lookup x = if x = e.1 then some e.2 else rest.lookup x := by
  rw [List.lookup_cons]
  by_cases h : x = e.1
  · rw [if_pos h, beq_iff_eq.2 h]
  · rw [if_neg h, beq_eq_false_iff_ne.2 h]

theorem lookup_put (k : String) (v : α) (l : List (String × α)) (x : String) :
    (put k v l).lookup x = if x = k then some v else l.lookup x := by
  induction l with
  | nil => simp [lookup_cons_eq]
  | cons e rest ih =>
    by_cases h : e.1 = k
    · subst h
      by_cases hx : x = e.1 <;> simp [put_cons, lookup_cons_eq, hx]
    · by_cases hx : x = e.1
      · subst hx
        simp [put_cons, h, lookup_cons_eq]
      · simp [put_cons, h, lookup_cons_eq, hx, ih]

/-- Sets the value under a name: a known name keeps its place, a new one goes last. -/
def insert (f : Fields α) (k : String) (v : α) : Fields α where
  entries := put k v f.entries
  nodup := by
    rw [map_fst_put]
    split
    · exact f.nodup
    · rename_i h
      refine List.nodup_append.2 ⟨f.nodup, by simp, ?_⟩
      intro a ha b hb hab
      simp only [List.mem_singleton] at hb
      exact h (hb ▸ hab ▸ ha)

/-- Keeps the entries whose name passes the test. -/
def filterKeys (p : String → Bool) (f : Fields α) : Fields α where
  entries := f.entries.filter fun e => p e.1
  nodup := f.nodup.sublist (List.Sublist.map _ List.filter_sublist)

/-- Takes a name out. -/
def erase (f : Fields α) (k : String) : Fields α := f.filterKeys (· != k)

/-- The entries inserted one after the other. -/
def ofList (l : List (String × α)) : Fields α :=
  l.foldl (fun f e => f.insert e.1 e.2) empty

@[simp] theorem keys_empty : (empty : Fields α).keys = [] := rfl

@[simp] theorem get?_empty (k : String) : (empty : Fields α).get? k = none := rfl

theorem mem_def {f : Fields α} {k : String} : k ∈ f ↔ k ∈ f.keys := Iff.rfl

theorem keys_insert (f : Fields α) (k : String) (v : α) :
    (f.insert k v).keys = if k ∈ f then f.keys else f.keys ++ [k] :=
  map_fst_put k v f.entries

@[simp] theorem get?_insert (f : Fields α) (k : String) (v : α) (x : String) :
    (f.insert k v).get? x = if x = k then some v else f.get? x :=
  lookup_put k v f.entries x

theorem lookup_isSome (l : List (String × α)) (k : String) :
    (l.lookup k).isSome = decide (k ∈ l.map Prod.fst) := by
  induction l with
  | nil => simp
  | cons e rest ih => by_cases h : k = e.1 <;> simp [lookup_cons_eq, h, ih]

theorem mem_iff_isSome_get? {f : Fields α} {k : String} : k ∈ f ↔ (f.get? k).isSome := by
  rw [get?, lookup_isSome]
  exact (decide_eq_true_iff).symm

theorem get?_eq_none_iff {f : Fields α} {k : String} : f.get? k = none ↔ k ∉ f := by
  rw [mem_iff_isSome_get?]
  cases f.get? k <;> simp

@[simp] theorem mem_insert {f : Fields α} {k : String} {v : α} {x : String} :
    x ∈ f.insert k v ↔ x = k ∨ x ∈ f := by
  rw [mem_iff_isSome_get?, mem_iff_isSome_get?, get?_insert]
  by_cases h : x = k <;> simp [h]

theorem lookup_filter (p : String → Bool) (l : List (String × α)) (k : String) :
    (l.filter fun e => p e.1).lookup k = if p k then l.lookup k else none := by
  induction l with
  | nil => simp
  | cons e rest ih =>
    by_cases h : k = e.1
    · subst h
      by_cases hp : p e.1 <;> simp [lookup_cons_eq, hp, ih]
    · by_cases hp : p e.1 <;> simp [lookup_cons_eq, hp, h, ih]

@[simp] theorem get?_filterKeys (p : String → Bool) (f : Fields α) (k : String) :
    (f.filterKeys p).get? k = if p k then f.get? k else none :=
  lookup_filter p f.entries k

theorem keys_filterKeys (p : String → Bool) (f : Fields α) :
    (f.filterKeys p).keys = f.keys.filter p := by
  simp only [keys, filterKeys, List.filter_map]
  rfl

@[simp] theorem get?_erase (f : Fields α) (k x : String) :
    (f.erase k).get? x = if x = k then none else f.get? x := by
  rw [erase, get?_filterKeys]
  by_cases h : x = k <;> simp [h]

theorem keys_erase (f : Fields α) (k : String) :
    (f.erase k).keys = f.keys.filter (· != k) :=
  keys_filterKeys _ f

@[simp] theorem mem_erase {f : Fields α} {k x : String} :
    x ∈ f.erase k ↔ x ≠ k ∧ x ∈ f := by
  rw [mem_def, keys_erase, mem_def]
  simp [and_comm]

@[simp] theorem ofList_nil : ofList ([] : List (String × α)) = empty := rfl

end Fields

end CloudEvents
