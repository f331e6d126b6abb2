import Mathlib.Data.List.Forall2
/-!
# Steps that may fail

A run of steps has a result exactly if each of its steps has one, and fails with the error of the
step that fails. The lemmas here take such a run apart: two steps in a row, a step whose result or
whose error is renamed, and one step for every entry of a list.

## Main statements

* `exists_of_bind_eq_ok`, `eq_error_of_bind`: two steps in a row;
* `mapM_eq_ok_iff`: a step for every entry.
-/

namespace CloudEvents

variable {ε ε' α β : Type}

theorem exists_of_map_eq_ok {x : Except ε α} {f : α → β} {b : β} (h : x.map f = .ok b) :
    ∃ a, x = .ok a ∧ f a = b := by
  cases x with
  | error e => cases h
  | ok a => exact ⟨a, rfl, Except.ok.inj h⟩

theorem exists_of_bind_eq_ok {x : Except ε α} {f : α → Except ε β} {b : β}
    (h : x >>= f = .ok b) : ∃ a, x = .ok a ∧ f a = .ok b := by
  cases x with
  | error e => cases h
  | ok a => exact ⟨a, rfl, h⟩

/-- Of two steps the first one has failed, or the second one with the result of the first. -/
theorem eq_error_of_bind {x : Except ε α} {f : α → Except ε β} {e : ε}
    (h : x >>= f = .error e) : x = .error e ∨ ∃ a, x = .ok a ∧ f a = .error e := by
  cases x with
  | error e' => exact Or.inl (congrArg Except.error (Except.error.inj h))
  | ok a => exact Or.inr ⟨a, rfl, h⟩

theorem mapError_eq_ok_iff {x : Except ε α} {f : ε → ε'} {a : α} :
    x.mapError f = .ok a ↔ x = .ok a := by
  cases x with
  | error e => exact iff_of_false (fun h => by cases h) fun h => by cases h
  | ok b => rw [Except.mapError, Except.ok.injEq, Except.ok.injEq]

/-- Renamed errors are what they are renamed to. -/
theorem exists_of_mapError_eq_error {x : Except ε α} {g : ε → ε'} {e : ε'}
    (h : x.mapError g = .error e) : ∃ fault, x = .error fault ∧ e = g fault := by
  cases x with
  | error fault => exact ⟨fault, rfl, (Except.error.inj h).symm⟩
  | ok a => cases h

/-- A step for every entry of a list has the results of these steps. -/
theorem mapM_eq_ok_iff {f : α → Except ε β} {l : List α} {rs : List β} :
    l.mapM f = .ok rs ↔ List.Forall₂ (fun a r => f a = .ok r) l rs := by
  induction l generalizing rs with
  | nil =>
    rw [List.mapM_nil, List.forall₂_nil_left_iff]
    exact ⟨fun h => (Except.ok.inj h).symm, fun h => congrArg Except.ok h.symm⟩
  | cons a rest ih =>
    rw [List.mapM_cons]
    constructor
    · intro h
      obtain ⟨r, hr, h⟩ := exists_of_bind_eq_ok h
      obtain ⟨rs', hrs', h⟩ := exists_of_bind_eq_ok h
      rw [← Except.ok.inj h]
      exact .cons hr (ih.1 hrs')
    · rintro (_ | ⟨hr, hrs'⟩)
      rw [hr, ih.2 hrs']
      rfl

theorem exists_of_mapM_eq_ok {f : α → Except ε β} {l : List α} {rs : List β}
    (h : l.mapM f = .ok rs) {a : α} (ha : a ∈ l) : ∃ r, f a = .ok r := by
  induction mapM_eq_ok_iff.1 h with
  | nil => cases ha
  | cons hr hrest ih =>
    rcases List.mem_cons.1 ha with rfl | ha
    · exact ⟨_, hr⟩
    · exact ih (mapM_eq_ok_iff.2 hrest) ha

end CloudEvents
