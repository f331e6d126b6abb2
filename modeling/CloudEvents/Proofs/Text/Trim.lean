import CloudEvents.Text.Blank
import Mathlib.Data.List.DropRight
/-!
# Trimmed texts

Trimming takes the characters of a class off both ends of a text. What is left has none of them at
either end (`IsTrimmed`), and there is only one such text that becomes the whole by putting
characters of the class around it.

## Main statements

* `exists_trimOf_eq`, `isTrimmed_trimOf`: what is taken off, and what is left;
* `trimOf_append`: characters of the class around a text make no difference;
* `trimOf_eq_self_iff`, `trimOf_eq_nil_iff`: when nothing is taken off, and when everything is;
* `exists_trim_append_cons`: the two ends of a text with a separator in it.
-/

namespace CloudEvents.Text

variable {p : Char → Bool} {cs : List Char}

/-- A text has no character of a class at either end. -/
structure IsTrimmed (p : Char → Bool) (cs : List Char) : Prop where
  /-- The first character is not of the class. -/
  head : ∀ c, cs.head? = some c → p c = false
  /-- The last character is not of the class. -/
  last : ∀ c, cs.getLast? = some c → p c = false

theorem mem_of_mem_trimOf {c : Char} (h : c ∈ trimOf p cs) : c ∈ cs := by
  rw [trimOf, trimEnd, List.mem_reverse] at h
  exact (List.dropWhile_suffix p).subset
    (List.mem_reverse.1 ((List.dropWhile_suffix p).subset h))

/-- A trimmed text is what is left of it with characters of the class around it. -/
theorem IsTrimmed.trimOf_append (h : IsTrimmed p cs) {l r : List Char} (hl : ∀ c ∈ l, p c = true)
    (hr : ∀ c ∈ r, p c = true) : trimOf p (l ++ (cs ++ r)) = cs := by
  have hr' : ∀ c ∈ r.reverse, p c = true := fun c hc => hr c (List.mem_reverse.1 hc)
  rw [trimOf, trimEnd, List.dropWhile_append_of_pos hl]
  cases cs with
  | nil =>
    rw [List.nil_append, List.dropWhile_eq_nil_iff.2 hr]
    rfl
  | cons c rest =>
    have hfront : (c :: rest ++ r).dropWhile p = c :: rest ++ r :=
      List.dropWhile_cons_of_neg (by simp [h.head c rfl])
    obtain ⟨d, tail, hback⟩ := List.exists_cons_of_ne_nil
      (List.reverse_ne_nil_iff.2 (List.cons_ne_nil c rest))
    have hd : p d = false := h.last d (by
      rw [← List.head?_reverse, hback, List.head?_cons])
    rw [hfront, List.reverse_append, List.dropWhile_append_of_pos hr', hback,
      List.dropWhile_cons_of_neg (by simp [hd]), ← hback, List.reverse_reverse]

/-- Nothing but characters of the class is taken off. -/
theorem exists_trimOf_eq (p : Char → Bool) (cs : List Char) :
    ∃ l r, (∀ c ∈ l, p c = true) ∧ (∀ c ∈ r, p c = true) ∧ cs = l ++ (trimOf p cs ++ r) := by
  refine ⟨cs.takeWhile p, (cs.dropWhile p).rtakeWhile p, fun c hc => List.mem_takeWhile_imp hc,
    fun c hc => List.mem_rtakeWhile_imp hc, ?_⟩
  have hback : trimOf p cs ++ (cs.dropWhile p).rtakeWhile p = cs.dropWhile p :=
    List.rdropWhile_append_rtakeWhile
  rw [hback, List.takeWhile_append_dropWhile]

theorem isTrimmed_trimOf (p : Char → Bool) (cs : List Char) : IsTrimmed p (trimOf p cs) where
  head c hc := by
    obtain ⟨tail, htail⟩ : trimOf p cs <+: cs.dropWhile p := List.rdropWhile_prefix _ _
    have hfirst := List.head?_dropWhile_not p cs
    rw [← htail, List.head?_append, hc] at hfirst
    exact hfirst
  last c hc := by
    have hne : trimOf p cs ≠ [] := fun hnil => by
      rw [hnil] at hc
      cases hc
    rw [List.getLast?_eq_some_getLast hne, Option.some_inj] at hc
    rw [← hc, ← Bool.not_eq_true]
    exact List.rdropWhile_last_not p (cs.dropWhile p) hne

/-- Characters of the class around a text make no difference. -/
theorem trimOf_append {l r : List Char} (hl : ∀ c ∈ l, p c = true) (hr : ∀ c ∈ r, p c = true)
    (cs : List Char) : trimOf p (l ++ (cs ++ r)) = trimOf p cs := by
  obtain ⟨l', r', hl', hr', hcs⟩ := exists_trimOf_eq p cs
  have houter : l ++ (cs ++ r) = (l ++ l') ++ (trimOf p cs ++ (r' ++ r)) := by
    conv_lhs => rw [hcs]
    simp only [List.append_assoc]
  rw [houter]
  exact (isTrimmed_trimOf p cs).trimOf_append (List.forall_mem_append.2 ⟨hl, hl'⟩)
    (List.forall_mem_append.2 ⟨hr', hr⟩)

theorem IsTrimmed.trimOf_eq (h : IsTrimmed p cs) : trimOf p cs = cs := by
  simpa using h.trimOf_append (List.forall_mem_nil _) (List.forall_mem_nil _)

theorem trimOf_eq_self_iff : trimOf p cs = cs ↔ IsTrimmed p cs :=
  ⟨fun h => h ▸ isTrimmed_trimOf p cs, IsTrimmed.trimOf_eq⟩

instance (p : Char → Bool) (cs : List Char) : Decidable (IsTrimmed p cs) :=
  decidable_of_iff (trimOf p cs = cs) trimOf_eq_self_iff

/-- Everything is taken off exactly if all is of the class. -/
theorem trimOf_eq_nil_iff : trimOf p cs = [] ↔ ∀ c ∈ cs, p c = true := by
  constructor
  · intro h
    obtain ⟨l, r, hl, hr, hcs⟩ := exists_trimOf_eq p cs
    rw [h, List.nil_append] at hcs
    rw [hcs]
    exact List.forall_mem_append.2 ⟨hl, hr⟩
  · intro h
    have hdrop : cs.dropWhile p = [] := List.dropWhile_eq_nil_iff.2 h
    rw [trimOf, hdrop, trimEnd_nil]

/-! ## Around a separator -/

theorem takeWhile_append_cons {c : Char} (hc : p c = false) (a b : List Char) :
    (a ++ c :: b).takeWhile p = a.takeWhile p := by
  rw [List.takeWhile_append]
  split
  · rename_i hall
    rw [List.takeWhile_cons_of_neg (by simp [hc]), List.append_nil,
      (List.takeWhile_prefix p).eq_of_length hall]
  · rfl

theorem dropWhile_append_cons {c : Char} (hc : p c = false) (a b : List Char) :
    (a ++ c :: b).dropWhile p = a.dropWhile p ++ c :: b := by
  rw [List.dropWhile_append]
  split
  · rename_i hnil
    rw [List.isEmpty_iff.1 hnil, List.dropWhile_cons_of_neg (by simp [hc]), List.nil_append]
  · rfl

/-- A text with a separator in it loses the blanks before the text in front of the separator and
those after the text behind it. -/
theorem exists_trim_append_cons {c : Char} (hc : isBlank c = false) (a b : List Char) :
    ∃ a' b', trim (a ++ c :: b) = a' ++ c :: b' ∧ a' ⊆ a ∧ b' ⊆ b ∧
      trim a' = trim a ∧ trim b' = trim b := by
  have hb : b = [] ++ (trimEnd isBlank b ++ b.rtakeWhile isBlank) :=
    List.rdropWhile_append_rtakeWhile.symm
  refine ⟨a.dropWhile isBlank, trimEnd isBlank b, ?_, (List.dropWhile_suffix isBlank).subset,
    (List.rdropWhile_prefix isBlank b).subset, ?_, ?_⟩
  · rw [trim, trimOf, dropWhile_append_cons hc, trimEnd, trimEnd, List.reverse_append,
      List.reverse_cons, List.append_assoc, List.singleton_append, dropWhile_append_cons hc]
    simp
  · rw [trim, trim, trimOf, trimOf, List.dropWhile_idempotent]
  · conv_rhs => rw [hb]
    exact (trimOf_append (List.forall_mem_nil _) (fun c hc => List.mem_rtakeWhile_imp hc) _).symm

end CloudEvents.Text
