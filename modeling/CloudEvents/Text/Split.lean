/-!
# Cutting texts at a character

`cut` and `afterLast?` divide a text at the first or last place of a character, `pieces` at every
place. None of them keeps the character itself, and a text without it stays in one piece.

## Main statements

* `cut_eq`, `intercalate_pieces`: nothing but the character is lost;
* `not_mem_fst_cut`, `not_mem_of_mem_pieces`: the character is in none of the pieces before a cut;
* `cut_append`, `pieces_append`: a text without the character is cut off with the character after
  it;
* `pieces_eq_cut`, `pieces_intercalate`: the pieces one after the other, and put together again;
* `afterLast?_eq_some_iff`: what stands after the last place is the ending that is free of the
  character and has it in front.
-/

namespace CloudEvents.Text

/-- The text before the first `c`, and the text after it if there is one. -/
def cut (c : Char) : List Char → List Char × Option (List Char)
  | [] => ([], none)
  | x :: rest =>
    if x = c then ([], some rest) else (x :: (cut c rest).1, (cut c rest).2)

/-- The text after the last `c`, if there is one. -/
def afterLast? (c : Char) : List Char → Option (List Char)
  | [] => none
  | x :: rest =>
    match afterLast? c rest with
    | some t => some t
    | none => if x = c then some rest else none

/-- The text after the last `c`, or all of it. -/
def afterLast (c : Char) (cs : List Char) : List Char := (afterLast? c cs).getD cs

/-- The pieces between the places of `c`: one more than there are places. -/
def pieces (c : Char) : List Char → List (List Char)
  | [] => [[]]
  | x :: rest =>
    if x = c then [] :: pieces c rest
    else
      match pieces c rest with
      | [] => [[x]]
      | p :: ps => (x :: p) :: ps

@[simp] theorem cut_nil (c : Char) : cut c [] = ([], none) := rfl

@[simp] theorem pieces_nil (c : Char) : pieces c [] = [[]] := rfl

theorem pieces_ne_nil (c : Char) (cs : List Char) : pieces c cs ≠ [] := by
  cases cs with
  | nil => simp
  | cons x rest =>
    rw [pieces]
    split
    · simp
    · split <;> simp

/-- What `cut` found before and after the first `c` makes up the text again. -/
theorem cut_eq (c : Char) (cs : List Char) :
    cs = (cut c cs).1 ++ (match (cut c cs).2 with | none => [] | some t => c :: t) := by
  induction cs with
  | nil => rfl
  | cons x rest ih =>
    by_cases h : x = c
    · simp [cut, h]
    · simp only [cut, h, if_false]
      rw [List.cons_append, ← ih]

theorem not_mem_fst_cut (c : Char) (cs : List Char) : c ∉ (cut c cs).1 := by
  induction cs with
  | nil => simp
  | cons x rest ih =>
    by_cases h : x = c
    · simp [cut, h]
    · simp [cut, h, ih, Ne.symm h]

theorem cut_of_not_mem {c : Char} {cs : List Char} (h : c ∉ cs) : cut c cs = (cs, none) := by
  induction cs with
  | nil => rfl
  | cons x rest ih =>
    simp only [List.mem_cons, not_or] at h
    rw [cut, if_neg (Ne.symm h.1), ih h.2]

theorem cut_append {c : Char} {cs : List Char} (h : c ∉ cs) (rest : List Char) :
    cut c (cs ++ c :: rest) = (cs, some rest) := by
  induction cs with
  | nil => simp [cut]
  | cons x tail ih =>
    simp only [List.mem_cons, not_or] at h
    rw [List.cons_append, cut, if_neg (Ne.symm h.1), ih h.2]

theorem afterLast?_eq_none_iff {c : Char} {cs : List Char} : afterLast? c cs = none ↔ c ∉ cs := by
  induction cs with
  | nil => simp [afterLast?]
  | cons x rest ih =>
    rw [afterLast?, List.mem_cons, not_or, ← ih]
    cases afterLast? c rest with
    | some t => simp
    | none => simp [eq_comm]

theorem afterLast?_append {c : Char} {t : List Char} (h : c ∉ t) (before : List Char) :
    afterLast? c (before ++ c :: t) = some t := by
  induction before with
  | nil => simp [afterLast?, afterLast?_eq_none_iff.2 h]
  | cons x rest ih => rw [List.cons_append, afterLast?, ih]

theorem afterLast?_eq_some_iff {c : Char} {cs t : List Char} :
    afterLast? c cs = some t ↔ c ∉ t ∧ c :: t <:+ cs := by
  constructor
  · intro h
    induction cs with
    | nil => cases h
    | cons x rest ih =>
      rw [afterLast?] at h
      split at h
      · rename_i t' hrest
        rw [Option.some.inj h] at hrest
        exact (ih hrest).imp_right fun hends => hends.trans (List.suffix_cons x rest)
      · rename_i hnone
        split at h
        · rename_i hx
          rw [hx, ← Option.some.inj h]
          exact ⟨afterLast?_eq_none_iff.1 hnone, List.suffix_refl _⟩
        · cases h
  · rintro ⟨hfree, before, rfl⟩
    exact afterLast?_append hfree before

theorem pieces_of_not_mem {c : Char} {cs : List Char} (h : c ∉ cs) : pieces c cs = [cs] := by
  induction cs with
  | nil => rfl
  | cons x rest ih =>
    simp only [List.mem_cons, not_or] at h
    rw [pieces, if_neg (Ne.symm h.1), ih h.2]

theorem pieces_append {c : Char} {cs : List Char} (h : c ∉ cs) (rest : List Char) :
    pieces c (cs ++ c :: rest) = cs :: pieces c rest := by
  induction cs with
  | nil => simp [pieces]
  | cons x tail ih =>
    simp only [List.mem_cons, not_or] at h
    rw [List.cons_append, pieces, if_neg (Ne.symm h.1), ih h.2]

theorem not_mem_of_mem_pieces {c : Char} {cs p : List Char} (h : p ∈ pieces c cs) : c ∉ p := by
  induction cs generalizing p with
  | nil =>
    rw [pieces_nil, List.mem_singleton] at h
    simp [h]
  | cons x rest ih =>
    by_cases hx : x = c
    · rw [pieces, if_pos hx, List.mem_cons] at h
      rcases h with rfl | h
      · simp
      · exact ih h
    · rw [pieces, if_neg hx] at h
      split at h
      · rw [List.mem_singleton] at h
        simp [h, Ne.symm hx]
      · rename_i q qs hq
        rcases List.mem_cons.1 h with rfl | h
        · have := ih (p := q) (by simp [hq])
          simp [this, Ne.symm hx]
        · exact ih (by simp [hq, h])

/-- The pieces with the character between them make up the text again. -/
theorem intercalate_pieces (c : Char) (cs : List Char) :
    List.intercalate [c] (pieces c cs) = cs := by
  induction cs with
  | nil => rfl
  | cons x rest ih =>
    rw [pieces]
    split
    · rename_i hx
      obtain ⟨p, ps, hp⟩ := List.exists_cons_of_ne_nil (pieces_ne_nil c rest)
      rw [hp] at ih ⊢
      rw [List.intercalate_cons_cons, ih, hx]
      rfl
    · split
      · rename_i hp
        exact absurd hp (pieces_ne_nil c rest)
      · rename_i p ps hp
        rw [hp] at ih
        cases ps with
        | nil =>
          rw [List.intercalate_singleton] at ih ⊢
          rw [ih]
        | cons q qs =>
          rw [List.intercalate_cons_cons] at ih ⊢
          rw [List.cons_append, List.cons_append, ih]

/-- The first piece is what a cut finds, the other pieces are those after the cut. -/
theorem pieces_eq_cut (c : Char) (cs : List Char) :
    pieces c cs =
      (cut c cs).1 :: (match (cut c cs).2 with | none => [] | some t => pieces c t) := by
  have hfree := not_mem_fst_cut c cs
  have hself := cut_eq c cs
  cases hcut : (cut c cs).2 with
  | none =>
    rw [hcut, List.append_nil] at hself
    rw [← hself] at hfree ⊢
    exact pieces_of_not_mem hfree
  | some t =>
    rw [hcut] at hself
    exact (congrArg (pieces c) hself).trans (pieces_append hfree t)

theorem pieces_intercalate {c : Char} {p : List Char} {ps : List (List Char)}
    (h : ∀ q ∈ p :: ps, c ∉ q) : pieces c (List.intercalate [c] (p :: ps)) = p :: ps := by
  induction ps generalizing p with
  | nil =>
    rw [List.intercalate_singleton]
    exact pieces_of_not_mem (h p List.mem_cons_self)
  | cons q qs ih =>
    rw [List.intercalate_cons_cons, List.append_assoc, List.singleton_append,
      pieces_append (h p List.mem_cons_self), ih fun q' hq' => h q' (List.mem_cons_of_mem p hq')]

end CloudEvents.Text
