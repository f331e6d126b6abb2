import CloudEvents.Proofs.Text.Trim
import CloudEvents.Text.Lowercase
/-!
# Lower case once and for all

Lower-casing goes through a text character by character, and what it makes of a character
(`lowered`) has no lower-case form of its own that is different. So a second pass changes nothing.
The one place where a character looks at its neighbours is the final sigma, and neither form of the
small sigma is looked at again.

No character becomes a blank or a sign of punctuation. So a text that is lower-cased falls into the
same pieces as before and has blanks at its ends only where it had them.

What the tables have to satisfy for this is said of sets of numbers, each written as the bits of one
number: the set of the characters that have a lower-case form and the set of these forms have no
bit in common.

## Main statements

* `capitals_and_smalls`: no lower-case form has a lower-case form;
* `isLower_of_mem_lower`, `mem_of_mem_lower`: the characters of a lower-cased text;
* `lower_lower`, `lower_map_toLower`: lower-casing twice, or the letters of ASCII first;
* `isTrimmed_lower`: the ends of a lower-cased text.
-/

namespace CloudEvents.Text

/-! ## Sets of numbers -/

/-- The numbers from the first one on in steps, `count` of them, as the bits of a number. -/
def row (first step : Nat) : (count : Nat) → Nat
  | 0 => 0
  | count + 1 => row first step count ||| 1 <<< (first + step * count)

theorem testBit_row {first step count k : Nat} (h : k < count) :
    (row first step count).testBit (first + step * k) = true := by
  induction count with
  | zero => exact absurd h (Nat.not_lt_zero k)
  | succ count ih =>
    rw [row, Nat.testBit_or, Bool.or_eq_true]
    rcases Nat.lt_succ_iff_lt_or_eq.1 h with h | rfl
    · exact Or.inl (ih h)
    · exact Or.inr (by simp)

/-! ## The table of lower-case forms -/

/-- A run of the table: first and last character, step and distance. -/
abbrev Run : Type := Nat × Nat × Nat × Int

/-- Whether a run has a character. -/
def Run.holds (r : Run) (n : Nat) : Bool :=
  r.1 ≤ n && n ≤ r.2.1 && (n - r.1) % r.2.2.1 == 0

/-- The lower-case form that a run gives to a character. -/
def Run.move (r : Run) (n : Nat) : Nat := Int.toNat (n + r.2.2.2)

/-- The number of characters of a run. -/
def Run.count (r : Run) : Nat := (r.2.1 - r.1) / r.2.2.1 + 1

/-- The union of a set for each run. -/
def unionOver (f : Run → Nat) (runs : List Run) : Nat := runs.foldr (fun r s => f r ||| s) 0

/-- All characters with a lower-case form of their own. -/
def capitals : Nat := unionOver (fun r => row r.1 r.2.2.1 r.count) lowercaseRuns

/-- All these lower-case forms. -/
def smalls : Nat := unionOver (fun r => row (r.move r.1) r.2.2.1 r.count) lowercaseRuns

theorem testBit_unionOver {f : Run → Nat} {runs : List Run} {r : Run} {n : Nat} (hr : r ∈ runs)
    (h : (f r).testBit n = true) : (unionOver f runs).testBit n = true := by
  induction runs with
  | nil => cases hr
  | cons r' rest ih =>
    rw [unionOver, List.foldr_cons, Nat.testBit_or, Bool.or_eq_true]
    rcases List.mem_cons.1 hr with rfl | hr
    · exact Or.inl h
    · exact Or.inr (ih hr)

/-- Ranges of characters that are no lower-case form of another one: all that comes before the
letter a in ASCII, all blanks, and the capital I with a dot. -/
def signRanges : List (Nat × Nat) :=
  [(0x0, 0x60), (0x85, 0x85), (0xA0, 0xA0), (0x130, 0x130), (0x1680, 0x1680), (0x2000, 0x205F),
    (0x3000, 0x3000)]

/-- No lower-case form has a lower-case form. -/
theorem capitals_and_smalls : capitals &&& smalls = 0 := by decide +kernel

/-- The lower-case forms of a run are characters, and no signs. -/
theorem run_bounds : ∀ r ∈ lowercaseRuns, 0 < r.2.2.1 ∧ 0 ≤ r.1 + r.2.2.2 ∧
    (r.2.1 + r.2.2.2 < 0xD800 ∨ 0xE000 ≤ r.1 + r.2.2.2 ∧ r.2.1 + r.2.2.2 < 0x110000) ∧
    ∀ a ∈ signRanges, r.2.1 + r.2.2.2 < a.1 ∨ a.2 < r.1 + r.2.2.2 := by
  decide +kernel

/-- The letters of ASCII are not skipped beside a sigma. -/
theorem caseIgnorableRanges_apart : ∀ r ∈ caseIgnorableRanges,
    r.2 < 0x41 ∨ (0x5A < r.1 ∧ r.2 < 0x61) ∨ 0x7A < r.1 := by
  decide +kernel

theorem Run.exists_of_holds {r : Run} {n : Nat} (hr : r ∈ lowercaseRuns) (h : r.holds n = true) :
    ∃ k < r.count, n = r.1 + r.2.2.1 * k ∧ r.move n = r.move r.1 + r.2.2.1 * k := by
  obtain ⟨hstep, hpos, -⟩ := run_bounds r hr
  simp only [holds, Bool.and_eq_true, decide_eq_true_eq, beq_iff_eq] at h
  obtain ⟨⟨hlo, hhi⟩, hmod⟩ := h
  have hmul : r.2.2.1 * ((n - r.1) / r.2.2.1) = n - r.1 :=
    Nat.mul_div_cancel' (Nat.dvd_of_mod_eq_zero hmod)
  refine ⟨(n - r.1) / r.2.2.1, ?_, ?_, ?_⟩
  · exact Nat.lt_succ_of_le (Nat.div_le_div_right (Nat.sub_le_sub_right hhi r.1))
  · rw [hmul]
    omega
  · rw [hmul, move, move]
    omega

/-- What a run gives is a lower-case form, and so has none itself. -/
theorem Run.not_holds_move {r s : Run} {n : Nat} (hr : r ∈ lowercaseRuns) (hs : s ∈ lowercaseRuns)
    (h : r.holds n = true) : s.holds (r.move n) = false := by
  rw [← Bool.not_eq_true]
  intro hholds
  obtain ⟨k, hk, -, hmove⟩ := exists_of_holds hr h
  obtain ⟨j, hj, hn, -⟩ := exists_of_holds hs hholds
  have hsmall : smalls.testBit (r.move n) = true := by
    refine testBit_unionOver (f := fun r => row (r.move r.1) r.2.2.1 r.count) hr ?_
    rw [hmove]
    exact testBit_row hk
  have hcapital : capitals.testBit (r.move n) = true := by
    refine testBit_unionOver (f := fun r => row r.1 r.2.2.1 r.count) hs ?_
    rw [hn]
    exact testBit_row hj
  have hboth : (capitals &&& smalls).testBit (r.move n) = true := by
    rw [Nat.testBit_and, hcapital, hsmall]
    rfl
  rw [capitals_and_smalls, Nat.zero_testBit] at hboth
  cases hboth

/-- What a run gives is the number of a character, and no sign. -/
theorem Run.bounds_move {r : Run} {n : Nat} (hr : r ∈ lowercaseRuns) (h : r.holds n = true) :
    (Char.ofNat (r.move n)).toNat = r.move n ∧ inRanges signRanges (r.move n) = false := by
  obtain ⟨-, hpos, hvalid, hsigns⟩ := run_bounds r hr
  simp only [holds, Bool.and_eq_true, decide_eq_true_eq] at h
  obtain ⟨⟨hlo, hhi⟩, -⟩ := h
  have hmove : (r.move n : Int) = n + r.2.2.2 := by
    rw [move]
    omega
  have hchar : (r.move n).isValidChar := by
    rw [Nat.isValidChar]
    omega
  have hself : (Char.ofNat (r.move n)).toNat = r.move n := by
    rw [Char.ofNat, dif_pos hchar]
    rfl
  refine ⟨hself, ?_⟩
  rw [inRanges, List.any_eq_false]
  intro a ha
  have hapart := hsigns a ha
  simp only [Bool.and_eq_true, decide_eq_true_eq]
  omega

/-! ## One character -/

/-- What becomes of a character between two texts, of which the first one is given backwards. -/
def lowered (before : List Char) (c : Char) (rest : List Char) : List Char :=
  if c.toNat < 0x80 then [c.toLower]
  else if c = 'Σ' then [if meetsCased before && !meetsCased rest then 'ς' else 'σ']
  else if c = 'İ' then ['i', '\u0307']
  else [lowerChar c]

theorem lowerAfter_cons (before : List Char) (c : Char) (rest : List Char) :
    lowerAfter before (c :: rest) = lowered before c rest ++ lowerAfter (c :: before) rest := rfl

/-- A character stays as it is, whatever stands around it. -/
def IsLower (c : Char) : Prop := ∀ before rest, lowered before c rest = [c]

/-- A sign is a character that is no lower-case form of another one. -/
def IsSign (c : Char) : Prop := inRanges signRanges c.toNat = true

theorem isSign_of_isBlank {c : Char} (h : isBlank c = true) : IsSign c := by
  simp only [isBlank, Bool.or_eq_true, Bool.and_eq_true, decide_eq_true_eq, beq_iff_eq] at h
  simp only [IsSign, inRanges, signRanges, List.any_cons, List.any_nil, Bool.or_eq_true,
    Bool.and_eq_true, decide_eq_true_eq]
  omega

/-- A property of all characters of ASCII. -/
theorem forall_ascii {q : Char → Prop} (h : ∀ n < 0x80, q (Char.ofNat n)) {c : Char}
    (hc : c.toNat < 0x80) : q c := by
  have hself := h c.toNat hc
  rwa [Char.ofNat_toNat] at hself

theorem toLower_of_ascii {c : Char} (hc : c.toNat < 0x80) :
    c.toLower.toNat < 0x80 ∧ c.toLower.toLower = c.toLower ∧
      (inRanges signRanges c.toLower.toNat = true → c.toLower = c) :=
  forall_ascii (q := fun c => c.toLower.toNat < 0x80 ∧ c.toLower.toLower = c.toLower ∧
    (inRanges signRanges c.toLower.toNat = true → c.toLower = c)) (by decide +kernel) hc

theorem lowerChar_eq {c : Char} (hc : ¬c.toNat < 0x80) :
    (lowerChar c = c ∧ ∀ r ∈ lowercaseRuns, Run.holds r c.toNat = false) ∨
      ∃ r ∈ lowercaseRuns, Run.holds r c.toNat = true ∧
        lowerChar c = Char.ofNat (Run.move r c.toNat) := by
  rw [lowerChar, if_neg hc]
  split
  · rename_i r hr
    have hholds := List.find?_some hr
    exact Or.inr ⟨r, List.mem_of_find?_eq_some hr, hholds, rfl⟩
  · rename_i hnone
    refine Or.inl ⟨rfl, fun r hr => ?_⟩
    exact Bool.eq_false_iff.2 (List.find?_eq_none.1 hnone r hr)

/-- A character without a lower-case form stays. -/
theorem isLower_of_forall {c : Char} (hc : ¬c.toNat < 0x80) (hdot : c ≠ 'İ')
    (h : ∀ r ∈ lowercaseRuns, Run.holds r c.toNat = false) : IsLower c := by
  have hsigma : c ≠ 'Σ' := by
    rintro rfl
    exact absurd (h (0x3A3, 0x3AB, 1, 32) (by decide)) (by decide)
  intro before rest
  rw [lowered, if_neg hc, if_neg hsigma, if_neg hdot]
  rcases lowerChar_eq hc with ⟨hself, -⟩ | ⟨r, hr, hholds, -⟩
  · rw [hself]
  · rw [h r hr] at hholds
    cases hholds

theorem isLower_of_ascii {c : Char} (hc : c.toNat < 0x80) (h : c.toLower = c) : IsLower c := by
  intro before rest
  rw [lowered, if_pos hc, h]

theorem not_isSign_move {r : Run} {n : Nat} (hr : r ∈ lowercaseRuns) (h : r.holds n = true) :
    ¬IsSign (Char.ofNat (r.move n)) := by
  obtain ⟨hnat, hsign⟩ := Run.bounds_move hr h
  rw [IsSign, hnat, hsign]
  exact Bool.false_ne_true

theorem isLower_move {r : Run} {n : Nat} (hr : r ∈ lowercaseRuns) (h : r.holds n = true) :
    IsLower (Char.ofNat (r.move n)) := by
  obtain ⟨hnat, -⟩ := Run.bounds_move hr h
  have hsign := not_isSign_move hr h
  by_cases hascii : (Char.ofNat (r.move n)).toNat < 0x80
  · refine isLower_of_ascii hascii ?_
    exact forall_ascii (q := fun c => ¬IsSign c → c.toLower = c) (by
      unfold IsSign
      decide +kernel) hascii hsign
  · refine isLower_of_forall hascii ?_ fun s hs => ?_
    · intro hdot
      rw [hdot] at hsign
      exact hsign rfl
    · rw [hnat]
      exact Run.not_holds_move hr hs h

/-- What a character becomes stays, and is a sign only if it is the character itself. -/
theorem of_mem_lowered {before rest : List Char} {c x : Char} (h : x ∈ lowered before c rest) :
    IsLower x ∧ (IsSign x → x = c) := by
  rw [lowered] at h
  by_cases hc : c.toNat < 0x80
  · rw [if_pos hc, List.mem_singleton] at h
    obtain ⟨hascii, hlower, hsign⟩ := toLower_of_ascii hc
    rw [h]
    exact ⟨isLower_of_ascii hascii hlower, hsign⟩
  · rw [if_neg hc] at h
    by_cases hsigma : c = 'Σ'
    · rw [if_pos hsigma, List.mem_singleton] at h
      rw [h]
      split
      · exact ⟨isLower_of_forall (by decide) (by decide) (by decide +kernel), fun hs => by cases hs⟩
      · exact ⟨isLower_of_forall (by decide) (by decide) (by decide +kernel), fun hs => by cases hs⟩
    · rw [if_neg hsigma] at h
      by_cases hdot : c = 'İ'
      · rw [if_pos hdot] at h
        rcases List.mem_cons.1 h with rfl | h
        · exact ⟨isLower_of_ascii (by decide) (by decide), fun hs => by cases hs⟩
        · rw [List.mem_singleton.1 h]
          exact ⟨isLower_of_forall (by decide) (by decide) (by decide +kernel),
            fun hs => by cases hs⟩
      · rw [if_neg hdot, List.mem_singleton] at h
        rw [h]
        rcases lowerChar_eq hc with ⟨hself, hnone⟩ | ⟨r, hr, hholds, hmove⟩
        · rw [hself]
          exact ⟨isLower_of_forall hc hdot hnone, fun _ => rfl⟩
        · rw [hmove]
          exact ⟨isLower_move hr hholds, fun hs => absurd hs (not_isSign_move hr hholds)⟩

theorem lowered_ne_nil (before : List Char) (c : Char) (rest : List Char) :
    lowered before c rest ≠ [] := by
  rw [lowered]
  split
  · exact List.cons_ne_nil _ _
  · split
    · exact List.cons_ne_nil _ _
    · split <;> exact List.cons_ne_nil _ _

/-! ## Texts -/

theorem of_mem_lowerAfter {cs before : List Char} {x : Char} (h : x ∈ lowerAfter before cs) :
    IsLower x ∧ (IsSign x → x ∈ cs) := by
  induction cs generalizing before with
  | nil => cases h
  | cons c rest ih =>
    rw [lowerAfter_cons] at h
    rcases List.mem_append.1 h with h | h
    · obtain ⟨hlower, hsign⟩ := of_mem_lowered h
      exact ⟨hlower, fun hs => hsign hs ▸ List.mem_cons_self⟩
    · obtain ⟨hlower, hsign⟩ := ih h
      exact ⟨hlower, fun hs => List.mem_cons_of_mem c (hsign hs)⟩

theorem isLower_of_mem_lower {cs : List Char} {x : Char} (h : x ∈ lower cs) : IsLower x :=
  (of_mem_lowerAfter h).1

/-- A sign of a lower-cased text was there before. -/
theorem mem_of_mem_lower {cs : List Char} {x : Char} (hx : IsSign x) (h : x ∈ lower cs) : x ∈ cs :=
  (of_mem_lowerAfter h).2 hx

theorem lowerAfter_of_isLower {cs : List Char} (h : ∀ c ∈ cs, IsLower c) (before : List Char) :
    lowerAfter before cs = cs := by
  induction cs generalizing before with
  | nil => rfl
  | cons c rest ih =>
    rw [lowerAfter_cons, h c List.mem_cons_self,
      ih fun x hx => h x (List.mem_cons_of_mem c hx)]
    rfl

/-- **Lower-casing twice** is lower-casing once. -/
@[simp] theorem lower_lower (cs : List Char) : lower (lower cs) = lower cs :=
  lowerAfter_of_isLower (fun _ => isLower_of_mem_lower) []

theorem lower_eq_nil_iff {cs : List Char} : lower cs = [] ↔ cs = [] := by
  cases cs with
  | nil => exact iff_of_true rfl rfl
  | cons c rest =>
    refine iff_of_false (fun h => ?_) (List.cons_ne_nil c rest)
    exact lowered_ne_nil [] c rest (List.append_eq_nil_iff.1 h).1

/-- Only a sign becomes that sign. -/
theorem lower_eq_singleton_iff {cs : List Char} {d : Char} (hd : IsSign d)
    (hself : lower [d] = [d]) : lower cs = [d] ↔ cs = [d] := by
  constructor
  · intro h
    cases cs with
    | nil => cases h
    | cons c rest =>
      rw [lower, lowerAfter_cons] at h
      obtain ⟨x, xs, hxs⟩ := List.exists_cons_of_ne_nil (lowered_ne_nil [] c rest)
      have hx : x ∈ lowered [] c rest := hxs ▸ List.mem_cons_self
      rw [hxs, List.cons_append, List.cons.injEq, List.append_eq_nil_iff] at h
      obtain ⟨rfl, -, hrest⟩ := h
      have hc := (of_mem_lowered hx).2 hd
      cases rest with
      | nil => rw [hc]
      | cons c' rest' => exact absurd (List.append_eq_nil_iff.1 hrest).1 (lowered_ne_nil _ _ _)
  · rintro rfl
    exact hself

/-- The last character is lower-cased last. -/
theorem exists_lowerAfter_concat (before cs : List Char) (c : Char) :
    ∃ front context, lowerAfter before (cs ++ [c]) = front ++ lowered context c [] := by
  induction cs generalizing before with
  | nil => exact ⟨[], before, List.append_nil _⟩
  | cons d rest ih =>
    obtain ⟨front, context, h⟩ := ih (d :: before)
    refine ⟨lowered before d (rest ++ [c]) ++ front, context, ?_⟩
    rw [List.cons_append, lowerAfter_cons, h, List.append_assoc]

/-- Lower-casing puts no blanks at the ends of a text. -/
theorem isTrimmed_lower {cs : List Char} (h : IsTrimmed isBlank cs) :
    IsTrimmed isBlank (lower cs) where
  head x hx := by
    cases cs with
    | nil => cases hx
    | cons c rest =>
      rw [lower, lowerAfter_cons, List.head?_append_of_ne_nil _ (lowered_ne_nil [] c rest)] at hx
      have hmem := List.mem_of_mem_head? hx
      rw [← Bool.not_eq_true]
      intro hblank
      rw [(of_mem_lowered hmem).2 (isSign_of_isBlank hblank), h.head c rfl] at hblank
      cases hblank
  last x hx := by
    rcases List.eq_nil_or_concat cs with rfl | ⟨init, c, rfl⟩
    · cases hx
    · obtain ⟨front, context, hlast⟩ := exists_lowerAfter_concat [] init c
      rw [List.concat_eq_append] at hx h
      rw [lower, hlast, List.getLast?_append_of_ne_nil _ (lowered_ne_nil context c [])] at hx
      have hmem := List.mem_of_getLast? hx
      rw [← Bool.not_eq_true]
      intro hblank
      rw [(of_mem_lowered hmem).2 (isSign_of_isBlank hblank), h.last c (by simp)] at hblank
      cases hblank

/-! ## The letters of ASCII -/

theorem toLower_of_not_ascii {c : Char} (hc : ¬c.toNat < 0x80) : c.toLower = c := by
  refine dif_neg fun h => hc ?_
  have hle : c.toNat ≤ 0x5A := h.2
  omega

theorem toLower_eq_or (c : Char) : c.toLower = c ∨
    0x41 ≤ c.toNat ∧ c.toNat ≤ 0x5A ∧ c.toLower.toNat = c.toNat + 0x20 := by
  by_cases hc : c.toNat < 0x80
  · exact forall_ascii (q := fun c => c.toLower = c ∨
      0x41 ≤ c.toNat ∧ c.toNat ≤ 0x5A ∧ c.toLower.toNat = c.toNat + 0x20) (by decide +kernel) hc
  · exact Or.inl (toLower_of_not_ascii hc)

theorem isCaseIgnorable_letter {c : Char} (h : 0x41 ≤ c.toNat)
    (h' : c.toNat ≤ 0x5A ∨ 0x61 ≤ c.toNat ∧ c.toNat ≤ 0x7A) : isCaseIgnorable c = false := by
  rw [isCaseIgnorable, inRanges, List.any_eq_false]
  intro r hr
  have hapart := caseIgnorableRanges_apart r hr
  simp only [Bool.and_eq_true, decide_eq_true_eq]
  omega

theorem isCased_letter {c : Char} (h : 0x41 ≤ c.toNat)
    (h' : c.toNat ≤ 0x5A ∨ 0x61 ≤ c.toNat ∧ c.toNat ≤ 0x7A) : isCased c = true := by
  rw [isCased, inRanges, List.any_eq_true]
  rcases h' with h' | h'
  · exact ⟨(0x41, 0x5A), by decide, by simp [h, h']⟩
  · exact ⟨(0x61, 0x7A), by decide, by simp [h']⟩

/-- Upper and lower case of ASCII letters make no difference beside a sigma. -/
theorem isCaseIgnorable_toLower (c : Char) : isCaseIgnorable c.toLower = isCaseIgnorable c := by
  rcases toLower_eq_or c with h | ⟨hlo, hhi, h⟩
  · rw [h]
  · rw [isCaseIgnorable_letter hlo (Or.inl hhi), isCaseIgnorable_letter (by omega) (by omega)]

theorem isCased_toLower (c : Char) : isCased c.toLower = isCased c := by
  rcases toLower_eq_or c with h | ⟨hlo, hhi, h⟩
  · rw [h]
  · rw [isCased_letter hlo (Or.inl hhi), isCased_letter (by omega) (by omega)]

theorem meetsCased_map_toLower (cs : List Char) :
    meetsCased (cs.map Char.toLower) = meetsCased cs := by
  induction cs with
  | nil => rfl
  | cons c rest ih =>
    rw [meetsCased, meetsCased] at ih ⊢
    rw [List.map_cons, List.dropWhile_cons, List.dropWhile_cons, isCaseIgnorable_toLower]
    cases isCaseIgnorable c with
    | true => exact ih
    | false => exact isCased_toLower c

theorem lowered_toLower (before : List Char) (c : Char) (rest : List Char) :
    lowered (before.map Char.toLower) c.toLower (rest.map Char.toLower)
      = lowered before c rest := by
  by_cases hc : c.toNat < 0x80
  · obtain ⟨hascii, hlower, -⟩ := toLower_of_ascii hc
    rw [lowered, if_pos hascii, hlower, lowered, if_pos hc]
  · rw [toLower_of_not_ascii hc, lowered, lowered, meetsCased_map_toLower, meetsCased_map_toLower]

theorem lowerAfter_map_toLower (before cs : List Char) :
    lowerAfter (before.map Char.toLower) (cs.map Char.toLower) = lowerAfter before cs := by
  induction cs generalizing before with
  | nil => rfl
  | cons c rest ih =>
    rw [List.map_cons, lowerAfter_cons, lowerAfter_cons, lowered_toLower, ← List.map_cons, ih]

/-- The letters of ASCII may be lower-cased first. -/
theorem lower_map_toLower (cs : List Char) : lower (cs.map Char.toLower) = lower cs :=
  lowerAfter_map_toLower [] cs

end CloudEvents.Text
