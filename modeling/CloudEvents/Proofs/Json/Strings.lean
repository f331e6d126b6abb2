import CloudEvents.Json.Reader
import CloudEvents.Json.Writer
/-!
# Strings that are read back

A string is written in ASCII: a character beyond U+FFFF as the escapes of its two surrogates, and a
surrogate that stands alone as its own escape. Reading undoes the escapes one by one and then makes
a character of every pair. That the code points come back rests on two facts.

* Escapes are undone by units (`points_writePoint`): what is read are the `units` of the code
  points that were written.
* Joining undoes taking apart (`joinPairs_flatMap_units`), because the first half of a character is
  never the second half of another pair.

Two halves that stood next to each other before are joined too, so that code points come back if no
two of them are a pair.

## Main statements

* `string_writePoints`: a string is read from its text, with its pairs joined;
* `isAscii_writePoints`: its text is ASCII.
-/

namespace CloudEvents

namespace Text

/-- The value of a hexadecimal digit is read back from it. -/
theorem hexDigit?_digitChar {d : Nat} (h : d < 16) : hexDigit? (Nat.digitChar d) = some d := by
  have all : ∀ d, d < 16 → hexDigit? (Nat.digitChar d) = some d := by decide
  exact all d h

/-! ## Taking characters apart -/

theorem toNat_lt (c : Char) : c.toNat < 0x110000 := by
  have hc := c.valid
  simp only [UInt32.isValidChar, Nat.isValidChar] at hc
  rw [Char.toNat]
  omega

namespace Point

theorem ofUnit_of_surrogate {n : Nat} (h : 0xD800 ≤ n ∧ n < 0xE000) :
    ofUnit n = surrogate ⟨n, h⟩ := by
  rw [ofUnit, dif_pos h]

theorem ofUnit_toNat (c : Char) : ofUnit c.toNat = char c := by
  have hc := c.valid
  rw [ofUnit, dif_neg, Char.ofNat_toNat]
  rcases hc with h | h <;> simp only [Char.toNat, UInt32.toNat] at * <;> omega

/-- The code points that a code point is written as: a character beyond U+FFFF is a pair. -/
def units : Point → List Point
  | char c => (Encoding.units16 c).map ofUnit
  | surrogate s => [surrogate s]

theorem units_of_lt {c : Char} (h : c.toNat < 0x10000) : units (char c) = [char c] := by
  rw [units, Encoding.units16]
  simp only [h, if_true, List.map_cons, List.map_nil, ofUnit_toNat]

/-- A character beyond U+FFFF is a high surrogate with its low one. -/
theorem exists_units_eq_pair {c : Char} (h : ¬c.toNat < 0x10000) :
    ∃ a b : Surrogate, units (char c) = [surrogate a, surrogate b] ∧ a.number < 0xDC00 ∧
      (surrogate a).pair? (surrogate b) = some c := by
  have hmax := toNat_lt c
  have ha : 0xD800 ≤ 0xD800 + (c.toNat - 0x10000) / 0x400
      ∧ 0xD800 + (c.toNat - 0x10000) / 0x400 < 0xE000 := by omega
  have hb : 0xD800 ≤ 0xDC00 + (c.toNat - 0x10000) % 0x400
      ∧ 0xDC00 + (c.toNat - 0x10000) % 0x400 < 0xE000 := by omega
  have hhigh : 0xD800 + (c.toNat - 0x10000) / 0x400 < 0xDC00
      ∧ 0xDC00 ≤ 0xDC00 + (c.toNat - 0x10000) % 0x400 := by omega
  refine ⟨⟨_, ha⟩, ⟨_, hb⟩, ?_, hhigh.1, ?_⟩
  · rw [units, Encoding.units16]
    simp only [h, if_false, List.map_cons, List.map_nil, ofUnit_of_surrogate ha,
      ofUnit_of_surrogate hb]
  · have hcode : 0x10000 + (0xD800 + (c.toNat - 0x10000) / 0x400 - 0xD800) * 0x400
        + (0xDC00 + (c.toNat - 0x10000) % 0x400 - 0xDC00) = c.toNat := by omega
    rw [pair?, Surrogate.pair?, if_pos hhigh]
    rw [hcode, Char.ofNat_toNat]

/-- The first unit of a code point is itself, or no second half of a pair. -/
theorem pair?_head?_units {p q : Point} (h : p.pair? q = none) :
    ∀ u ∈ (units q).head?, p.pair? u = none := by
  intro u hu
  cases q with
  | surrogate t =>
    rw [units, List.head?_cons, Option.mem_some_iff] at hu
    rw [← hu, h]
  | char c =>
    by_cases hc : c.toNat < 0x10000
    · rw [units_of_lt hc, List.head?_cons, Option.mem_some_iff] at hu
      rw [← hu, h]
    · obtain ⟨a, b, hunits, ha, -⟩ := exists_units_eq_pair hc
      rw [hunits, List.head?_cons, Option.mem_some_iff] at hu
      rw [← hu]
      cases p with
      | char _ => rfl
      | surrogate s => rw [pair?, Surrogate.pair?, if_neg (by omega)]

/-- Only surrogates are a pair. -/
theorem exists_surrogates_of_pair?_eq_some {p q : Point} {c : Char} (h : p.pair? q = some c) :
    ∃ a b, p = surrogate a ∧ q = surrogate b := by
  cases p with
  | char _ => cases h
  | surrogate a =>
    cases q with
    | char _ => cases h
    | surrogate b => exact ⟨a, b, rfl, rfl⟩

theorem units_ne_nil (p : Point) : units p ≠ [] := by
  cases p with
  | surrogate s => exact List.cons_ne_nil _ _
  | char c =>
    by_cases hc : c.toNat < 0x10000
    · rw [units_of_lt hc]
      exact List.cons_ne_nil _ _
    · obtain ⟨a, b, hunits, -, -⟩ := exists_units_eq_pair hc
      rw [hunits]
      exact List.cons_ne_nil _ _

end Point

theorem joinPairs_cons_of_not_pair {p : Point} {ps : List Point}
    (h : ∀ q ∈ ps.head?, p.pair? q = none) : joinPairs (p :: ps) = p :: joinPairs ps := by
  cases ps with
  | nil => rfl
  | cons q rest => rw [joinPairs, h q (by simp)]

theorem joinPairs_cons_of_pair {p q : Point} {c : Char} (h : p.pair? q = some c)
    (ps : List Point) : joinPairs (p :: q :: ps) = .char c :: joinPairs ps := by
  rw [joinPairs, h]

/-- A code point that is taken apart is put together again before anything that it is no pair with.
-/
theorem joinPairs_units_append {p : Point} {us : List Point}
    (h : ∀ u ∈ us.head?, p.pair? u = none) : joinPairs (p.units ++ us) = p :: joinPairs us := by
  cases p with
  | surrogate s => rw [Point.units, List.singleton_append, joinPairs_cons_of_not_pair h]
  | char c =>
    by_cases hc : c.toNat < 0x10000
    · rw [Point.units_of_lt hc, List.singleton_append, joinPairs_cons_of_not_pair h]
    · obtain ⟨a, b, hunits, -, hpair⟩ := Point.exists_units_eq_pair hc
      rw [hunits, List.cons_append, List.singleton_append, joinPairs_cons_of_pair hpair]

/-- Code points that are taken apart are joined to the same as before. The induction is the one of
joining: a pair is taken apart into itself, and of other neighbours the first one is left. -/
theorem joinPairs_flatMap_units (ps : List Point) :
    joinPairs (ps.flatMap Point.units) = joinPairs ps := by
  fun_induction joinPairs ps with
  | case1 => rfl
  | case2 p =>
    rw [List.flatMap_singleton, ← List.append_nil p.units]
    exact joinPairs_units_append (by simp)
  | case3 p q rest c hc ih =>
    obtain ⟨a, b, rfl, rfl⟩ := Point.exists_surrogates_of_pair?_eq_some hc
    rw [List.flatMap_cons, List.flatMap_cons, Point.units, Point.units, List.singleton_append,
      List.singleton_append, joinPairs_cons_of_pair hc, ih]
  | case4 p q rest hc ih =>
    obtain ⟨v, vs, hunits⟩ := List.exists_cons_of_ne_nil (Point.units_ne_nil q)
    have hnext : ∀ u ∈ ((q :: rest).flatMap Point.units).head?, p.pair? u = none := by
      intro u hu
      refine Point.pair?_head?_units hc u ?_
      rw [List.flatMap_cons, hunits, List.cons_append, List.head?_cons] at hu
      rw [hunits, List.head?_cons]
      exact hu
    rw [List.flatMap_cons, joinPairs_units_append hnext, ih]

end Text

/-- Code points with the same pairs joined are the same value. -/
theorem Value.ofPoints_congr {ps qs : List Text.Point} (h : Text.joinPairs ps = Text.joinPairs qs) :
    ofPoints ps = ofPoints qs := by
  rw [ofPoints, ofPoints]
  split
  · rename_i cs hcs
    split
    · rename_i cs' hcs'
      rw [h, hcs', Option.some_inj] at hcs
      rw [hcs]
    · rename_i hcs'
      rw [h, hcs'] at hcs
      cases hcs
  · rename_i hcs
    split
    · rename_i cs' hcs'
      rw [h, hcs'] at hcs
      cases hcs
    · simp only [h]

namespace Json

variable {opening rest tail : List Char} {qs : List Text.Point}

/-! ## Reading escapes -/

/-- Four hexadecimal digits are the unit that they were written for. -/
theorem exists_hexUnit?_hex {n : Nat} (h : n < 0x10000) :
    ∃ a b c d, Text.hex 4 n = [a, b, c, d] ∧ hexUnit? a b c d = some n := by
  refine ⟨_, _, _, _, rfl, ?_⟩
  have hdigit := fun m : Nat => Text.hexDigit?_digitChar (Nat.mod_lt m (by decide : 0 < 16))
  rw [hexUnit?, hdigit, hdigit, hdigit, hdigit]
  simp only [Option.bind_eq_bind, Option.bind_some, Option.pure_def, Option.some_inj]
  omega

theorem points_unitEscape {n : Nat} (h : n < 0x10000)
    (hrest : points opening rest = .ok (qs, tail)) :
    points opening (unitEscape n ++ rest) = .ok (.ofUnit n :: qs, tail) := by
  obtain ⟨a, b, c, d, hhex, hunit⟩ := exists_hexUnit?_hex h
  cases rest with
  | nil =>
    rw [points] at hrest
    cases hrest
  | cons e rest =>
    rw [unitEscape, hhex]
    simp only [List.cons_append, List.nil_append]
    rw [points, hunit]
    simp only [hrest]
    rfl

theorem points_letter {c x : Char} (hc : escaped? c = some x)
    (hrest : points opening rest = .ok (qs, tail)) :
    points opening ('\\' :: c :: rest) = .ok (.char x :: qs, tail) := by
  have hu : c ≠ 'u' := by
    rintro rfl
    cases hc
  rw [points, hc]
  · simp only [hrest]
    rfl
  · exact fun _ _ _ _ _ _ h _ => hu h
  · exact hu

theorem points_plain {c : Char} (hquote : c ≠ '"') (hbackslash : c ≠ '\\')
    (hc : ¬c.toNat < 0x20) (hrest : points opening rest = .ok (qs, tail)) :
    points opening (c :: rest) = .ok (.char c :: qs, tail) := by
  rw [points, if_neg hc, hrest]
  · rfl
  · exact hquote
  · exact fun h _ => hbackslash h
  · exact fun _ _ _ _ _ _ h _ => hbackslash h
  · exact fun _ h _ => hbackslash h
  · exact fun _ _ h _ => hbackslash h

theorem points_unitEscapes {ns : List Nat} (hns : ∀ n ∈ ns, n < 0x10000)
    (hrest : points opening rest = .ok (qs, tail)) :
    points opening (ns.flatMap unitEscape ++ rest)
      = .ok (ns.map Text.Point.ofUnit ++ qs, tail) := by
  induction ns with
  | nil => exact hrest
  | cons n ns ih =>
    rw [List.flatMap_cons, List.append_assoc]
    exact points_unitEscape (hns n List.mem_cons_self)
      (ih fun m hm => hns m (List.mem_cons_of_mem n hm))

theorem lt_of_mem_units16 {c : Char} {n : Nat} (h : n ∈ Encoding.units16 c) : n < 0x10000 := by
  have hc := Text.toNat_lt c
  by_cases hbmp : c.toNat < 0x10000
  · rw [Encoding.units16, if_pos hbmp, List.mem_singleton] at h
    omega
  · rw [Encoding.units16, if_neg hbmp, List.mem_cons, List.mem_singleton] at h
    omega

/-- What is read from the text of a code point are its units. -/
theorem points_writePoint (p : Text.Point) (hrest : points opening rest = .ok (qs, tail)) :
    points opening (writePoint p ++ rest) = .ok (p.units ++ qs, tail) := by
  cases p with
  | surrogate s =>
    have hs := s.bounds
    rw [writePoint, points_unitEscape (by omega) hrest, Text.Point.ofUnit_of_surrogate hs]
    rfl
  | char c =>
    rw [writePoint]
    unfold writeChar
    split
    -- the characters with a letter of their own
    any_goals exact points_letter rfl hrest
    rename_i hquote hbackslash _ _ _ _ _
    split
    · rename_i hplain
      rw [Text.Point.units_of_lt (by omega)]
      exact points_plain hquote hbackslash (by omega) hrest
    · exact points_unitEscapes (fun _ => lt_of_mem_units16) hrest

theorem points_flatMap_writePoint (ps : List Text.Point)
    (hrest : points opening rest = .ok (qs, tail)) :
    points opening (ps.flatMap writePoint ++ rest)
      = .ok (ps.flatMap Text.Point.units ++ qs, tail) := by
  induction ps with
  | nil => exact hrest
  | cons p ps ih =>
    rw [List.flatMap_cons, List.flatMap_cons, List.append_assoc, List.append_assoc]
    exact points_writePoint p ih

/-- The code points of a string are read back from its text, with their pairs joined. -/
theorem string_writePoints (ps : List Text.Point) (rest : List Char) :
    string (ps.flatMap writePoint ++ '"' :: rest) = .ok (Value.ofPoints ps, rest) := by
  rw [string, points_flatMap_writePoint ps (points.eq_2 _ rest), List.append_nil]
  exact congrArg (fun v => Except.ok (v, rest))
    (Value.ofPoints_congr (Text.joinPairs_flatMap_units ps))

/-! ## The characters of a string -/

theorem isAscii_unitEscape {n : Nat} {c : Char} (hc : c ∈ unitEscape n) : c.toNat < 0x80 := by
  have hdigit : ∀ m : Nat, (Nat.digitChar (m % 16)).toNat < 0x80 := by
    have all : ∀ d, d < 16 → (Nat.digitChar d).toNat < 0x80 := by decide
    exact fun m => all _ (Nat.mod_lt m (by decide))
  have hhex : ∀ width m, ∀ c ∈ Text.hex width m, c.toNat < 0x80 := by
    intro width
    induction width with
    | zero => simp [Text.hex]
    | succ w ih =>
      intro m c hc
      rw [Text.hex, List.mem_append, List.mem_singleton] at hc
      rcases hc with hc | rfl
      · exact ih _ c hc
      · exact hdigit m
  rw [unitEscape, List.mem_cons, List.mem_cons] at hc
  rcases hc with rfl | rfl | hc
  · decide
  · decide
  · exact hhex 4 n c hc

theorem isAscii_writePoint {p : Text.Point} {c : Char} (hc : c ∈ writePoint p) :
    c.toNat < 0x80 := by
  cases p with
  | surrogate s => exact isAscii_unitEscape hc
  | char x =>
    rw [writePoint] at hc
    unfold writeChar at hc
    split at hc
    any_goals
      rw [List.mem_cons, List.mem_singleton] at hc
      rcases hc with rfl | rfl <;> decide
    split at hc
    · rename_i hplain
      rw [List.mem_singleton.1 hc]
      omega
    · obtain ⟨n, -, hn⟩ := List.mem_flatMap.1 hc
      exact isAscii_unitEscape hn

/-- The text of a string is ASCII. -/
theorem isAscii_writePoints {ps : List Text.Point} {c : Char} (hc : c ∈ writePoints ps) :
    c.toNat < 0x80 := by
  rw [writePoints, List.mem_append, List.mem_cons, List.mem_singleton] at hc
  rcases hc with (rfl | hc) | rfl
  · decide
  · obtain ⟨p, -, hp⟩ := List.mem_flatMap.1 hc
    exact isAscii_writePoint hp
  · decide

end Json

end CloudEvents
