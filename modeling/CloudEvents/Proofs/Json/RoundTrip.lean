import CloudEvents.Proofs.Json.Numbers
import CloudEvents.Proofs.Json.Strings
import CloudEvents.Proofs.Value
/-!
# Documents that are read back

Values that JSON has are read back from their texts: null, truth values, integers that are not too
long, texts, lists, and mappings whose names are texts and all different. A text may hold surrogates
if no two of them are a pair, which would be joined. What is written is ASCII throughout. Doubles
are read back as far as each of them is: that the digits of one round to it again is a law of its
arithmetic and is asked for where it is needed.

A value is read back inside any text that goes on with a comma, a closing bracket or nothing
(`Reads`). The induction is on the value. Between the brackets of a list or a mapping it is carried
from one element to the next by an induction of its own, in which every element takes one unit of
fuel, paid for by the comma before it or the bracket.

## Main statements

* `exists_reads_with`, `exists_reads`: a value has a text that it is read back from;
* `Reads.read`: such a text is a document of the value.
-/

namespace CloudEvents

namespace Value

/-- A text as the name of a member. -/
def IsName (k : Value) : Prop :=
  (∃ s, k = text s) ∨ ∃ t : Text.Unpaired, k = unpaired t ∧ Text.isJoined t.points = true

/-- A value that JSON has. -/
inductive IsJson : Value → Prop where
  /-- The missing value. -/
  | null : IsJson null
  /-- A truth value. -/
  | bool (b : Bool) : IsJson (bool b)
  /-- An integer that is not too long. -/
  | int (n : Int) (short : Text.IsShort n) : IsJson (int n)
  /-- A text. -/
  | text (s : String) : IsJson (text s)
  /-- A text that holds surrogates, of which no two are a pair. -/
  | unpaired (t : Text.Unpaired) (joined : Text.isJoined t.points = true) : IsJson (unpaired t)
  /-- A list of such values. -/
  | list (xs : List Value) (h : ∀ x ∈ xs, IsJson x) : IsJson (list xs)
  /-- A mapping of different names to such values. -/
  | mapping (entries : List (Value × Value)) (nodup : (entries.map Prod.fst).Nodup)
      (names : ∀ e ∈ entries, e.1.IsName) (h : ∀ e ∈ entries, IsJson e.2) : IsJson (mapping entries)

/-- A value that JSON has, with doubles that pass a test. -/
inductive IsJsonWith (double : Float → Prop) : Value → Prop where
  /-- The missing value. -/
  | null : IsJsonWith double null
  /-- A truth value. -/
  | bool (b : Bool) : IsJsonWith double (bool b)
  /-- An integer that is not too long. -/
  | int (n : Int) (short : Text.IsShort n) : IsJsonWith double (int n)
  /-- A double. -/
  | float (x : Float) (h : double x) : IsJsonWith double (float x)
  /-- A text. -/
  | text (s : String) : IsJsonWith double (text s)
  /-- A text that holds surrogates, of which no two are a pair. -/
  | unpaired (t : Text.Unpaired) (joined : Text.isJoined t.points = true) :
      IsJsonWith double (unpaired t)
  /-- A list of such values. -/
  | list (xs : List Value) (h : ∀ x ∈ xs, IsJsonWith double x) : IsJsonWith double (list xs)
  /-- A mapping of different names to such values. -/
  | mapping (entries : List (Value × Value)) (nodup : (entries.map Prod.fst).Nodup)
      (names : ∀ e ∈ entries, e.1.IsName) (h : ∀ e ∈ entries, IsJsonWith double e.2) :
      IsJsonWith double (mapping entries)

theorem IsJson.isJsonWith (double : Float → Prop) {v : Value} (h : v.IsJson) :
    v.IsJsonWith double := by
  induction h with
  | null => exact .null
  | bool b => exact .bool b
  | int n hshort => exact .int n hshort
  | text s => exact .text s
  | unpaired t hjoined => exact .unpaired t hjoined
  | list xs _ ih => exact .list xs ih
  | mapping entries hnodup hnames _ ih => exact .mapping entries hnodup hnames ih

/-- Names are the same key only if they are the same. -/
theorem IsName.eq_of_sameKey {k k' : Value} (h : k.IsName) (h' : k'.IsName)
    (hsame : sameKey k k' = true) : k = k' := by
  rcases h with ⟨s, rfl⟩ | ⟨t, rfl, -⟩
  · rcases h' with ⟨s', rfl⟩ | ⟨t', rfl, -⟩
    · rw [sameKey_text, beq_iff_eq] at hsame
      rw [hsame]
    · cases hsame
  · rcases h' with ⟨s', rfl⟩ | ⟨t', rfl, -⟩
    · cases hsame
    · have hunpaired : (t == t') = true := hsame
      rw [beq_iff_eq.1 hunpaired]

/-- A member with a new name goes last. -/
theorem putEntry_of_not_mem {k : Value} (hk : k.IsName) (v : Value) {l : List (Value × Value)}
    (hl : ∀ e ∈ l, e.1.IsName) (hnew : k ∉ l.map Prod.fst) : putEntry k v l = l ++ [(k, v)] := by
  induction l with
  | nil => rfl
  | cons e rest ih =>
    rw [List.map_cons, List.mem_cons, not_or] at hnew
    have hother : sameKey e.1 k ≠ true := fun h =>
      hnew.1 ((hl e List.mem_cons_self).eq_of_sameKey hk h).symm
    rw [putEntry, if_neg hother, ih (fun e' he' => hl e' (List.mem_cons_of_mem e he')) hnew.2,
      List.cons_append]

end Value

namespace Json

/-- Members with different names are read as the mapping that they were. -/
theorem objectOf_of_nodup {entries : List (Value × Value)} (hnodup : (entries.map Prod.fst).Nodup)
    (hnames : ∀ e ∈ entries, e.1.IsName) : objectOf entries = .mapping entries := by
  have hfold : ∀ l done : List (Value × Value), ((done ++ l).map Prod.fst).Nodup →
      (∀ e ∈ done ++ l, e.1.IsName) →
        l.foldl (fun entries e => Value.putEntry e.1 e.2 entries) done = done ++ l := by
    intro l
    induction l with
    | nil =>
      intro done _ _
      rw [List.append_nil]
      rfl
    | cons e rest ih =>
      intro done hdone hall
      have hnew : e.1 ∉ done.map Prod.fst := by
        rw [List.map_append, List.map_cons] at hdone
        intro hmem
        exact (List.nodup_append.1 hdone).2.2 _ hmem _ List.mem_cons_self rfl
      have hput := Value.putEntry_of_not_mem (hall e (by simp)) e.2
        (fun e' he' => hall e' (List.mem_append_left _ he')) hnew
      have hassoc : done ++ e :: rest = done ++ [(e.1, e.2)] ++ rest := by
        rw [List.append_assoc]
        rfl
      rw [List.foldl_cons, hput, hassoc]
      exact ih _ (hassoc ▸ hdone) (hassoc ▸ hall)
  exact congrArg Value.mapping (hfold entries [] hnodup hnames)

/-- Whether a text is written in ASCII and begins like a value. -/
structure IsText (cs : List Char) : Prop where
  /-- Its characters are ASCII. -/
  ascii : ∀ c ∈ cs, c.toNat < 0x80
  /-- It begins with neither a blank nor a closing bracket. -/
  start : ∃ c rest, cs = c :: rest ∧ isSpace c = false ∧ c ≠ ']' ∧ c ≠ '\x7d'

/-- A value is read back from a text wherever that stands. -/
structure Reads (v : Value) (cs : List Char) : Prop extends IsText cs where
  /-- The value is read, and no more than its text. -/
  reads : ∀ fuel rest, 2 * cs.length ≤ fuel → Delimited rest →
    value fuel (cs ++ rest) = .ok (v, rest)

/-! ## Scalars and strings -/

theorem IsText.cons {c : Char} {cs : List Char}
    (hascii : (c :: cs).all (fun x => x.toNat < 0x80) = true) (hspace : isSpace c = false)
    (hlist : c ≠ ']') (hmapping : c ≠ '\x7d') : IsText (c :: cs) :=
  ⟨fun x hx => of_decide_eq_true (List.all_eq_true.1 hascii x hx), c, cs, rfl, hspace, hlist,
    hmapping⟩

theorem IsText.append {cs cs' : List Char} (h : IsText cs) (h' : ∀ c ∈ cs', c.toNat < 0x80) :
    IsText (cs ++ cs') := by
  obtain ⟨c, tail, rfl, hspace, hlist, hmapping⟩ := h.start
  refine ⟨fun x hx => ?_, c, tail ++ cs', rfl, hspace, hlist, hmapping⟩
  rcases List.mem_append.1 hx with hx | hx
  · exact h.ascii x hx
  · exact h' x hx

/-- Texts with commas between them begin like the first of them. -/
theorem isText_intercalate {part : List Char} {parts : List (List Char)}
    (h : ∀ p ∈ part :: parts, IsText p) : IsText (List.intercalate [','] (part :: parts)) := by
  induction parts generalizing part with
  | nil =>
    rw [List.intercalate_singleton]
    exact h part List.mem_cons_self
  | cons next parts ih =>
    have hrest := ih fun p hp => h p (List.mem_cons_of_mem part hp)
    rw [List.intercalate_cons_cons, List.append_assoc]
    refine (h part List.mem_cons_self).append fun c hc => ?_
    rcases List.mem_append.1 hc with hc | hc
    · rw [List.mem_singleton.1 hc]
      decide
    · exact hrest.ascii c hc

/-- Nothing is passed over before a value. -/
theorem IsText.skip_append {cs : List Char} (h : IsText cs) (rest : List Char) :
    skip (cs ++ rest) = cs ++ rest := by
  obtain ⟨c, tail, rfl, hspace, -, -⟩ := h.start
  rw [skip, List.cons_append, List.dropWhile_cons, hspace, if_neg Bool.false_ne_true]

/-- A value that begins with neither quote nor bracket is a scalar. -/
theorem value_eq_scalar {c : Char} (hquote : c ≠ '"') (hlist : c ≠ '[') (hmapping : c ≠ '\x7b')
    (fuel : Nat) (cs : List Char) : value (fuel + 1) (c :: cs) = scalar (c :: cs) := by
  rw [value]
  · exact fun _ heq => hquote (List.cons.inj heq).1
  · exact fun _ heq => hlist (List.cons.inj heq).1
  · exact fun _ heq => hmapping (List.cons.inj heq).1

theorem Reads.of_scalar {v : Value} {cs : List Char} {c : Char} (htext : IsText cs)
    (hhead : cs.head? = some c) (hstart : c ≠ '"' ∧ c ≠ '[' ∧ c ≠ '\x7b')
    (h : ∀ rest, Delimited rest → scalar (cs ++ rest) = .ok (v, rest)) : Reads v cs where
  toIsText := htext
  reads := by
    intro fuel rest hfuel hrest
    obtain ⟨tail, rfl⟩ := List.head?_eq_some_iff.1 hhead
    obtain ⟨hquote, hlist, hmapping⟩ := hstart
    obtain ⟨fuel, rfl⟩ : ∃ n, fuel = n + 1 := ⟨fuel - 1, by rw [List.length_cons] at hfuel; omega⟩
    rw [List.cons_append, value_eq_scalar hquote hlist hmapping, ← List.cons_append, h rest hrest]

theorem reads_null : Reads .null "null".toList :=
  .of_scalar (.cons rfl (by decide) (by decide) (by decide)) rfl (by decide) fun _ _ => rfl

theorem reads_bool (b : Bool) : Reads (.bool b) (writeBool b) := by
  cases b with
  | true =>
    exact .of_scalar (.cons rfl (by decide) (by decide) (by decide)) rfl (by decide)
      fun _ _ => rfl
  | false =>
    exact .of_scalar (.cons rfl (by decide) (by decide) (by decide)) rfl (by decide)
      fun _ _ => rfl

/-- A number is read back from a text that begins with a digit, perhaps after a minus sign. -/
theorem Reads.of_number {v : Value} {cs text : List Char} (hcs : StartsWithDigit cs)
    (htext : text = cs ∨ text = '-' :: cs) (hascii : ∀ c ∈ text, c.toNat < 0x80)
    (h : ∀ rest, Delimited rest → number? (text ++ rest) = some (.ok v, rest)) : Reads v text := by
  have hscalar : ∀ rest, Delimited rest → scalar (text ++ rest) = .ok (v, rest) := by
    intro rest hrest
    have hword : word? (text ++ rest) = none := by
      rcases htext with rfl | rfl
      · exact (word?_of_digit hcs rest).1
      · exact (word?_of_digit hcs rest).2
    rw [scalar, hword, h rest hrest]
    rfl
  rcases htext with rfl | rfl
  · obtain ⟨d, ds, rfl, hd⟩ := hcs
    have hne : ∀ c : Char, c.isDigit = false → d ≠ c := fun _ => ne_of_isDigit hd
    exact .of_scalar ⟨hascii, d, ds, rfl, isSpace_of_isDigit hd, hne ']' rfl, hne '\x7d' rfl⟩ rfl
      ⟨hne '"' rfl, hne '[' rfl, hne '\x7b' rfl⟩ hscalar
  · exact .of_scalar ⟨hascii, '-', cs, rfl, by decide, by decide, by decide⟩ rfl (by decide)
      hscalar

theorem reads_int {n : Int} (h : Text.IsShort n) : Reads (.int n) (Text.signed n) := by
  obtain ⟨cs, hcs, htext⟩ := exists_signed_eq n
  exact .of_number hcs htext (fun _ => isAscii_signed) fun _ => number?_signed h

/-- A finite double is read as a double. -/
theorem exists_reads_text {x : Float} (hnan : x.isNaN = false) (hinf : x.isInf = false) :
    ∃ y, Reads (.float y) (Decimal.text x) := by
  obtain ⟨cs, hcs, htext⟩ := Decimal.exists_isNumeral_text hnan hinf
  obtain ⟨y, hy⟩ := exists_number?_text hnan hinf
  exact ⟨y, .of_number (startsWithDigit_numeral hcs) htext (fun _ => isAscii_text hnan hinf) hy⟩

theorem reads_points (ps : List Text.Point) : Reads (Value.ofPoints ps) (writePoints ps) where
  ascii _ := isAscii_writePoints
  start := ⟨_, _, rfl, by decide, by decide, by decide⟩
  reads := by
    intro fuel rest hfuel _
    obtain ⟨fuel, rfl⟩ : ∃ n, fuel = n + 1 := by
      refine ⟨fuel - 1, ?_⟩
      rw [writePoints, List.length_append, List.length_cons] at hfuel
      omega
    have happend : writePoints ps ++ rest = '"' :: (ps.flatMap writePoint ++ '"' :: rest) := by
      simp [writePoints]
    rw [happend, value, string_writePoints]

theorem reads_string (s : String) : Reads (.text s) (writeString s) := by
  have hs := reads_points (s.toList.map .char)
  rwa [Value.ofPoints_map_char, writePoints_map_char, String.ofList_toList] at hs

/-! ## Lists -/

/-- What comes after a value in a list or a mapping. -/
theorem delimited_cons {c : Char} (h : c = ',' ∨ c = ']' ∨ c = '\x7d') (rest : List Char) :
    Delimited (c :: rest) := by
  intro x hx
  rw [List.head?_cons, Option.mem_some_iff] at hx
  exact hx ▸ h

theorem isText_of_forall₂ {α : Type} {r : α → List Char → Prop}
    (hr : ∀ a cs, r a cs → IsText cs) {as : List α} {parts : List (List Char)}
    (h : List.Forall₂ r as parts) : ∀ p ∈ parts, IsText p := by
  induction h with
  | nil => simp
  | cons ha _ ih =>
    intro p hp
    rcases List.mem_cons.1 hp with rfl | hp
    · exact hr _ _ ha
    · exact ih p hp

/-- The elements of a list are read back from their texts. The induction is on the elements; each
takes one unit of fuel, and the comma or the bracket after it stands for that. -/
theorem elements_intercalate {x : Value} {xs : List Value} {cs : List Char}
    {parts : List (List Char)} (hx : Reads x cs) (h : List.Forall₂ Reads xs parts) (fuel : Nat)
    (rest : List Char) (hfuel : 2 * (List.intercalate [','] (cs :: parts)).length + 1 ≤ fuel) :
    elements fuel (List.intercalate [','] (cs :: parts) ++ ']' :: rest) = .ok (x :: xs, rest) := by
  induction h generalizing x cs fuel with
  | nil =>
    rw [List.intercalate_singleton] at hfuel ⊢
    obtain ⟨fuel, rfl⟩ : ∃ n, fuel = n + 1 := ⟨fuel - 1, by omega⟩
    rw [elements, hx.reads fuel _ (by omega) (delimited_cons (by simp) rest)]
    rfl
  | @cons y part ys parts hy hrest ih =>
    have htext := isText_intercalate
      (isText_of_forall₂ (r := Reads) (fun _ _ => Reads.toIsText) (.cons hy hrest))
    rw [List.intercalate_cons_cons, List.length_append, List.length_append,
      List.length_singleton] at hfuel
    obtain ⟨fuel, rfl⟩ : ∃ n, fuel = n + 1 := ⟨fuel - 1, by omega⟩
    have hmore := ih hy fuel (by omega)
    rw [List.intercalate_cons_cons, List.append_assoc, List.append_assoc, List.singleton_append,
      elements, hx.reads fuel _ (by omega) (delimited_cons (by simp) _)]
    change (elements fuel (skip _) >>= _) = _
    rw [htext.skip_append, hmore]
    rfl

theorem isText_bracketed {opening closing : Char} (hopening : IsText [opening])
    (hclosing : closing.toNat < 0x80) {parts : List (List Char)} (h : ∀ p ∈ parts, IsText p) :
    IsText (bracketed opening closing parts) := by
  have hinner : ∀ c ∈ List.intercalate [','] parts, c.toNat < 0x80 := by
    cases parts with
    | nil =>
      rw [List.intercalate_nil]
      simp
    | cons part parts => exact (isText_intercalate h).ascii
  refine (hopening.append hinner).append fun c hc => ?_
  rw [List.mem_singleton.1 hc]
  exact hclosing

/-- A list is read back from the texts of its elements. -/
theorem reads_list {xs : List Value} {parts : List (List Char)}
    (h : List.Forall₂ Reads xs parts) : Reads (.list xs) (bracketed '[' ']' parts) where
  toIsText := isText_bracketed (.cons rfl (by decide) (by decide) (by decide)) (by decide)
    (isText_of_forall₂ (r := Reads) (fun _ _ => Reads.toIsText) h)
  reads := by
    intro fuel rest hfuel _
    rw [bracketed, List.length_append, List.length_cons] at hfuel
    obtain ⟨fuel, rfl⟩ : ∃ n, fuel = n + 1 := ⟨fuel - 1, by omega⟩
    rw [bracketed, List.append_assoc, List.singleton_append, List.cons_append, value]
    cases h with
    | nil => rfl
    | @cons x cs xs parts hx hrest =>
      have htext := isText_intercalate
        (isText_of_forall₂ (r := Reads) (fun _ _ => Reads.toIsText) (.cons hx hrest))
      obtain ⟨c, tail, hcs, -, hlist, -⟩ := htext.start
      rw [htext.skip_append]
      split
      · rename_i heq
        rw [hcs, List.cons_append] at heq
        exact absurd (List.cons.inj heq).1 hlist
      · rw [elements_intercalate hx hrest fuel rest (by omega)]
        rfl

/-! ## Mappings -/

/-- A member is read back from a text: its name, a colon and its value. -/
def ReadsMember (e : Value × Value) (cs : List Char) : Prop :=
  ∃ ps text, cs = writePoints ps ++ ':' :: text ∧ Value.ofPoints ps = e.1 ∧ Reads e.2 text

theorem ReadsMember.isText {e : Value × Value} {cs : List Char} (h : ReadsMember e cs) :
    IsText cs := by
  obtain ⟨ps, text, rfl, -, htext⟩ := h
  refine (reads_points ps).toIsText.append fun c hc => ?_
  rcases List.mem_cons.1 hc with rfl | hc
  · decide
  · exact htext.ascii c hc

/-- One member is read, and the reading goes on after the comma or ends at the bracket. -/
theorem ReadsMember.reads {e : Value × Value} {cs : List Char} (h : ReadsMember e cs) {fuel : Nat}
    (hfuel : 2 * cs.length ≤ fuel) {rest : List Char} (hrest : Delimited rest) :
    members (fuel + 1) (cs ++ rest) =
      match skip rest with
      | '\x7d' :: rest => .ok ([e], rest)
      | ',' :: rest => do
        let (ms, rest) ← members fuel (skip rest)
        .ok (e :: ms, rest)
      | rest => .error (.malformed .comma rest) := by
  obtain ⟨ps, text, rfl, hname, htext⟩ := h
  rw [List.length_append, List.length_cons] at hfuel
  have happend : writePoints ps ++ ':' :: text ++ rest
      = '"' :: (ps.flatMap writePoint ++ '"' :: ':' :: (text ++ rest)) := by
    simp [writePoints]
  rw [happend, members, string_writePoints, hname]
  change (value fuel (skip (text ++ rest)) >>= _) = _
  rw [htext.skip_append, htext.reads fuel rest (by omega) hrest]
  rfl

/-- The members of a mapping are read back from their texts, by the same induction. -/
theorem members_intercalate {e : Value × Value} {entries : List (Value × Value)} {cs : List Char}
    {parts : List (List Char)} (he : ReadsMember e cs) (h : List.Forall₂ ReadsMember entries parts)
    (fuel : Nat) (rest : List Char)
    (hfuel : 2 * (List.intercalate [','] (cs :: parts)).length + 1 ≤ fuel) :
    members fuel (List.intercalate [','] (cs :: parts) ++ '\x7d' :: rest)
      = .ok (e :: entries, rest) := by
  induction h generalizing e cs fuel with
  | nil =>
    rw [List.intercalate_singleton] at hfuel ⊢
    obtain ⟨fuel, rfl⟩ : ∃ n, fuel = n + 1 := ⟨fuel - 1, by omega⟩
    rw [he.reads (by omega) (delimited_cons (by simp) rest)]
    rfl
  | @cons e' part entries parts he' hrest ih =>
    have htext := isText_intercalate
      (isText_of_forall₂ (r := ReadsMember) (fun _ _ => ReadsMember.isText) (.cons he' hrest))
    rw [List.intercalate_cons_cons, List.length_append, List.length_append,
      List.length_singleton] at hfuel
    obtain ⟨fuel, rfl⟩ : ∃ n, fuel = n + 1 := ⟨fuel - 1, by omega⟩
    have hmore := ih he' fuel (by omega)
    rw [List.intercalate_cons_cons, List.append_assoc, List.append_assoc, List.singleton_append,
      he.reads (by omega) (delimited_cons (by simp) _)]
    change (members fuel (skip _) >>= _) = _
    rw [htext.skip_append, hmore]
    rfl

/-- The texts of members are read as a mapping that takes the members one after another. -/
theorem reads_objectOf {entries : List (Value × Value)} {parts : List (List Char)}
    (h : List.Forall₂ ReadsMember entries parts) :
    Reads (objectOf entries) (bracketed '\x7b' '\x7d' parts) where
  toIsText := isText_bracketed (.cons rfl (by decide) (by decide) (by decide)) (by decide)
    (isText_of_forall₂ (r := ReadsMember) (fun _ _ => ReadsMember.isText) h)
  reads := by
    intro fuel rest hfuel _
    rw [bracketed, List.length_append, List.length_cons] at hfuel
    obtain ⟨fuel, rfl⟩ : ∃ n, fuel = n + 1 := ⟨fuel - 1, by omega⟩
    rw [bracketed, List.append_assoc, List.singleton_append, List.cons_append, value]
    cases h with
    | nil => rfl
    | @cons e cs entries parts he hrest =>
      have htext := isText_intercalate
        (isText_of_forall₂ (r := ReadsMember) (fun _ _ => ReadsMember.isText) (.cons he hrest))
      obtain ⟨c, tail, hcs, -, -, hmapping⟩ := htext.start
      rw [htext.skip_append]
      split
      · rename_i heq
        rw [hcs, List.cons_append] at heq
        exact absurd (List.cons.inj heq).1 hmapping
      · rw [members_intercalate he hrest fuel rest (by omega)]
        rfl

/-! ## Values -/

theorem exists_keyPoints {k : Value} (h : k.IsName) :
    ∃ ps, keyPoints k = .ok ps ∧ Value.ofPoints ps = k := by
  rcases h with ⟨s, rfl⟩ | ⟨t, rfl, hjoined⟩
  · refine ⟨_, rfl, ?_⟩
    rw [Value.ofPoints_map_char, String.ofList_toList]
  · exact ⟨_, rfl, Value.ofPoints_points hjoined⟩

theorem exists_writeElements {xs : List Value}
    (h : ∀ x ∈ xs, ∃ cs, write x = .ok cs ∧ Reads x cs) :
    ∃ parts, writeElements xs = .ok parts ∧ List.Forall₂ Reads xs parts := by
  induction xs with
  | nil => exact ⟨[], rfl, .nil⟩
  | cons x xs ih =>
    obtain ⟨cs, hwrite, hx⟩ := h x List.mem_cons_self
    obtain ⟨parts, hrest, hxs⟩ := ih fun y hy => h y (List.mem_cons_of_mem x hy)
    refine ⟨cs :: parts, ?_, .cons hx hxs⟩
    rw [writeElements, hwrite, hrest]
    rfl

theorem exists_writeMembers {entries : List (Value × Value)}
    (hnames : ∀ e ∈ entries, e.1.IsName)
    (h : ∀ e ∈ entries, ∃ cs, write e.2 = .ok cs ∧ Reads e.2 cs) :
    ∃ parts, writeMembers entries = .ok parts ∧ List.Forall₂ ReadsMember entries parts := by
  induction entries with
  | nil => exact ⟨[], rfl, .nil⟩
  | cons e entries ih =>
    obtain ⟨cs, hwrite, he⟩ := h e List.mem_cons_self
    obtain ⟨ps, hpoints, hname⟩ := exists_keyPoints (hnames e List.mem_cons_self)
    obtain ⟨parts, hrest, hentries⟩ := ih (fun e' he' => hnames e' (List.mem_cons_of_mem e he'))
      fun e' he' => h e' (List.mem_cons_of_mem e he')
    refine ⟨(writePoints ps ++ ':' :: cs) :: parts, ?_,
      .cons ⟨ps, cs, rfl, hname, he⟩ hentries⟩
    rw [writeMembers, hpoints, hwrite, hrest]
    rfl

theorem exists_reads_mapping {entries : List (Value × Value)}
    (hnodup : (entries.map Prod.fst).Nodup) (hnames : ∀ e ∈ entries, e.1.IsName)
    (h : ∀ e ∈ entries, ∃ cs, write e.2 = .ok cs ∧ Reads e.2 cs) :
    ∃ cs, write (.mapping entries) = .ok cs ∧ Reads (.mapping entries) cs := by
  obtain ⟨parts, hparts, hreads⟩ := exists_writeMembers hnames h
  have hmapping := reads_objectOf hreads
  rw [objectOf_of_nodup hnodup hnames] at hmapping
  refine ⟨_, ?_, hmapping⟩
  rw [write, hparts]
  rfl

/-- A value that JSON has can be written, and is read back if its doubles are. -/
theorem exists_reads_with {double : Float → Prop}
    (hdouble : ∀ x, double x → Reads (.float x) (writeFloat x)) {v : Value}
    (h : v.IsJsonWith double) : ∃ cs, write v = .ok cs ∧ Reads v cs := by
  induction h with
  | null => exact ⟨_, rfl, reads_null⟩
  | bool b => exact ⟨_, rfl, reads_bool b⟩
  | int n hshort => exact ⟨_, writeInt_eq_ok_iff.2 ⟨hshort, rfl⟩, reads_int hshort⟩
  | float x h => exact ⟨_, rfl, hdouble x h⟩
  | text s => exact ⟨_, rfl, reads_string s⟩
  | unpaired t hjoined =>
    have ht := reads_points t.points
    rw [Value.ofPoints_points hjoined] at ht
    exact ⟨_, rfl, ht⟩
  | list xs _ ih =>
    obtain ⟨parts, hparts, hreads⟩ := exists_writeElements ih
    refine ⟨_, ?_, reads_list hreads⟩
    rw [write, hparts]
    rfl
  | mapping entries hnodup hnames _ ih => exact exists_reads_mapping hnodup hnames ih

/-- A value without doubles is read back. -/
theorem exists_reads {v : Value} (h : v.IsJson) : ∃ cs, write v = .ok cs ∧ Reads v cs :=
  exists_reads_with (fun _ hx => hx) (h.isJsonWith _)

/-- A text that a value is read back from is a document of that value. -/
theorem Reads.read {v : Value} {cs : List Char} (h : Reads v cs) : Json.read cs = .ok v := by
  obtain ⟨c, rest, hcs, -⟩ := h.start
  have hmark : cs.head? ≠ some '\uFEFF' := by
    intro hhead
    have hc := h.ascii '\uFEFF' (List.mem_of_head? hhead)
    revert hc
    decide
  have hskip := h.skip_append []
  have hread := h.reads (fuelFor cs) [] (by rw [fuelFor]; omega) (by simp [Delimited])
  rw [List.append_nil] at hskip hread
  rw [Json.read, document, if_neg hmark, hskip, hread]
  rfl

end Json

end CloudEvents
