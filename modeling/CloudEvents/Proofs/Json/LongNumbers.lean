import CloudEvents.Proofs.Json.RoundTrip
import CloudEvents.Proofs.Steps
/-!
# Texts with an integer that is too long

The reader goes through a text from the left and hands on what is left of it, so that each of its
parts works on an ending of the text (`Consumes`). The digits that it counts therefore stand in the
text, one after another, and a reading breaks off at an integer only where there are more of them
than the limit.

The induction is the one of the reader, on its fuel: a value, the elements of a list and the members
of a mapping are gone through together.

## Main statements

* `exists_digits_of_read`: an integer that is too long is found in the text;
* `read_of_long`: too many digits alone are such a text.
-/

namespace CloudEvents

namespace Json

open Text (IsDigits IsWhole)

/-- What a part of the reader comes to on a text: it leaves an ending of the text, finds that
something is no JSON, or finds too many digits. -/
inductive Consumes {α : Type} (cs : List Char) : Except Fault (α × List Char) → Prop where
  /-- An ending is left. -/
  | ok (a : α) {rest : List Char} (h : rest <:+ cs) : Consumes cs (.ok (a, rest))
  /-- Something is no JSON. -/
  | malformed (cause : Cause) (rest : List Char) : Consumes cs (.error (.malformed cause rest))
  /-- There are too many digits. -/
  | integer {ds : List Char} (digits : IsDigits ds) (mem : ds <:+: cs)
      (long : Text.digitLimit < ds.length) :
      Consumes cs (.error (.integer (.read ds.length)))

namespace Consumes

variable {α β : Type} {cs cs' : List Char} {x : Except Fault (α × List Char)}

/-- What is done with an ending is done with the text. -/
theorem of_suffix (h : Consumes cs' x) (hcs : cs' <:+ cs) : Consumes cs x := by
  cases h with
  | ok a h => exact .ok a (h.trans hcs)
  | malformed cause rest => exact .malformed cause rest
  | integer digits mem long => exact .integer digits (mem.trans hcs.isInfix) long

theorem map (h : Consumes cs x) {f : α × List Char → β × List Char} (hf : ∀ y, (f y).2 = y.2) :
    Consumes cs (x.map f) := by
  cases h with
  | @ok a rest h =>
    have hrest : f (a, rest) = ((f (a, rest)).1, rest) := Prod.ext rfl (hf (a, rest))
    rw [Except.map, hrest]
    exact .ok _ h
  | malformed cause rest => exact .malformed cause rest
  | integer digits mem long => exact .integer digits mem long

/-- The next part goes on with what is left. -/
theorem bind (h : Consumes cs x) {f : α × List Char → Except Fault (β × List Char)}
    (hf : ∀ a rest, Consumes rest (f (a, rest))) : Consumes cs (x >>= f) := by
  cases h with
  | @ok a rest h => exact (hf a rest).of_suffix h
  | malformed cause rest => exact .malformed cause rest
  | integer digits mem long => exact .integer digits mem long

end Consumes

theorem skip_suffix (cs : List Char) : skip cs <:+ cs := List.dropWhile_suffix _

theorem suffix_of_skip {cs rest : List Char} {c : Char} (h : skip cs = c :: rest) : rest <:+ cs :=
  (List.suffix_cons c rest).trans (h ▸ skip_suffix cs)

/-! ## Strings and numbers -/

theorem consumes_points (opening cs : List Char) : Consumes cs (points opening cs) := by
  fun_induction points opening cs with
  | case1 => exact .malformed _ _
  | case2 rest => exact .ok _ (List.suffix_cons _ _)
  | case3 => exact .malformed _ _
  | case4 => exact .malformed _ _
  | case5 a b c d e rest n _ ih =>
    have hrest : e :: rest <:+ '\\' :: 'u' :: a :: b :: c :: d :: e :: rest :=
      ⟨['\\', 'u', a, b, c, d], rfl⟩
    exact (ih.of_suffix hrest).map fun _ => rfl
  | case6 => exact .malformed _ _
  | case7 => exact .malformed _ _
  | case8 c rest _ _ x _ ih =>
    exact (ih.of_suffix ⟨['\\', c], rfl⟩).map fun _ => rfl
  | case9 => exact .malformed _ _
  | case10 c rest _ _ _ _ _ _ ih => exact (ih.of_suffix (List.suffix_cons c rest)).map fun _ => rfl

theorem consumes_string (cs : List Char) : Consumes cs (string cs) :=
  (consumes_points ('"' :: cs) cs).map fun _ => rfl

/-- Digits that are read are the front of the text. -/
theorem append_of_digits? {cs ds rest : List Char} (h : digits? cs = some (ds, rest)) :
    IsDigits ds ∧ ds ++ rest = cs := by
  unfold digits? at h
  have hsplit := List.takeWhile_append_dropWhile (p := Char.isDigit) (l := cs)
  have hdigits : ∀ c ∈ cs.takeWhile Char.isDigit, c.isDigit = true := fun c hc =>
    List.mem_takeWhile_imp hc
  cases htake : cs.takeWhile Char.isDigit with
  | nil =>
    rw [htake] at h
    cases h
  | cons d ds' =>
    rw [htake] at h hsplit hdigits
    cases h
    exact ⟨⟨List.cons_ne_nil _ _, hdigits⟩, hsplit⟩

theorem append_of_whole? {cs ds rest : List Char} (h : whole? cs = some (ds, rest)) :
    IsDigits ds ∧ ds ++ rest = cs := by
  unfold whole? at h
  split at h
  · cases h
    exact ⟨⟨List.cons_ne_nil _ _, fun c hc => List.mem_singleton.1 hc ▸ rfl⟩, rfl⟩
  · exact append_of_digits? h

theorem suffix_of_digits? {cs ds rest : List Char} (h : digits? cs = some (ds, rest)) :
    rest <:+ cs :=
  ⟨ds, (append_of_digits? h).2⟩

theorem suffix_of_fraction? {cs ds rest : List Char} (h : fraction? cs = some (ds, rest)) :
    rest <:+ cs := by
  unfold fraction? at h
  split at h
  · exact (suffix_of_digits? h).trans (List.suffix_cons _ _)
  · cases h

theorem suffix_of_exponent? {cs rest : List Char} {e : Int} (h : exponent? cs = some (e, rest)) :
    rest <:+ cs := by
  have hdigits : ∀ {cs' : List Char} {g : List Char × List Char → Int × List Char}, cs' <:+ cs →
      (∀ y, (g y).2 = y.2) → (digits? cs').map g = some (e, rest) → rest <:+ cs := by
    intro cs' g hcs hg hread
    obtain ⟨⟨ds, rest'⟩, hds, heq⟩ := Option.map_eq_some_iff.1 hread
    have hrest : rest' = rest := (hg (ds, rest')).symm.trans (congrArg Prod.snd heq)
    exact hrest ▸ (suffix_of_digits? hds).trans hcs
  unfold exponent? at h
  split at h
  · split at h
    · split at h
      · exact hdigits ⟨[_, '-'], rfl⟩ (fun _ => rfl) h
      · exact hdigits ⟨[_, '+'], rfl⟩ (fun _ => rfl) h
      · exact hdigits (List.suffix_cons _ _) (fun _ => rfl) h
    · cases h
  · cases h

/-- What a number comes to as a part of the reader. -/
def ofNumber (found : Except Text.LongInteger Value) (rest : List Char) :
    Except Fault (Value × List Char) :=
  (found.mapError Fault.integer).map fun v => (v, rest)

theorem consumes_numberValue {cs ds rest : List Char} (hds : IsDigits ds) (mem : ds <:+: cs)
    (hrest : rest <:+ cs) (negative : Bool) (f : Option (List Char)) (e : Option Int) :
    Consumes cs (ofNumber (numberValue negative ds f e) rest) := by
  rw [numberValue]
  split
  · split
    · rename_i hlong
      exact .integer hds mem hlong
    · exact .ok _ hrest
  · exact .ok _ hrest

theorem consumes_unsigned? {negative : Bool} {cs rest : List Char}
    {found : Except Text.LongInteger Value} (h : unsigned? negative cs = some (found, rest)) :
    Consumes cs (ofNumber found rest) := by
  rw [unsigned?] at h
  cases hwhole : whole? cs with
  | none =>
    rw [hwhole] at h
    cases h
  | some parts =>
    obtain ⟨whole, left⟩ := parts
    obtain ⟨hdigits, hsplit⟩ := append_of_whole? hwhole
    have hparts : ∀ {rest : List Char} (f : Option (List Char)) (e : Option Int), rest <:+ left →
        Consumes cs (ofNumber (numberValue negative whole f e) rest) := fun f e hrest =>
      consumes_numberValue hdigits ⟨[], left, hsplit⟩ (hrest.trans ⟨whole, hsplit⟩) negative f e
    rw [hwhole] at h
    simp only [Option.bind_eq_bind, Option.bind_some] at h
    -- a part that is not there leaves the text as it is
    cases hfraction : fraction? left with
    | none =>
      rw [hfraction] at h
      cases hexponent : exponent? left with
      | none =>
        simp only [hexponent] at h
        cases h
        exact hparts none none List.suffix_rfl
      | some y =>
        simp only [hexponent] at h
        cases h
        exact hparts none (some y.1) (suffix_of_exponent? hexponent)
    | some y =>
      rw [hfraction] at h
      cases hexponent : exponent? y.2 with
      | none =>
        simp only [hexponent] at h
        cases h
        exact hparts (some y.1) none (suffix_of_fraction? hfraction)
      | some z =>
        simp only [hexponent] at h
        cases h
        exact hparts (some y.1) (some z.1)
          ((suffix_of_exponent? hexponent).trans (suffix_of_fraction? hfraction))

theorem consumes_number? {cs rest : List Char} {found : Except Text.LongInteger Value}
    (h : number? cs = some (found, rest)) : Consumes cs (ofNumber found rest) := by
  unfold number? at h
  split at h
  · exact (consumes_unsigned? h).of_suffix (List.suffix_cons _ _)
  · exact consumes_unsigned? h

/-! ## Values -/

theorem consumes_scalar (cs : List Char) : Consumes cs (scalar cs) := by
  unfold scalar
  split
  · rename_i found hword
    obtain ⟨w, -, rfl⟩ := Option.map_eq_some_iff.1 hword
    exact .ok _ (List.drop_suffix _ cs)
  · split
    · rename_i found rest hnumber
      exact consumes_number? hnumber
    · exact .malformed _ _

/-- All parts of the reader consume the text. -/
theorem consumes_all (fuel : Nat) :
    (∀ cs, Consumes cs (value fuel cs)) ∧ (∀ cs, Consumes cs (elements fuel cs)) ∧
      ∀ cs, Consumes cs (members fuel cs) := by
  induction fuel with
  | zero => exact ⟨fun cs => .malformed _ cs, fun cs => .malformed _ cs, fun cs => .malformed _ cs⟩
  | succ fuel ih =>
    obtain ⟨ihvalue, ihelements, ihmembers⟩ := ih
    refine ⟨fun cs => ?value, fun cs => ?elements, fun cs => ?members⟩
    case value =>
      unfold value
      split
      · exact (consumes_string _).of_suffix (List.suffix_cons _ _)
      · rename_i rest
        split
        · rename_i hskip
          exact .ok _ ((suffix_of_skip hskip).trans (List.suffix_cons _ _))
        · exact Consumes.map ((ihelements _).of_suffix
            ((skip_suffix rest).trans (List.suffix_cons _ _))) fun _ => rfl
      · rename_i rest
        split
        · rename_i hskip
          exact .ok _ ((suffix_of_skip hskip).trans (List.suffix_cons _ _))
        · exact Consumes.map ((ihmembers _).of_suffix
            ((skip_suffix rest).trans (List.suffix_cons _ _))) fun _ => rfl
      · exact consumes_scalar cs
    case elements =>
      unfold elements
      refine (ihvalue cs).bind fun x rest => ?_
      dsimp only
      split
      · rename_i hskip
        exact .ok _ (suffix_of_skip hskip)
      · rename_i hskip
        have hrest := (skip_suffix _).trans (suffix_of_skip hskip)
        exact ((ihelements _).of_suffix hrest).bind fun xs rest => .ok _ List.suffix_rfl
      · exact .malformed _ _
    case members =>
      unfold members
      split
      · rename_i rest
        refine ((consumes_string rest).of_suffix (List.suffix_cons _ _)).bind fun name rest => ?_
        dsimp only
        split
        · rename_i hcolon
          have hvalue := (skip_suffix _).trans (suffix_of_skip hcolon)
          refine ((ihvalue _).of_suffix hvalue).bind fun x rest => ?_
          dsimp only
          split
          · rename_i hskip
            exact .ok _ (suffix_of_skip hskip)
          · rename_i hskip
            have hrest := (skip_suffix _).trans (suffix_of_skip hskip)
            exact ((ihmembers _).of_suffix hrest).bind fun ms rest => .ok _ List.suffix_rfl
          · exact .malformed _ _
        · exact .malformed _ _
      · exact .malformed _ _

/-- Where the reading of a text breaks off at an integer, there are that many digits in the text,
one after another, and more than the limit. -/
theorem exists_digits_of_read {text : List Char} {fault : Text.LongInteger}
    (h : read text = .error (.integer fault)) :
    ∃ ds, IsDigits ds ∧ ds <:+: text ∧ Text.digitLimit < ds.length ∧ fault = .read ds.length := by
  obtain ⟨found, hdocument, hlocate⟩ := exists_of_mapError_eq_error h
  have hfound : found = .integer fault := by
    cases found with
    | malformed cause rest => cases hlocate
    | integer fault' => rw [Refusal.integer.inj hlocate]
  subst hfound
  rw [document] at hdocument
  split at hdocument
  · cases hdocument
  · have hvalue := ((consumes_all (fuelFor text)).1 (skip text)).of_suffix (skip_suffix text)
    rcases eq_error_of_bind hdocument with herror | ⟨⟨x, rest⟩, -, hrest⟩
    · rw [herror] at hvalue
      cases hvalue with
      | integer hdigits hmem hlong => exact ⟨_, hdigits, hmem, hlong, rfl⟩
    · dsimp only at hrest
      split at hrest
      · cases hrest
      · cases hrest

/-- Digits alone, if they are too many. -/
theorem read_of_long {ds : List Char} (hds : IsWhole ds) (hlong : Text.digitLimit < ds.length) :
    read ds = .error (.integer (.read ds.length)) := by
  have hstart := startsWithDigit_of_isDigits hds.isDigits
  have hend : Delimited [] := by simp [Delimited]
  have hnumber := number?_of_long hds hlong hend
  have hword := (word?_of_digit hstart []).1
  rw [List.append_nil] at hnumber hword
  have hscalar : scalar ds = .error (.integer (.read ds.length)) := by
    unfold scalar
    rw [hword, hnumber]
    rfl
  obtain ⟨d, ds', rfl, hd⟩ := hstart
  have hne : ∀ c : Char, c.isDigit = false → d ≠ c := fun _ => ne_of_isDigit hd
  have hskip : skip (d :: ds') = d :: ds' := by
    rw [skip, List.dropWhile_cons, isSpace_of_isDigit hd, if_neg Bool.false_ne_true]
  have hvalue : value (fuelFor (d :: ds')) (d :: ds') = scalar (d :: ds') := by
    rw [fuelFor, value_eq_scalar (hne '"' rfl) (hne '[' rfl) (hne '\x7b' rfl)]
  have hmark : (d :: ds').head? ≠ some '\uFEFF' := fun h => hne '\uFEFF' rfl (Option.some.inj h)
  rw [read, document, if_neg hmark, hskip, hvalue, hscalar]
  rfl

end Json

end CloudEvents
