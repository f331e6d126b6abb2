import CloudEvents.Proofs.Fields
import CloudEvents.Proofs.Json.RoundTrip
import CloudEvents.Proofs.Steps
/-!
# Documents that can be read

Whatever is written as JSON can be read. A value that JSON does not have is written as one that it
has: a timestamp as its text, a URI reference as a list, and two keys with the same text as two
members of which the later one counts. So what is read need not be the value that was written, but
it is told by the text of that value alone (`Renders`), and it is the value itself wherever JSON has
that.

For a document, a mapping whose names are texts, this goes member by member: the names are read back
in their order, and under each of them stands what its own value is written as.

## Main statements

* `exists_reads_of_write`: every text that is written is read as some value;
* `exists_reads_ofFields`: a document is read with the same names, member by member.
-/

namespace CloudEvents

namespace Fields

/-- The names of fields are different texts. -/
theorem nodup_textEntries (d : Fields Value) :
    ((d.entries.map fun e => (Value.text e.1, e.2)).map Prod.fst).Nodup := by
  have hkeys : (d.entries.map fun e => (Value.text e.1, e.2)).map Prod.fst
      = (d.entries.map Prod.fst).map Value.text := by
    simp [List.map_map, Function.comp_def]
  rw [hkeys]
  exact d.nodup.map fun _ _ heq => Value.text.inj heq

theorem isName_of_mem_textEntries (d : Fields Value) :
    ∀ e ∈ d.entries.map fun e => (Value.text e.1, e.2), e.1.IsName := by
  intro e he
  obtain ⟨e', -, rfl⟩ := List.mem_map.1 he
  exact Or.inl ⟨e'.1, rfl⟩

end Fields

namespace Json

/-- A value is written, and what is written is read as another value. -/
def Renders (v w : Value) : Prop := ∃ cs, write v = .ok cs ∧ read cs = .ok w

theorem Renders.unique {v w w' : Value} (h : Renders v w) (h' : Renders v w') : w = w' := by
  obtain ⟨cs, hwrite, hread⟩ := h
  obtain ⟨cs', hwrite', hread'⟩ := h'
  rw [hwrite, Except.ok.injEq] at hwrite'
  subst hwrite'
  rw [hread, Except.ok.injEq] at hread'
  exact hread'

/-- A value that JSON has is read as itself. -/
theorem renders_self {v : Value} (h : v.IsJson) : Renders v v := by
  obtain ⟨cs, hwrite, hreads⟩ := exists_reads h
  exact ⟨cs, hwrite, hreads.read⟩

theorem Renders.eq_of_isJson {v w : Value} (h : Renders v w) (hv : v.IsJson) : w = v :=
  h.unique (renders_self hv)

/-- An integer that is written is not too long. -/
theorem Renders.isShort {n : Int} {w : Value} (h : Renders (.int n) w) : Text.IsShort n := by
  obtain ⟨cs, hwrite, -⟩ := h
  rw [write] at hwrite
  exact (writeInt_eq_ok_iff.1 hwrite).1

/-- A text that holds surrogates is read with all pairs of them joined. -/
theorem renders_unpaired (t : Text.Unpaired) : Renders (.unpaired t) (.ofPoints t.points) :=
  ⟨_, rfl, (reads_points t.points).read⟩

/-- The two halves of a character beyond U+FFFF. -/
def halves : Text.Unpaired :=
  ⟨[.surrogate ⟨0xD83D, by decide⟩, .surrogate ⟨0xDE00, by decide⟩], rfl⟩

/-- They are read as that character. -/
theorem not_renders_halves : ¬Renders (.unpaired halves) (.unpaired halves) := by
  intro h
  have hjoined : Value.ofPoints halves.points = .text "😀" := rfl
  have hsame := h.unique (renders_unpaired halves)
  rw [hjoined] at hsame
  cases hsame

/-- A media type is written as its text. -/
theorem Renders.withMediaTypeText {v w : Value} (h : Renders v w) :
    Renders v.withMediaTypeText w := by
  cases v <;> exact h

/-! ## Values -/

/-- A double is read as a double. -/
theorem exists_reads_float (x : Float) : ∃ y, Reads (.float y) (writeFloat x) := by
  rw [writeFloat]
  by_cases hnan : x.isNaN = true
  · rw [if_pos hnan]
    exact ⟨_, .of_scalar (.cons rfl (by decide) (by decide) (by decide)) rfl (by decide)
      fun _ _ => rfl⟩
  · rw [if_neg hnan]
    by_cases hinf : x.isInf = true
    · rw [if_pos hinf]
      split
      · exact ⟨_, .of_scalar (.cons rfl (by decide) (by decide) (by decide)) rfl (by decide)
          fun _ _ => rfl⟩
      · exact ⟨_, .of_scalar (.cons rfl (by decide) (by decide) (by decide)) rfl (by decide)
          fun _ _ => rfl⟩
    · rw [if_neg hinf]
      rw [Bool.not_eq_true] at hnan hinf
      exact exists_reads_text hnan hinf

/-- A double is read back from its text. The arithmetic of doubles is not among the things that are
proved here, so that the nearest double to the digits of one is that double has to be asked for. -/
def KeepsDouble (x : Float) : Prop := read (writeFloat x) = .ok (.float x)

theorem KeepsDouble.reads {x : Float} (h : KeepsDouble x) : Reads (.float x) (writeFloat x) := by
  obtain ⟨y, hy⟩ := exists_reads_float x
  have hsame := hy.read
  rw [h, Except.ok.injEq] at hsame
  rw [hsame]
  exact hy

/-- A document is read back if its doubles are. -/
theorem exists_reads_document {d : Fields Value}
    (h : ∀ name v, d.get? name = some v → v.IsJsonWith KeepsDouble) :
    ∃ cs, write (.ofFields d) = .ok cs ∧ Reads (.ofFields d) cs := by
  refine exists_reads_mapping d.nodup_textEntries d.isName_of_mem_textEntries ?_
  intro e he
  obtain ⟨e', he', rfl⟩ := List.mem_map.1 he
  exact exists_reads_with (fun _ hx => hx.reads) (h e'.1 e'.2 (Fields.get?_eq_some_iff.2 he'))

theorem reads_strings (l : List String) : List.Forall₂ Reads (l.map .text) (l.map writeString) := by
  rw [List.forall₂_map_left_iff, List.forall₂_map_right_iff, List.forall₂_same]
  exact fun s _ => reads_string s

/-- Every text that is written is read as some value. The induction is the one of the writer. -/
theorem exists_reads_of_write (v : Value) : ∀ {cs : List Char}, write v = .ok cs →
    ∃ w, Reads w cs := by
  refine write.induct (fun v => ∀ {cs : List Char}, write v = .ok cs → ∃ w, Reads w cs)
    (fun entries => ∀ {parts : List (List Char)}, writeMembers entries = .ok parts →
      ∃ es, List.Forall₂ ReadsMember es parts)
    (fun xs => ∀ {parts : List (List Char)}, writeElements xs = .ok parts →
      ∃ ws, List.Forall₂ Reads ws parts)
    ?null ?bool ?int ?float ?text ?unpaired ?list ?mapping ?uri ?shown ?noElements ?element
    ?noMembers ?member v
  case null =>
    rintro _ ⟨⟩
    exact ⟨_, reads_null⟩
  case bool =>
    rintro b _ ⟨⟩
    exact ⟨_, reads_bool b⟩
  case int =>
    intro n cs h
    rw [write] at h
    obtain ⟨hshort, rfl⟩ := writeInt_eq_ok_iff.1 h
    exact ⟨_, reads_int hshort⟩
  case float =>
    rintro x _ ⟨⟩
    obtain ⟨y, hy⟩ := exists_reads_float x
    exact ⟨_, hy⟩
  case text =>
    rintro s _ ⟨⟩
    exact ⟨_, reads_string s⟩
  case unpaired =>
    rintro t _ ⟨⟩
    exact ⟨_, reads_points t.points⟩
  case list =>
    intro xs ih cs h
    rw [write] at h
    obtain ⟨parts, hparts, rfl⟩ := exists_of_map_eq_ok h
    obtain ⟨ws, hws⟩ := ih hparts
    exact ⟨_, reads_list hws⟩
  case mapping =>
    intro entries ih cs h
    rw [write] at h
    obtain ⟨parts, hparts, rfl⟩ := exists_of_map_eq_ok h
    obtain ⟨es, hes⟩ := ih hparts
    exact ⟨_, reads_objectOf hes⟩
  case uri =>
    rintro u _ ⟨⟩
    exact ⟨_, reads_list (reads_strings u.parts)⟩
  case shown =>
    intro v hnull hbool hint hfloat htext hunpaired hlist hmapping huri cs h
    rw [write] at h
    · obtain ⟨shown, -, rfl⟩ := exists_of_map_eq_ok h
      exact ⟨_, reads_string shown⟩
    all_goals assumption
  case noElements =>
    rintro _ ⟨⟩
    exact ⟨[], .nil⟩
  case element =>
    intro x rest ihx ihrest parts h
    rw [writeElements] at h
    obtain ⟨cs, hcs, h⟩ := exists_of_bind_eq_ok h
    obtain ⟨parts', hparts, h⟩ := exists_of_bind_eq_ok h
    cases h
    obtain ⟨w, hw⟩ := ihx hcs
    obtain ⟨ws, hws⟩ := ihrest hparts
    exact ⟨w :: ws, .cons hw hws⟩
  case noMembers =>
    rintro _ ⟨⟩
    exact ⟨[], .nil⟩
  case member =>
    intro k v rest ihv ihrest parts h
    rw [writeMembers] at h
    obtain ⟨ps, hps, h⟩ := exists_of_bind_eq_ok h
    obtain ⟨cs, hcs, h⟩ := exists_of_bind_eq_ok h
    obtain ⟨parts', hparts, h⟩ := exists_of_bind_eq_ok h
    cases h
    obtain ⟨w, hw⟩ := ihv hcs
    obtain ⟨es, hes⟩ := ihrest hparts
    exact ⟨(Value.ofPoints ps, w) :: es,
      .cons ⟨ps, cs, rfl, rfl, hw⟩ hes⟩

/-! ## Documents -/

/-- Members whose names are texts are read one by one, under the same names. -/
theorem exists_reads_members {l : List (String × Value)} {parts : List (List Char)}
    (h : writeMembers (l.map fun e => (.text e.1, e.2)) = .ok parts) :
    ∃ es : List (String × Value),
      List.Forall₂ ReadsMember (es.map fun e => (.text e.1, e.2)) parts ∧
        Fields.EntriesRelate Renders l es := by
  induction l generalizing parts with
  | nil =>
    cases h
    exact ⟨[], .nil, .nil⟩
  | cons e rest ih =>
    rw [List.map_cons, writeMembers] at h
    obtain ⟨ps, hps, h⟩ := exists_of_bind_eq_ok h
    obtain ⟨cs, hcs, h⟩ := exists_of_bind_eq_ok h
    obtain ⟨parts', hparts, h⟩ := exists_of_bind_eq_ok h
    cases h
    cases hps
    obtain ⟨w, hw⟩ := exists_reads_of_write e.2 hcs
    obtain ⟨es, hes, hsame⟩ := ih hparts
    have hname : Value.ofPoints (e.1.toList.map .char) = .text e.1 := by
      rw [Value.ofPoints_map_char, String.ofList_toList]
    exact ⟨(e.1, w) :: es,
      .cons ⟨_, cs, rfl, hname, hw⟩ hes,
      .cons ⟨rfl, cs, hcs, hw.read⟩ hsame⟩

/-- A document is read with the same names, member by member. -/
theorem exists_reads_ofFields {d : Fields Value} {cs : List Char}
    (h : write (.ofFields d) = .ok cs) :
    ∃ d' : Fields Value, Reads (.ofFields d') cs ∧
      Fields.EntriesRelate Renders d.entries d'.entries := by
  rw [Value.ofFields, write] at h
  obtain ⟨parts, hparts, rfl⟩ := exists_of_map_eq_ok h
  obtain ⟨es, hes, hsame⟩ := exists_reads_members hparts
  have hentries := Fields.entries_ofList (hsame.map_fst_eq ▸ d.nodup)
  refine ⟨Fields.ofList es, ?_, ?_⟩
  · rw [← objectOf_text]
    exact reads_objectOf hes
  · rw [hentries]
    exact hsame

end Json

end CloudEvents
