import CloudEvents.Proofs.MediaType.Grammar
/-!
# Media types that are read twice

A media type that is read is written out without blanks and without quotes and may be read again
from that text. Its type, its subtype and the names of its parameters are kept in a form in which
they are read as they are (`IsName`). A value is not: it has lost the quotes around it, and what
stood between these quotes may have blanks at its ends, which the second reading takes off, and
then quotes again.

So the second reading gives the same media type exactly if no value has blanks at its ends, and for
each value what is read of it alone (`reread`).

## Main statements

* `Written.isNormal`: the names and values of a media type that has been read;
* `IsNormal.read_text`: what is read from the text of such a media type;
* `ofValue_text`: reading twice.
-/

namespace CloudEvents

namespace MediaType

open Text (isBlank IsTrimmed)

/-! ## What has been read -/

/-- A name as it is kept: in lower case, without blanks at its ends, and free of a separator and of
semicolons. -/
structure IsName (separator : Char) (s : String) : Prop where
  lower : Text.lower s.toList = s.toList
  trimmed : IsTrimmed isBlank s.toList
  ne : s.toList ≠ []
  free : separator ∉ s.toList ∧ ';' ∉ s.toList

/-- A media type as it is kept when it has been read. -/
structure IsNormal (m : MediaType) : Prop where
  mainType : IsName '/' m.mainType
  subtype : IsName '/' m.subtype
  star : m.mainType.toList = ['*'] → m.subtype.toList = ['*']
  names : ∀ e ∈ m.parameters.entries, IsName '=' e.1
  values : ∀ e ∈ m.parameters.entries, ';' ∉ e.2.toList ∧ IsTrimmed (· == '"') e.2.toList

/-- Lower-casing a word makes a name of it. -/
theorem isName_lower {separator : Char} (hsign : Text.IsSign separator) {cs : List Char}
    (trimmed : IsTrimmed isBlank cs) (ne : cs ≠ []) (free : separator ∉ cs ∧ ';' ∉ cs) :
    IsName separator (String.ofList (Text.lower cs)) where
  lower := by rw [String.toList_ofList, Text.lower_lower]
  trimmed := by
    rw [String.toList_ofList]
    exact Text.isTrimmed_lower trimmed
  ne := by rwa [String.toList_ofList, ne_eq, Text.lower_eq_nil_iff]
  free := by
    rw [String.toList_ofList]
    exact ⟨fun h => free.1 (Text.mem_of_mem_lower hsign h),
      fun h => free.2 (Text.mem_of_mem_lower rfl h)⟩

theorem Names.isName (n : Names) :
    IsName '/' (String.ofList (Text.lower n.mainType)) ∧
      IsName '/' (String.ofList (Text.lower n.subtype)) := by
  cases n with
  | star =>
    have hstar : IsName '/' (String.ofList (Text.lower ['*'])) :=
      isName_lower (by rfl) (by decide) (by decide) (by decide)
    exact ⟨hstar, hstar⟩
  | pair a b ha hb hafree hbfree =>
    exact ⟨isName_lower (by rfl) a.core_trimmed ha hafree,
      isName_lower (by rfl) b.core_trimmed hb hbfree⟩

/-- What is written is kept in normal form. -/
theorem Written.isNormal (w : Written) : w.mediaType.IsNormal := by
  have hentries : ∀ e ∈ w.mediaType.parameters.entries, ∃ p : Parameter, p.entry = e := by
    intro e he
    obtain ⟨p, -, hp⟩ := List.mem_map.1 (Fields.mem_of_mem_entries_ofList he)
    exact ⟨p, hp⟩
  refine ⟨w.names.isName.1, w.names.isName.2, fun hstar => ?_, fun e he => ?_, fun e he => ?_⟩
  · rw [mediaType, String.toList_ofList, lower_eq_star_iff] at hstar ⊢
    cases hn : w.names with
    | star => rfl
    | pair a b _ _ _ _ hrule =>
      rw [hn] at hstar
      exact hrule hstar
  · obtain ⟨p, rfl⟩ := hentries e he
    exact isName_lower (by rfl) p.name.core_trimmed p.name_ne p.name_free
  · obtain ⟨p, rfl⟩ := hentries e he
    rw [Parameter.entry, String.toList_ofList]
    exact ⟨fun h => p.value_free (Text.mem_of_mem_trimOf h), Text.isTrimmed_trimOf _ _⟩

/-! ## Writing and reading -/

/-- What is read of a value that is written out. -/
def reread (v : String) : String := String.ofList (Text.trimOf (· == '"') (Text.trim v.toList))

/-- A value is read as it is if there are no quotes and no blanks at its ends. -/
theorem reread_eq_self_iff {v : String} (hquotes : IsTrimmed (· == '"') v.toList) :
    reread v = v ↔ IsTrimmed isBlank v.toList := by
  constructor
  · intro h
    have hself : Text.trimOf (· == '"') (Text.trim v.toList) = v.toList := by
      conv_rhs => rw [← h, reread, String.toList_ofList]
    obtain ⟨l, r, -, -, hblanks⟩ := Text.exists_trimOf_eq isBlank v.toList
    obtain ⟨l', r', -, -, hrest⟩ := Text.exists_trimOf_eq (· == '"') (Text.trim v.toList)
    rw [hself] at hrest
    -- the text is part of what trimming leaves of it, so nothing has been taken off
    have hlength := congrArg List.length hblanks
    have hlength' := congrArg List.length hrest
    simp only [List.length_append, Text.trim] at hlength hlength'
    have hl : l = [] := List.eq_nil_of_length_eq_zero (by omega)
    have hr : r = [] := List.eq_nil_of_length_eq_zero (by omega)
    rw [hl, hr, List.nil_append, List.append_nil] at hblanks
    exact Text.trimOf_eq_self_iff.1 hblanks.symm
  · intro h
    rw [reread, Text.trim, h.trimOf_eq, hquotes.trimOf_eq, String.ofList_toList]

/-- A name of a parameter and its value are written as a segment that is read as them. -/
theorem exists_segment_of_entry {e : String × String} (hname : IsName '=' e.1)
    (hvalue : ';' ∉ e.2.toList) : ∃ p : Parameter,
      (Segment.named p).text = e.1.toList ++ '=' :: e.2.toList ∧ p.entry = (e.1, reread e.2) := by
  obtain ⟨value, htext, hcore⟩ := Padded.exists_text_eq e.2.toList
  have hfree : ';' ∉ value.core := Padded.core_free (by rwa [htext])
  refine ⟨⟨.bare e.1.toList hname.trimmed, value, hname.ne, hname.free, hfree⟩, ?_, ?_⟩
  · simp only [Segment.text, Padded.text_bare, htext]
  · simp only [Parameter.entry, hcore, Padded.bare, hname.lower, String.ofList_toList, reread]

theorem exists_segments_of_entries {l : List (String × String)}
    (h : ∀ e ∈ l, IsName '=' e.1 ∧ ';' ∉ e.2.toList) : ∃ segments : List Segment,
      segments.map Segment.text = l.map (fun e => e.1.toList ++ '=' :: e.2.toList) ∧
        (segments.filterMap Segment.parameter?).map Parameter.entry
          = l.map fun e => (e.1, reread e.2) := by
  induction l with
  | nil => exact ⟨[], rfl, rfl⟩
  | cons e rest ih =>
    obtain ⟨p, htext, hentry⟩ :=
      exists_segment_of_entry (h e List.mem_cons_self).1 (h e List.mem_cons_self).2
    obtain ⟨segments, htexts, hentries⟩ := ih fun e' he' => h e' (List.mem_cons_of_mem e he')
    refine ⟨.named p :: segments, ?_, ?_⟩
    · rw [List.map_cons, List.map_cons, htext, htexts]
    · rw [List.filterMap_cons_some (f := Segment.parameter?) rfl, List.map_cons, List.map_cons,
        hentry, hentries]

theorem intercalate_cons (c : Char) (p : List Char) (ps : List (List Char)) :
    List.intercalate [c] (p :: ps) = p ++ ps.flatMap (c :: ·) := by
  induction ps generalizing p with
  | nil => simp
  | cons q qs ih =>
    rw [List.intercalate_cons_cons, ih, List.flatMap_cons]
    simp

theorem toList_text (m : MediaType) :
    m.text.toList = List.intercalate [';'] ((m.mainType.toList ++ '/' :: m.subtype.toList) ::
      m.parameters.entries.map fun e => e.1.toList ++ '=' :: e.2.toList) := by
  rw [intercalate_cons]
  simp only [text, String.toList_append, String.toList_join, List.flatMap_map]
  simp

/-- The text of a media type in normal form is a way to write it, with each value as it is read. -/
theorem IsNormal.exists_written {m : MediaType} (h : m.IsNormal) : ∃ w : Written,
    m.text = String.ofList w.text ∧
      w.mediaType = { m with parameters := m.parameters.mapValues reread } := by
  obtain ⟨segments, htexts, hentries⟩ :=
    exists_segments_of_entries fun e he => ⟨h.names e he, (h.values e he).1⟩
  have hnodup : ((m.parameters.entries.map fun e => (e.1, reread e.2)).map Prod.fst).Nodup :=
    (m.parameters.mapValues reread).nodup
  refine ⟨⟨.pair (.bare m.mainType.toList h.mainType.trimmed)
    (.bare m.subtype.toList h.subtype.trimmed) h.mainType.ne h.subtype.ne h.mainType.free
    h.subtype.free h.star, segments⟩, ?_, ?_⟩
  · simp only [Written.text, htexts, Names.text, Padded.text_bare, ← toList_text,
      String.ofList_toList]
  · have hparameters : Fields.ofList (m.parameters.entries.map fun e => (e.1, reread e.2))
        = m.parameters.mapValues reread := Fields.ext (Fields.entries_ofList hnodup)
    simp only [Written.mediaType, Written.entries, Written.parameters, hentries, hparameters,
      Names.mainType, Names.subtype, Padded.bare, h.mainType.lower, h.subtype.lower,
      String.ofList_toList]

/-- **Reading what is written out.** -/
theorem IsNormal.read_text {m : MediaType} (h : m.IsNormal) :
    read m.text = .ok { m with parameters := m.parameters.mapValues reread } := by
  obtain ⟨w, htext, hmedia⟩ := h.exists_written
  rw [htext, read_written, hmedia]

/-- **Reading twice.**  What has been read is read again from its text. Type, subtype, suffix and
the names of the parameters are the same, and each value is what is read of it alone. So the
parameters are the same exactly if no value has blanks at its ends. -/
theorem ofValue_text {v : Value} {m : MediaType} (h : ofValue v = .ok m) :
    ∃ m', ofValue (.text m.text) = .ok m' ∧ m'.mainType = m.mainType ∧ m'.subtype = m.subtype ∧
      m'.suffix? = m.suffix? ∧ m'.parameters.keys = m.parameters.keys ∧
      (∀ name, m'.parameters.get? name = (m.parameters.get? name).map reread) ∧
      m'.charset? = m.charset?.map reread ∧
      (m'.parameters = m.parameters ↔
        ∀ name value, m.parameters.get? name = some value → IsTrimmed isBlank value.toList) := by
  obtain ⟨s, hs, hread⟩ := exists_read_of_ofValue h
  obtain ⟨w, -, rfl⟩ := exists_written_of_read hread
  have hnormal := w.isNormal
  have hagain : ofValue (.text w.mediaType.text) = .ok { w.mediaType with
      parameters := w.mediaType.parameters.mapValues reread } := by
    rw [ofValue_eq rfl, hnormal.read_text]
    rfl
  have hsame : w.mediaType.parameters.mapValues reread = w.mediaType.parameters ↔
      ∀ name value, w.mediaType.parameters.get? name = some value →
        IsTrimmed isBlank value.toList := by
    rw [Fields.mapValues_eq_self_iff]
    refine forall₃_congr fun name value hv => reread_eq_self_iff ?_
    exact (hnormal.values _ (Fields.get?_eq_some_iff.1 hv)).2
  exact ⟨_, hagain, rfl, rfl, rfl, Fields.keys_mapValues reread _,
    Fields.get?_mapValues reread _, Fields.get?_mapValues reread _ _, hsame⟩

/-- A media type with blanks at the ends of a value. -/
def blankEnds : MediaType :=
  ⟨"a", "b+c", Fields.ofList [("x", "  y "), ("charset", "UTF-8")]⟩

/-- The blanks were between quotes, and go when they are written out without them. -/
theorem ofValue_text_blank : ofValue (.text "A/B+c ; x=\"  y \"; charset=UTF-8") = .ok blankEnds ∧
    ∃ m', ofValue (.text blankEnds.text) = .ok m' ∧ m'.subtype = "b+c" ∧
      m'.parameters.get? "x" = some "y" := by
  have h : ofValue (.text "A/B+c ; x=\"  y \"; charset=UTF-8") = .ok blankEnds := rfl
  obtain ⟨m', hm', -, hsubtype, -, -, hvalues, -⟩ := ofValue_text h
  exact ⟨h, m', hm', hsubtype, (hvalues "x").trans rfl⟩

end MediaType

end CloudEvents
