import CloudEvents.MediaType.Resolver
import CloudEvents.Proofs.Fields
import CloudEvents.Proofs.Steps
import CloudEvents.Proofs.Text.Lowercase
import CloudEvents.Proofs.Text.Trim
import Mathlib.Data.Set.List
/-!
# The language of media types

`Written` is a media type as it may be written down: a star or a type and a subtype, and segments
that are blank or a parameter, with blanks around every word. It is what the reader reads: a text is
read exactly if it is the text of a `Written`, and then as what that one says (`Written.Says`).

Nothing in the grammar mentions the reader. Its words are given with the blanks around them apart
(`Padded`), so what two ways to write the same thing have in common is a relation between their
words (`Written.Alike`).

## Main statements

* `read_written`, `exists_written_of_read`: the reader and the grammar;
* `ofValue_written`: texts in the language, all others, and ways to write the same media type.
-/

namespace CloudEvents

namespace MediaType

open Text (isBlank IsTrimmed)

/-! ## The grammar -/

/-- A word with blanks around it. -/
structure Padded where
  /-- The blanks before the word. -/
  before : List Char
  /-- The word, with no blank at either end. -/
  core : List Char
  /-- The blanks after the word. -/
  after : List Char
  before_blank : ∀ c ∈ before, isBlank c = true
  core_trimmed : IsTrimmed isBlank core
  after_blank : ∀ c ∈ after, isBlank c = true

/-- The word with its blanks. -/
def Padded.text (w : Padded) : List Char := w.before ++ (w.core ++ w.after)

/-- The part before the parameters: a lone star, or a type and a subtype. -/
inductive Names where
  /-- A star. -/
  | star (word : Padded) (word_star : word.core = ['*'])
  /-- A type and a subtype. Only the subtype may be a star without the other one being one. -/
  | pair (mainType subtype : Padded) (mainType_ne : mainType.core ≠ [])
      (subtype_ne : subtype.core ≠ [])
      (mainType_free : '/' ∉ mainType.core ∧ ';' ∉ mainType.core)
      (subtype_free : '/' ∉ subtype.core ∧ ';' ∉ subtype.core)
      (star : mainType.core = ['*'] → subtype.core = ['*'])

/-- A parameter. -/
structure Parameter where
  name : Padded
  value : Padded
  name_ne : name.core ≠ []
  name_free : '=' ∉ name.core ∧ ';' ∉ name.core
  value_free : ';' ∉ value.core

/-- What stands after a semicolon. -/
inductive Segment where
  /-- Nothing but blanks. -/
  | blank (text : List Char) (text_blank : ∀ c ∈ text, isBlank c = true)
  /-- A parameter. -/
  | named (parameter : Parameter)

/-- A media type as it is written. -/
structure Written where
  /-- The part before the parameters. -/
  names : Names
  /-- What stands after each of the semicolons. -/
  segments : List Segment

def Names.text : Names → List Char
  | star word _ => word.text
  | pair mainType subtype .. => mainType.text ++ '/' :: subtype.text

def Segment.text : Segment → List Char
  | blank text _ => text
  | named p => p.name.text ++ '=' :: p.value.text

/-- The text, with a semicolon before each of the segments. -/
def Written.text (w : Written) : List Char :=
  List.intercalate [';'] (w.names.text :: w.segments.map Segment.text)

/-! ## What is said -/

/-- The type, where a lone star is one. -/
def Names.mainType : Names → List Char
  | star .. => ['*']
  | pair mainType .. => mainType.core

/-- The subtype, where a lone star is one. -/
def Names.subtype : Names → List Char
  | star .. => ['*']
  | pair _ subtype .. => subtype.core

/-- The name in lower case, and the value without the quotes around it. -/
def Parameter.entry (p : Parameter) : String × String :=
  (String.ofList (Text.lower p.name.core), String.ofList (Text.trimOf (· == '"') p.value.core))

def Segment.parameter? : Segment → Option Parameter
  | blank .. => none
  | named p => some p

/-- The parameters in the order in which they are written. -/
def Written.parameters (w : Written) : List Parameter := w.segments.filterMap Segment.parameter?

/-- A media type is what is written: each name stands where it comes first, with the value that
comes last. -/
structure Written.Says (w : Written) (m : MediaType) : Prop where
  mainType : m.mainType = String.ofList (Text.lower w.names.mainType)
  subtype : m.subtype = String.ofList (Text.lower w.names.subtype)
  names : m.parameters.keys = (w.parameters.map fun p => p.entry.1).eraseDups
  values : ∀ name, m.parameters.get? name = (w.parameters.map Parameter.entry).reverse.lookup name

/-! ## Ways to write the same -/

/-- Two words have the same letters up to upper and lower case in ASCII. -/
def Padded.SameLetters (a b : Padded) : Prop :=
  a.core.map Char.toLower = b.core.map Char.toLower

/-- Two values are the same text with double quotes around it, any number of them. -/
def Padded.SameUnquoted (a b : Padded) : Prop :=
  ∃ inner l r l' r' : List Char, (∀ c ∈ l ++ r ++ l' ++ r', c = '"') ∧
    a.core = l ++ (inner ++ r) ∧ b.core = l' ++ (inner ++ r')

/-- Two parameters have the same name and the same value. -/
def Parameter.Alike (p q : Parameter) : Prop :=
  p.name.SameLetters q.name ∧ p.value.SameUnquoted q.value

def Names.Alike : Names → Names → Prop
  | star .., star .. => True
  | pair mainType subtype .., pair mainType' subtype' .. =>
    mainType.SameLetters mainType' ∧ subtype.SameLetters subtype'
  | _, _ => False

/-- Two ways to write a media type differ at most in blanks around words, in blank segments, in
upper and lower case, and in quotes around values. -/
def Written.Alike (w w' : Written) : Prop :=
  w.names.Alike w'.names ∧ List.Forall₂ Parameter.Alike w.parameters w'.parameters

/-! ## Words with blanks -/

namespace Padded

theorem trim_text (w : Padded) : Text.trim w.text = w.core :=
  w.core_trimmed.trimOf_append w.before_blank w.after_blank

theorem exists_text_eq (cs : List Char) :
    ∃ w : Padded, w.text = cs ∧ w.core = Text.trim cs := by
  obtain ⟨l, r, hl, hr, hcs⟩ := Text.exists_trimOf_eq isBlank cs
  exact ⟨⟨l, _, r, hl, Text.isTrimmed_trimOf isBlank cs, hr⟩, hcs.symm, rfl⟩

/-- A character that is no blank is in the text only if it is in the word. -/
theorem mem_text {w : Padded} {c : Char} (hc : isBlank c = false) : c ∈ w.text ↔ c ∈ w.core := by
  have hbefore : c ∉ w.before := fun h => by
    rw [w.before_blank c h] at hc
    cases hc
  have hafter : c ∉ w.after := fun h => by
    rw [w.after_blank c h] at hc
    cases hc
  simp [text, hbefore, hafter]

theorem core_free {w : Padded} {c : Char} (h : c ∉ w.text) : c ∉ w.core := fun hc =>
  h (List.mem_append_right _ (List.mem_append_left _ hc))

end Padded

/-! ## The parts -/

theorem readParameter_of_blank {cs : List Char} (h : ∀ c ∈ cs, isBlank c = true) :
    readParameter cs = .ok none := by
  have hcore : Text.trim cs = [] := Text.trimOf_eq_nil_iff.2 h
  rw [readParameter, if_pos hcore]

theorem readParameter_append {name : List Char} (h : '=' ∉ name) (value : List Char) :
    readParameter (name ++ '=' :: value) =
      if Text.trim name = [] then
        .error (.malformedParameter (Text.trim (name ++ '=' :: value)))
      else .ok (some (String.ofList (Text.lower (Text.trim name)),
        String.ofList (Text.trimOf (· == '"') (Text.trim value)))) := by
  obtain ⟨a, b, hcore, hname, -, ha, hb⟩ := Text.exists_trim_append_cons (c := '=') rfl name value
  have hfree : '=' ∉ a := fun hmem => h (hname hmem)
  rw [readParameter]
  simp only [hcore, Text.cut_append hfree, ha, hb]
  rw [if_neg (by simp)]

theorem readParameter_text (s : Segment) :
    readParameter s.text = .ok (s.parameter?.map Parameter.entry) := by
  cases s with
  | blank text htext => exact readParameter_of_blank htext
  | named p =>
    have hfree : '=' ∉ p.name.text := fun h => p.name_free.1 ((Padded.mem_text rfl).1 h)
    rw [Segment.text, readParameter_append hfree, p.name.trim_text, p.value.trim_text,
      if_neg p.name_ne]
    rfl

/-- A segment that is read is one of the grammar. -/
theorem exists_segment_of_readParameter {cs : List Char} (hfree : ';' ∉ cs)
    {r : Option (String × String)} (h : readParameter cs = .ok r) :
    ∃ s : Segment, s.text = cs := by
  by_cases hblank : Text.trim cs = []
  · exact ⟨.blank cs (Text.trimOf_eq_nil_iff.1 hblank), rfl⟩
  · have hcut := Text.cut_eq '=' cs
    have hname := Text.not_mem_fst_cut '=' cs
    generalize (Text.cut '=' cs).1 = name at hcut hname
    cases hvalue : (Text.cut '=' cs).2 with
    | none =>
      rw [hvalue, List.append_nil] at hcut
      have hcore : '=' ∉ Text.trim cs := fun hmem => hname (hcut ▸ Text.mem_of_mem_trimOf hmem)
      rw [readParameter] at h
      simp only [if_neg hblank, Text.cut_of_not_mem hcore] at h
      cases h
    | some value =>
      rw [hvalue] at hcut
      subst hcut
      rw [readParameter_append hname] at h
      split at h
      · cases h
      · rename_i hne
        rw [List.mem_append, not_or, List.mem_cons, not_or] at hfree
        obtain ⟨wname, htext, hcore⟩ := Padded.exists_text_eq name
        obtain ⟨wvalue, rfl, -⟩ := Padded.exists_text_eq value
        subst htext
        exact ⟨.named
          { name := wname
            value := wvalue
            name_ne := hcore ▸ hne
            name_free := ⟨Padded.core_free hname, Padded.core_free hfree.1⟩
            value_free := Padded.core_free hfree.2.2 }, rfl⟩

theorem lower_star : Text.lower ['*'] = ['*'] := rfl

theorem lower_eq_star_iff {cs : List Char} : Text.lower cs = ['*'] ↔ cs = ['*'] :=
  Text.lower_eq_singleton_iff rfl lower_star

/-- The names around a slash. -/
theorem readNames_trim {a b : List Char} (ha : '/' ∉ a) (hb : '/' ∉ b) :
    readNames (Text.trim (a ++ '/' :: b)) =
      if Text.trim a = [] ∨ Text.trim b = [] then .error .emptyPart
      else if Text.trim a = ['*'] ∧ Text.trim b ≠ ['*'] then .error .wildcardType
      else .ok (Text.lower (Text.trim a), Text.lower (Text.trim b)) := by
  obtain ⟨a', b', hcore, hfront, hback, ha', hb'⟩ :=
    Text.exists_trim_append_cons (c := '/') rfl a b
  rw [hcore, readNames, Text.pieces_append (fun h => ha (hfront h)),
    Text.pieces_of_not_mem (fun h => hb (hback h))]
  simp only [ha', hb', Text.lower_eq_nil_iff, lower_eq_star_iff, ne_eq]

/-- The part before the parameters is written out for a lone star only. -/
theorem readNames_fullText (cs : List Char) :
    readNames (fullText cs) =
      if Text.trim (Text.cut ';' cs).1 = ['*'] then .ok (['*'], ['*'])
      else readNames (Text.trim (Text.cut ';' cs).1) := by
  rw [fullText]
  split
  · rfl
  · rfl

theorem readNames_text {cs : List Char} {n : Names} (h : (Text.cut ';' cs).1 = n.text) :
    readNames (fullText cs) = .ok (Text.lower n.mainType, Text.lower n.subtype) := by
  rw [readNames_fullText, h]
  cases n with
  | star word hword =>
    rw [Names.text, word.trim_text, if_pos hword]
    rfl
  | pair a b ha hb hafree hbfree hstar =>
    obtain ⟨a', b', hcore, -⟩ := Text.exists_trim_append_cons (c := '/') rfl a.text b.text
    have hlone : Text.trim (a.text ++ '/' :: b.text) ≠ ['*'] := fun hlone => by
      have hslash : '/' ∈ ['*'] := by
        rw [← hlone, hcore]
        simp
      exact absurd hslash (by decide)
    have hrule : ¬(a.core = ['*'] ∧ b.core ≠ ['*']) := fun hboth => hboth.2 (hstar hboth.1)
    have ha_text : '/' ∉ a.text := fun hmem => hafree.1 ((Padded.mem_text rfl).1 hmem)
    have hb_text : '/' ∉ b.text := fun hmem => hbfree.1 ((Padded.mem_text rfl).1 hmem)
    rw [Names.text, if_neg hlone, readNames_trim ha_text hb_text, a.trim_text, b.trim_text,
      if_neg (not_or.2 ⟨ha, hb⟩), if_neg hrule]
    rfl

/-- There is one slash in what is read as names. -/
theorem exists_slash_of_readNames {full : List Char} {r : List Char × List Char}
    (h : readNames (Text.trim full) = .ok r) :
    ∃ a b, '/' ∉ a ∧ '/' ∉ b ∧ full = a ++ '/' :: b := by
  have hpieces := Text.intercalate_pieces '/' (Text.trim full)
  rw [readNames] at h
  split at h
  · rename_i a b hab
    rw [hab, List.intercalate_cons_cons, List.intercalate_singleton] at hpieces
    have ha : '/' ∉ a := Text.not_mem_of_mem_pieces (hab ▸ List.mem_cons_self)
    have hb : '/' ∉ b :=
      Text.not_mem_of_mem_pieces (hab ▸ List.mem_cons_of_mem a List.mem_cons_self)
    obtain ⟨l, r, hl, hr, hfull⟩ := Text.exists_trimOf_eq isBlank full
    have hslash : ∀ cs : List Char, (∀ c ∈ cs, isBlank c = true) → '/' ∉ cs :=
      fun cs hcs hmem => by cases hcs '/' hmem
    refine ⟨l ++ a, b ++ r, ?_, ?_, ?_⟩
    · simp [hslash l hl, ha]
    · simp [hslash r hr, hb]
    · rw [hfull, ← Text.trim, ← hpieces]
      simp
  · cases h

/-- What the names are read from is in the grammar. -/
theorem exists_names_of_readNames {cs : List Char} {r : List Char × List Char}
    (h : readNames (fullText cs) = .ok r) : ∃ n : Names, n.text = (Text.cut ';' cs).1 := by
  rw [readNames_fullText] at h
  have hfree := Text.not_mem_fst_cut ';' cs
  generalize (Text.cut ';' cs).1 = full at h hfree ⊢
  by_cases hlone : Text.trim full = ['*']
  · obtain ⟨word, htext, hcore⟩ := Padded.exists_text_eq full
    exact ⟨.star word (hcore.trans hlone), htext⟩
  · rw [if_neg hlone] at h
    obtain ⟨a, b, ha, hb, rfl⟩ := exists_slash_of_readNames h
    rw [readNames_trim ha hb] at h
    rw [List.mem_append, not_or, List.mem_cons, not_or] at hfree
    split at h
    · cases h
    · rename_i hne
      split at h
      · cases h
      · rename_i hrule
        obtain ⟨mainType, hmain, hmaincore⟩ := Padded.exists_text_eq a
        obtain ⟨subtype, rfl, hsubcore⟩ := Padded.exists_text_eq b
        subst hmain
        rw [← hmaincore, ← hsubcore] at hne hrule
        rw [not_or] at hne
        refine ⟨.pair mainType subtype hne.1 hne.2
          ⟨Padded.core_free ha, Padded.core_free hfree.1⟩
          ⟨Padded.core_free hb, Padded.core_free hfree.2.2⟩ fun hstar => ?_, rfl⟩
        exact not_not.1 fun hother => hrule ⟨hstar, hother⟩

/-! ## The whole text -/

/-- The parameters are read from the pieces after the first one. -/
theorem readParameters_segments {cs p : List Char} {ps : List (List Char)}
    (h : Text.pieces ';' cs = p :: ps) :
    (Text.cut ';' cs).1 = p ∧ readParameters (segments cs) = readParameters ps := by
  rw [Text.pieces_eq_cut, List.cons.injEq] at h
  obtain ⟨hp, rfl⟩ := h
  refine ⟨hp, ?_⟩
  rw [segments]
  cases (Text.cut ';' cs).2 with
  | none => rfl
  | some t => rfl

/-- The entries of the parameters, in the order in which they are written. -/
def Written.entries (w : Written) : List (String × String) := w.parameters.map Parameter.entry

theorem readParameters_text (w : Written) :
    readParameters (w.segments.map Segment.text) = .ok (Fields.ofList w.entries) := by
  have hread : (w.segments.map Segment.text).mapM readParameter
      = .ok (w.segments.map fun s => s.parameter?.map Parameter.entry) := by
    rw [mapM_eq_ok_iff, List.forall₂_map_left_iff, List.forall₂_map_right_iff, List.forall₂_same]
    exact fun s _ => readParameter_text s
  rw [readParameters, hread, Except.map, List.filterMap_map, Written.entries, Written.parameters,
    List.map_filterMap]
  rfl

/-- Segments that are read are in the grammar. -/
theorem exists_segments_of_readParameters {ps : List (List Char)} (hfree : ∀ p ∈ ps, ';' ∉ p)
    {f : Fields String} (h : readParameters ps = .ok f) :
    ∃ segments : List Segment, segments.map Segment.text = ps := by
  obtain ⟨named, hnamed, -⟩ := exists_of_map_eq_ok h
  have hall : ps ∈ Set.range (List.map Segment.text) := by
    rw [Set.range_list_map]
    intro p hp
    obtain ⟨r, hr⟩ := exists_of_mapM_eq_ok hnamed hp
    exact exists_segment_of_readParameter (hfree p hp) hr
  exact hall

/-- The media type that is written. -/
def Written.mediaType (w : Written) : MediaType where
  mainType := String.ofList (Text.lower w.names.mainType)
  subtype := String.ofList (Text.lower w.names.subtype)
  parameters := Fields.ofList w.entries

theorem Written.says_mediaType (w : Written) : w.Says w.mediaType where
  mainType := rfl
  subtype := rfl
  names := by
    rw [mediaType, Fields.keys_ofList, entries, List.map_map]
    rfl
  values := Fields.get?_ofList w.entries

theorem Names.free (n : Names) : ';' ∉ n.text := by
  cases n with
  | star word hword =>
    rw [Names.text, Padded.mem_text rfl, hword]
    decide
  | pair a b _ _ ha hb _ =>
    rw [Names.text, List.mem_append, List.mem_cons, Padded.mem_text rfl, Padded.mem_text rfl]
    simp [ha.2, hb.2]

theorem Segment.free (s : Segment) : ';' ∉ s.text := by
  cases s with
  | blank text htext => exact fun h => by cases htext ';' h
  | named p =>
    rw [Segment.text, List.mem_append, List.mem_cons, Padded.mem_text rfl, Padded.mem_text rfl]
    simp [p.name_free.2, p.value_free]

theorem Written.pieces_text (w : Written) :
    Text.pieces ';' w.text = w.names.text :: w.segments.map Segment.text := by
  refine Text.pieces_intercalate fun q hq => ?_
  rcases List.mem_cons.1 hq with rfl | hq
  · exact w.names.free
  · obtain ⟨s, -, rfl⟩ := List.mem_map.1 hq
    exact s.free

theorem Names.exists_mem (n : Names) : ∃ c ∈ n.text, isBlank c = false := by
  cases n with
  | star word hword => exact ⟨'*', (Padded.mem_text rfl).2 (by rw [hword]; decide), rfl⟩
  | pair a b => exact ⟨'/', by simp [Names.text], rfl⟩

/-- What is written is read. -/
theorem read_written (w : Written) : read (String.ofList w.text) = .ok w.mediaType := by
  obtain ⟨hfront, hparameters⟩ := readParameters_segments w.pieces_text
  have hne : Text.trim w.text ≠ [] := fun hnil => by
    obtain ⟨c, hc, hblank⟩ := w.names.exists_mem
    have hmem : c ∈ w.text := by
      rw [Text.cut_eq ';' w.text, hfront]
      exact List.mem_append_left _ hc
    rw [Text.trimOf_eq_nil_iff.1 hnil c hmem] at hblank
    cases hblank
  rw [read, String.toList_ofList, if_neg hne, readNames_text hfront, hparameters,
    readParameters_text]
  rfl

/-- What is read is written. -/
theorem exists_written_of_read {s : String} {m : MediaType} (h : read s = .ok m) :
    ∃ w : Written, s = String.ofList w.text ∧ m = w.mediaType := by
  obtain ⟨p, ps, hpieces⟩ := List.exists_cons_of_ne_nil (Text.pieces_ne_nil ';' s.toList)
  obtain ⟨hfront, hparameters⟩ := readParameters_segments hpieces
  have hread := h
  rw [read] at h
  split at h
  · cases h
  · obtain ⟨names, hnames, h⟩ := exists_of_bind_eq_ok h
    obtain ⟨parameters, hparsed, -⟩ := exists_of_bind_eq_ok h
    obtain ⟨n, hn⟩ := exists_names_of_readNames hnames
    rw [hparameters] at hparsed
    obtain ⟨segments, hsegments⟩ := exists_segments_of_readParameters (fun q hq =>
      Text.not_mem_of_mem_pieces (hpieces ▸ List.mem_cons_of_mem p hq)) hparsed
    have hs : s = String.ofList (Written.mk n segments).text := by
      rw [Written.text, hn, hfront, hsegments, ← hpieces, Text.intercalate_pieces,
        String.ofList_toList]
    refine ⟨⟨n, segments⟩, hs, ?_⟩
    rw [hs, read_written] at hread
    exact (Except.ok.inj hread).symm

/-! ## The same media type -/

theorem Padded.SameLetters.lower_eq {a b : Padded} (h : a.SameLetters b) :
    Text.lower a.core = Text.lower b.core := by
  rw [← Text.lower_map_toLower, h, Text.lower_map_toLower]

theorem Padded.SameUnquoted.trimOf_eq {a b : Padded} (h : a.SameUnquoted b) :
    Text.trimOf (· == '"') a.core = Text.trimOf (· == '"') b.core := by
  obtain ⟨inner, l, r, l', r', hquotes, ha, hb⟩ := h
  have hclass : ∀ c ∈ l ++ r ++ l' ++ r', (c == '"') = true := fun c hc =>
    beq_iff_eq.2 (hquotes c hc)
  simp only [List.forall_mem_append] at hclass
  obtain ⟨⟨⟨hl, hr⟩, hl'⟩, hr'⟩ := hclass
  rw [ha, hb, Text.trimOf_append hl hr, Text.trimOf_append hl' hr']

theorem Parameter.Alike.entry_eq {p q : Parameter} (h : p.Alike q) : p.entry = q.entry := by
  rw [Parameter.entry, Parameter.entry, h.1.lower_eq, h.2.trimOf_eq]

theorem Names.Alike.lower_eq {n n' : Names} (h : n.Alike n') :
    Text.lower n.mainType = Text.lower n'.mainType ∧
      Text.lower n.subtype = Text.lower n'.subtype := by
  cases n <;> cases n'
  case star.star => exact ⟨rfl, rfl⟩
  case pair.pair => exact ⟨h.1.lower_eq, h.2.lower_eq⟩
  all_goals exact h.elim

theorem Written.Alike.mediaType_eq {w w' : Written} (h : w.Alike w') :
    w.mediaType = w'.mediaType := by
  have hentries : w.entries = w'.entries := by
    rw [entries, entries, ← List.forall₂_eq_eq_eq, List.forall₂_map_left_iff,
      List.forall₂_map_right_iff]
    exact h.2.imp fun _ _ => Parameter.Alike.entry_eq
  rw [mediaType, mediaType, hentries, h.1.lower_eq.1, h.1.lower_eq.2]

/-! ## The language -/

theorem ofValue_eq {v : Value} {s : String} (hv : v.text? = some s) :
    ofValue v = (read s).mapError (Error.mediaType v) := by
  rw [ofValue, hv]

theorem exists_read_of_ofValue {v : Value} {m : MediaType} (h : ofValue v = .ok m) :
    ∃ s, v.text? = some s ∧ read s = .ok m := by
  rw [ofValue] at h
  split at h
  · rename_i s hs
    exact ⟨s, hs, mapError_eq_ok_iff.1 h⟩
  · cases h

/-- **The language of media types.**  A text that can be written down is read as the media type that
is written, every other text is refused, and two ways to write the same media type are read as the
same one. -/
theorem ofValue_written {v : Value} {s : String} (hv : v.text? = some s) :
    (∀ w : Written, s = String.ofList w.text → ∃ m, ofValue v = .ok m ∧ w.Says m) ∧
      ((¬∃ w : Written, s = String.ofList w.text) →
        ∃ fault, ofValue v = .error (.mediaType v fault)) ∧
      ∀ w w' : Written, w.Alike w' → s = String.ofList w.text → ∀ v' : Value,
        v'.text? = some (String.ofList w'.text) → ∃ m, ofValue v = .ok m ∧ ofValue v' = .ok m := by
  have hwritten : ∀ {v : Value} {w : Written}, v.text? = some (String.ofList w.text) →
      ofValue v = .ok w.mediaType := fun hv => by
    rw [ofValue_eq hv, read_written]
    rfl
  refine ⟨fun w hs => ?_, fun hnone => ?_, fun w w' halike hs v' hv' => ?_⟩
  · exact ⟨w.mediaType, hwritten (hs ▸ hv), w.says_mediaType⟩
  · rw [ofValue_eq hv]
    cases hread : read s with
    | error fault => exact ⟨fault, rfl⟩
    | ok m =>
      obtain ⟨w, hs, -⟩ := exists_written_of_read hread
      exact absurd ⟨w, hs⟩ hnone
  · refine ⟨w.mediaType, hwritten (hs ▸ hv), ?_⟩
    rw [hwritten hv', halike.mediaType_eq]

/-- A word without blanks around it. -/
def Padded.bare (cs : List Char) (h : IsTrimmed isBlank cs) : Padded :=
  ⟨[], cs, [], List.forall_mem_nil _, h, List.forall_mem_nil _⟩

@[simp] theorem Padded.text_bare (cs : List Char) (h : IsTrimmed isBlank cs) :
    (bare cs h).text = cs := List.append_nil cs

/-- A word with spaces around it. -/
def Padded.spaced (before : Nat) (cs : List Char) (after : Nat) (h : IsTrimmed isBlank cs) :
    Padded where
  before := List.replicate before ' '
  core := cs
  after := List.replicate after ' '
  before_blank c hc := by
    rw [List.eq_of_mem_replicate hc]
    rfl
  core_trimmed := h
  after_blank c hc := by
    rw [List.eq_of_mem_replicate hc]
    rfl

/-- The text `Text / HTML; Level = "a=b/c" ; ;level=2`. -/
def spacedHtml : Written where
  names := .pair (.spaced 0 "Text".toList 1 (by decide)) (.spaced 1 "HTML".toList 0 (by decide))
    (by decide) (by decide) (by decide) (by decide) (by decide)
  segments :=
    [.named ⟨.spaced 1 "Level".toList 1 (by decide), .spaced 1 "\"a=b/c\"".toList 1 (by decide),
      by decide, by decide, by decide⟩,
      .blank [' '] (List.all_eq_true.1 rfl),
      .named ⟨.bare "level".toList (by decide), .bare "2".toList (by decide),
        by decide, by decide, by decide⟩]

/-- The text `text/html;level=a=b/c;LEVEL=""2""`. -/
def tightHtml : Written where
  names := .pair (.bare "text".toList (by decide)) (.bare "html".toList (by decide))
    (by decide) (by decide) (by decide) (by decide) (by decide)
  segments :=
    [.named ⟨.bare "level".toList (by decide), .bare "a=b/c".toList (by decide),
      by decide, by decide, by decide⟩,
      .named ⟨.bare "LEVEL".toList (by decide), .bare "\"\"2\"\"".toList (by decide),
        by decide, by decide, by decide⟩]

theorem spacedHtml_alike : spacedHtml.Alike tightHtml := by
  have htext : "Text".toList.map Char.toLower = "text".toList.map Char.toLower := by decide
  have hhtml : "HTML".toList.map Char.toLower = "html".toList.map Char.toLower := by decide
  have hlevel : "Level".toList.map Char.toLower = "level".toList.map Char.toLower := by decide
  have hlevel' : "level".toList.map Char.toLower = "LEVEL".toList.map Char.toLower := by decide
  refine ⟨⟨htext, hhtml⟩, .cons ⟨hlevel, ?_⟩ (.cons ⟨hlevel', ?_⟩ .nil)⟩
  · exact ⟨"a=b/c".toList, ['"'], ['"'], [], [], by simp, rfl, rfl⟩
  · exact ⟨"2".toList, [], [], ['"', '"'], ['"', '"'], by simp, rfl, rfl⟩

/-- Two ways to write a media type, and a text that lacks an equals sign. -/
theorem ofValue_written_html :
    (∃ m, ofValue (.text "Text / HTML; Level = \"a=b/c\" ; ;level=2") = .ok m ∧
      spacedHtml.Says m) ∧
      (∃ m, ofValue (.text "Text / HTML; Level = \"a=b/c\" ; ;level=2") = .ok m ∧
        ofValue (.text "text/html;level=a=b/c;LEVEL=\"\"2\"\"") = .ok m) ∧
      ∃ fault, ofValue (.text "text/html;level")
        = .error (.mediaType (.text "text/html;level") fault) := by
  have hspaced : "Text / HTML; Level = \"a=b/c\" ; ;level=2" = String.ofList spacedHtml.text := rfl
  have htight : "text/html;level=a=b/c;LEVEL=\"\"2\"\"" = String.ofList tightHtml.text := rfl
  have hrefused : ∀ m, ofValue (.text "text/html;level") ≠ .ok m := fun m h => by cases h
  obtain ⟨hmeaning, -, halike⟩ :=
    ofValue_written (v := .text "Text / HTML; Level = \"a=b/c\" ; ;level=2") rfl
  obtain ⟨hread, hother, -⟩ := ofValue_written (v := .text "text/html;level") rfl
  refine ⟨hmeaning spacedHtml hspaced, ?_, hother fun ⟨w, hw⟩ => ?_⟩
  · exact halike spacedHtml tightHtml spacedHtml_alike hspaced _ (congrArg some htight)
  · obtain ⟨m, hm, -⟩ := hread w hw
    exact hrefused m hm

end MediaType

end CloudEvents
