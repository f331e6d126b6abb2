import CloudEvents.Converter.Json
import CloudEvents.Proofs.MediaType.RoundTrip
import Mathlib.Tactic.MkIffOfInductiveProp
/-!
# The order of media types

A media type may stand for many: one with a star for its type for all, and any other for those of
its own type whose subtype is below its own. Below a star is every subtype, below `*+s` every
subtype with the suffix `s`, and below each subtype is itself (`SubtypeCovers`).

Subtypes are ordered by this. The suffix of a subtype stands after the last plus sign, so that
nothing but itself is below a pattern such as `*+a+json`, and a pattern that is below `*+json` is
`*+json` again. Media types are ordered as far as it is for their subtypes; but those with a star
for the type all cover each other, whatever their subtypes. Of these a text can only stand for
`*/*`.

## Main statements

* `suffix?_eq_some_iff`: the suffix as an ending of the subtype;
* `includes_iff`: which media types a media type covers;
* `SubtypeCovers.trans`, `SubtypeCovers.antisymm`: the order of subtypes;
* `JsonConverter.supports_some_iff`: the media types that the JSON converter reads;
* `includes_order`: the order of media types.
-/

namespace CloudEvents

namespace MediaType

/-! ## Suffixes -/

/-- A text is the suffix of a subtype: it stands after the last plus sign and is not empty. -/
structure HasSuffix (subtype suffix : List Char) : Prop where
  ne : suffix ≠ []
  free : '+' ∉ suffix
  ends : '+' :: suffix <:+ subtype

namespace HasSuffix

variable {subtype suffix suffix' : List Char}

theorem afterLast?_eq (h : HasSuffix subtype suffix) :
    Text.afterLast? '+' subtype = some suffix :=
  Text.afterLast?_eq_some_iff.2 ⟨h.free, h.ends⟩

/-- A subtype has no more than one suffix. -/
theorem unique (h : HasSuffix subtype suffix) (h' : HasSuffix subtype suffix') :
    suffix = suffix' :=
  Option.some.inj (h.afterLast?_eq.symm.trans h'.afterLast?_eq)

/-- A subtype with a suffix has a plus sign. -/
theorem mem (h : HasSuffix subtype suffix) : '+' ∈ subtype := h.ends.subset List.mem_cons_self

theorem ne_star (h : HasSuffix subtype suffix) : subtype ≠ ['*'] := by
  rintro rfl
  exact absurd h.mem (by decide)

/-- The suffix of some subtype is the suffix of its own pattern. -/
theorem pattern (h : HasSuffix subtype suffix) : HasSuffix ('*' :: '+' :: suffix) suffix :=
  ⟨h.ne, h.free, List.suffix_cons '*' _⟩

end HasSuffix

theorem suffix?_of_hasSuffix {m : MediaType} {suffix : List Char}
    (h : HasSuffix m.subtype.toList suffix) : m.suffix? = some (String.ofList suffix) := by
  obtain ⟨c, rest, rfl⟩ := List.exists_cons_of_ne_nil h.ne
  simp only [suffix?, h.afterLast?_eq]

theorem suffix?_eq_some_iff {m : MediaType} {s : String} :
    m.suffix? = some s ↔ HasSuffix m.subtype.toList s.toList := by
  constructor
  · intro h
    rw [suffix?] at h
    split at h
    · rename_i c rest hafter
      obtain ⟨hfree, hends⟩ := Text.afterLast?_eq_some_iff.1 hafter
      rw [← Option.some.inj h, String.toList_ofList]
      exact ⟨List.cons_ne_nil c rest, hfree, hends⟩
    · cases h
  · intro h
    rw [suffix?_of_hasSuffix h, String.ofList_toList]

theorem suffixPattern?_eq_some_iff {m : MediaType} {s : String} :
    m.suffixPattern? = some s ↔ m.subtype.toList = '*' :: '+' :: s.toList := by
  constructor
  · intro h
    rw [suffixPattern?] at h
    split at h
    · rename_i rest hsub
      rw [hsub, ← Option.some.inj h, String.toList_ofList]
    · cases h
  · intro h
    simp only [suffixPattern?, h, String.ofList_toList]

/-! ## The order of subtypes -/

/-- The second subtype is the first one or one of those that it stands for as a pattern. -/
@[mk_iff]
inductive SubtypeCovers : List Char → List Char → Prop where
  /-- A star stands for every subtype. -/
  | star (subtype : List Char) : SubtypeCovers ['*'] subtype
  /-- Every subtype stands for itself. -/
  | same (subtype : List Char) : SubtypeCovers subtype subtype
  /-- A star with a suffix stands for every subtype with that suffix. -/
  | suffixed {subtype suffix : List Char} (has : HasSuffix subtype suffix) :
    SubtypeCovers ('*' :: '+' :: suffix) subtype

namespace SubtypeCovers

variable {a b c : List Char}

theorem trans (hab : SubtypeCovers a b) (hbc : SubtypeCovers b c) : SubtypeCovers a c := by
  cases hab with
  | star => exact .star c
  | same => exact hbc
  | suffixed has =>
    cases hbc with
    | star => exact absurd rfl has.ne_star
    | same => exact .suffixed has
    | suffixed has' =>
      -- a pattern with the suffix of another one is that pattern
      rw [has.unique has'.pattern]
      exact .suffixed has'

theorem antisymm (hab : SubtypeCovers a b) (hba : SubtypeCovers b a) : a = b := by
  cases hab with
  | star =>
    cases hba with
    | star => rfl
    | same => rfl
    | suffixed has => exact absurd rfl has.ne_star
  | same => rfl
  | suffixed has =>
    cases hba with
    | star => exact absurd rfl has.ne_star
    | same => rfl
    | suffixed has' => rw [has.pattern.unique has']

end SubtypeCovers

/-- The same in the words in which the subtypes of media types are compared. -/
theorem subtypeCovers_toList_iff {a b : MediaType} :
    SubtypeCovers a.subtype.toList b.subtype.toList ↔
      a.subtype = "*" ∨ a.subtype = b.subtype ∨
        ∃ suffix, a.suffixPattern? = some suffix ∧ b.suffix? = some suffix := by
  have hstar : a.subtype.toList = ['*'] ↔ a.subtype = "*" :=
    ⟨fun h => String.toList_inj.1 h, fun h => congrArg String.toList h⟩
  rw [subtypeCovers_iff, hstar, String.toList_inj]
  refine or_congr_right (or_congr eq_comm ⟨?_, ?_⟩)
  · rintro ⟨suffix, has, hpattern⟩
    refine ⟨String.ofList suffix, suffixPattern?_eq_some_iff.2 ?_, suffix?_of_hasSuffix has⟩
    rw [hpattern, String.toList_ofList]
  · rintro ⟨suffix, hpattern, hsuffix⟩
    exact ⟨suffix.toList, suffix?_eq_some_iff.1 hsuffix, suffixPattern?_eq_some_iff.1 hpattern⟩

/-! ## The order of media types -/

/-- A media type with a star for its type covers all, and any other those of its type whose subtype
is below its own. -/
theorem includes_iff {a b : MediaType} :
    a.includes b = true ↔ a.mainType = "*" ∨
      a.mainType = b.mainType ∧ SubtypeCovers a.subtype.toList b.subtype.toList := by
  by_cases hstar : a.mainType = "*"
  · rw [includes, if_pos hstar]
    exact iff_of_true rfl (Or.inl hstar)
  by_cases hmain : a.mainType = b.mainType
  · rw [includes, if_neg hstar, if_neg (not_not_intro hmain), or_iff_right hstar,
      and_iff_right hmain, subtypeCovers_toList_iff, ← or_assoc]
    by_cases hsub : a.subtype = "*" ∨ a.subtype = b.subtype
    · rw [if_pos hsub]
      exact iff_of_true rfl (Or.inl hsub)
    · rw [if_neg hsub, or_iff_right hsub]
      cases a.suffixPattern? with
      | none => simp
      | some suffix => simp
  · rw [includes, if_neg hstar, if_pos hmain]
    exact iff_of_false Bool.false_ne_true (by simp [hstar, hmain])

theorem agrees_iff {a b : MediaType} :
    a.agrees b = true ↔ a.mainType = b.mainType ∧ a.subtype = b.subtype := by
  rw [agrees, Bool.and_eq_true, beq_iff_eq, beq_iff_eq]

theorem includes_trans {a b c : MediaType} (hab : a.includes b = true)
    (hbc : b.includes c = true) : a.includes c = true := by
  rw [includes_iff] at hab hbc ⊢
  rcases hab with hstar | ⟨hmain, hsub⟩
  · exact Or.inl hstar
  · rcases hbc with hstar | ⟨hmain', hsub'⟩
    · exact Or.inl (hmain.trans hstar)
    · exact Or.inr ⟨hmain.trans hmain', hsub.trans hsub'⟩

/-- Media types that cover each other agree, or all have a star for the type. -/
theorem includes_both_iff {a b : MediaType} :
    (a.includes b = true ∧ b.includes a = true) ↔
      a.agrees b = true ∨ a.mainType = "*" ∧ b.mainType = "*" := by
  rw [includes_iff, includes_iff, agrees_iff]
  constructor
  · rintro ⟨hstar | ⟨hmain, hsub⟩, hstar' | ⟨hmain', hsub'⟩⟩
    · exact Or.inr ⟨hstar, hstar'⟩
    · exact Or.inr ⟨hstar, hmain'.trans hstar⟩
    · exact Or.inr ⟨hmain.trans hstar', hstar'⟩
    · exact Or.inl ⟨hmain, String.toList_inj.1 (hsub.antisymm hsub')⟩
  · rintro (⟨hmain, hsub⟩ | ⟨hstar, hstar'⟩)
    · rw [hmain, hsub]
      exact ⟨Or.inr ⟨rfl, .same _⟩, Or.inr ⟨rfl, .same _⟩⟩
    · exact ⟨Or.inl hstar, Or.inl hstar'⟩

/-- Only one media type that has been read has a star for its type. -/
theorem subtype_of_ofValue {v : Value} {m : MediaType} (h : ofValue v = .ok m)
    (hstar : m.mainType = "*") : m.subtype = "*" := by
  obtain ⟨s, -, hread⟩ := exists_read_of_ofValue h
  obtain ⟨w, -, rfl⟩ := exists_written_of_read hread
  exact String.toList_inj.1 (w.isNormal.star (congrArg String.toList hstar))

end MediaType

/-! ## The media types that are read -/

namespace JsonConverter

open MediaType

/-- What is covered by a media type that the converter reads, it reads as well. -/
theorem supports_of_includes {a b : MediaType} (ha : supports (some a) = true)
    (hab : a.includes b = true) : supports (some b) = true := by
  obtain ⟨s, hs, hsa⟩ := List.any_eq_true.1 ha
  exact List.any_eq_true.2 ⟨s, hs, includes_trans hsa hab⟩

/-- The converter reads `application/json`, its own pattern, and what has the suffix `json`. -/
theorem supports_some_iff {m : MediaType} : supports (some m) = true ↔
    m.mainType = "application" ∧
      (m.subtype = "json" ∨ m.subtype = "*+json" ∨ m.suffix? = some "json") := by
  have hjson : json.includes m = true ↔ m.mainType = "application" ∧ m.subtype = "json" := by
    have hpattern : ¬∃ suffix, json.suffixPattern? = some suffix ∧ m.suffix? = some suffix := by
      rintro ⟨suffix, h, -⟩
      cases h
    rw [includes_iff, subtypeCovers_toList_iff, or_iff_right (by decide), or_iff_right (by decide),
      or_iff_left hpattern]
    exact and_congr eq_comm eq_comm
  have hany : anyJson.includes m = true ↔ m.mainType = "application" ∧
      (m.subtype = "*+json" ∨ m.suffix? = some "json") := by
    have hpattern : (∃ suffix, anyJson.suffixPattern? = some suffix ∧ m.suffix? = some suffix) ↔
        m.suffix? = some "json" := by
      rw [show anyJson.suffixPattern? = some "json" from rfl]
      simp
    rw [includes_iff, subtypeCovers_toList_iff, or_iff_right (by decide), or_iff_right (by decide),
      hpattern]
    exact and_congr eq_comm (or_congr_left eq_comm)
  rw [supports, supported, List.any_cons, List.any_cons, List.any_nil, Bool.or_false,
    Bool.or_eq_true, hjson, hany, ← and_or_left]

end JsonConverter

namespace MediaType

/-- **The order of media types.**  A media type with a star for its type covers everything, and any
other what has its type and a subtype below its own. So each covers itself, and whatever is covered
by one that it covers. Two media types cover each other if and only if they are the same up to the
parameters or both have a star for the type. Those that have been read are therefore the same if
they cover each other. What is covered by a media type that the JSON converter reads, it reads. -/
theorem includes_order :
    (∀ a b : MediaType, a.includes b = true ↔ a.mainType = "*" ∨
      a.mainType = b.mainType ∧ SubtypeCovers a.subtype.toList b.subtype.toList) ∧
    (∀ a : MediaType, a.includes a = true) ∧
    (∀ a b c : MediaType, a.includes b = true → b.includes c = true → a.includes c = true) ∧
    (∀ a b : MediaType, (a.includes b = true ∧ b.includes a = true) ↔
      a.agrees b = true ∨ a.mainType = "*" ∧ b.mainType = "*") ∧
    (∀ (v w : Value) (a b : MediaType), ofValue v = .ok a → ofValue w = .ok b →
      a.includes b = true → b.includes a = true → a.agrees b = true) ∧
    ∀ a b : MediaType, JsonConverter.supports (some a) = true → a.includes b = true →
      JsonConverter.supports (some b) = true := by
  refine ⟨fun a b => includes_iff, includes_self, fun a b c => includes_trans,
    fun a b => includes_both_iff, fun v w a b ha hb hab hba => ?_,
    fun a b => JsonConverter.supports_of_includes⟩
  rcases includes_both_iff.1 ⟨hab, hba⟩ with hsame | ⟨hstar, hstar'⟩
  · exact hsame
  · exact agrees_iff.2 ⟨hstar.trans hstar'.symm,
      (subtype_of_ofValue ha hstar).trans (subtype_of_ofValue hb hstar').symm⟩

/-- All application types. -/
def anyApplication : MediaType := { mainType := "application", subtype := "*" }

/-- Events in structured mode, several in one body. -/
def eventBatchJson : MediaType := { mainType := "application", subtype := "cloudevents-batch+json" }

/-- Three media types that cover each other in turn, with one that is read among them, and two ways
to write that one. -/
theorem includes_order_batch :
    (anyApplication.includes anyJson = true ∧ anyJson.includes eventBatchJson = true ∧
      anyApplication.includes eventBatchJson = true) ∧
    (JsonConverter.supports (some anyJson) = true ∧
      JsonConverter.supports (some eventBatchJson) = true) ∧
    ∃ a b, ofValue (.text "Application/*+JSON") = .ok a ∧
      ofValue (.text "application/*+json; charset=utf-8") = .ok b ∧
      a.includes b = true ∧ b.includes a = true ∧ a.agrees b = true := by
  obtain ⟨-, -, htrans, -, hantisymm, hmono⟩ := includes_order
  have hjson : anyApplication.includes anyJson = true := by decide
  have hbatch : anyJson.includes eventBatchJson = true := by decide
  have hread : JsonConverter.supports (some anyJson) = true := by decide
  have ha : ofValue (.text "Application/*+JSON") = .ok anyJson := rfl
  have hb : ofValue (.text "application/*+json; charset=utf-8")
      = .ok ⟨"application", "*+json", Fields.ofList [("charset", "utf-8")]⟩ := rfl
  exact ⟨⟨hjson, hbatch, htrans _ _ _ hjson hbatch⟩, ⟨hread, hmono _ _ hread hbatch⟩, _, _, ha, hb,
    by decide, by decide, hantisymm _ _ _ _ ha hb (by decide) (by decide)⟩

end MediaType

end CloudEvents
