import CloudEvents.Proofs.Fields
import CloudEvents.Value.Basic
/-!
# Values that are there

Null stands for what is missing, also where it was put on purpose: to set a header to null is to
take it out. `toOption` turns a value into what is there of it. A mapping of texts to values is a
document, and as one it is the fields that it was made of.
-/

namespace CloudEvents

namespace Value

/-- The value unless it is the missing one. -/
def toOption (v : Value) : Option Value := if v.isNull then none else some v

@[simp] theorem isNull_text (s : String) : (text s).isNull = false := rfl

@[simp] theorem toOption_null : null.toOption = none := rfl

theorem toOption_of_not_isNull {v : Value} (h : v.isNull = false) : v.toOption = some v := by
  rw [toOption, h]
  rfl

@[simp] theorem getD_toOption (v : Value) : v.toOption.getD .null = v := by
  cases v <;> rfl

/-- What is there of a value is not the missing one. -/
theorem not_isNull_of_toOption {v w : Value} (h : v.toOption = some w) : w.isNull = false := by
  unfold toOption at h
  split at h
  · cases h
  · rename_i hv
    rw [← Option.some.inj h]
    simpa using hv

theorem toOption_eq_some_iff {v w : Value} (h : w.isNull = false) :
    v.toOption = some w ↔ v = w := by
  constructor
  · intro hv
    rw [toOption] at hv
    split at hv
    · cases hv
    · exact Option.some.inj hv
  · rintro rfl
    exact toOption_of_not_isNull h

theorem not_isNull_of_isSet {v : Value} (h : v.isSet = true) : v.isNull = false := by
  cases hn : v.isNull with
  | false => rfl
  | true => rw [isSet_of_isNull hn] at h; cases h

@[simp] theorem null_orElse (v : Value) : null.orElse v = v := rfl

@[simp] theorem isNull_withMediaTypeText (v : Value) : v.withMediaTypeText.isNull = v.isNull := by
  cases v <;> rfl

@[simp] theorem isSet_withMediaTypeText (v : Value) : v.withMediaTypeText.isSet = v.isSet := by
  cases v with
  | mediaType m =>
    have hslash : '/' ∈ m.text.toList := by simp [MediaType.text]
    have hne : m.text ≠ "" := by
      intro h
      rw [h] at hslash
      cases hslash
    simp [withMediaTypeText, isSet, hne]
  | _ => rfl

@[simp] theorem withMediaTypeText_withMediaTypeText (v : Value) :
    v.withMediaTypeText.withMediaTypeText = v.withMediaTypeText := by
  cases v <;> rfl

end Value

theorem Fields.value_of_get? {f : Fields Value} {k : String} {v : Value} (h : f.get? k = some v) :
    f.value k = v := by
  rw [Fields.value, h]
  rfl

theorem Fields.value_of_not_mem {f : Fields Value} {k : String} (h : k ∉ f) :
    f.value k = .null := by
  rw [Fields.value, Fields.get?_eq_none_iff.2 h]
  rfl

/-- A document is the fields that it was made of. -/
@[simp] theorem Value.fields?_ofFields (f : Fields Value) :
    (Value.ofFields f).fields? = some f := by
  rw [Value.ofFields, Value.fields?, Value.textEntries?_map, Option.map_some, Fields.ofList_entries]

end CloudEvents
