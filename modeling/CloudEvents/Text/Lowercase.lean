import CloudEvents.Text.LowercaseTable
/-!
# Lower case

Full lower-casing of a text: every character goes to its simple lower-case form, the capital I
with a dot to an i followed by a combining dot, and a capital sigma to the final form where it
ends a word, that is, where a cased letter stands before it and none after it, marks and other
skipped characters not counted.
-/

namespace CloudEvents.Text

/-- Whether a number lies in one of the closed ranges. -/
def inRanges (ranges : List (Nat × Nat)) (n : Nat) : Bool :=
  ranges.any fun r => r.1 ≤ n && n ≤ r.2

/-- The lower-case form of a character that has a single one of its own. -/
def lowerChar (c : Char) : Char :=
  if c.toNat < 0x80 then c.toLower
  else
    match lowercaseRuns.find? fun r =>
        r.1 ≤ c.toNat && c.toNat ≤ r.2.1 && (c.toNat - r.1) % r.2.2.1 == 0 with
    | some r => Char.ofNat (Int.toNat (c.toNat + r.2.2.2))
    | none => c

/-- Whether a character has case and is not skipped beside a sigma. -/
def isCased (c : Char) : Bool := inRanges casedRanges c.toNat

/-- Whether a character is skipped when the neighbours of a sigma are looked at. -/
def isCaseIgnorable (c : Char) : Bool := inRanges caseIgnorableRanges c.toNat

/-- Whether the nearest character that is not skipped has case. -/
def meetsCased (cs : List Char) : Bool :=
  match cs.dropWhile isCaseIgnorable with
  | c :: _ => isCased c
  | [] => false

/-- Lower-cases `cs`, where `before` is the text before it, nearest character first. -/
def lowerAfter (before : List Char) : List Char → List Char
  | [] => []
  | c :: rest =>
    let lowered :=
      if c.toNat < 0x80 then [c.toLower]
      else if c = 'Σ' then [if meetsCased before && !meetsCased rest then 'ς' else 'σ']
      else if c = 'İ' then ['i', '\u0307']
      else [lowerChar c]
    lowered ++ lowerAfter (c :: before) rest

/-- The lower-case form of a text. -/
def lower (cs : List Char) : List Char := lowerAfter [] cs

@[simp] theorem lower_nil : lower [] = [] := rfl

end CloudEvents.Text
