/-!
# Unpaired surrogates

A character beyond U+FFFF may be written as a pair of surrogates, a high one and a low one after
it, and some notations can write one half of a pair alone. What they write then is no text of
characters. It is kept as a list of code points, each of them a character or a surrogate, of which
at least one is a surrogate.

The two halves of a pair may also stand next to each other without being the character. A notation
that writes halves cannot tell the two apart, so what it reads has every pair joined.

## Main statements

* `joinPairs_of_isJoined`: joining changes nothing where there is no pair;
* `chars?_map_char`: characters are characters.
-/

namespace CloudEvents.Text

/-- One half of a pair that stands for a character. -/
structure Surrogate where
  /-- Its number. -/
  number : Nat
  /-- The numbers of surrogates. -/
  bounds : 0xD800 ≤ number ∧ number < 0xE000
  deriving DecidableEq

/-- The character that two surrogates stand for: the first one has to be high, the second one low.
-/
def Surrogate.pair? (a b : Surrogate) : Option Char :=
  if a.number < 0xDC00 ∧ 0xDC00 ≤ b.number then
    some (Char.ofNat (0x10000 + (a.number - 0xD800) * 0x400 + (b.number - 0xDC00)))
  else none

/-- A code point. -/
inductive Point where
  /-- A character. -/
  | char (c : Char)
  /-- A surrogate. -/
  | surrogate (s : Surrogate)
  deriving DecidableEq

namespace Point

/-- The code point of a sixteen-bit unit. -/
def ofUnit (n : Nat) : Point :=
  if h : 0xD800 ≤ n ∧ n < 0xE000 then surrogate ⟨n, h⟩ else char (Char.ofNat n)

/-- The character that two code points stand for if they are a pair. -/
def pair? : Point → Point → Option Char
  | surrogate a, surrogate b => a.pair? b
  | _, _ => none

/-- The character that is shown for a code point: U+FFFD for a surrogate. -/
def shown : Point → Char
  | char c => c
  | surrogate _ => '\uFFFD'

@[simp] theorem shown_char (c : Char) : (char c).shown = c := rfl

end Point

/-- Puts its character in the place of every pair. -/
def joinPairs : List Point → List Point
  | [] => []
  | [p] => [p]
  | p :: q :: rest =>
    match p.pair? q with
    | some c => .char c :: joinPairs rest
    | none => p :: joinPairs (q :: rest)

/-- Whether no two neighbours are a pair. -/
def isJoined : List Point → Bool
  | [] => true
  | [_] => true
  | p :: q :: rest => (p.pair? q).isNone && isJoined (q :: rest)

/-- The characters of code points that are all characters. -/
def chars? : List Point → Option (List Char)
  | [] => some []
  | .char c :: rest => (chars? rest).map (c :: ·)
  | .surrogate _ :: _ => none

/-- Code points that are no text of characters. -/
structure Unpaired where
  /-- The code points. -/
  points : List Point
  /-- One of them is no character. -/
  unpaired : chars? points = none
  deriving DecidableEq

/-- The characters that are shown for the code points. -/
def Unpaired.shown (t : Unpaired) : List Char := t.points.map Point.shown

theorem isJoined_cons {p : Point} {ps : List Point} (hp : ∀ q ∈ ps.head?, p.pair? q = none)
    (h : isJoined ps = true) : isJoined (p :: ps) = true := by
  cases ps with
  | nil => rfl
  | cons q rest =>
    rw [isJoined, h, hp q (by simp)]
    rfl

theorem joinPairs_of_isJoined {ps : List Point} (h : isJoined ps = true) : joinPairs ps = ps := by
  fun_induction joinPairs ps with
  | case1 => rfl
  | case2 => rfl
  | case3 p q rest c hc ih => simp [isJoined, hc] at h
  | case4 p q rest hc ih =>
    rw [isJoined, Bool.and_eq_true] at h
    rw [ih h.2]

@[simp] theorem isJoined_map_char (cs : List Char) : isJoined (cs.map Point.char) = true := by
  induction cs with
  | nil => rfl
  | cons c rest ih => exact isJoined_cons (fun _ _ => rfl) ih

@[simp] theorem joinPairs_map_char (cs : List Char) :
    joinPairs (cs.map Point.char) = cs.map Point.char :=
  joinPairs_of_isJoined (isJoined_map_char cs)

@[simp] theorem chars?_map_char (cs : List Char) : chars? (cs.map Point.char) = some cs := by
  induction cs with
  | nil => rfl
  | cons c rest ih => simp [chars?, ih]

end CloudEvents.Text
