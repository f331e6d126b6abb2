import CloudEvents.Text.Digits
/-!
# The fewest digits that read back

A positive double is `m · 2 ^ q`. The reals that round to it form an interval around it, whose
ends belong to it exactly when `m` is even and whose lower half is half as long where the
doubles below lie closer. `shortest` looks for the decimal with the fewest digits in that
interval: for one, two and up to seventeen digits it tests the two neighbours of the double on
the grid of decimals of that length, in exact integer arithmetic, and takes the first grid with
a hit and of two hits the nearer.

## Main statements

* `Grid.hits_iff_of_even`, `Grid.hits_iff_of_odd`: a number of the grid is a hit exactly when it
  lies in the interval;
* `Grid.hits_of_hit?`: what the search on one grid finds reads back.
-/

namespace CloudEvents.Decimal

/-- A power of two; one for a negative exponent. -/
def twoPow (e : Int) : Nat := Nat.pow 2 e.toNat

/-- A power of ten; one for a negative exponent. -/
def tenPow (e : Int) : Nat := Nat.pow 10 e.toNat

/-- A positive double as an integer times a power of two. -/
structure Binary where
  /-- The significand. -/
  mantissa : Nat
  /-- The power of two. -/
  exponent : Int
  /-- Whether the doubles below are closer than those above. -/
  narrowBelow : Bool

/-- The number of fractions, `2 ^ 52`. -/
def fractionSize : Nat := 4503599627370496

/-- The parts of the finite positive double with these exponent and fraction fields. -/
def Binary.ofFields (exponent fraction : Nat) : Binary :=
  if exponent = 0 then ⟨fraction, -1074, false⟩
  else ⟨fractionSize + fraction, (exponent : Int) - 1075, fraction = 0 ∧ 1 < exponent⟩

/-- A grid of decimals `t · 10 ^ unit`, beside a double scaled by four so that the ends of its
interval are integers: `t` and the double are compared as `t · point` and `(4 · mantissa) ·
base`. -/
structure Grid where
  /-- The double. -/
  double : Binary
  /-- The power of ten of the grid. -/
  unit : Int

/-- The factor of the double in the comparison. -/
def Grid.base (g : Grid) : Nat := twoPow (g.double.exponent - 2) * tenPow (-g.unit)

/-- The factor of a grid number in the comparison. -/
def Grid.point (g : Grid) : Nat := tenPow g.unit * twoPow (2 - g.double.exponent)

/-- The lower end of the interval, four times. -/
def Binary.low (b : Binary) : Nat := 4 * b.mantissa - if b.narrowBelow then 1 else 2

/-- The upper end of the interval, four times. -/
def Binary.high (b : Binary) : Nat := 4 * b.mantissa + 2

/-- Whether a number of the grid reads back as the double. -/
def Grid.hits (g : Grid) (t : Nat) : Bool :=
  let x := t * g.point
  let lo := g.double.low * g.base
  let hi := g.double.high * g.base
  if g.double.mantissa % 2 = 0 then lo ≤ x && x ≤ hi else lo < x && x < hi

/-- The neighbour of the double on the grid that reads back, the nearer one if both do. -/
def Grid.hit? (g : Grid) : Option Nat :=
  let v := 4 * g.double.mantissa * g.base
  let t := v / g.point
  match g.hits t, g.hits (t + 1) with
  | false, false => none
  | true, false => some t
  | false, true => some (t + 1)
  | true, true =>
    let below := v - t * g.point
    let above := (t + 1) * g.point - v
    some (if below < above ∨ (below = above ∧ t % 2 = 0) then t else t + 1)

/-- The power of ten of the leading digit of `num / den`. -/
def leadingPower (num den : Nat) : Int :=
  if den ≤ num then ((Text.decimal (num / den)).length : Int) - 1
  else
    match (List.range 400).find? fun (j : Nat) => den ≤ num * tenPow j with
    | some j => -(j : Int)
    | none => -400

/-- A positive double as `t · 10 ^ unit` with the fewest digits in `t`. -/
def Binary.shortest (b : Binary) : Nat × Int :=
  let top := leadingPower (b.mantissa * twoPow b.exponent) (twoPow (-b.exponent))
  let found := (List.range 17).findSome? fun (n : Nat) =>
    let g : Grid := ⟨b, top - (n : Int)⟩
    g.hit?.map fun t => (t, g.unit)
  found.getD (b.mantissa * twoPow b.exponent, 0)

theorem Grid.hits_iff_of_even {g : Grid} (h : g.double.mantissa % 2 = 0) (t : Nat) :
    g.hits t = true ↔
      g.double.low * g.base ≤ t * g.point ∧ t * g.point ≤ g.double.high * g.base := by
  simp [Grid.hits, h]

theorem Grid.hits_iff_of_odd {g : Grid} (h : g.double.mantissa % 2 = 1) (t : Nat) :
    g.hits t = true ↔
      g.double.low * g.base < t * g.point ∧ t * g.point < g.double.high * g.base := by
  simp [Grid.hits, h]

theorem Grid.hits_of_hit? {g : Grid} {t : Nat} (h : g.hit? = some t) : g.hits t = true := by
  rw [Grid.hit?] at h
  split at h
  · simp at h
  · cases h; assumption
  · cases h; assumption
  · cases h; split <;> assumption

end CloudEvents.Decimal
