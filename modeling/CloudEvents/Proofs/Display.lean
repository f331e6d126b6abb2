import CloudEvents.Proofs.Steps
import CloudEvents.Value.Text
import Mathlib.Algebra.Group.Nat.Defs
/-!
# Values that can be shown

Only integers can keep a value from being shown: those that have too many digits have no text. So
all integers inside a value are listed (`Value.integers`), in the order in which its literal shows
them, and a value can be shown exactly if every one of them is short.

What is put together from several texts fails with the first of them that is not there, and there is
one error only. So the lists of integers are appended as the texts are (`Text.Shows`).

## Main statements

* `Text.isShort_iff`: which integers are short;
* `Value.shows_literal`, `Value.shows_display`: both texts of a value, by the integers inside of it.
-/

namespace CloudEvents

namespace Text

variable {α β : Type}

theorem isShort_iff {n : Int} : IsShort n ↔ n.natAbs < 10 ^ digitLimit :=
  Nat.length_toDigits_le_iff (by decide) (by decide)

theorem not_isShort_natCast {n : Nat} (h : 10 ^ digitLimit ≤ n) : ¬IsShort n := fun hshort =>
  Nat.not_lt.2 h (isShort_iff.1 hshort)

/-- Something that is made of integers is there, or one of them is too long. -/
inductive Shows (ns : List Int) : Except LongInteger α → Prop where
  /-- No integer is too long. -/
  | ok (a : α) (short : ∀ n ∈ ns, IsShort n) : Shows ns (.ok a)
  /-- Some integer is too long. -/
  | error {n : Int} (mem : n ∈ ns) (long : ¬IsShort n) : Shows ns (.error .written)

namespace Shows

variable {ns ns' : List Int} {x : Except LongInteger α}

theorem of_nil (a : α) : Shows [] (.ok a) := .ok a fun _ hn => by cases hn

theorem map (h : Shows ns x) (f : α → β) : Shows ns (x.map f) := by
  cases h with
  | ok a short => exact .ok (f a) short
  | error mem long => exact .error mem long

/-- One thing after the other. -/
theorem bind (h : Shows ns x) {f : α → Except LongInteger β} (h' : ∀ a, Shows ns' (f a)) :
    Shows (ns ++ ns') (x >>= f) := by
  cases h with
  | ok a short =>
    change Shows _ (f a)
    have hnext := h' a
    generalize f a = y at hnext
    cases hnext with
    | ok b short' =>
      exact .ok b fun n hn => (List.mem_append.1 hn).elim (short n) (short' n)
    | error mem long => exact .error (List.mem_append_right ns mem) long
  | error mem long => exact .error (List.mem_append_left ns' mem) long

theorem eq_error_iff (h : Shows ns x) {fault : LongInteger} :
    x = .error fault ↔ fault = .written ∧ ∃ n ∈ ns, ¬IsShort n := by
  cases h with
  | ok a short =>
    refine iff_of_false (fun heq => by cases heq) ?_
    rintro ⟨-, n, hn, hlong⟩
    exact hlong (short n hn)
  | error mem long =>
    rw [Except.error.injEq, eq_comm]
    exact (and_iff_left ⟨_, mem, long⟩).symm

/-- A step for every entry of a list. -/
theorem mapM {f : α → Except LongInteger β} {g : α → List Int} {l : List α}
    (h : ∀ a ∈ l, Shows (g a) (f a)) : Shows (l.flatMap g) (l.mapM f) := by
  induction l with
  | nil => exact .of_nil []
  | cons a rest ih =>
    rw [List.mapM_cons, List.flatMap_cons]
    have hrest := ih fun b hb => h b (List.mem_cons_of_mem a hb)
    exact (h a List.mem_cons_self).bind fun b => hrest.map (b :: ·)

end Shows

theorem shows_integer (n : Int) : Shows [n] (integer n) := by
  rw [integer]
  by_cases h : IsShort n
  · rw [if_pos h]
    exact .ok _ fun n' hn' => List.mem_singleton.1 hn' ▸ h
  · rw [if_neg h]
    exact .error List.mem_cons_self h

end Text

namespace Value

mutual

/-- The integers inside a value, in the order in which they are shown. -/
def integers : Value → List Int
  | int n => [n]
  | list xs => elementIntegers xs
  | mapping entries => entryIntegers entries
  | message headers payload => payload.integers ++ headerIntegers headers
  | _ => []

/-- The integers inside the elements of a list. -/
def elementIntegers : List Value → List Int
  | [] => []
  | x :: rest => x.integers ++ elementIntegers rest

/-- The integers inside the entries of a mapping. -/
def entryIntegers : List (Value × Value) → List Int
  | [] => []
  | (k, v) :: rest => k.integers ++ (v.integers ++ entryIntegers rest)

/-- The integers inside headers. -/
def headerIntegers : List (String × Value) → List Int
  | [] => []
  | (_, v) :: rest => v.integers ++ headerIntegers rest

end

open Text (Shows)

mutual

/-- A value has a literal if no integer inside of it is too long. -/
theorem shows_literal : ∀ v : Value, Shows v.integers v.literal
  | null => .of_nil _
  | bool _ => .of_nil _
  | int n => (Text.shows_integer n).map _
  | float _ => .of_nil _
  | text _ => .of_nil _
  | unpaired _ => .of_nil _
  | bytes _ => .of_nil _
  | buffer _ => .of_nil _
  | list xs => (shows_literals xs).map _
  | mapping entries => (shows_entryLiterals entries).map _
  | mediaType _ => .of_nil _
  | uri _ => .of_nil _
  | time _ => .of_nil _
  | message headers payload =>
    (shows_literal payload).bind fun _ => (shows_headerLiterals headers).map _

theorem shows_literals : ∀ xs : List Value, Shows (elementIntegers xs) (literals xs)
  | [] => .of_nil _
  | x :: rest => (shows_literal x).bind fun shown => (shows_literals rest).map (shown :: ·)

theorem shows_entryLiterals :
    ∀ entries : List (Value × Value), Shows (entryIntegers entries) (entryLiterals entries)
  | [] => .of_nil _
  | (k, v) :: rest =>
    (shows_literal k).bind fun _ =>
      (shows_literal v).bind fun _ => (shows_entryLiterals rest).map _

theorem shows_headerLiterals :
    ∀ headers : List (String × Value), Shows (headerIntegers headers) (headerLiterals headers)
  | [] => .of_nil _
  | (_, v) :: rest => (shows_literal v).bind fun _ => (shows_headerLiterals rest).map _

end

/-- A value has a display text if no integer inside of it is too long. -/
theorem shows_display (v : Value) : Shows v.integers v.display := by
  have hliteral := v.shows_literal
  cases v with
  | text s => exact .of_nil s
  | unpaired t => exact .of_nil _
  | mediaType m => exact .of_nil _
  | time t => exact .of_nil _
  | _ => exact hliteral

end Value

end CloudEvents
