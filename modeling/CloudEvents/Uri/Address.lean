import CloudEvents.Text.Digits
import CloudEvents.Text.Split
/-!
# Numeric host addresses

Which texts are addresses of version 4 (four decimal octets without leading zeros) and of
version 6 (eight groups of up to four hexadecimal digits, one run of them left out as `::`, the
last two perhaps as an address of version 4, and perhaps a zone after a percent sign), and which
are of a later version in the bracketed form `v1.…`.
-/

namespace CloudEvents.Uri.Address

/-- A decimal octet: up to three digits, without leading zeros, at most 255. -/
def isOctet (cs : List Char) : Bool :=
  cs ≠ [] && cs.all Char.isDigit && cs.length ≤ 3 && (cs == ['0'] || cs.head? != some '0')
    && Text.natOfDigits cs ≤ 255

/-- An address of version 4. -/
def isVersion4 (cs : List Char) : Bool :=
  let octets := Text.pieces '.' cs
  octets.length == 4 && octets.all isOctet

/-- A group of hexadecimal digits. -/
def isGroup (cs : List Char) : Bool :=
  cs ≠ [] && cs.length ≤ 4 && cs.all fun c => (Text.hexDigit? c).isSome

/-- The places of the empty groups that have a neighbour on both sides. -/
def innerGaps (groups : List (List Char)) : List Nat :=
  (List.range groups.length).filter fun i =>
    0 < i && i + 1 < groups.length && groups[i]? == some []

/-- The groups on one side of the left-out run. An empty one at the outer end belongs to the
run, and then it must be the only one. -/
def side? (groups : List (List Char)) (outer : Option (List Char)) : Option (List (List Char)) :=
  if outer = some [] then if groups.length = 1 then some [] else none else some groups

/-- The groups of an address of version 6, after a tail of version 4 has been replaced. -/
def areGroups (groups : List (List Char)) : Bool :=
  if 9 < groups.length then false
  else
    match innerGaps groups with
    | [] => groups.length == 8 && groups.all isGroup
    | [gap] =>
      let before := groups.take gap
      let after := groups.drop (gap + 1)
      match side? before before.head?, side? after after.getLast? with
      | some before, some after =>
        before.length + after.length < 8 && before.all isGroup && after.all isGroup
      | _, _ => false
    | _ => false

/-- An address of version 6 without a zone. -/
def isBareVersion6 (cs : List Char) : Bool :=
  let groups := Text.pieces ':' cs
  if groups.length < 3 ∨ '/' ∈ cs then false
  else
    match groups.getLast? with
    | some tail =>
      if '.' ∈ tail then isVersion4 tail && areGroups (groups.dropLast ++ [['0'], ['0']])
      else areGroups groups
    | none => false

/-- An address of version 6. -/
def isVersion6 (cs : List Char) : Bool :=
  match Text.cut '%' cs with
  | (address, none) => isBareVersion6 address
  | (address, some zone) => zone ≠ [] && '%' ∉ zone && isBareVersion6 address

/-- An address of a later version: `v`, hexadecimal digits, a full stop and something after it. -/
def isLaterVersion (cs : List Char) : Bool :=
  match cs with
  | 'v' :: rest =>
    let version := rest.takeWhile fun c => (Text.hexDigit? c).isSome
    match rest.drop version.length with
    | '.' :: _ :: _ => version ≠ []
    | _ => false
  | _ => false

end CloudEvents.Uri.Address
