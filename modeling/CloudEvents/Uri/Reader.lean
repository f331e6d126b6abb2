import CloudEvents.Text.Lowercase
import CloudEvents.Uri.Address
import CloudEvents.Uri.Basic
/-!
# Reading URI references

The scheme is what stands before the first colon, if it can be one; the authority follows two
slashes and ends before a slash, a question mark or a number sign; then fragment and query are
cut off. What is checked is only the authority: its brackets and the address between them, the
characters that turn into delimiters when the text is normalized, and the port.
-/

namespace CloudEvents.Uri

/-- Why a text is not a URI reference. -/
inductive Fault where
  /-- The brackets of the authority do not match, or something stands beside them. -/
  | brackets
  /-- The bracketed address of a later version is malformed. -/
  | laterVersion
  /-- An address of version 4 stands in brackets. -/
  | bracketedVersion4
  /-- What stands in brackets is no address. -/
  | notAddress (host : List Char)
  /-- The authority has characters whose compatibility form holds a delimiter. -/
  | hiddenDelimiter (authority : List Char)
  /-- The port is not a number. -/
  | portText (port : List Char)
  /-- The port has too many digits. -/
  | longPort (fault : Text.LongInteger)
  /-- The port is too large. -/
  | portRange

/-- The characters beyond ASCII whose compatibility form holds one of `/ ? # @ :`. -/
def hiddenDelimiters : List Nat :=
  [0x2047, 0x2048, 0x2049, 0x2100, 0x2101, 0x2105, 0x2106, 0x2A74, 0xFE13, 0xFE16, 0xFE55, 0xFE56,
    0xFE5F, 0xFE6B, 0xFF03, 0xFF0F, 0xFF1A, 0xFF1F, 0xFF20]

/-- A character of a scheme. -/
def isSchemeChar (c : Char) : Bool := c.isAlphanum || c == '+' || c == '-' || c == '.'

/-- The scheme, lower-cased, and the text after it. -/
def cutScheme (cs : List Char) : List Char × List Char :=
  match Text.cut ':' cs with
  | (c :: name, some rest) =>
    if c.isAlpha && (c :: name).all isSchemeChar then (Text.lower (c :: name), rest) else ([], cs)
  | _ => ([], cs)

/-- Whether a character goes on with the authority. -/
def isAuthorityChar (c : Char) : Bool := !(c == '/' || c == '?' || c == '#')

/-- The authority and the text after it. -/
def cutAuthority (cs : List Char) : List Char × List Char :=
  match cs with
  | '/' :: '/' :: rest => (rest.takeWhile isAuthorityChar, rest.dropWhile isAuthorityChar)
  | _ => ([], cs)

/-- Checks a host that an authority with brackets names: it has to be an address of version 6 or
later. -/
def checkAddress (host : List Char) : Except Fault Unit :=
  if host.head? = some 'v' then
    if Address.isLaterVersion host then .ok () else .error .laterVersion
  else if Address.isVersion4 host then .error .bracketedVersion4
  else if Address.isVersion6 host then .ok ()
  else .error (.notAddress host)

/-- Checks the brackets of an authority and the address between them. -/
def checkBrackets (authority : List Char) : Except Fault Unit :=
  if '[' ∈ authority ∧ ']' ∈ authority then
    let place := Text.afterLast '@' authority
    match Text.cut '[' place with
    | (before, some bracketed) =>
      let (host, rest) := Text.cut ']' bracketed
      let after := rest.getD []
      if before ≠ [] ∨ (after ≠ [] ∧ after.head? ≠ some ':') then .error .brackets
      else checkAddress host
    | (_, none) => checkAddress (Text.cut ':' place).1
  else if '[' ∈ authority ∨ ']' ∈ authority then .error .brackets
  else .ok ()

/-- Checks that no character of the authority hides a delimiter. -/
def checkHidden (authority : List Char) : Except Fault Unit :=
  if authority.any fun c => hiddenDelimiters.contains c.toNat then
    .error (.hiddenDelimiter authority)
  else .ok ()

/-- The text of the port, after the host. -/
def portText (authority : List Char) : List Char :=
  let place := Text.afterLast '@' authority
  let rest := match Text.cut '[' place with
    | (_, some bracketed) => (Text.cut ']' bracketed).2.getD []
    | (_, none) => place
  (Text.cut ':' rest).2.getD []

/-- Checks the port: none, or a number up to 65535. -/
def checkPort (authority : List Char) : Except Fault Unit :=
  let port := portText authority
  if port = [] then .ok ()
  else if !port.all Char.isDigit then .error (.portText port)
  else if Text.digitLimit < port.length then .error (.longPort (.read port.length))
  else if 65535 < Text.natOfDigits port then .error .portRange
  else .ok ()

/-- The five parts of a text, without any check. -/
def split (text : String) : Uri :=
  let (scheme, rest) := cutScheme text.toList
  let (authority, rest) := cutAuthority rest
  let (rest, fragment) := Text.cut '#' rest
  let (path, query) := Text.cut '?' rest
  { scheme := String.ofList scheme
    authority := String.ofList authority
    path := String.ofList path
    query := String.ofList (query.getD [])
    fragment := String.ofList (fragment.getD []) }

/-- Checks an authority: first its brackets, then its characters, then its port. -/
def checkAuthority (authority : List Char) : Except Fault Unit := do
  checkBrackets authority
  checkHidden authority
  checkPort authority

/-- Reads a URI reference. -/
def read (text : String) : Except Fault Uri :=
  let u := split text
  (checkAuthority u.authority.toList).map fun _ => u

end CloudEvents.Uri
