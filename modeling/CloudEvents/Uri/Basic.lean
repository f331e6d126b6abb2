/-!
# URI references

A URI reference in its five parts. A part that is missing is empty, so an empty query and none are
not told apart.
-/

namespace CloudEvents

/-- A URI reference. -/
structure Uri where
  /-- The scheme, without the colon. -/
  scheme : String
  /-- The user, host and port, without the two slashes. -/
  authority : String
  /-- The path. -/
  path : String
  /-- The query, without the question mark. -/
  query : String
  /-- The fragment, without the number sign. -/
  fragment : String
  deriving DecidableEq

namespace Uri

/-- The schemes whose references have an authority even if it is empty. -/
def authoritySchemes : List String :=
  ["ftp", "http", "gopher", "nntp", "telnet", "imap", "wais", "file", "mms", "https", "shttp",
    "snews", "prospero", "rtsp", "rtspu", "rsync", "svn", "svn+ssh", "sftp", "nfs", "git",
    "git+ssh", "ws", "wss"]

/-- The path with the authority before it. The two slashes are written if there is an authority,
or if the scheme has one and the path does not bring them along; a path after them starts with a
slash. -/
def hierarchy (u : Uri) : String :=
  let path := u.path.toList
  if u.authority ≠ "" ∨ (u.scheme ∈ authoritySchemes ∧ path.take 2 ≠ ['/', '/']) then
    let path := if path ≠ [] ∧ path.head? ≠ some '/' then "/" ++ u.path else u.path
    "//" ++ u.authority ++ path
  else u.path

/-- The reference as a text. -/
def text (u : Uri) : String :=
  (if u.scheme = "" then "" else u.scheme ++ ":") ++ u.hierarchy
    ++ (if u.query = "" then "" else "?" ++ u.query)
    ++ (if u.fragment = "" then "" else "#" ++ u.fragment)

/-- The five parts in order. -/
def parts (u : Uri) : List String := [u.scheme, u.authority, u.path, u.query, u.fragment]

end Uri

end CloudEvents
