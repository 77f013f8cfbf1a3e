/-!
# Addresses

What may be written as an address on the web: an authority, which says where the server is, and a
path with a query, which say what is asked of it. A fragment counts for nothing.
-/

namespace GrafanaInstall.Http

namespace Uri

inductive Fault where
  | character
  | authority
  /-- There is no authority at all. -/
  | format
  | length
  deriving DecidableEq

namespace Fault

def message : Fault → String
  | .character => "invalid uri character"
  | .authority => "invalid authority"
  | .format => "invalid format"
  | .length => "uri too long"

def detail : Fault → String
  | .character => "InvalidUriChar"
  | .authority => "InvalidAuthority"
  | .format => "InvalidFormat"
  | .length => "TooLong"

end Fault

/-- The most bytes that an address may have. -/
def longest : Nat := 65534

/-! ## Authorities -/

def isAuthorityChar (c : Char) : Bool :=
  c.isAlphanum || "!$&'()*+,-.;=_~".toList.contains c

/-- What the characters of an authority have shown so far. -/
structure Scan where
  /-- Colons since the last at sign or bracket. -/
  colons : Nat := 0
  opened : Bool := false
  closed : Bool := false
  /-- Whether there was a percent sign since the last at sign or bracket. -/
  percent : Bool := false
  endsInAt : Bool := false

def Scan.step (scan : Scan) (c : Char) : Except Fault Scan :=
  let scan := { scan with endsInAt := c = '@' }
  if c = ':' then
    if scan.colons < 8 then .ok { scan with colons := scan.colons + 1 } else .error .authority
  else if c = '[' then
    if scan.percent || scan.opened then .error .authority else .ok { scan with opened := true }
  else if c = ']' then
    if !scan.opened || scan.closed then .error .authority
    else .ok { scan with closed := true, colons := 0, percent := false }
  else if c = '@' then .ok { scan with colons := 0, percent := false }
  else if c = '%' then .ok { scan with percent := true }
  else if isAuthorityChar c then .ok scan
  else .error .character

/-- At most one colon may stand before the port, and each bracket must be closed. -/
def Scan.isSound (scan : Scan) : Bool :=
  scan.opened = scan.closed && scan.colons ≤ 1 && !scan.endsInAt && !scan.percent

def endsAuthority (c : Char) : Bool := c = '/' || c = '?' || c = '#'

/-- Takes the authority from the front of a text. It may be empty. -/
def authority (text : List Char) : Except Fault (List Char × List Char) := do
  let written := text.takeWhile (!endsAuthority ·)
  let scan ← written.foldlM Scan.step {}
  if scan.isSound then return (written, text.dropWhile (!endsAuthority ·))
  else throw .authority

/-! ## Paths and queries -/

def isPathChar (c : Char) : Bool :=
  ' ' < c && c ≠ '<' && c ≠ '>' && c ≠ '\x60'

def isQueryChar (c : Char) : Bool :=
  ' ' < c && c ≠ '<' && c ≠ '>' && c ≠ '"'

def endsPath (c : Char) : Bool := c = '?' || c = '#'

def path (text : List Char) : List Char :=
  text.takeWhile (!endsPath ·)

/-- What follows the first question mark of a text, unless a fragment comes first. -/
def query (text : List Char) : List Char :=
  match text.dropWhile (!endsPath ·) with
  | '?' :: rest => rest.takeWhile (· ≠ '#')
  | _ => []

def checkPath (text : List Char) : Except Fault Unit :=
  if (path text).all isPathChar && (query text).all isQueryChar then .ok () else .error .character

/-! ## Whole addresses -/

/-- Checks an address on a server that is known. -/
def checkRelative (address : String) : Except Fault Unit :=
  if longest < address.utf8ByteSize then .error .length else checkPath address.toList

/-- Checks an address that tells by which protocol the server is reached. -/
def checkAbsolute (protocol rest : String) : Except Fault Unit := do
  if longest < protocol.utf8ByteSize + rest.utf8ByteSize then throw .length
  let (written, rest) ← authority rest.toList
  if written.isEmpty then throw .format
  checkPath rest

end Uri

end GrafanaInstall.Http
