import BitcoinReserve.Url.Literal

/-!
# Addresses of resources

An address of a resource has up to five parts: a scheme before a colon, a site after two slashes, a
path, a query after a question mark and a fragment after a hash sign.
-/
namespace BitcoinReserve

structure Url where
  scheme : Text
  /-- The host, with the user before it and the port after it. -/
  site : Text
  path : Text
  query : Text
  fragment : Text
  deriving DecidableEq, Repr

namespace Url

inductive Fault where
  | malformed
  /-- The host is no domain name. -/
  | badName
  /-- There is a surrogate in it. -/
  | unencodable
  deriving DecidableEq, Repr

def isBreak (c : CodePoint) : Bool := c = '\t' || c = '\n' || c = '\r'

/-- Drops blanks and controls at the start, and tabs and line breaks everywhere. -/
def tidy (t : Text) : Text := ⟨(t.points.dropWhile (·.value ≤ 32)).filter (!isBreak ·)⟩

def isLetter (c : CodePoint) : Bool :=
  (65 ≤ c.value && c.value ≤ 90) || (97 ≤ c.value && c.value ≤ 122)

def isScheme (t : Text) : Bool :=
  t.points.head?.any isLetter &&
    t.points.all fun c => isLetter c || isDigit c || c = '+' || c = '-' || c = '.'

/-- The letters A to Z in lower case. -/
def lowerAscii (t : Text) : Text :=
  ⟨t.points.map fun c => if 65 ≤ c.value ∧ c.value ≤ 90 then .ofNat (c.value + 32) else c⟩

/-- Splits off the scheme, if there is one. -/
def splitScheme (t : Text) : Text × Text :=
  match t.cut ':' with
  | (scheme, some rest) => if isScheme scheme then (lowerAscii scheme, rest) else (.empty, t)
  | (_, none) => (.empty, t)

def endsSite (c : CodePoint) : Bool := c = '/' || c = '?' || c = '#'

/-- Splits off the site, if there is one. -/
def splitSite (t : Text) : Text × Text :=
  if t.opensWith "//" then
    let rest := t.points.drop 2
    (⟨rest.takeWhile (!endsSite ·)⟩, ⟨rest.dropWhile (!endsSite ·)⟩)
  else (.empty, t)

/-- Characters that look like a delimiter: their plain form has one of `/ ? # @ :` in it. -/
def disguised : List Nat :=
  [0x2047, 0x2048, 0x2049, 0x2100, 0x2101, 0x2105, 0x2106, 0x2a74, 0xfe13, 0xfe16, 0xfe55, 0xfe56,
   0xfe5f, 0xfe6b, 0xff03, 0xff0f, 0xff1a, 0xff1f, 0xff20]

/-- What stands between the first opening bracket and the closing bracket after it. -/
def bracketed (site : Text) : Text := (((site.cut '[').2.getD .empty).cut ']').1

/-- Brackets come in pairs and hold a literal address, and no delimiter is disguised. -/
def isSite (site : Text) : Bool :=
  (site.contains '[' == site.contains ']') && (!site.contains '[' || isLiteral (bracketed site)) &&
    site.points.all (!disguised.contains ·.value)

def split (t : Text) : Except Fault Url :=
  let (scheme, rest) := splitScheme (tidy t)
  let (site, rest) := splitSite rest
  let (rest, fragment) := rest.cut '#'
  let (path, query) := rest.cut '?'
  if isSite site then .ok ⟨scheme, site, path, query.getD .empty, fragment.getD .empty⟩
  else .error .malformed

/-- The schemes whose addresses have a site, be it an empty one. -/
def sited : List String :=
  ["ftp", "http", "gopher", "nntp", "telnet", "imap", "wais", "file", "mms", "https", "shttp",
   "snews", "prospero", "rtsp", "rtsps", "rtspu", "rsync", "svn", "svn+ssh", "sftp", "nfs", "git",
   "git+ssh", "ws", "wss"]

def isSited (scheme : Text) : Bool := sited.any fun (name : String) => scheme = name

/-- The address with the given parts. -/
def join (u : Url) : Text :=
  let path :=
    if !u.site.isEmpty || isSited u.scheme || u.path.opensWith "//" then
      let slash : Text := if u.path.isEmpty || u.path.opensWith "/" then "" else "/"
      "//" ++ u.site ++ slash ++ u.path
    else u.path
  let scheme := if u.scheme.isEmpty then Text.empty else u.scheme ++ ":"
  let query := if u.query.isEmpty then Text.empty else "?" ++ u.query
  let fragment := if u.fragment.isEmpty then Text.empty else "#" ++ u.fragment
  scheme ++ path ++ query ++ fragment

end Url

end BitcoinReserve
