import BitcoinReserve.Url.Ascii

/-!
# Targets of requests

A request names its resource by an address that may leave out scheme and site. The address is taken
apart for these two; what is left of it is an address once more, and the path of that one counts.
-/
namespace BitcoinReserve.Http

structure Target where
  scheme : Text
  /-- The site in ASCII. -/
  site : Text
  path : Text
  /-- Path and query as they are sent. -/
  line : Text
  deriving DecidableEq, Repr

namespace Target

def of (address : Text) : Except Url.Fault Target := do
  let outer ← Url.split address
  let query := if outer.query.isEmpty then Text.empty else "?" ++ outer.query
  let line := outer.path ++ query
  let inner ← Url.split line
  let path ← Url.toAscii inner.path
  let scheme : Text := if outer.scheme.isEmpty then "http" else outer.scheme
  let site : Text := if outer.site.isEmpty then "localhost" else outer.site
  let base ← Url.split (← Url.toAscii (scheme ++ "://" ++ site ++ "/"))
  return {
    scheme := base.scheme
    site := base.site
    path := Url.unescape (path.chars?.getD [])
    line }

/-- Whether the scheme asks for a lasting channel instead of an answer. -/
def asksChannel (t : Target) : Bool := t.scheme = "ws" || t.scheme = "wss"

def dropEnd (ending : String) (t : Text) : Text :=
  if (Text.ofString ending).points.isSuffixOf t.points then t.take (t.length - ending.length) else t

/-- The site without the port that goes without saying. -/
def host (t : Target) : Text :=
  if t.scheme = "http" || t.scheme = "ws" then dropEnd ":80" t.site
  else if t.scheme = "https" || t.scheme = "wss" then dropEnd ":443" t.site
  else t.site

/-- Whether what the site begins with, up to a colon, is a domain name. -/
def isNamed (t : Target) : Bool := (Domain.toAscii? (t.host.cut ':').1).isSome

end Target

end BitcoinReserve.Http
