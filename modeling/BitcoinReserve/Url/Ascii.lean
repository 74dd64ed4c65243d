import BitcoinReserve.Domain.Name
import BitcoinReserve.Url.Escape

/-!
# Addresses in ASCII

An address travels in ASCII: host names by their labels, all else by escapes. Where it is shown,
host and user are put back.
-/
namespace BitcoinReserve.Url

/-- A site taken apart. -/
structure Site where
  user : Text
  password : Text
  /-- In lower case up to the zone. -/
  host : Text
  port : Text
  deriving DecidableEq, Repr

namespace Site

def lower (host : Text) : Text :=
  let (name, zone) := host.cut '%'
  let name : Text := ⟨name.points.map fun c =>
    match c with
    | .char c => .char (Text.lower c)
    | .surrogate _ => c⟩
  match zone with
  | some zone => name ++ "%" ++ zone
  | none => name

def of (site : Text) : Site :=
  let (user, rest) := site.cutLast '@'
  let (user, password) := (user.getD .empty).cut ':'
  let (host, port) :=
    match rest.cut '[' with
    | (_, some rest) =>
      let (host, rest) := rest.cut ']'
      (host, (rest.bind fun rest => (rest.cut ':').2))
    | (_, none) => rest.cut ':'
  ⟨user, password.getD .empty, lower host, port.getD .empty⟩

/-- The port's number, which is left out when it is zero. -/
def portNumber (s : Site) : Except Fault (Option Nat) :=
  if s.port.isEmpty then .ok none
  else if !s.port.points.all isDigit ∨ 65535 < decimal s.port then .error .malformed
  else .ok (if decimal s.port = 0 then none else some (decimal s.port))

/-- Puts a site together. A host with colons is enclosed in brackets. -/
def write (user password host : Text) (port : Option Nat) : Text :=
  let host := if host.contains ':' then "[" ++ host ++ "]" else host
  let port : Text :=
    match port with
    | some n => ":" ++ toString n
    | none => .empty
  if user.isEmpty then host ++ port
  else if password.isEmpty then user ++ "@" ++ host ++ port
  else user ++ ":" ++ password ++ "@" ++ host ++ port

end Site

def pathMarks : List Char := "%!$&'()*+,/:;=@".toList

def queryMarks : List Char := "%!$&'()*+,/:;=?@".toList

def fragmentMarks : List Char := "%!#$&'()*+,/:;=?@".toList

def userMarks : List Char := "%!$&'()*+,;=".toList

/-- The form in ASCII of an address. A password without a user is dropped. -/
def toAscii (t : Text) : Except Fault Text := do
  let u ← split t
  let site := Site.of u.site
  let path ← escape pathMarks u.path
  let query ← escape queryMarks u.query
  let fragment ← escape fragmentMarks u.fragment
  let host ←
    match Domain.toAscii? site.host with
    | some cs => .ok (Text.ofChars cs)
    | none => .error .badName
  let port ← site.portNumber
  let user ← escape userMarks site.user
  let password ← if user.isEmpty then .ok .empty else escape userMarks site.password
  return join ⟨u.scheme, Site.write user password host port, path, query, fragment⟩

/-- The site to show for a site in ASCII. -/
def revealSite (t : Text) : Except Fault Text := do
  let site := Site.of t
  let host ←
    match site.host.chars?.bind Domain.ofAscii? with
    | some host => .ok host
    | none => .error .badName
  let port ← site.portNumber
  let shown (t : Text) := (t.chars?.map reveal).getD t
  let found := Site.write (shown site.user) (shown site.password) host port
  if isSite found then return found else throw .malformed

end BitcoinReserve.Url
