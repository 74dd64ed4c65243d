import BitcoinReserve.Text.Basic

/-!
# Routes

The resources of the interface and the requests that reach them.
-/
namespace BitcoinReserve.Http

inductive Route where
  | reserve (id : Text)
  | attestations
  | redemption (id : Text)
  | fulfillment (id : Text)
  | reports
  | violations
  /-- A file beside the interface, of which there is none. -/
  | file (name : Text)
  deriving DecidableEq, Repr

namespace Route

/-- The methods that are answered; every other one is not allowed. -/
def methods : Route → List Text
  | reserve _ | redemption _ | file _ => ["GET", "HEAD", "OPTIONS"]
  | attestations | fulfillment _ | reports | violations => ["POST", "OPTIONS"]

/-- A name is not empty, begins with no slash and has no line feed after its first character. -/
def isFileName (name : Text) : Bool :=
  match name.points with
  | first :: rest => first ≠ '/' && rest.all (· ≠ '\n')
  | [] => false

/-- The resource of a path without a slash at its start. -/
def ofPath? (path : Text) : Option Route :=
  match path.splitOn '/' with
  | [] => none
  | area :: rest =>
    if area = "api" then
      match rest with
      | [kind] =>
        if kind = "attestations" then some attestations
        else if kind = "reports" then some reports
        else if kind = "violations" then some violations
        else none
      | [kind, id] =>
        if id.isEmpty then none
        else if kind = "reserves" then some (reserve id)
        else if kind = "redemptions" then some (redemption id)
        else none
      | [kind, id, action] =>
        if kind = "redemptions" ∧ action = "fulfill" ∧ !id.isEmpty then some (fulfillment id)
        else none
      | _ => none
    else if area = "static" ∧ !rest.isEmpty then
      let name := Text.join "/" rest
      if isFileName name then some (file name) else none
    else none

end Route

/-- Slashes in a row become one. -/
def mergeSlashes : List CodePoint → List CodePoint
  | .char '/' :: .char '/' :: rest => mergeSlashes (.char '/' :: rest)
  | c :: rest => c :: mergeSlashes rest
  | [] => []

/-- What a request leads to. -/
inductive Lookup where
  | found (route : Route)
  | notAllowed
  /-- The path names a resource but for slashes too many. -/
  | redirected
  /-- The request asks for a channel, and no resource has one. -/
  | noChannel
  | notFound
  deriving DecidableEq, Repr

/-- Slashes at the start of a path count for nothing. -/
def lookUp (method : Text) (asksChannel : Bool) (path : Text) : Lookup :=
  let path := path.points.dropWhile (· = CodePoint.char '/')
  let lead (route : Route) (found : Lookup) :=
    if !route.methods.contains method then Lookup.notAllowed
    else if asksChannel then .noChannel
    else found
  match Route.ofPath? ⟨path⟩ with
  | some route => lead route (.found route)
  | none =>
    match Route.ofPath? ⟨mergeSlashes path⟩ with
    | some route => lead route .redirected
    | none => .notFound

end BitcoinReserve.Http
