import BitcoinReserve.Http.Route
import BitcoinReserve.Http.Target
import BitcoinReserve.Http.View
import BitcoinReserve.Json.Encoding
import BitcoinReserve.Json.Reader
import BitcoinReserve.Operation
import BitcoinReserve.Text.Letter

/-!
# The JSON interface

Relayers, attesters and watchdogs reach the bank by requests. The gateway in front has established
who the actor is, and the host sets how deep arrays and objects of a body may lie in one another. A
refusal is answered by its notice; what no handler expects is an internal error.
-/
namespace BitcoinReserve.Http

structure Request where
  method : Text
  address : Text
  actor : Option Text
  body : Option Text
  now : Int

/-- An answer without a body has none that is JSON. -/
structure Response where
  status : Nat
  body : Option Json

namespace Response

def empty (status : Nat) : Response := ⟨status, none⟩

/-- What a handler did not expect of the request. -/
def internal : Response := empty 500

def ofKind (kind : Kind) (message : Json) : Response where
  status :=
    match kind with
    | .notAuthorized => 403
    | .reserveNotFound | .redemptionNotFound | .proposalNotFound => 404
    | _ => 400
  body := some <| .object
    [("success", .bool false), ("error", .text kind.name), ("message", message)]

def refused (r : Refusal) : Response := ofKind r.kind (.text r.notice.message)

def malformed (message : Text) : Response := ofKind .invalidParameters (.text message)

def success (members : List (Text × Json)) : Response :=
  ⟨200, some (.object (("success", .bool true) :: members))⟩

end Response

/-- A handler either knows its response early or goes on. -/
abbrev Reading := Except Response

/-- Reads a member that must be there. -/
def member (malformed : Response) (j : Json) (name : String) : Reading Json :=
  (Wire.field j name).mapError fun _ => malformed

/-- Only an infinite number is not expected. -/
def integer (malformed : Response) (j : Json) : Reading Int :=
  j.toInt.mapError fun fault =>
    match fault with
    | .infinite => .internal
    | .noNumber | .malformed => malformed

def wired {α : Type} (malformed : Response) (x : Except Wire.Fault α) : Reading α :=
  x.mapError fun fault =>
    match fault with
    | .number .infinite => .internal
    | _ => malformed

/-- The value of a body. A body that is missing, no JSON or of no substance is an empty object. -/
def bodyOf (depth : Nat) (r : Request) : Reading Json :=
  match (r.body.bind Text.utf8?).bind Json.decode? with
  | none => .ok (.object [])
  | some text =>
    match Json.read depth text with
    | .ok j => .ok (if j.isSubstantial then j else .object [])
    | .error .malformed => .ok (.object [])
    | .error .tooDeep => .error .internal

def respond {α : Type} (x : Action α) (view : α → Response) (s : Bank) : Response × Bank :=
  match x s with
  | .ok a s => (view a, s)
  | .error r s => (.refused r, s)

def getReserve (id : Text) (r : Request) : Bank → Response × Bank :=
  respond (Bank.summarize id r.now) fun summary => ⟨200, some summary.view⟩

def getRedemption (id : Text) : Bank → Response × Bank :=
  respond (Action.decide (·.redemption id)) fun redemption => ⟨200, some redemption.view⟩

namespace Attest

def malformed : Response := .malformed "Malformed attestation"

structure Form where
  key : Json
  reserve : Json
  amount : Int
  proofHash : Bytes
  signature : Json

def form (j : Json) : Reading Form := do
  let key ← member malformed j "attester_pubkey"
  let reserve ← member malformed j "reserve_id"
  let amount ← integer malformed (← member malformed j "amount")
  let proofHash ← wired malformed (Wire.bytes [] "proof_hash" (← member malformed j "proof_hash"))
  let signature ← member malformed j "signature"
  return { key, reserve, amount, proofHash, signature }

/-- The attestation of a form. A signature that is no text is looked at only when the key is
good. -/
def attestation (f : Form) : Reading SignedAttestation :=
  match f.reserve, f.key, f.signature with
  | .text reserve, .text key, .text signature =>
    .ok ⟨key, reserve, f.amount, f.proofHash, signature⟩
  | .text reserve, .text key, _ =>
    match (Hex.decode? key).bind Secp256k1.Point.decode? with
    | some _ => .error .internal
    | none => .ok ⟨key, reserve, f.amount, f.proofHash, ""⟩
  | _, _, _ => .error .internal

def view (s : Submission) : Response :=
  .success
    [("round_id", .int s.round),
      ("status", .text s.status.name),
      ("submissions", .int s.submissions),
      ("finalized_amount", .ofOption .int s.finalizedAmount)]

end Attest

def postAttestation (depth : Nat) (r : Request) (s : Bank) : Response × Bank :=
  match ((bodyOf depth r).bind Attest.form).bind Attest.attestation with
  | .error response => (response, s)
  | .ok attestation =>
    match attestation.verify with
    | .error _ => (.internal, s)
    | .ok genuine => respond (Bank.attestSigned attestation genuine r.now) Attest.view s

namespace Fulfill

def malformed : Response := .malformed "Malformed fulfilment"

def form (j : Json) : Reading (Int × Transaction × Evidence) := do
  let amount ← integer malformed (← member malformed j "satoshi_amount")
  let tx ← wired malformed (Transaction.ofJson (← member malformed j "tx_info"))
  let evidence ← wired malformed (Evidence.ofJson (← member malformed j "proof"))
  return (amount, tx, evidence)

end Fulfill

def actorOf (r : Request) : Text := r.actor.getD .empty

def postFulfillment (depth : Nat) (id : Text) (r : Request) (s : Bank) : Response × Bank :=
  match (bodyOf depth r).bind Fulfill.form with
  | .error response => (response, s)
  | .ok (amount, tx, evidence) =>
    respond (Bank.fulfill (actorOf r) id amount tx evidence r.now)
      (fun redemption => .success [("redemption", redemption.view)]) s

/-- Whether a text occurs in another. -/
def occursIn (part whole : List CodePoint) : Bool :=
  part.isPrefixOf whole ||
    match whole with
    | [] => false
    | _ :: rest => occursIn part rest

/-- Two members of a body that both have to be there. An array or a text that mentions both names
passes for an object until a member is read. -/
def twoMembers (j : Json) (first second : String) : Reading (Json × Json) :=
  let lacking := Response.malformed s!"{first} and {second} are required"
  match j with
  | .object _ =>
    match j.get? first, j.get? second with
    | some a, some b => .ok (a, b)
    | _, _ => .error lacking
  | .array items =>
    let mentions (name : Text) := items.any fun item => item.text? = some name
    .error (if mentions first && mentions second then .internal else lacking)
  | .text s =>
    let mentions (name : Text) := occursIn name.points s.points
    .error (if mentions first && mentions second then .internal else lacking)
  | _ => .error .internal

/-- How a reserve is answered that is named by something else than a text. -/
def strangeReserve (j : Json) : Response :=
  match j with
  | .array _ | .object _ => .internal
  | _ =>
    .ofKind .reserveNotFound
      (if j.isSubstantial then j else .text Kind.reserveNotFound.name)

def postReport (depth : Nat) (r : Request) (s : Bank) : Response × Bank :=
  match (bodyOf depth r).bind fun j => twoMembers j "reserve_id" "reason" with
  | .error response => (response, s)
  | .ok (.text reserve, reason) =>
    let text := if reason.isSubstantial then reason.describe else .empty
    respond (Bank.report (actorOf r) reserve text r.now)
      (fun frozen => .success [("emergency_paused", .bool frozen)]) s
  | .ok (reserve, reason) =>
    match s.checkReport (actorOf r) reason.isSubstantial with
    | .error refusal => (.refused refusal, s)
    | .ok () => (strangeReserve reserve, s)

def postViolation (depth : Nat) (r : Request) (s : Bank) : Response × Bank :=
  match (bodyOf depth r).bind fun j => twoMembers j "reserve_id" "reason_code" with
  | .error response => (response, s)
  | .ok (reserve, code) =>
    match reserve, (code.text?.bind Violation.named?) with
    | _, none => (.refused (.notObjective code.describe), s)
    | .text reserve, some v =>
      respond (Bank.enforce reserve v.name r.now)
        (fun due => .success [("escalation_deadline", .ofOption .int due)]) s
    | reserve, some _ => (strangeReserve reserve, s)

def dispatch (depth : Nat) (route : Route) (r : Request) : Bank → Response × Bank :=
  match route with
  | .reserve id => getReserve id r
  | .attestations => postAttestation depth r
  | .redemption id => getRedemption id
  | .fulfillment id => postFulfillment depth id r
  | .reports => postReport depth r
  | .violations => postViolation depth r
  | .file _ => fun s => (.empty 404, s)

/-- Answers a request for a target. Methods are known in any case of their letters, but the body is
left out only for a request for the head that is written in capitals. -/
def answer (depth : Nat) (r : Request) (target : Target) (s : Bank) : Response × Bank :=
  if !target.isNamed then (.empty 400, s)
  else
    match lookUp r.method.toUpper target.asksChannel target.path with
    | .notFound => (.empty 404, s)
    | .notAllowed => (.empty 405, s)
    | .redirected => (.empty 308, s)
    | .noChannel => (.empty 400, s)
    | .found route =>
      if r.method.toUpper = "OPTIONS" then (.empty 200, s)
      else
        let (response, s) := dispatch depth route r s
        (if r.method = "HEAD" then .empty response.status else response, s)

/-- The target of a request that can be sent. Body and address must have bytes, the address must be
one, and the actor's name is a single line. -/
def Request.target (r : Request) : Except Url.Fault Target := do
  if r.body.any fun body => (Text.utf8? body).isNone then throw .unencodable
  let target ← Target.of r.address
  if r.actor.any fun actor => actor.contains '\n' || actor.contains '\r' then throw .malformed
  if (Text.utf8? target.line).isNone then throw .unencodable
  let _ ← Url.revealSite target.host
  return target

/-- Answers a request. One that cannot be sent changes nothing. -/
def handle (depth : Nat) (r : Request) (s : Bank) : Except Url.Fault Response × Bank :=
  match r.target with
  | .error fault => (.error fault, s)
  | .ok target =>
    let (response, s) := answer depth r target s
    (.ok response, s)

end BitcoinReserve.Http
