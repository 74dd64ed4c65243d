import BitcoinReserve.Bank.Attesting
import BitcoinReserve.Bank.Governing
import BitcoinReserve.Bank.Redeeming
import BitcoinReserve.Bank.Syncing
import BitcoinReserve.Bank.Wallets

/-!
# Operations

Everything that can be done to a bank of reserves, as data, so that whole runs can be spoken of.
-/
namespace BitcoinReserve

inductive Operation where
  | grant (actor : Text) (role : Role)
  | revoke (actor : Text) (role : Role)
  | setRelay (relay : Relay)
  | mintToken (holder : Text) (amount : Int)
  | burnToken (holder : Text) (amount : Int)
  | transferToken (source target : Text) (amount : Int)
  | register (caller reserve : Text) (cap : Int) (now : Option Int)
  | raiseCap (caller reserve : Text) (cap : Int)
  | mint (caller reserve holder : Text) (amount : Int) (now : Option Int)
  | burn (caller reserve holder : Text) (amount : Int)
  | setBacking (reserve : Text) (backing : Int) (now : Option Int)
  | setStatus (reserve : Text) (status : ReserveStatus) (reason : Text) (now : Option Int)
  | selfPause (caller reserve : Text) (now : Option Int)
  | resume (caller reserve : Text) (now : Option Int)
  | setFrozen (reserve : Text) (frozen : Bool)
  | attachWallet (caller reserve wallet : Text)
  | detachWallet (caller reserve wallet : Text)
  | attest (caller reserve : Text) (amount : Int) (proofHash : Bytes) (now : Int)
  | attestSigned (attestation : SignedAttestation) (now : Int)
  | attestBatch (caller : Text) (reserves : List Text) (amounts : List Int) (proofHash : Bytes)
      (now : Int)
  | overrideBalance (caller reserve : Text) (amount : Int) (justification : Text) (now : Int)
  | resetRound (caller reserve : Text) (now : Int)
  | sync (caller reserve : Text) (now : Int)
  | syncIfPossible (caller reserve : Text) (now : Int)
  | syncBatch (caller : Text) (reserves : List Text) (now : Int) (budget : Option Int)
  | redeem (caller reserve : Text) (amount : Int) (address wallet : Text) (now : Int)
  | fulfill (caller id : Text) (claimed : Int) (tx : Transaction) (e : Evidence) (now : Int)
  | fulfillIfPossible (caller id : Text) (claimed : Int) (tx : Transaction) (e : Evidence)
      (now : Int)
  | fulfillTrusted (caller id : Text) (amount now : Int)
  | flagDefault (caller id reason : Text) (now : Int)
  | propose (caller reserve : Text) (status : ReserveStatus) (reason : Text) (now : Int)
  | vote (caller : Text) (id now : Int)
  | execute (caller : Text) (id now : Int)
  | report (caller reserve reason : Text) (now : Int)
  | freeze (caller reserve : Text)
  | thaw (caller reserve : Text)
  | countReports (reserve : Text) (now : Int)
  | enforce (reserve code : Text) (now : Int)
  | escalate (reserve : Text) (now : Int)
  | clearTimer (reserve : Text)
  | attachProven (caller reserve wallet : Text) (challenge : Bytes) (tx : Transaction)
      (e : Evidence)
  | detach (caller reserve wallet : Text)
  | summarize (reserve : Text) (now : Int)

/-- What an operation gives back. -/
inductive Answer where
  | nothing
  | flag (b : Bool)
  | number (n : Int)
  | due (time : Option Int)
  | hash (bytes : Bytes)
  | account (a : Account)
  | submission (s : Submission)
  | batch (items : List Bank.BatchItem)
  | override (entry : Override)
  | syncReport (r : Bank.SyncReport)
  | redemption (r : Redemption)
  | action (a : StatusAction)
  | summary (s : Bank.Summary)

/-- Why an operation gives nothing back. -/
inductive Failure where
  | refused (refusal : Refusal)
  /-- A signed attestation whose signature could not be judged. -/
  | unjudged (fault : SignedAttestation.Fault)
  /-- A redemption that got no id. -/
  | unnamed
  deriving DecidableEq, Repr

namespace Bank

/-- An action with its refusals among the failures. -/
def orFail {α : Type} (x : Action α) (answer : α → Answer) : EStateM Failure Bank Answer := fun s =>
  match x s with
  | .ok a s => .ok (answer a) s
  | .error r s => .error (.refused r) s

def onToken (f : Token → Except Refusal Token) : Action Unit :=
  Action.onLedger_ fun s => (f s.ledger.token).map fun token => { s.ledger with token }

def transferToken (source target : Text) (amount : Int) : Action Bool := fun s =>
  match s.ledger.token.transfer? source target amount with
  | some token => .ok true { s with ledger := { s.ledger with token } }
  | none => .ok false s

def perform : Operation → EStateM Failure Bank Answer
  | .grant actor role => do
    modify fun s => { s with authority := s.authority.grant actor role }
    return .nothing
  | .revoke actor role => do
    modify fun s => { s with authority := s.authority.revoke actor role }
    return .nothing
  | .setRelay relay => do
    modify fun s => { s with relay }
    return .nothing
  | .mintToken holder amount => orFail (onToken (·.mint holder amount)) fun _ => .nothing
  | .burnToken holder amount => orFail (onToken (·.burn holder amount)) fun _ => .nothing
  | .transferToken source target amount => orFail (transferToken source target amount) .flag
  | .register caller reserve cap now =>
    orFail (Action.onLedger fun s => s.ledger.register s.authority caller reserve cap now) .account
  | .raiseCap caller reserve cap =>
    orFail (Action.onLedger_ fun s => s.ledger.raiseCap s.authority caller reserve cap)
      fun _ => .nothing
  | .mint caller reserve holder amount now =>
    orFail
      (Action.onLedger fun s => s.ledger.mint s.authority s.params caller reserve holder amount now)
      .number
  | .burn caller reserve holder amount =>
    orFail (Action.onLedger fun s => s.ledger.redeem s.authority caller reserve holder amount)
      .number
  | .setBacking reserve backing now =>
    orFail (Action.onLedger_ fun s => s.ledger.setBacking reserve backing now) fun _ => .nothing
  | .setStatus reserve status reason now =>
    orFail (Action.onLedger_ fun s => s.ledger.setStatus reserve status reason now)
      fun _ => .nothing
  | .selfPause caller reserve now =>
    orFail (Action.onLedger_ fun s => s.ledger.selfPause caller reserve now) fun _ => .nothing
  | .resume caller reserve now =>
    orFail (Action.onLedger_ fun s => s.ledger.resume caller reserve now) fun _ => .nothing
  | .setFrozen reserve frozen =>
    orFail (Action.onLedger_ fun s => s.ledger.setFrozen reserve frozen) fun _ => .nothing
  | .attachWallet caller reserve wallet =>
    orFail
      (Action.onLedger_ fun s => s.ledger.attachWallet s.authority s.params caller reserve wallet)
      fun _ => .nothing
  | .detachWallet caller reserve wallet =>
    orFail (Action.onLedger_ fun s => s.ledger.detachWallet s.authority caller reserve wallet)
      fun _ => .nothing
  | .attest caller reserve amount proofHash now =>
    orFail (attest caller reserve amount proofHash now) .submission
  | .attestSigned attestation now => fun s =>
    match attestation.verify with
    | .ok genuine => orFail (attestSigned attestation genuine now) .submission s
    | .error fault => .error (.unjudged fault) s
  | .attestBatch caller reserves amounts proofHash now =>
    orFail (attestBatch caller reserves amounts proofHash now) .batch
  | .overrideBalance caller reserve amount justification now =>
    orFail (overrideBalance caller reserve amount justification now) .override
  | .resetRound caller reserve now => orFail (resetRound caller reserve now) .flag
  | .sync caller reserve now => orFail (sync caller reserve now) .number
  | .syncIfPossible caller reserve now => orFail (syncIfPossible caller reserve now) .flag
  | .syncBatch caller reserves now budget =>
    orFail (syncBatch caller reserves now budget) .syncReport
  | .redeem caller reserve amount address wallet now => fun s =>
    match redeem caller reserve amount address wallet now s with
    | .ok (some r) s => .ok (.redemption r) s
    | .ok none s => .error .unnamed s
    | .error r s => .error (.refused r) s
  | .fulfill caller id claimed tx e now => orFail (fulfill caller id claimed tx e now) .redemption
  | .fulfillIfPossible caller id claimed tx e now =>
    orFail (fulfillIfPossible caller id claimed tx e now) .flag
  | .fulfillTrusted caller id amount now =>
    orFail (fulfillTrusted caller id amount now) .redemption
  | .flagDefault caller id reason now => orFail (flagDefault caller id reason now) .redemption
  | .propose caller reserve status reason now =>
    orFail (propose caller reserve status reason now) fun id => .number id
  | .vote caller id now => orFail (vote caller id now) .number
  | .execute caller id now => orFail (execute caller id now) .action
  | .report caller reserve reason now => orFail (report caller reserve reason now) .flag
  | .freeze caller reserve => orFail (freeze caller reserve) fun _ => .nothing
  | .thaw caller reserve => orFail (thaw caller reserve) fun _ => .nothing
  | .countReports reserve now => orFail (countReports reserve now) fun n => .number n
  | .enforce reserve code now => orFail (enforce reserve code now) .due
  | .escalate reserve now => orFail (escalate reserve now) .flag
  | .clearTimer reserve => orFail (clearTimer reserve) .flag
  | .attachProven caller reserve wallet challenge tx e =>
    orFail (attachProven caller reserve wallet challenge tx e) .hash
  | .detach caller reserve wallet => orFail (detach caller reserve wallet) fun _ => .nothing
  | .summarize reserve now => orFail (summarize reserve now) .summary

/-- The answer of an operation or its failure, and the state after it in either case. -/
def step (s : Bank) (op : Operation) : Except Failure Answer × Bank :=
  match perform op s with
  | .ok answer s => (.ok answer, s)
  | .error failure s => (.error failure, s)

/-- The state after operations one after another, whether they succeed or not. -/
def run (s : Bank) (ops : List Operation) : Bank := ops.foldl (fun s op => (s.step op).2) s

end Bank

end BitcoinReserve
