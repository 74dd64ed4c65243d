import BitcoinReserve.Bank.State

/-!
# Attesting balances

Attestations enter the open round of their reserve, or open one. A round past its deadline is closed
by the submission that finds it so. A balance that is found or set becomes the reserve's backing.
-/
namespace BitcoinReserve.Bank

/-- Makes the majority's amount the balance and the backing. -/
def finalize (r : Round) (amount now : Int) : Action Submission := do
  Action.onOracle fun o =>
    (o.close { r with finalizedAmount := some amount } .finalized now).setBalance r.reserve
      ⟨amount, now, some r.id⟩
  Action.onLedger_ fun s => s.ledger.setBacking r.reserve amount (some now)
  return ⟨r.id, .finalized, r.size, some amount⟩

/-- Records an attestation without asking for a role. -/
def submit (attester reserve : Text) (amount : Int) (proofHash : Bytes) (now : Int) :
    Action Submission := do
  Action.ensure (0 ≤ amount) .attestedNegative
  let _ ← Action.account reserve
  let s ← get
  let opened : Round ←
    match s.oracle.openRound? reserve with
    | some r =>
      if r.isExpired now then do
        Action.onOracle fun o => o.close r .expired now
        throw (.roundExpired r.id r.deadline)
      else pure r
    | none => do
      let (r, oracle) := s.oracle.openNew s.params reserve now
      Action.onOracle fun _ => oracle
      pure r
  let r := opened.record ⟨attester, amount, proofHash, now⟩
  Action.onOracle fun o => o.putRound r
  if s.params.consensusThreshold ≤ r.size then
    match r.majority? with
    | some (amount, _) => finalize r amount now
    | none => return ⟨r.id, r.status, r.size, none⟩
  else return ⟨r.id, r.status, r.size, none⟩

def attest (caller reserve : Text) (amount : Int) (proofHash : Bytes) (now : Int) :
    Action Submission := do
  Action.require caller .attester
  submit caller reserve amount proofHash now

/-- Records an attestation whose signature was found good or bad. -/
def attestSigned (a : SignedAttestation) (genuine : Bool) (now : Int) : Action Submission := do
  Action.ensure (genuine = true) (.badSignature a.key)
  attest a.key a.reserve a.amount a.proofHash now

structure BatchItem where
  reserve : Text
  result : Except Refusal Submission

/-- One attestation for each reserve. A refused one does not stop the others. -/
def attestEach (caller : Text) (proofHash : Bytes) (now : Int) :
    List (Text × Int) → Action (List BatchItem)
  | [] => return []
  | (reserve, amount) :: rest => do
    let result ← Action.outcome (submit caller reserve amount proofHash now)
    let items ← attestEach caller proofHash now rest
    return ⟨reserve, result⟩ :: items

def attestBatch (caller : Text) (reserves : List Text) (amounts : List Int) (proofHash : Bytes)
    (now : Int) : Action (List BatchItem) := do
  Action.require caller .attester
  Action.ensure (reserves.length = amounts.length) (.lengthsDiffer reserves.length amounts.length)
  attestEach caller proofHash now (reserves.zip amounts)

/-- An arbiter sets the balance, whatever the attesters say; an open round is closed. -/
def overrideBalance (caller reserve : Text) (amount : Int) (justification : Text) (now : Int) :
    Action Override := do
  Action.require caller .arbiter
  Action.ensure (0 ≤ amount) .balanceNegative
  Action.ensure (justification ≠ "") .justificationMissing
  let _ ← Action.account reserve
  let s ← get
  let prior := (s.oracle.balances.get? reserve).map Balance.amount
  let entry : Override := ⟨reserve, caller, prior, amount, justification, now⟩
  Action.onOracle fun o =>
    match o.openRound? reserve with
    | some r => o.close r .overridden now
    | none => o
  Action.onOracle fun o =>
    { o.setBalance reserve ⟨amount, now, none⟩ with overrides := o.overrides ++ [entry] }
  Action.onLedger_ fun s => s.ledger.setBacking reserve amount (some now)
  return entry

/-- Discards the open round, if there is one. The balance stays. -/
def resetRound (caller reserve : Text) (now : Int) : Action Bool := do
  Action.require caller .arbiter
  match (← get).oracle.openRound? reserve with
  | none => return false
  | some r =>
    Action.onOracle fun o => o.close r .reset now
    return true

end BitcoinReserve.Bank
