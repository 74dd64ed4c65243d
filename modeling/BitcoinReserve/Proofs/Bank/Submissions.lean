import BitcoinReserve.Proofs.Bank.Steps
import BitcoinReserve.Proofs.Oracle.Acts

/-!
# Submissions

A submission is refused, is recorded in its round or decides it. A refusal leaves the bank as it was,
unless it finds the open round past its deadline.
-/
namespace BitcoinReserve.Bank

open BitcoinReserve.Action

variable {s t : Bank} {reserve : Text} {a : Attestation}

/-- What a submission ends with. Only the refusal that closes an expired round changes anything. -/
inductive Submits (s : Bank) (reserve : Text) (a : Attestation) :
    EStateM.Result Refusal Bank Submission → Prop
  | negative (negative : a.amount < 0) : Submits s reserve a (.error .attestedNegative s)
  | unknown (missing : s.ledger.accounts.get? reserve = none) :
      Submits s reserve a (.error (.reserveUnknown reserve) s)
  | expired {r : Round} (found : s.oracle.openRound? reserve = some r)
      (late : r.isExpired a.submittedAt = true) :
      Submits s reserve a (.error (.roundExpired r.id r.deadline)
        { s with oracle := s.oracle.close r .expired a.submittedAt })
  | recorded {id size : Nat} {o : Oracle} (registered : reserve ∈ s.ledger.accounts.keys)
      (step : s.oracle.Step s.params (.recorded id reserve a) o) :
      Submits s reserve a (.ok ⟨id, .pending, size, none⟩ { s with oracle := o })
  | decided {id size : Nat} {amount : Int} {o : Oracle} {l : Ledger}
      (registered : reserve ∈ s.ledger.accounts.keys)
      (step : s.oracle.Step s.params (.decided id reserve a amount) o)
      (backed : s.ledger.setBacking reserve amount (some a.submittedAt) = .ok l) :
      Submits s reserve a (.ok ⟨id, .finalized, size, some amount⟩
        { s with oracle := o, ledger := l })

theorem setBacking_eq_ok {l : Ledger} {b : Account} {amount : Int} (nonneg : 0 ≤ amount)
    (found : l.accounts.get? reserve = some b) (now : Option Int) :
    ∃ l', l.setBacking reserve amount now = .ok l' := by
  refine ⟨l.put reserve { b with backing := amount, backingUpdatedAt := now }, ?_⟩
  simp only [Ledger.setBacking, Check.bind_eq_ok_iff, Check.account_eq_ok_iff, ensure_eq_ok_iff,
    Check.pure_eq_ok_iff, exists_const]
  exact ⟨nonneg, b, found, rfl⟩

theorem finalize_yields {s : Bank} {r : Round} {amount now : Int} {l : Ledger}
    {P : EStateM.Result Refusal Bank Submission → Prop}
    (backed : s.ledger.setBacking r.reserve amount (some now) = .ok l)
    (done : P (.ok ⟨r.id, .finalized, r.size, some amount⟩ { s with
      oracle := (s.oracle.close { r with finalizedAmount := some amount } .finalized now).setBalance
        r.reserve ⟨amount, now, some r.id⟩
      ledger := l })) : (finalize r amount now).Yields s P := by
  unfold Yields
  simp only [finalize, Bind.bind, EStateM.bind, onOracle, modify, modifyGet,
    MonadStateOf.modifyGet, EStateM.modifyGet, onLedger_, onLedger, backed, Except.map]
  exact done

/-- Puts a round with an attestation more, and finalizes it where that decides it. -/
def enter (p : Parameters) (r : Round) (a : Attestation) : Action Submission := do
  onOracle fun o => o.putRound (r.record a)
  match (r.record a).decision? p with
  | some amount => finalize (r.record a) amount a.submittedAt
  | none => return ⟨r.id, r.status, (r.record a).size, none⟩

/-- A submission enters the open round or a new one, unless the open one is past its deadline. -/
theorem submit_eq (attester reserve : Text) (amount : Int) (proofHash : Bytes) (now : Int) :
    submit attester reserve amount proofHash now = (do
      Action.ensure (0 ≤ amount) .attestedNegative
      let _ ← Action.account reserve
      let s ← get
      match s.oracle.openRound? reserve with
      | some r =>
        if r.isExpired now then do
          onOracle fun o => o.close r .expired now
          throw (.roundExpired r.id r.deadline)
        else enter s.params r ⟨attester, amount, proofHash, now⟩
      | none => do
        onOracle fun _ => (s.oracle.openNew s.params reserve now).2
        enter s.params (s.oracle.openNew s.params reserve now).1
          ⟨attester, amount, proofHash, now⟩) := by
  unfold submit
  congr 1
  funext _
  congr 1
  funext _
  congr 1
  funext s
  extract_lets go
  have go_eq (r : Round) : go r = enter s.params r ⟨attester, amount, proofHash, now⟩ := by
    simp only [go, enter, Round.decision?]
    congr 1
    funext _
    split
    · cases (r.record ⟨attester, amount, proofHash, now⟩).majority? <;> rfl
    · rfl
  simp only [← go_eq]
  cases s.oracle.openRound? reserve with
  | none => rfl
  | some r =>
    cases r.isExpired now with
    | true => rfl
    | false => rfl

theorem enter_undecided {p : Parameters} {r : Round} (undecided : (r.record a).decision? p = none) :
    enter p r a s = .ok ⟨r.id, r.status, (r.record a).size, none⟩
      { s with oracle := s.oracle.putRound (r.record a) } := by
  unfold enter
  rw [undecided]
  rfl

theorem enter_decided {p : Parameters} {r : Round} {amount : Int}
    (decided : (r.record a).decision? p = some amount) :
    enter p r a s = finalize (r.record a) amount a.submittedAt
      { s with oracle := s.oracle.putRound (r.record a) } := by
  unfold enter
  rw [decided]
  rfl

theorem enter_yields {r : Round} {o : Oracle} (coherent : s.oracle.Coherent s.params)
    (registered : reserve ∈ s.ledger.accounts.keys) (nonneg : 0 ≤ a.amount)
    (enters : s.oracle.Enters s.params reserve a.submittedAt r o) :
    (enter s.params r a).Yields { s with oracle := o } (s.Submits reserve a) := by
  have coherent := enters.coherent coherent
  obtain ⟨stored, pending, own⟩ := coherent.openRound?_eq_some_iff.mp enters.isOpen
  unfold enter
  refine .onOracle_bind ?_
  split
  · rename_i amount decision
    have sound := (coherent.sound _ _ stored).decide nonneg enters.le_deadline decision
    have nonneg' : 0 ≤ amount := sound.amount_nonneg (Round.decision?_eq_some decision).2.1
    obtain ⟨b, found⟩ := Table.mem_keys_iff.mp registered
    obtain ⟨l, backed⟩ := setBacking_eq_ok nonneg' found (some a.submittedAt)
    have same : (r.record a).reserve = reserve := own
    refine finalize_yields (l := l) ?_ ?_
    · rw [same]
      exact backed
    · exact .decided registered (.decided enters nonneg decision) backed
  · rename_i undecided
    rw [pending]
    exact .recorded registered (.recorded enters nonneg undecided)

theorem submit_of_enters {r : Round} {o : Oracle} (registered : reserve ∈ s.ledger.accounts.keys)
    (nonneg : 0 ≤ a.amount) (enters : s.oracle.Enters s.params reserve a.submittedAt r o) :
    submit a.attester reserve a.amount a.proofHash a.submittedAt s =
      enter s.params r a { s with oracle := o } := by
  obtain ⟨b, found⟩ := Table.mem_keys_iff.mp registered
  have fair : ensure (0 ≤ a.amount) .attestedNegative = .ok () := ensure_eq_ok_iff.mpr nonneg
  rw [submit_eq]
  refine (decide_bind_of_ok fair).trans ?_
  refine (decide_bind_of_ok (Check.account_eq_ok_iff.mpr found)).trans ?_
  simp only [Bind.bind, EStateM.bind, MonadState.get, getThe, MonadStateOf.get, EStateM.get]
  cases enters with
  | joined found timely =>
    rw [found]
    simp only [timely]
    rfl
  | opened closed =>
    rw [closed]
    rfl

theorem submits (attester reserve : Text) (amount : Int) (proofHash : Bytes) (now : Int)
    (coherent : s.oracle.Coherent s.params) :
    (submit attester reserve amount proofHash now).Yields s
      (s.Submits reserve ⟨attester, amount, proofHash, now⟩) := by
  rw [submit_eq]
  refine .decide_bind (fun r refused => ?_) fun _ nonneg => ?_
  · obtain ⟨negative, rfl⟩ := Check.ensure_eq_error_iff.mp refused
    exact .negative (Int.not_le.mp negative)
  refine .decide_bind (fun r refused => ?_) fun b registered => .get_bind ?_
  · obtain ⟨missing, rfl⟩ := Check.account_eq_error_iff.mp refused
    exact .unknown missing
  have nonneg : 0 ≤ amount := ensure_eq_ok_iff.mp nonneg
  have registered : reserve ∈ s.ledger.accounts.keys :=
    Table.mem_keys_iff.mpr ⟨b, Check.account_eq_ok_iff.mp registered⟩
  split
  · rename_i r found
    split
    · rename_i late
      exact .expired found late
    · rename_i timely
      exact enter_yields coherent registered nonneg (.joined found (by simpa using timely))
  · rename_i closed
    exact .onOracle_bind (enter_yields coherent registered nonneg (.opened closed))

/-- What is accepted enters a round of its reserve and is the entry of its attester there. -/
theorem Submits.entered {submission : Submission} (submits : s.Submits reserve a (.ok submission t)) :
    reserve ∈ s.ledger.accounts.keys ∧
      ∃ r o, s.oracle.Enters s.params reserve a.submittedAt r o ∧ submission.round = r.id ∧
        ∃ r', t.oracle.rounds.get? r.id = some r' ∧ r'.reserve = r.reserve ∧
          r'.attestations.get? a.attester = some a := by
  cases submits with
  | recorded registered step =>
    cases step with
    | recorded enters =>
      exact ⟨registered, _, _, enters, rfl, _, Table.get?_insert_self .., rfl,
        Table.get?_insert_self ..⟩
  | @decided _ _ amount _ _ registered step =>
    cases step with
    | @decided _ _ r o₁ _ enters =>
      refine ⟨registered, r, o₁, enters, rfl, r.decide a amount, ?_, rfl,
        Table.get?_insert_self ..⟩
      simp only [Oracle.setBalance, Oracle.rounds_decided, Table.get?_insert_self]

/-- A submission for a registered reserve without an overdue round is accepted. -/
theorem Submits.accepted {result : EStateM.Result Refusal Bank Submission}
    (submits : s.Submits reserve a result) (nonneg : 0 ≤ a.amount)
    (registered : reserve ∈ s.ledger.accounts.keys)
    (timely : ∀ r, s.oracle.openRound? reserve = some r → a.submittedAt ≤ r.deadline) :
    ∃ submission t, result = .ok submission t := by
  cases submits with
  | negative negative => exact absurd negative (Int.not_lt.mpr nonneg)
  | unknown missing =>
    rw [Table.get?_eq_none_iff] at missing
    exact absurd registered missing
  | expired found late => exact absurd (timely _ found) (Int.not_le.mpr (of_decide_eq_true late))
  | recorded => exact ⟨_, _, rfl⟩
  | decided => exact ⟨_, _, rfl⟩

/-- What an attestation ends with whose attester may lack the role. -/
inductive Attests (s : Bank) (reserve : Text) (a : Attestation)
    (result : EStateM.Result Refusal Bank Submission) : Prop
  | denied (lacks : s.authority.allows a.attester .attester = false)
      (refused : result = .error (.lacksRole a.attester .attester) s)
  | allowed (holds : s.authority.allows a.attester .attester = true)
      (submits : s.Submits reserve a result)

theorem attests (caller reserve : Text) (amount : Int) (proofHash : Bytes) (now : Int)
    (coherent : s.oracle.Coherent s.params) :
    (attest caller reserve amount proofHash now).Yields s
      (s.Attests reserve ⟨caller, amount, proofHash, now⟩) := by
  unfold attest
  refine .decide_bind (fun r refused => ?_) fun _ holds => ?_
  · obtain ⟨lacks, rfl⟩ := Check.ensure_eq_error_iff.mp refused
    exact .denied (Bool.eq_false_of_not_eq_true lacks) rfl
  · exact .allowed (Check.require_eq_ok_iff.mp holds) (submits _ _ _ _ _ coherent)

end BitcoinReserve.Bank
