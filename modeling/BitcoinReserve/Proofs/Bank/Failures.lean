import BitcoinReserve.Proofs.Bank.Backing
import BitcoinReserve.Proofs.Bank.Burns
import BitcoinReserve.Proofs.Bank.Motions
import BitcoinReserve.Proofs.Bank.Reports
import BitcoinReserve.Proofs.Bank.Wallets

/-!
# What failures leave behind

Checks come before changes: an operation that fails leaves the bank as it was. Three failures leave
something behind. A submission that comes too late closes the round that it finds, a watchdog's
second report lets old reports be forgotten, and a redemption whose names make no id has burnt the
tokens.
-/
namespace BitcoinReserve

/-- The reserve and the time of a submission to the oracle. -/
def Operation.submission? : Operation → Option (Text × Int)
  | .attest _ reserve _ _ now => some (reserve, now)
  | .attestSigned a now => some (a.reserve, now)
  | _ => none

/-- Whether an operation that fails so leaves something behind. -/
def Operation.marks : Operation → Failure → Bool
  | .attest .., .refused (.roundExpired ..) => true
  | .attestSigned .., .refused (.roundExpired ..) => true
  | .report .., .refused (.reportedAlready ..) => true
  | .redeem .., .unnamed => true
  | _, _ => false

theorem Operation.marks_of_submission {op : Operation} {x : Text × Int} {f : Failure}
    (submission : op.submission? = some x)
    (other : ∀ id deadline, f ≠ .refused (.roundExpired id deadline)) : op.marks f = false := by
  rw [Bool.eq_false_iff]
  intro marked
  unfold marks at marked
  split at marked
  · exact other _ _ rfl
  · exact other _ _ rfl
  · cases submission
  · cases submission
  · cases marked

theorem Operation.marks_report {caller reserve reason : Text} {now : Int} {r : Refusal}
    (other : ∀ actor reserve, r ≠ .reportedAlready actor reserve) :
    marks (.report caller reserve reason now) (.refused r) = false := by
  cases r with
  | reportedAlready actor reserve => exact absurd rfl (other actor reserve)
  | _ => rfl

namespace Action

variable {α β γ : Type} {s : Bank}

/-- The action was not refused. -/
def Succeeded (result : EStateM.Result Refusal Bank α) : Prop := ∃ a t, result = .ok a t

theorem Succeeded.ok {a : α} {t : Bank} : Succeeded (.ok a t) := ⟨a, t, rfl⟩

/-- One item of a batch and the rest of it. -/
theorem succeeded_batch {x : Action α} {y : Action β} {f : Except Refusal α → β → γ}
    (rest : ∀ t, Succeeded (y t)) (s : Bank) :
    Succeeded ((outcome x >>= fun result => y >>= fun items => pure (f result items)) s) := by
  obtain ⟨items, t, done⟩ := rest (x.after s)
  rw [outcome_bind]
  simp only [Bind.bind, EStateM.bind, done]
  exact .ok

end Action

namespace Bank

open BitcoinReserve.Action

variable {s : Bank} {failure : Failure}

/-- What is left behind by an operation that fails. -/
inductive Event.Residue (e : Event) : Failure → Bank → Prop
  | untouched {failure : Failure} (unmarked : e.operation.marks failure = false) :
      Residue e failure e.found
  | expired {reserve : Text} {now : Int} {r : Round}
      (submission : e.operation.submission? = some (reserve, now))
      (found : e.found.oracle.openRound? reserve = some r) (own : r.reserve = reserve)
      (late : r.deadline < now) :
      Residue e (.refused (.roundExpired r.id r.deadline))
        { e.found with oracle := e.found.oracle.close r .expired now }
  | repeated {caller reserve reason : Text} {now : Int}
      (operation : e.operation = .report caller reserve reason now) :
      Residue e (.refused (.reportedAlready caller reserve))
        { e.found with reports := e.found.reports.prune e.found.params reserve now }
  | unnamed {caller reserve address wallet : Text} {amount now total : Int} {l : Ledger}
      (operation : e.operation = .redeem caller reserve amount address wallet now)
      (nameless : Text.utf8? reserve = none ∨ Text.utf8? caller = none)
      (burnt : e.found.ledger.redeem e.found.authority caller reserve caller amount =
        .ok (total, l)) :
      Residue e .unnamed
        { e.found with ledger := l, redemptions := e.found.redemptions.advance }

/-- A submission that comes too late has closed the round that it found. -/
theorem Event.Residue.closed {e : Event} {id : Nat} {deadline : Int} {t : Bank}
    (residue : e.Residue (.refused (.roundExpired id deadline)) t)
    (marked : e.operation.marks (.refused (.roundExpired id deadline)) = true) :
    ∃ reserve now r, e.operation.submission? = some (reserve, now) ∧
      e.found.oracle.openRound? reserve = some r ∧
      t = { e.found with oracle := e.found.oracle.close r .expired now } := by
  cases residue with
  | untouched unmarked => cases marked.symm.trans unmarked
  | expired submission found => exact ⟨_, _, _, submission, found, rfl⟩

theorem syncEach_succeeded (now : Int) (reserves : List Text) (s : Bank) :
    Succeeded (syncEach now reserves s) := by
  induction reserves generalizing s with
  | nil => exact .ok
  | cons reserve rest ih => exact succeeded_batch ih s

theorem attestEach_succeeded (caller : Text) (proofHash : Bytes) (now : Int)
    (items : List (Text × Int)) (s : Bank) :
    Succeeded (attestEach caller proofHash now items s) := by
  induction items generalizing s with
  | nil => exact .ok
  | cons item rest ih => exact succeeded_batch ih s

theorem untouched_of_ends {α : Type} {x : Action α} {answer : α → Answer} {op : Operation}
    (ends : x.Ends s Succeeded) (performs : perform op s = orFail x answer s)
    (failed : (s.step op).1 = .error failure) : (s.step op).2 = s := by
  rcases step_ends ends performs with ⟨r, step⟩ | ⟨_, ⟨a, t, rfl⟩, step⟩
  · rw [step]
  · rw [step] at failed
    cases failed

theorem untouched_onLedger {α : Type} {f : Bank → Except Refusal (α × Ledger)}
    {answer : α → Answer} {op : Operation} (performs : perform op = orFail (onLedger f) answer)
    (failed : (s.step op).1 = .error failure) : (s.step op).2 = s := by
  rcases step_onLedger performs s with ⟨r, step⟩ | ⟨a, l, -, step⟩
  · rw [step]
  · rw [step] at failed
    cases failed

theorem attestBatch_clean (caller : Text) (reserves : List Text) (amounts : List Int)
    (proofHash : Bytes) (now : Int) :
    (attestBatch caller reserves amounts proofHash now).Ends s Succeeded := by
  unfold attestBatch
  exact .decide_bind fun _ _ => .decide_bind fun _ _ => .inr (attestEach_succeeded ..)

/-- The balance is copied when all has been checked. -/
theorem copyBalance_clean (reserve : Text) (now : Int) :
    (copyBalance reserve now).Ends s Succeeded := by
  unfold copyBalance
  refine .get_bind (.decide_bind fun a _ => ?_)
  split
  · exact .inl ⟨_, rfl⟩
  · split
    · exact .inl ⟨_, rfl⟩
    · exact .decide_bind fun _ _ => .onLedger_unit_bind fun _ _ => .ok

theorem syncBatch_clean (caller : Text) (reserves : List Text) (now : Int)
    (budget : Option Int) : (syncBatch caller reserves now budget).Ends s Succeeded := by
  unfold syncBatch
  refine .decide_bind fun _ _ => .get_bind ?_
  obtain ⟨items, t, done⟩ :=
    syncEach_succeeded now (reserves.take (budget.getD s.params.maxBatchOperations).toNat) s
  refine .inr ⟨⟨items, reserves.drop (budget.getD s.params.maxBatchOperations).toNat⟩, t, ?_⟩
  simp only [Bind.bind, EStateM.bind, done]
  rfl

theorem enforce_clean (reserve code : Text) (now : Int) :
    (enforce reserve code now).Ends s Succeeded := by
  refine (enforce_ends reserve code now s).mono ?_
  rintro _ ⟨v, l, -, -, -, rfl⟩
  cases v with
  | staleAttestations => exact .ok
  | insufficientReserves => exact .ok

theorem escalate_clean (reserve : Text) (now : Int) :
    (escalate reserve now).Ends s Succeeded := by
  refine (escalate_ends reserve now s).mono ?_
  rintro _ ⟨started, a, -, -, ⟨-, rfl⟩ | ⟨-, -, l, -, rfl⟩⟩
  · exact .ok
  · exact .ok

theorem ClosesTo.succeeded {op : Operation} {result : EStateM.Result Refusal Bank Redemption}
    (closes : s.ClosesTo op result) : Succeeded result := by
  obtain ⟨id, r, closed, used, -, -, -, rfl⟩ := closes
  exact .ok

/-- All operations but submissions, reports and redemptions fail without a trace. -/
theorem step_untouched {op : Operation} (plain : ∀ f, op.marks f = false)
    (failed : (s.step op).1 = .error failure) : (s.step op).2 = s := by
  cases op with
  | attest | attestSigned => cases plain (.refused (.roundExpired 0 0))
  | report => cases plain (.refused (.reportedAlready "" ""))
  | redeem => cases plain .unnamed
  | grant | revoke | setRelay => cases failed
  | mintToken | burnToken | register | raiseCap | mint | burn | setBacking | setStatus | selfPause
  | resume | setFrozen | attachWallet | detachWallet => exact untouched_onLedger rfl failed
  | transferToken source target amount =>
    refine untouched_of_ends (x := transferToken source target amount) (.inr ?_) rfl failed
    unfold transferToken
    split
    · exact .ok
    · exact .ok
  | attestBatch => exact untouched_of_ends (attestBatch_clean ..) rfl failed
  | overrideBalance caller reserve amount justification now =>
    refine untouched_of_ends
      ((overrideBalance_ends caller reserve amount justification now s).mono ?_) rfl failed
    rintro _ ⟨entry, o, l, -, -, rfl⟩
    exact .ok
  | resetRound caller reserve now =>
    refine untouched_of_ends ((resetRound_ends caller reserve now s).mono ?_) rfl failed
    rintro _ ⟨found, o, -, rfl⟩
    exact .ok
  | sync caller reserve now =>
    refine untouched_of_ends (x := sync caller reserve now) ?_ rfl failed
    exact .decide_bind fun _ _ => copyBalance_clean reserve now
  | syncIfPossible caller reserve now =>
    refine untouched_of_ends (x := syncIfPossible caller reserve now) (.inr ?_) rfl failed
    unfold syncIfPossible
    rw [outcome_bind]
    exact .ok
  | syncBatch => exact untouched_of_ends (syncBatch_clean ..) rfl failed
  | fulfill caller id claimed tx e now =>
    have presents : (Operation.fulfill caller id claimed tx e now).presented? = some (tx, e) := rfl
    have ends := fulfill_ends presents caller id claimed now s
    exact untouched_of_ends (ends.mono fun _ => ClosesTo.succeeded) rfl failed
  | fulfillIfPossible caller id claimed tx e now =>
    refine untouched_of_ends (x := fulfillIfPossible caller id claimed tx e now) (.inr ?_) rfl
      failed
    unfold fulfillIfPossible
    rw [outcome_bind]
    exact .ok
  | fulfillTrusted caller id amount now =>
    have ends := fulfillTrusted_ends (.fulfillTrusted caller id amount now) caller id amount now s
    exact untouched_of_ends (ends.mono fun _ => ClosesTo.succeeded) rfl failed
  | flagDefault caller id reason now =>
    have ends := flagDefault_ends (.flagDefault caller id reason now) caller id reason now s
    exact untouched_of_ends (ends.mono fun _ => ClosesTo.succeeded) rfl failed
  | propose caller reserve status reason now =>
    have performs : perform (.propose caller reserve status reason now) s =
        orFail (propose caller reserve status reason now) (fun id => .number id) s := rfl
    refine untouched_of_ends ((propose_ends caller reserve status reason now s).mono ?_) performs
      failed
    rintro _ ⟨-, rfl⟩
    exact .ok
  | vote caller id now =>
    refine untouched_of_ends ((vote_ends caller id now s).mono ?_) rfl failed
    rintro _ ⟨p, votes, -, -, -, -, rfl⟩
    exact .ok
  | execute caller id now =>
    refine untouched_of_ends ((execute_ends caller id now s).mono ?_) rfl failed
    rintro _ ⟨p, l, -, -, -, -, rfl⟩
    exact .ok
  | freeze caller reserve =>
    refine untouched_of_ends ((freeze_ends caller reserve s).mono ?_) rfl failed
    rintro _ ⟨l, -, rfl⟩
    exact .ok
  | thaw caller reserve =>
    refine untouched_of_ends ((thaw_ends caller reserve s).mono ?_) rfl failed
    rintro _ ⟨l, -, rfl⟩
    exact .ok
  | countReports reserve now =>
    rw [step_countReports] at failed
    cases failed
  | enforce => exact untouched_of_ends (enforce_clean ..) rfl failed
  | escalate => exact untouched_of_ends (escalate_clean ..) rfl failed
  | clearTimer reserve =>
    refine untouched_of_ends ((clearTimer_ends reserve s).mono ?_) rfl failed
    rintro _ (rfl | rfl)
    · exact .ok
    · exact .ok
  | attachProven caller reserve wallet challenge tx e =>
    refine untouched_of_ends
      ((attachProven_ends caller reserve wallet challenge tx e s).mono ?_) rfl failed
    rintro _ ⟨hash, l, -, rfl⟩
    exact .ok
  | detach caller reserve wallet =>
    refine untouched_of_ends ((detach_ends caller reserve wallet s).mono ?_) rfl failed
    rintro _ ⟨-, l, -, rfl⟩
    exact .ok
  | summarize reserve now =>
    refine untouched_of_ends ((summarize_ends reserve now s).mono ?_) rfl failed
    rintro _ ⟨summary, -, rfl⟩
    exact .ok

theorem Submits.residue {reserve : Text} {a : Attestation} {op : Operation} {r : Refusal}
    {t : Bank} (submits : s.Submits reserve a (.error r t)) (coherent : s.oracle.Coherent s.params)
    (submission : op.submission? = some (reserve, a.submittedAt)) :
    Event.Residue ⟨s, op⟩ (.refused r) t := by
  cases submits with
  | negative => exact .untouched (Operation.marks_of_submission submission (by simp))
  | unknown => exact .untouched (Operation.marks_of_submission submission (by simp))
  | expired found late =>
    obtain ⟨-, -, own⟩ := coherent.openRound?_eq_some_iff.mp found
    exact .expired submission found own (of_decide_eq_true late)

theorem Attests.residue {reserve : Text} {a : Attestation} {op : Operation} {r : Refusal}
    {t : Bank} (attests : s.Attests reserve a (.error r t)) (coherent : s.oracle.Coherent s.params)
    (submission : op.submission? = some (reserve, a.submittedAt)) :
    Event.Residue ⟨s, op⟩ (.refused r) t := by
  cases attests with
  | denied _ refused =>
    cases refused
    exact .untouched (Operation.marks_of_submission submission (by simp))
  | allowed _ submits => exact submits.residue coherent submission

theorem residue_attest {op : Operation} {x : Action Submission} {reserve : Text} {a : Attestation}
    (ends : x.Yields s (s.Attests reserve a)) (performs : perform op s = orFail x .submission s)
    (coherent : s.oracle.Coherent s.params)
    (submission : op.submission? = some (reserve, a.submittedAt))
    (failed : (s.step op).1 = .error failure) :
    Event.Residue ⟨s, op⟩ failure (s.step op).2 := by
  have step := step_orFail performs
  unfold Yields at ends
  rw [step] at failed ⊢
  revert ends failed
  generalize x s = result
  intro ends failed
  cases result with
  | ok submission t => cases failed
  | error r t =>
    cases failed
    exact ends.residue coherent submission

theorem residue_attestSigned (attestation : SignedAttestation) (now : Int)
    (coherent : s.oracle.Coherent s.params)
    (failed : (s.step (.attestSigned attestation now)).1 = .error failure) :
    Event.Residue ⟨s, .attestSigned attestation now⟩ failure
      (s.step (.attestSigned attestation now)).2 := by
  cases judged : attestation.verify with
  | error fault =>
    rw [step_attestSigned_unjudged judged] at failed ⊢
    cases failed
    exact .untouched rfl
  | ok genuine =>
    have performs := perform_attestSigned (s := s) judged now
    cases genuine with
    | true => exact residue_attest (attests _ _ _ _ now coherent) performs coherent rfl failed
    | false =>
      have step := step_orFail performs
      rw [step] at failed ⊢
      cases failed
      exact .untouched rfl

theorem residue_report (caller reserve reason : Text) (now : Int)
    (failed : (s.step (.report caller reserve reason now)).1 = .error failure) :
    Event.Residue ⟨s, .report caller reserve reason now⟩ failure
      (s.step (.report caller reserve reason now)).2 := by
  obtain ⟨result, ended, step⟩ := step_report caller reserve reason now s
  rw [step] at failed ⊢
  cases ended with
  | @unfit r _ other =>
    cases failed
    exact .untouched (Operation.marks_report other)
  | repeated =>
    cases failed
    exact .repeated rfl
  | filed => cases failed

theorem residue_redeem (caller reserve : Text) (amount : Int) (address wallet : Text) (now : Int)
    (failed : (s.step (.redeem caller reserve amount address wallet now)).1 = .error failure) :
    Event.Residue ⟨s, .redeem caller reserve amount address wallet now⟩ failure
      (s.step (.redeem caller reserve amount address wallet now)).2 := by
  rcases step_redeem caller reserve amount address wallet now s with
    ⟨r, step⟩ | ⟨total, l, -, burnt, step⟩
  · rw [step] at failed ⊢
    cases failed
    exact .untouched rfl
  · rw [step] at failed ⊢
    cases named : Redemption.idOf?
        (Redemption.seed reserve caller (s.redemptions.count + 1) now) with
    | none =>
      rw [named] at failed
      cases failed
      exact .unnamed rfl (Redemption.idOf?_seed_eq_none_iff.mp named) burnt
    | some id =>
      rw [named] at failed
      cases failed

theorem step_residue {op : Operation} (coherent : s.oracle.Coherent s.params)
    (failed : (s.step op).1 = .error failure) :
    Event.Residue ⟨s, op⟩ failure (s.step op).2 := by
  cases op with
  | attest => exact residue_attest (attests _ _ _ _ _ coherent) rfl coherent rfl failed
  | attestSigned => exact residue_attestSigned _ _ coherent failed
  | report => exact residue_report _ _ _ _ failed
  | redeem => exact residue_redeem _ _ _ _ _ _ failed
  | _ =>
    rw [step_untouched (fun _ => rfl) failed]
    exact .untouched rfl

/-- An operation that fails leaves the bank as it was, but for an overdue round that is closed, old
reports that are forgotten, and tokens that are burnt for names without bytes. -/
theorem run_failures (authority : Authority) (relay : Relay) (params : Parameters)
    (ops : List Operation) (op : Operation) (failure : Failure)
    (failed : (((new authority relay params).run ops).step op).1 = .error failure) :
    Event.Residue ⟨(new authority relay params).run ops, op⟩ failure
      (((new authority relay params).run ops).step op).2 :=
  step_residue (run_keeps ops (Oracle.coherent_empty params)).1 failed

def Event.failure? (e : Event) : Option Failure :=
  match e.ending with
  | .error f => some f
  | .ok _ => none

theorem failed_of_failure? {op : Operation} (h : Event.failure? ⟨s, op⟩ = some failure) :
    (s.step op).1 = .error failure := by
  unfold Event.failure? Event.ending at h
  split at h
  · rename_i f failed
    cases h
    exact failed
  · cases h

/-- An attestation for a round that closed a second ago. -/
theorem run_failures_expired :
    let s := (new .everyone ⟨1, 1⟩ .testing).run
      [.register "registrar" "reserve" 1000 (some 0), .attest "first" "reserve" 7 [] 0]
    let op := Operation.attest "second" "reserve" 7 [] 7201
    (s.step op).1 = .error (.refused (.roundExpired 1 7200)) ∧
      ∃ r, s.oracle.openRound? "reserve" = some r ∧
        (s.step op).2 = { s with oracle := s.oracle.close r .expired 7201 } := by
  intro s op
  have failed : (s.step op).1 = .error (.refused (.roundExpired 1 7200)) := by
    apply failed_of_failure?
    decide +kernel
  have residue := run_failures .everyone ⟨1, 1⟩ .testing
    [.register "registrar" "reserve" 1000 (some 0), .attest "first" "reserve" 7 [] 0] op _ failed
  obtain ⟨reserve, now, r, submission, found, closed⟩ := residue.closed rfl
  cases submission
  exact ⟨failed, r, found, closed⟩

/-- A redemption fails, and its tokens are burnt. -/
theorem failed_redemption_burns :
    let user : Text := ⟨[.surrogate 0]⟩
    let s := (new .everyone ⟨1, 1⟩ .testing).run ((redeeming user).take 4)
    let op := Operation.redeem user "reserve" 1000 "bcrt1qpv9skzctpv9skzctpv9skzctpv9skzctn6078e"
      "bcrt1qqyqszqgpqyqszqgpqyqszqgpqyqszqgpvxat9t" 0
    (s.step op).1 = .error .unnamed ∧ s.ledger.totalMinted = 3000 ∧
      (s.step op).2.ledger.totalMinted = 2000 := by
  intro user s op
  have failed : (s.step op).1 = .error .unnamed := by
    apply failed_of_failure?
    decide +kernel
  exact ⟨failed, by decide +kernel, by decide +kernel⟩

end Bank

end BitcoinReserve
