import BitcoinReserve.Http.Server
import BitcoinReserve.Proofs.Bank.Closings
import BitcoinReserve.Proofs.Bank.Reports
import BitcoinReserve.Proofs.Bank.Submissions

/-!
# Outcomes as they are answered

A refusal is answered by a status. Of the operations that can be asked for by request, it tells
whether a role is lacking, whether a reserve or a redemption is unknown, or whether something else
is wrong: roles come first, then the lookup, then everything else.
-/
namespace BitcoinReserve

/-- The status that a refusal is answered with. -/
def Refusal.status (r : Refusal) : Nat := (Http.Response.refused r).status

/-- Nothing that is wrong with evidence concerns roles or registers. -/
@[simp] theorem Evidence.Fault.status_payment (fault : Evidence.Fault) :
    (Refusal.payment fault).status = 400 := by
  cases fault <;> rfl

namespace Bank

open BitcoinReserve.Action

variable {s t : Bank} {caller reserve id : Text} {now : Int}

/-- How an outcome is answered where one condition is forbidden and another is of something missing.
Roles come first. -/
inductive Judged {α : Type} (forbidden missing : Prop) : EStateM.Result Refusal Bank α → Prop
  | forbidden {r : Refusal} {t : Bank} (denied : forbidden) (status : r.status = 403) :
      Judged forbidden missing (.error r t)
  | missing {r : Refusal} {t : Bank} (allowed : ¬ forbidden) (unknown : missing)
      (status : r.status = 404) : Judged forbidden missing (.error r t)
  | rejected {r : Refusal} {t : Bank} (allowed : ¬ forbidden) (known : ¬ missing)
      (status : r.status = 400) : Judged forbidden missing (.error r t)
  | served {a : α} {t : Bank} (allowed : ¬ forbidden) (known : ¬ missing) :
      Judged forbidden missing (.ok a t)

theorem attest_judged {amount : Int} {proofHash : Bytes} (coherent : s.oracle.Coherent s.params)
    (nonneg : 0 ≤ amount) :
    (attest caller reserve amount proofHash now).Yields s
      (Judged (s.authority.allows caller .attester = false)
        (s.ledger.accounts.get? reserve = none)) := by
  unfold attest
  refine .decide_bind (fun r refused => ?_) fun _ holds => ?_
  · obtain ⟨lacks, rfl⟩ := Check.ensure_eq_error_iff.mp refused
    exact .forbidden (Bool.eq_false_of_not_eq_true lacks) rfl
  have allowed : ¬ s.authority.allows caller .attester = false := by
    simp [Check.require_eq_ok_iff.mp holds]
  by_cases unknown : s.ledger.accounts.get? reserve = none
  · unfold submit
    refine .decide_bind (fun r refused => ?_) fun _ _ => .decide_bind (fun r refused => ?_) ?_
    · exact absurd nonneg (Check.ensure_eq_error_iff.mp refused).1
    · obtain ⟨-, rfl⟩ := Check.account_eq_error_iff.mp refused
      exact .missing allowed unknown rfl
    · intro a found
      rw [Check.account_eq_ok_iff, unknown] at found
      cases found
  · have ends := submits caller reserve amount proofHash now coherent
    unfold Yields at ends ⊢
    generalize submit caller reserve amount proofHash now s = result at ends
    cases ends with
    | negative negative => exact absurd nonneg (Int.not_le.mpr negative)
    | unknown missing => exact absurd missing unknown
    | expired => exact .rejected allowed unknown rfl
    | recorded => exact .served allowed unknown
    | decided => exact .served allowed unknown

/-- Whether an actor may hand in the evidence for a payout. -/
def MayFulfill (s : Bank) (caller : Text) : Prop :=
  s.params.permissionlessFulfillment = true ∨ s.authority.allows caller .redemptionFulfiller = true

theorem status_of_checkPayment {p : Parameters} {r : Redemption} {paid : Int} {refusal : Refusal}
    (refused : checkPayment p r paid = .error refusal) : refusal.status = 400 := by
  rcases checkPayment_eq_error_iff.mp refused with ⟨-, rfl⟩ | ⟨-, -, rfl⟩
  · rfl
  · rfl

theorem status_of_checkProof {r : Redemption} {claimed : Int} {tx : Transaction} {e : Evidence}
    {refusal : Refusal} (refused : s.checkProof r claimed tx e = .error refusal) :
    refusal.status = 400 := by
  rcases checkProof_eq_error_iff.mp refused with
    ⟨fault, -, rfl⟩ | ⟨hash, -, ⟨-, rfl⟩ | ⟨-, ⟨-, rfl⟩ | ⟨-, short⟩⟩⟩
  · exact fault.status_payment
  · rfl
  · rfl
  · exact status_of_checkPayment short

/-- A redemption that is not there is told apart from one that is closed. -/
theorem pendingRedemption_eq_error {refusal : Refusal}
    (refused : s.pendingRedemption id = .error refusal) :
    (s.redemptions.records.get? id = none ∧ refusal = .redemptionUnknown id) ∨
      s.redemptions.records.get? id ≠ none ∧ refusal.status = 400 := by
  rcases pendingRedemption_eq_error_iff.mp refused with ⟨unknown, rfl⟩ | ⟨r, found, -, rfl⟩
  · exact .inl ⟨unknown, rfl⟩
  · exact .inr ⟨by simp [found], rfl⟩

theorem fulfill_judged {claimed : Int} {tx : Transaction} {e : Evidence} :
    (fulfill caller id claimed tx e now).Yields s
      (Judged (¬ s.MayFulfill caller) (s.redemptions.records.get? id = none)) := by
  unfold fulfill
  refine .get_bind (.decide_bind (fun r refused => ?_) fun _ allowed => ?_)
  · obtain ⟨denied, rfl⟩ := Check.ensure_eq_error_iff.mp refused
    exact .forbidden denied rfl
  have may := ensure_eq_ok_iff.mp allowed
  have allowed : ¬ ¬ s.MayFulfill caller := not_not.mpr may
  refine .decide_bind (fun r refused => ?_) fun record pending => ?_
  · rcases pendingRedemption_eq_error refused with ⟨unknown, rfl⟩ | ⟨known, status⟩
    · exact .missing allowed unknown rfl
    · exact .rejected allowed known status
  have known : ¬ s.redemptions.records.get? id = none := by
    simp [(pendingRedemption_eq_ok_iff.mp pending).1]
  refine .decide_bind (fun r refused => ?_) fun proven _ => ?_
  · exact .rejected allowed known (status_of_checkProof refused)
  · obtain ⟨paid, hash⟩ := proven
    exact .served allowed known

theorem summarize_judged :
    (summarize id now).Yields s (Judged False (s.ledger.accounts.get? id = none)) := by
  unfold summarize
  refine .decide_bind (fun r refused => ?_) fun a found => ?_
  · obtain ⟨unknown, rfl⟩ := Check.account_eq_error_iff.mp refused
    exact .missing not_false unknown rfl
  · rw [Check.account_eq_ok_iff] at found
    exact .served not_false (by simp [found])

theorem redemption_judged :
    (Action.decide (·.redemption id)).Yields s
      (Judged False (s.redemptions.records.get? id = none)) := by
  simp only [Yields, Action.decide, redemption]
  cases s.redemptions.records.get? id with
  | none => exact .missing not_false rfl rfl
  | some r => exact .served not_false (by simp)

theorem report_judged {reason : Text} :
    (report caller reserve reason now).Yields s
      (Judged (s.authority.allows caller .watchdog = false)
        (reason ≠ "" ∧ s.ledger.accounts.get? reserve = none)) := by
  by_cases fit : ∃ a, s.Reportable caller reserve reason a
  · obtain ⟨a, fit⟩ := fit
    have allowed : ¬ s.authority.allows caller .watchdog = false := by simp [fit.watchdog]
    have known : ¬ (reason ≠ "" ∧ s.ledger.accounts.get? reserve = none) := by simp [fit.found]
    have ends := report_yields caller reserve reason now s
    unfold Yields at ends ⊢
    generalize report caller reserve reason now s = result at ends
    cases ends with
    | unfit unfit => exact absurd fit (unfit a)
    | repeated => exact .rejected allowed known rfl
    | filed => exact .served allowed known
  · unfold report
    refine .decide_bind (fun r refused => ?_) fun _ checked => ?_
    · simp only [checkReport, Check.bind_eq_error_iff, Authority.require,
        Check.ensure_eq_error_iff, ensure_eq_ok_iff, decide_eq_true_eq] at refused
      rcases refused with ⟨lacks, rfl⟩ | ⟨-, holds, reasonless, rfl⟩
      · exact .forbidden (Bool.eq_false_of_not_eq_true lacks) rfl
      · exact .rejected (by simp [holds]) (fun unknown => reasonless unknown.1) rfl
    obtain ⟨watchdog, reasoned⟩ := checkReport_eq_ok_iff.mp checked
    refine .decide_bind (fun r refused => ?_) fun a found => ?_
    · obtain ⟨unknown, rfl⟩ := Check.account_eq_error_iff.mp refused
      exact .missing (by simp [watchdog]) ⟨reasoned, unknown⟩ rfl
    · exact absurd ⟨a, watchdog, reasoned, Check.account_eq_ok_iff.mp found⟩ fit

theorem reasoned_of_report {reason : Text} {frozen : Bool}
    (done : report caller reserve reason now s = .ok frozen t) : reason ≠ "" := by
  have ends := report_yields caller reserve reason now s
  unfold Yields at ends
  rw [done] at ends
  cases ends with
  | filed fit => exact fit.reasoned

theorem status_of_setStatus {l : Ledger} {a : Account} {status : ReserveStatus} {reason : Text}
    {time : Option Int} {r : Refusal} (found : l.accounts.get? reserve = some a)
    (refused : l.setStatus reserve status reason time = .error r) : r.status = 400 := by
  simp only [Ledger.setStatus, Check.bind_eq_error_iff, Check.ensure_eq_error_iff,
    Check.account_eq_error_iff, found, pure, Except.pure, reduceCtorEq, and_false, false_and,
    exists_false, false_or, or_false] at refused
  rcases refused with ⟨-, rfl⟩ | ⟨-, -, b, -, -, rfl⟩
  · rfl
  · rfl

theorem enforce_judged {v : Violation} :
    (enforce reserve v.name now).Yields s
      (Judged False (s.ledger.accounts.get? reserve = none)) := by
  have named : objective v.name = .ok v := by cases v <;> rfl
  unfold enforce
  refine .decide_bind (fun r refused => ?_) fun v' named' => ?_
  · cases named.symm.trans refused
  cases named.symm.trans named'
  cases found : s.ledger.accounts.get? reserve with
  | none =>
    have unknown : s.examine reserve v now = .error (.reserveUnknown reserve) :=
      Check.bind_eq_error_iff.mpr (.inl (Check.account_eq_error_iff.mpr ⟨found, rfl⟩))
    refine .decide_bind (fun r refused => ?_) fun _ examined => ?_
    · cases unknown.symm.trans refused
      exact .missing not_false rfl rfl
    · cases unknown.symm.trans examined
  | some a =>
    have known : ¬ some a = none := by simp
    have account : s.ledger.account reserve = .ok a := Check.account_eq_ok_iff.mpr found
    refine .decide_bind (fun r refused => ?_) fun finding _ => ?_
    · simp only [examine, account, Check.bind_eq_error_iff, reduceCtorEq, false_or, Except.ok.injEq,
        exists_eq_left', pure, Except.pure] at refused
      grind
    refine .decide_bind (fun r refused => ?_) fun _ _ => .decide_bind (fun r refused => ?_) ?_
    · obtain ⟨-, rfl⟩ := Check.ensure_eq_error_iff.mp refused
      exact .rejected not_false known rfl
    · cases account.symm.trans refused
    intro b _
    extract_lets start
    have started (t : Bank) : (start ⟨⟩).Yields t (Judged False (some a = none)) := by
      cases v with
      | staleAttestations => exact .served not_false known
      | insufficientReserves => exact .served not_false known
    split
    · refine .onLedger_unit_cases (fun r refused => ?_) fun l _ => started _
      exact .rejected not_false known (status_of_setStatus found refused)
    · exact started s

theorem checkReport_cases (s : Bank) (caller : Text) (hasReason : Bool) :
    (s.authority.allows caller .watchdog = false ∧
        s.checkReport caller hasReason = .error (.lacksRole caller .watchdog)) ∨
      s.authority.allows caller .watchdog = true ∧
        (hasReason = false ∧ s.checkReport caller hasReason = .error .reportReasonMissing ∨
          hasReason = true ∧ s.checkReport caller hasReason = .ok ()) := by
  unfold checkReport Authority.require ensure
  cases s.authority.allows caller .watchdog with
  | false => exact .inl ⟨rfl, rfl⟩
  | true =>
    cases hasReason with
    | false => exact .inr ⟨rfl, .inl ⟨rfl, rfl⟩⟩
    | true => exact .inr ⟨rfl, .inr ⟨rfl, rfl⟩⟩

/-- An operation that is an action succeeds when the action does. -/
theorem step_ok_iff {α : Type} {x : Action α} {answer : α → Answer} {op : Operation}
    (performs : perform op s = orFail x answer s) :
    (∃ a, (s.step op).1 = .ok a) ↔ ∃ a t, x s = .ok a t := by
  rw [step_orFail performs]
  cases x s with
  | ok a t => simp
  | error r t => simp

end Bank

end BitcoinReserve
