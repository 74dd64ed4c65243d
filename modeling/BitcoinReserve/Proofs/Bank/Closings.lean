import BitcoinReserve.Proofs.Bank.Runs
import BitcoinReserve.Proofs.Redemption.Records

/-!
# How redemptions are closed

Four operations close a redemption: by a transaction that proves the payout, with or without a
failure when it does not, by the word of a trusted caller, or by a default. Each of them declines and
leaves everything as it was, or closes one pending redemption.
-/
namespace BitcoinReserve

/-- The transaction and the evidence that an operation presents for a payout. -/
def Operation.presented? : Operation → Option (Transaction × Evidence)
  | .fulfill _ _ _ tx e _ | .fulfillIfPossible _ _ _ tx e _ => some (tx, e)
  | _ => none

namespace Bank

open BitcoinReserve.Action

variable {s : Bank}

/-- How an operation closes a redemption, and which transactions count as used then. -/
inductive Closes (s : Bank) (op : Operation) (r : Redemption) : Redemption → KeySet Bytes → Prop
  | paid {tx : Transaction} {e : Evidence} {claimed paid : Int} {hash : Bytes} (now : Int)
      (presents : op.presented? = some (tx, e))
      (proved : s.checkProof r claimed tx e = .ok (paid, hash)) :
      Closes s op r (r.fulfill paid (some hash) now)
        (KeySet.add s.redemptions.usedTransactions hash)
  | trusted {paid : Int} (now : Int) (enough : checkPayment s.params r paid = .ok ()) :
      Closes s op r (r.fulfill paid none now) s.redemptions.usedTransactions
  | defaulted {reason : Text} {now : Int} (reasoned : reason ≠ "") (overdue : r.deadline < now) :
      Closes s op r (r.toDefault reason now) s.redemptions.usedTransactions

theorem Closes.closing {op : Operation} {r closed : Redemption} {used : KeySet Bytes}
    (closes : s.Closes op r closed used) : r.Closing closed := by
  cases closes with
  | paid now => exact .fulfilled _ _ now
  | trusted now => exact .fulfilled _ _ now
  | defaulted => exact .defaulted _ _

/-- The bank with one redemption closed. -/
def settle (s : Bank) (closed : Redemption) (used : KeySet Bytes) : Bank :=
  { s with redemptions := { s.redemptions.settle closed with usedTransactions := used } }

/-- A redemption that is found pending stands in the records. -/
theorem pendingRedemption_eq_ok_iff {id : Text} {r : Redemption} :
    s.pendingRedemption id = .ok r ↔
      s.redemptions.records.get? id = some r ∧ r.status = .pending := by
  simp only [pendingRedemption, redemption, Check.bind_eq_ok_iff, ensure_eq_ok_iff,
    Check.pure_eq_ok_iff, exists_const]
  cases s.redemptions.records.get? id with
  | none => simp
  | some r' =>
    constructor
    · rintro ⟨_, ⟨rfl⟩, pending, rfl⟩
      exact ⟨rfl, pending⟩
    · rintro ⟨⟨rfl⟩, pending⟩
      exact ⟨_, rfl, pending, rfl⟩

theorem pendingRedemption_eq_error_iff {id : Text} {refusal : Refusal} :
    s.pendingRedemption id = .error refusal ↔
      (s.redemptions.records.get? id = none ∧ .redemptionUnknown id = refusal) ∨
        ∃ r, s.redemptions.records.get? id = some r ∧ r.status ≠ .pending ∧
          .redemptionClosed id r.status = refusal := by
  simp only [pendingRedemption, redemption, Check.bind_eq_error_iff, Check.ensure_eq_error_iff]
  cases s.redemptions.records.get? id with
  | none => simp
  | some r => simp [pure, Except.pure]

theorem checkPayment_eq_ok_iff {p : Parameters} {r : Redemption} {paid : Int} {u : Unit} :
    checkPayment p r paid = .ok u ↔
      p.dustThreshold ≤ paid ∧ r.amount ≤ paid + p.paymentTolerance := by
  simp [checkPayment]

theorem checkPayment_eq_error_iff {p : Parameters} {r : Redemption} {paid : Int}
    {refusal : Refusal} :
    checkPayment p r paid = .error refusal ↔
      (¬ p.dustThreshold ≤ paid ∧ .paymentBelowDust paid p.dustThreshold = refusal) ∨
        p.dustThreshold ≤ paid ∧ ¬ r.amount ≤ paid + p.paymentTolerance ∧
          .paymentShort paid r.amount = refusal := by
  simp only [checkPayment, Check.bind_eq_error_iff, Check.ensure_eq_error_iff, ensure_eq_ok_iff,
    exists_const]

theorem checkProof_eq_ok_iff {r : Redemption} {claimed paid : Int} {tx : Transaction}
    {e : Evidence} {hash : Bytes} :
    s.checkProof r claimed tx e = .ok (paid, hash) ↔
      s.verifier.verify tx e (some s.params.difficultyFactor) = .ok hash ∧
        s.redemptions.usedTransactions.contains hash = false ∧
        paid = amountPaid s.params.network r.address tx.outputVector ∧ claimed ≤ paid ∧
        checkPayment s.params r paid = .ok () := by
  simp only [checkProof, Check.bind_eq_ok_iff, Check.mapError_eq_ok_iff, ensure_eq_ok_iff,
    Check.pure_eq_ok_iff, exists_const, Prod.mk.injEq]
  constructor
  · rintro ⟨_, verified, unused, claimable, _, enough, rfl, rfl⟩
    exact ⟨verified, unused, rfl, claimable, enough⟩
  · rintro ⟨verified, unused, rfl, claimable, enough⟩
    exact ⟨hash, verified, unused, claimable, (), enough, rfl, rfl⟩

theorem checkProof_eq_error_iff {r : Redemption} {claimed : Int} {tx : Transaction} {e : Evidence}
    {refusal : Refusal} :
    let paid := amountPaid s.params.network r.address tx.outputVector
    s.checkProof r claimed tx e = .error refusal ↔
      (∃ fault, s.verifier.verify tx e (some s.params.difficultyFactor) = .error fault ∧
          .payment fault = refusal) ∨
        ∃ hash, s.verifier.verify tx e (some s.params.difficultyFactor) = .ok hash ∧
          ((¬ s.redemptions.usedTransactions.contains hash = false ∧
              .transactionUsed hash = refusal) ∨
            s.redemptions.usedTransactions.contains hash = false ∧
              ((¬ claimed ≤ paid ∧ .claimExceedsPayment claimed paid = refusal) ∨
                claimed ≤ paid ∧ checkPayment s.params r paid = .error refusal)) := by
  simp only [checkProof, Check.bind_eq_error_iff, Check.mapError_eq_error_iff,
    Check.mapError_eq_ok_iff, Check.ensure_eq_error_iff, ensure_eq_ok_iff, pure, Except.pure,
    reduceCtorEq, and_false, exists_false, or_false, exists_const]

/-- The result of an action that closes a redemption. -/
def ClosesTo (s : Bank) (op : Operation) (result : EStateM.Result Refusal Bank Redemption) : Prop :=
  ∃ id r closed used, s.redemptions.records.get? id = some r ∧ r.status = .pending ∧
    s.Closes op r closed used ∧ result = .ok closed (s.settle closed used)

/-- The result of an action that closes the redemption of an id. -/
def ClosesAt (s : Bank) (op : Operation) (id : Text)
    (result : EStateM.Result Refusal Bank Redemption) : Prop :=
  ∃ r closed used, s.redemptions.records.get? id = some r ∧ r.status = .pending ∧
    s.Closes op r closed used ∧ result = .ok closed (s.settle closed used)

theorem fulfill_closes {op : Operation} {tx : Transaction} {e : Evidence}
    (presents : op.presented? = some (tx, e)) (caller id : Text) (claimed now : Int) (s : Bank) :
    (fulfill caller id claimed tx e now).Ends s (s.ClosesAt op id) := by
  unfold fulfill
  refine .get_bind (.decide_bind fun _ _ => .decide_bind fun r found => ?_)
  refine .decide_bind fun (paid, hash) proved => .inr ?_
  obtain ⟨recorded, pending⟩ := pendingRedemption_eq_ok_iff.mp found
  exact ⟨r, _, _, recorded, pending, .paid now presents proved, rfl⟩

theorem fulfill_ends {op : Operation} {tx : Transaction} {e : Evidence}
    (presents : op.presented? = some (tx, e)) (caller id : Text) (claimed now : Int) (s : Bank) :
    (fulfill caller id claimed tx e now).Ends s (s.ClosesTo op) :=
  (fulfill_closes presents caller id claimed now s).mono fun _ closes => ⟨id, closes⟩

theorem fulfillTrusted_closes (op : Operation) (caller id : Text) (amount now : Int) (s : Bank) :
    (fulfillTrusted caller id amount now).Ends s (s.ClosesAt op id) := by
  unfold fulfillTrusted
  refine .get_bind (.decide_bind fun _ _ => .decide_bind fun _ _ => ?_)
  refine .decide_bind fun r found => .decide_bind fun _ enough => .inr ?_
  obtain ⟨recorded, pending⟩ := pendingRedemption_eq_ok_iff.mp found
  exact ⟨r, _, _, recorded, pending, .trusted now enough, rfl⟩

theorem fulfillTrusted_ends (op : Operation) (caller id : Text) (amount now : Int) (s : Bank) :
    (fulfillTrusted caller id amount now).Ends s (s.ClosesTo op) :=
  (fulfillTrusted_closes op caller id amount now s).mono fun _ closes => ⟨id, closes⟩

theorem flagDefault_closes (op : Operation) (caller id reason : Text) (now : Int) (s : Bank) :
    (flagDefault caller id reason now).Ends s (s.ClosesAt op id) := by
  unfold flagDefault
  refine .decide_bind fun _ _ => .decide_bind fun _ reasoned => ?_
  refine .decide_bind fun r found => .decide_bind fun _ overdue => .inr ?_
  obtain ⟨recorded, pending⟩ := pendingRedemption_eq_ok_iff.mp found
  exact ⟨r, _, _, recorded, pending,
    .defaulted (ensure_eq_ok_iff.mp reasoned) (ensure_eq_ok_iff.mp overdue), rfl⟩

theorem flagDefault_ends (op : Operation) (caller id reason : Text) (now : Int) (s : Bank) :
    (flagDefault caller id reason now).Ends s (s.ClosesTo op) :=
  (flagDefault_closes op caller id reason now s).mono fun _ closes => ⟨id, closes⟩

/-- An ending that tells of nothing done: a failure, or the flag that stands for one. -/
def Event.declined (e : Event) : Prop := (∃ f, e.ending = .error f) ∨ e.ending = .ok (.flag false)

/-- An event declines and leaves everything as it was, or it closes a pending redemption. -/
inductive Event.Settles (e : Event) : Bank → Prop
  | declined (declined : e.declined) : Settles e e.found
  | closed {id : Text} {r closed : Redemption} {used : KeySet Bytes} (done : ¬ e.declined)
      (found : e.found.redemptions.records.get? id = some r) (pending : r.status = .pending)
      (closes : e.found.Closes e.operation r closed used) : Settles e (e.found.settle closed used)

theorem Event.Settles.ledger_eq {e : Event} {t : Bank} (settles : e.Settles t) :
    t.ledger = e.found.ledger := by
  cases settles <;> rfl

theorem settles_orFail {op : Operation} {x : Action Redemption} (ends : x.Ends s (s.ClosesTo op))
    (performs : perform op s = orFail x .redemption s) :
    Event.Settles ⟨s, op⟩ (s.step op).2 := by
  have step := step_orFail performs
  rcases ends with ⟨refusal, refused⟩ | ⟨id, r, closed, used, found, pending, closes, done⟩
  · rw [refused] at step
    have declined : Event.declined ⟨s, op⟩ := .inl ⟨_, congrArg Prod.fst step⟩
    rw [step]
    exact .declined declined
  · rw [done] at step
    have accepted : ¬ Event.declined ⟨s, op⟩ := by simp [Event.declined, Event.ending, step]
    rw [step]
    exact .closed accepted found pending closes

/-- A flag tells how the fulfilment ends that may fail. -/
theorem fulfillIfPossible_eq (caller id : Text) (claimed : Int) (tx : Transaction) (e : Evidence)
    (now : Int) (s : Bank) :
    fulfillIfPossible caller id claimed tx e now s =
      match fulfill caller id claimed tx e now s with
      | .error _ t => .ok false t
      | .ok _ t => .ok true t := by
  simp only [fulfillIfPossible, Action.outcome, bind, EStateM.bind]
  cases fulfill caller id claimed tx e now s with
  | error refusal t => rfl
  | ok closed t => rfl

/-- Here a failure to close is not passed on but told by a flag. -/
theorem settles_fulfillIfPossible (caller id : Text) (claimed : Int) (tx : Transaction)
    (e : Evidence) (now : Int) (s : Bank) :
    let op : Operation := .fulfillIfPossible caller id claimed tx e now
    Event.Settles ⟨s, op⟩ (s.step op).2 := by
  intro op
  have performs : perform op s = orFail (fulfillIfPossible caller id claimed tx e now) .flag s := rfl
  have step := step_orFail performs
  have presents : op.presented? = some (tx, e) := rfl
  rcases fulfill_ends presents caller id claimed now s with
    ⟨refusal, refused⟩ | ⟨id', r, closed, used, found, pending, closes, done⟩
  · have flagged : fulfillIfPossible caller id claimed tx e now s = .ok false s := by
      rw [fulfillIfPossible_eq, refused]
    rw [flagged] at step
    have declined : Event.declined ⟨s, op⟩ := .inr (congrArg Prod.fst step)
    rw [step]
    exact .declined declined
  · have flagged : fulfillIfPossible caller id claimed tx e now s =
        .ok true (s.settle closed used) := by
      rw [fulfillIfPossible_eq, done]
    rw [flagged] at step
    have accepted : ¬ Event.declined ⟨s, op⟩ := by simp [Event.declined, Event.ending, step]
    rw [step]
    exact .closed accepted found pending closes

theorem step_settles (op : Operation) (closes : op.closes = true) (s : Bank) :
    Event.Settles ⟨s, op⟩ (s.step op).2 := by
  cases op with
  | fulfill caller id claimed tx e now =>
    exact settles_orFail (fulfill_ends rfl caller id claimed now s) rfl
  | fulfillTrusted caller id amount now =>
    exact settles_orFail (fulfillTrusted_ends _ caller id amount now s) rfl
  | flagDefault caller id reason now =>
    exact settles_orFail (flagDefault_ends _ caller id reason now s) rfl
  | fulfillIfPossible caller id claimed tx e now =>
    exact settles_fulfillIfPossible caller id claimed tx e now s
  | _ => cases closes

/-- No operation changes the parameters. -/
theorem step_params (op : Operation) (s : Bank) : (s.step op).2.params = s.params :=
  (step_touched op s).params_eq

theorem run_params (s : Bank) (ops : List Operation) : (s.run ops).params = s.params := by
  induction ops using List.reverseRecOn with
  | nil => rfl
  | append_singleton ops op ih => rw [run_concat, step_params, ih]

end Bank

end BitcoinReserve
