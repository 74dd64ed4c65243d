import BitcoinReserve.Proofs.Bank.Judgements
import BitcoinReserve.Proofs.Bank.Payments

/-!
# When a payout is accepted

A fulfilment is decided before anything is written. It asks for one thing after the other, and its
refusal is that of the first thing that is lacking. In a bank that has been run from its beginning
the address of a redemption always names a destination, and the transactions that count as used are
those that were presented with success, so that these things can be told from outside.
-/
namespace BitcoinReserve

/-- What is asked for, and the kind of error that its lack is refused with. -/
structure Requirement where
  met : Prop
  refusal : Option Kind

/-- The first of the requirements that is not met is refused with the kind. -/
inductive FirstUnmet (k : Kind) : List Requirement → Prop
  | here {q : Requirement} {rest : List Requirement} (unmet : ¬ q.met)
      (refused : q.refusal = some k) : FirstUnmet k (q :: rest)
  | later {q : Requirement} {rest : List Requirement} (met : q.met) (unmet : FirstUnmet k rest) :
      FirstUnmet k (q :: rest)

namespace FirstUnmet

variable {k k' : Kind} {requirements : List Requirement}

theorem exists_unmet (first : FirstUnmet k requirements) : ∃ q ∈ requirements, ¬ q.met := by
  induction first with
  | here unmet => exact ⟨_, List.mem_cons_self, unmet⟩
  | later met unmet ih =>
    obtain ⟨q, mem, unmet⟩ := ih
    exact ⟨q, List.mem_cons_of_mem _ mem, unmet⟩

theorem unique (first : FirstUnmet k requirements) (first' : FirstUnmet k' requirements) :
    k = k' := by
  induction first with
  | here unmet refused =>
    cases first' with
    | here _ refused' => exact Option.some.inj (refused.symm.trans refused')
    | later met => exact absurd met unmet
  | later met _ ih =>
    cases first' with
    | here unmet => exact absurd met unmet
    | later _ first' => exact ih first'

end FirstUnmet

/-- The event accepts a transaction as proof of a payout. -/
structure Bank.Event.Spends (e : Event) (hash : Bytes) : Prop where
  presented : ∃ tx evidence, e.operation.presented? = some (tx, evidence) ∧ tx.hash = hash
  accepted : ¬ e.declined

namespace Bank

open BitcoinReserve.Action

section Fulfillable

variable (s : Bank) (spent : Bytes → Prop) (caller id : Text) (claimed : Int) (tx : Transaction)
  (e : Evidence)

/-- A caller may fulfil a redemption by a transaction that is proved, was not spent on another, and
pays enough. -/
structure Fulfillable (r : Redemption) (hash : Bytes) (paid : Int) : Prop where
  allowed : s.MayFulfill caller
  found : s.redemptions.records.get? id = some r
  pending : r.status = .pending
  proved : s.verifier.verify tx e (some s.params.difficultyFactor) = .ok hash
  unspent : ¬ spent hash
  pays : tx.Pays s.params.network r.address paid
  claimed_le : claimed ≤ paid
  dust_le : s.params.dustThreshold ≤ paid
  amount_le : r.amount ≤ paid + s.params.paymentTolerance

/-- The redemption is known and the transaction pays it an amount of which something holds. -/
def Receives (P : Redemption → Int → Prop) : Prop :=
  ∃ r paid, s.redemptions.records.get? id = some r ∧ tx.Pays s.params.network r.address paid ∧
    P r paid

/-- What is asked for before a redemption is fulfilled, in this order. -/
def requirements : List Requirement :=
  let verified := s.verifier.verify tx e (some s.params.difficultyFactor)
  [⟨s.MayFulfill caller, some .notAuthorized⟩,
   ⟨∃ r, s.redemptions.records.get? id = some r, some .redemptionNotFound⟩,
   ⟨∃ r, s.redemptions.records.get? id = some r ∧ r.status = .pending, some .redemptionNotPending⟩,
   ⟨∃ hash, verified = .ok hash, match verified with
      | .ok _ => none
      | .error fault => some fault.kind⟩,
   ⟨∃ hash, verified = .ok hash ∧ ¬ spent hash, some .transactionAlreadyUsed⟩,
   ⟨s.Receives id tx fun _ paid => claimed ≤ paid, some .paymentAmountMismatch⟩,
   ⟨s.Receives id tx fun _ paid => s.params.dustThreshold ≤ paid, some .paymentBelowDust⟩,
   ⟨s.Receives id tx fun r paid => r.amount ≤ paid + s.params.paymentTolerance,
     some .insufficientPayment⟩]

end Fulfillable

variable {s : Bank} {spent : Bytes → Prop} {caller id : Text} {claimed now : Int} {tx : Transaction}
  {e : Evidence}

theorem Fulfillable.met {r : Redemption} {hash : Bytes} {paid : Int}
    (fits : s.Fulfillable spent caller id claimed tx e r hash paid) :
    ∀ q ∈ s.requirements spent caller id claimed tx e, q.met := by
  have receives {P : Redemption → Int → Prop} (holds : P r paid) : s.Receives id tx P :=
    ⟨r, paid, fits.found, fits.pays, holds⟩
  simp only [requirements, List.forall_mem_cons, List.not_mem_nil, false_imp_iff, implies_true,
    and_true]
  exact ⟨fits.allowed, ⟨r, fits.found⟩, ⟨r, fits.found, fits.pending⟩, ⟨hash, fits.proved⟩,
    ⟨hash, fits.proved, fits.unspent⟩, receives fits.claimed_le, receives fits.dust_le,
    receives fits.amount_le⟩

/-- The redemption that is to be fulfilled, what it is paid and by which transaction. -/
def judge (s : Bank) (caller id : Text) (claimed : Int) (tx : Transaction) (e : Evidence) :
    Except Refusal (Redemption × Int × Bytes) := do
  ensure
    (s.params.permissionlessFulfillment = true ∨ s.authority.allows caller .redemptionFulfiller)
    (.mayNotFulfil caller)
  let r ← s.pendingRedemption id
  let (paid, hash) ← s.checkProof r claimed tx e
  return (r, paid, hash)

/-- A fulfilment writes nothing before it is judged, and then the closed redemption. -/
theorem fulfill_eq (caller id : Text) (claimed : Int) (tx : Transaction) (e : Evidence) (now : Int)
    (s : Bank) :
    fulfill caller id claimed tx e now s =
      match s.judge caller id claimed tx e with
      | .error refusal => .error refusal s
      | .ok (r, paid, hash) =>
        let closed := r.fulfill paid (some hash) now
        .ok closed (s.settle closed (KeySet.add s.redemptions.usedTransactions hash)) := by
  change (fulfill caller id claimed tx e now).Yields s (· = _)
  unfold fulfill judge
  refine .get_bind (.decide_bind (fun refusal denied => ?_) fun _ granted => ?_)
  · rw [denied]
    rfl
  rw [granted]
  refine .decide_bind (fun refusal missing => ?_) fun r found => ?_
  · rw [missing]
    rfl
  rw [found]
  refine .decide_bind (fun refusal refuted => ?_) fun (paid, hash) proved => ?_
  · simp only [refuted, bind, Except.bind]
  · simp only [proved, bind, Except.bind]
    rfl

theorem step_fulfill (caller id : Text) (claimed : Int) (tx : Transaction) (e : Evidence)
    (now : Int) (s : Bank) :
    s.step (.fulfill caller id claimed tx e now) =
      match s.judge caller id claimed tx e with
      | .error refusal => (.error (.refused refusal), s)
      | .ok (r, paid, hash) =>
        let closed := r.fulfill paid (some hash) now
        (.ok (.redemption closed),
          s.settle closed (KeySet.add s.redemptions.usedTransactions hash)) := by
  rw [step_orFail (x := fulfill caller id claimed tx e now) rfl, fulfill_eq]
  cases s.judge caller id claimed tx e with
  | error refusal => rfl
  | ok payout => rfl

/-- The same is decided and written where a refusal is told by a flag. -/
theorem step_fulfillIfPossible (caller id : Text) (claimed : Int) (tx : Transaction) (e : Evidence)
    (now : Int) (s : Bank) :
    s.step (.fulfillIfPossible caller id claimed tx e now) =
      match s.judge caller id claimed tx e with
      | .error _ => (.ok (.flag false), s)
      | .ok (r, paid, hash) =>
        (.ok (.flag true),
          s.settle (r.fulfill paid (some hash) now)
            (KeySet.add s.redemptions.usedTransactions hash)) := by
  rw [step_orFail (x := fulfillIfPossible caller id claimed tx e now) rfl, fulfillIfPossible_eq,
    fulfill_eq]
  cases s.judge caller id claimed tx e with
  | error refusal => rfl
  | ok payout => rfl

theorem judge_eq_ok_iff {r : Redemption} {paid : Int} {hash : Bytes} :
    s.judge caller id claimed tx e = .ok (r, paid, hash) ↔
      s.MayFulfill caller ∧ s.pendingRedemption id = .ok r ∧
        s.checkProof r claimed tx e = .ok (paid, hash) := by
  simp only [judge, Check.bind_eq_ok_iff, ensure_eq_ok_iff, Check.pure_eq_ok_iff, exists_const,
    Prod.mk.injEq, MayFulfill]
  constructor
  · rintro ⟨may, _, found, _, proved, rfl, rfl, rfl⟩
    exact ⟨may, found, proved⟩
  · rintro ⟨may, found, proved⟩
    exact ⟨may, r, found, (paid, hash), proved, rfl, rfl, rfl⟩

theorem judge_eq_error_iff {refusal : Refusal} :
    s.judge caller id claimed tx e = .error refusal ↔
      (¬ s.MayFulfill caller ∧ .mayNotFulfil caller = refusal) ∨
        s.MayFulfill caller ∧ (s.pendingRedemption id = .error refusal ∨
          ∃ r, s.pendingRedemption id = .ok r ∧ s.checkProof r claimed tx e = .error refusal) := by
  simp only [judge, Check.bind_eq_error_iff, Check.ensure_eq_error_iff, ensure_eq_ok_iff, pure,
    Except.pure, reduceCtorEq, and_false, exists_false, or_false, exists_const, MayFulfill]

theorem hash_of_judge {r : Redemption} {paid : Int} {hash : Bytes}
    (judged : s.judge caller id claimed tx e = .ok (r, paid, hash)) : tx.hash = hash := by
  obtain ⟨-, -, proved⟩ := judge_eq_ok_iff.mp judged
  obtain ⟨verified, -⟩ := checkProof_eq_ok_iff.mp proved
  exact (Verifier.confirms_of_verify verified).1.symm

section Spending

variable {op : Operation}

/-- An operation that closes a redemption as it is judged uses up the transaction presented. -/
theorem mem_used_of_judge (caller id : Text) (claimed now : Int)
    (presents : op.presented? = some (tx, e))
    (refused : ∀ refusal, s.judge caller id claimed tx e = .error refusal →
      Event.declined ⟨s, op⟩ ∧ (s.step op).2 = s)
    (accepted : ∀ r paid hash, s.judge caller id claimed tx e = .ok (r, paid, hash) →
      ¬ Event.declined ⟨s, op⟩ ∧ (s.step op).2 = s.settle (r.fulfill paid (some hash) now)
        (KeySet.add s.redemptions.usedTransactions hash)) (hash : Bytes) :
    hash ∈ (s.step op).2.redemptions.usedTransactions.keys ↔
      Event.Spends ⟨s, op⟩ hash ∨ hash ∈ s.redemptions.usedTransactions.keys := by
  cases judged : s.judge caller id claimed tx e with
  | error refusal =>
    obtain ⟨declined, same⟩ := refused refusal judged
    have nothing : ¬ Event.Spends ⟨s, op⟩ hash := fun spends => spends.accepted declined
    rw [same, or_iff_right nothing]
  | ok payout =>
    obtain ⟨r, paid, used⟩ := payout
    obtain ⟨done, written⟩ := accepted r paid used judged
    have spends : Event.Spends ⟨s, op⟩ hash ↔ used = hash := by
      rw [← hash_of_judge judged]
      constructor
      · rintro ⟨⟨tx', e', presents', same⟩, -⟩
        cases presents.symm.trans presents'
        exact same
      · exact fun same => ⟨⟨tx, e, presents, same⟩, done⟩
    rw [written, spends]
    exact Table.mem_keys_insert

theorem mem_used_of_unpresented (presents : op.presented? = none) (hash : Bytes) :
    hash ∈ (s.step op).2.redemptions.usedTransactions.keys ↔
      Event.Spends ⟨s, op⟩ hash ∨ hash ∈ s.redemptions.usedTransactions.keys := by
  have nothing : ¬ Event.Spends ⟨s, op⟩ hash := by
    rintro ⟨⟨_, _, presents', -⟩, -⟩
    cases presents.symm.trans presents'
  rw [or_iff_right nothing]
  have books := step_books op s
  generalize (s.step op).2.redemptions = b at books
  cases books with
  | kept => exact Iff.rfl
  | unnamed => exact Iff.rfl
  | opened => exact Iff.rfl
  | closed opens found pending closes =>
    cases closes with
    | paid now presents' => cases presents.symm.trans presents'
    | trusted => exact Iff.rfl
    | defaulted => exact Iff.rfl

/-- The transactions that count as used after a step are those before and the one it accepts. -/
theorem mem_used_step (op : Operation) (s : Bank) (hash : Bytes) :
    hash ∈ (s.step op).2.redemptions.usedTransactions.keys ↔
      Event.Spends ⟨s, op⟩ hash ∨ hash ∈ s.redemptions.usedTransactions.keys := by
  cases op with
  | fulfill caller id claimed tx e now =>
    have step := step_fulfill caller id claimed tx e now s
    refine mem_used_of_judge caller id claimed now rfl (fun refusal judged => ?_)
      (fun r paid used judged => ?_) hash
    · rw [judged] at step
      exact ⟨.inl ⟨_, congrArg Prod.fst step⟩, congrArg Prod.snd step⟩
    · rw [judged] at step
      exact ⟨by simp [Event.declined, Event.ending, step], congrArg Prod.snd step⟩
  | fulfillIfPossible caller id claimed tx e now =>
    have step := step_fulfillIfPossible caller id claimed tx e now s
    refine mem_used_of_judge caller id claimed now rfl (fun refusal judged => ?_)
      (fun r paid used judged => ?_) hash
    · rw [judged] at step
      exact ⟨.inr (congrArg Prod.fst step), congrArg Prod.snd step⟩
    · rw [judged] at step
      exact ⟨by simp [Event.declined, Event.ending, step], congrArg Prod.snd step⟩
  | _ => exact mem_used_of_unpresented rfl hash

/-- Used are the transactions that the events of a run accepted. -/
theorem mem_used_run (authority : Authority) (relay : Relay) (params : Parameters)
    (ops : List Operation) (hash : Bytes) :
    hash ∈ ((new authority relay params).run ops).redemptions.usedTransactions.keys ↔
      ∃ event ∈ (new authority relay params).events ops, event.Spends hash := by
  induction ops using List.reverseRecOn with
  | nil => simp [run, new, RedemptionBook.empty, events]
  | append_singleton ops op ih =>
    rw [run_concat, mem_used_step, ih, events_concat]
    simp only [List.mem_append, List.mem_singleton, or_and_right, exists_or, exists_eq_left]
    exact or_comm

end Spending

/-- What makes a fulfilment tell from outside: every redemption is to be paid to a destination, and
the transactions that count as used are those that were spent. -/
structure Accountable (s : Bank) (spent : Bytes → Prop) : Prop where
  addressed : ∀ id r, s.redemptions.records.get? id = some r →
    ∃ d, Address.decode s.params.network r.address = .ok d
  used_iff : ∀ hash, hash ∈ s.redemptions.usedTransactions.keys ↔ spent hash

/-- Colliding ids change nothing here, since a record keeps its address when it is written anew. -/
theorem run_accountable (authority : Authority) (relay : Relay) (params : Parameters)
    (ops : List Operation) :
    ((new authority relay params).run ops).Accountable fun hash =>
      ∃ event ∈ (new authority relay params).events ops, event.Spends hash where
  used_iff hash := mem_used_run authority relay params ops hash
  addressed := by
    rw [run_params]
    induction ops using List.reverseRecOn with
    | nil =>
      intro _ _ found
      cases found
    | append_singleton ops op ih =>
      have keyed := (run_named authority relay params ops).1
      have same : ((new authority relay params).run ops).params.network = params.network :=
        congrArg Parameters.network (run_params _ ops)
      exact (books_concat _ ops op).addressed keyed same ih

namespace Accountable

theorem unused_iff (accountable : s.Accountable spent) {hash : Bytes} :
    s.redemptions.usedTransactions.contains hash = false ↔ ¬ spent hash := by
  rw [Table.contains_eq_false_iff, accountable.used_iff]

/-- A payout is judged to be fulfilled exactly when it may be. -/
theorem judge_eq_ok_iff (accountable : s.Accountable spent) {r : Redemption} {paid : Int}
    {hash : Bytes} :
    s.judge caller id claimed tx e = .ok (r, paid, hash) ↔
      s.Fulfillable spent caller id claimed tx e r hash paid := by
  rw [Bank.judge_eq_ok_iff, pendingRedemption_eq_ok_iff, checkProof_eq_ok_iff,
    checkPayment_eq_ok_iff, accountable.unused_iff]
  constructor
  · rintro ⟨may, ⟨found, pending⟩, proved, unspent, total, claimed_le, dust_le, amount_le⟩
    obtain ⟨d, decodes⟩ := accountable.addressed id r found
    exact ⟨may, found, pending, proved, unspent, (pays_iff decodes proved).mpr total, claimed_le,
      dust_le, amount_le⟩
  · rintro ⟨may, found, pending, proved, unspent, pays, claimed_le, dust_le, amount_le⟩
    obtain ⟨d, decodes⟩ := accountable.addressed id r found
    exact ⟨may, ⟨found, pending⟩, proved, unspent, (pays_iff decodes proved).mp pays, claimed_le,
      dust_le, amount_le⟩

/-- The parts of a payment that are found and accepted are the only ones. -/
theorem receives_iff (accountable : s.Accountable spent) {r : Redemption} {hash : Bytes}
    (found : s.redemptions.records.get? id = some r)
    (proved : s.verifier.verify tx e (some s.params.difficultyFactor) = .ok hash)
    {P : Redemption → Int → Prop} :
    s.Receives id tx P ↔ P r (amountPaid s.params.network r.address tx.outputVector) := by
  obtain ⟨d, decodes⟩ := accountable.addressed id r found
  constructor
  · rintro ⟨r', paid, found', pays, holds⟩
    cases found.symm.trans found'
    rwa [← (pays_iff decodes proved).mp pays]
  · exact fun holds => ⟨r, _, found, (pays_iff decodes proved).mpr rfl, holds⟩

/-- A refusal is that of the first requirement that is not met. -/
theorem firstUnmet_of_judge (accountable : s.Accountable spent) {refusal : Refusal}
    (refused : s.judge caller id claimed tx e = .error refusal) :
    FirstUnmet refusal.kind (s.requirements spent caller id claimed tx e) := by
  rcases judge_eq_error_iff.mp refused with ⟨denied, rfl⟩ | ⟨may, missing | ⟨r, open_, refuted⟩⟩
  · exact .here denied rfl
  · refine .later may ?_
    rcases pendingRedemption_eq_error_iff.mp missing with ⟨unknown, rfl⟩ | ⟨r, found, closed, rfl⟩
    · exact .here (by simp [unknown]) rfl
    · exact .later ⟨r, found⟩ (.here (by simp [found, closed]) rfl)
  obtain ⟨found, pending⟩ := pendingRedemption_eq_ok_iff.mp open_
  refine .later may (.later ⟨r, found⟩ (.later ⟨r, found, pending⟩ ?_))
  rcases checkProof_eq_error_iff.mp refuted with ⟨fault, unproved, rfl⟩ | ⟨hash, proved, refuted⟩
  · exact .here (by simp [unproved]) (by simp only [unproved]; rfl)
  have receives {P : Redemption → Int → Prop} :
      s.Receives id tx P ↔ P r (amountPaid s.params.network r.address tx.outputVector) :=
    accountable.receives_iff found proved
  refine .later ⟨hash, proved⟩ ?_
  rcases refuted with ⟨used, rfl⟩ | ⟨unused, refuted⟩
  · refine .here ?_ rfl
    rintro ⟨hash', proved', unspent⟩
    cases proved.symm.trans proved'
    exact used (accountable.unused_iff.mpr unspent)
  refine .later ⟨hash, proved, accountable.unused_iff.mp unused⟩ ?_
  rcases refuted with ⟨excessive, rfl⟩ | ⟨claimed_le, refuted⟩
  · exact .here (mt receives.mp excessive) rfl
  refine .later (receives.mpr claimed_le) ?_
  rcases checkPayment_eq_error_iff.mp refuted with ⟨dust, rfl⟩ | ⟨dust_le, short, rfl⟩
  · exact .here (mt receives.mp dust) rfl
  · exact .later (receives.mpr dust_le) (.here (mt receives.mp short) rfl)

theorem judge_kind_iff (accountable : s.Accountable spent) {k : Kind} :
    (∃ refusal, s.judge caller id claimed tx e = .error refusal ∧ refusal.kind = k) ↔
      FirstUnmet k (s.requirements spent caller id claimed tx e) := by
  constructor
  · rintro ⟨refusal, refused, rfl⟩
    exact accountable.firstUnmet_of_judge refused
  · intro first
    cases judged : s.judge caller id claimed tx e with
    | error refusal => exact ⟨refusal, rfl, (accountable.firstUnmet_of_judge judged).unique first⟩
    | ok payout =>
      obtain ⟨q, mem, unmet⟩ := first.exists_unmet
      exact absurd ((accountable.judge_eq_ok_iff.mp judged).met q mem) unmet

end Accountable

theorem step_fulfill_eq_ok_iff {closed : Redemption} :
    (s.step (.fulfill caller id claimed tx e now)).1 = .ok (.redemption closed) ↔
      ∃ r paid hash, s.judge caller id claimed tx e = .ok (r, paid, hash) ∧
        closed = r.fulfill paid (some hash) now := by
  rw [step_fulfill]
  cases s.judge caller id claimed tx e with
  | error refusal => simp
  | ok payout => simp [Prod.ext_iff, eq_comm]

theorem step_fulfill_eq_error_iff {refusal : Refusal} :
    (s.step (.fulfill caller id claimed tx e now)).1 = .error (.refused refusal) ↔
      s.judge caller id claimed tx e = .error refusal := by
  rw [step_fulfill]
  cases s.judge caller id claimed tx e with
  | error refusal => simp
  | ok payout => simp

/-- A fulfilment succeeds exactly when everything that is asked for is there, and is refused with
the kind of the first thing that is lacking. The one that tells by a flag leaves the same bank. -/
theorem run_fulfilments (authority : Authority) (relay : Relay) (params : Parameters)
    (ops : List Operation) (caller id : Text) (claimed : Int) (tx : Transaction) (e : Evidence)
    (now : Int) :
    let s := (new authority relay params).run ops
    let spent := fun hash => ∃ event ∈ (new authority relay params).events ops, event.Spends hash
    let strict := s.step (.fulfill caller id claimed tx e now)
    let lenient := s.step (.fulfillIfPossible caller id claimed tx e now)
    (∀ closed, strict.1 = .ok (.redemption closed) ↔ ∃ r paid hash,
      s.Fulfillable spent caller id claimed tx e r hash paid ∧
        closed = r.fulfill paid (some hash) now) ∧
    (∀ k, (∃ refusal, strict.1 = .error (.refused refusal) ∧ refusal.kind = k) ↔
      FirstUnmet k (s.requirements spent caller id claimed tx e)) ∧
    (∀ r hash, s.redemptions.records.get? id = some r →
      s.verifier.verify tx e (some s.params.difficultyFactor) = .ok hash →
      ∃ paid, tx.Pays s.params.network r.address paid) ∧
    (((∃ closed, strict.1 = .ok (.redemption closed)) ∧ lenient.1 = .ok (.flag true)) ∨
      (∃ refusal, strict.1 = .error (.refused refusal)) ∧ lenient.1 = .ok (.flag false) ∧
        strict.2 = s) ∧
    lenient.2 = strict.2 := by
  intro s spent strict lenient
  have accountable : s.Accountable spent := run_accountable authority relay params ops
  refine ⟨fun closed => ?_, fun k => ?_, fun r hash found proved => ?_, ?_⟩
  · simp only [strict, step_fulfill_eq_ok_iff, accountable.judge_eq_ok_iff]
  · simp only [strict, step_fulfill_eq_error_iff, accountable.judge_kind_iff]
  · obtain ⟨d, decodes⟩ := accountable.addressed id r found
    exact ⟨_, (pays_iff decodes proved).mpr rfl⟩
  · simp only [strict, lenient, step_fulfill, step_fulfillIfPossible]
    cases s.judge caller id claimed tx e with
    | error refusal => simp
    | ok payout => simp

end Bank

end BitcoinReserve
