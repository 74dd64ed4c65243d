import BitcoinReserve.Proofs.Bank.Backing
import BitcoinReserve.Proofs.Bank.Motions
import BitcoinReserve.Proofs.Bank.Openings
import BitcoinReserve.Proofs.Bank.Reports
import BitcoinReserve.Proofs.Bank.Reviews
import BitcoinReserve.Proofs.Bank.Wallets
import BitcoinReserve.Proofs.Ledger.Isolation
import BitcoinReserve.Proofs.Oracle.Isolation
import BitcoinReserve.Proofs.Redemption.Isolation

/-!
# Isolation of reserves

An operation acts on the reserves that it names, or on that of its redemption or its proposal. What
the bank keeps for any other reserve is as it was, whether the operation succeeds or fails. Only a
redemption that is opened under an id which another one has could replace that one, and then two
strings were hashed to one id.
-/
namespace BitcoinReserve

/-- The reserves that an operation acts on in a bank. -/
def Operation.reserves (op : Operation) (s : Bank) : List Text :=
  match op with
  | .grant .. | .revoke .. | .setRelay .. | .mintToken .. | .burnToken .. | .transferToken .. => []
  | .register _ reserve _ _ | .raiseCap _ reserve _ | .mint _ reserve _ _ _ | .burn _ reserve _ _
  | .setBacking reserve _ _ | .setStatus reserve _ _ _ | .selfPause _ reserve _
  | .resume _ reserve _ | .setFrozen reserve _ | .attachWallet _ reserve _
  | .detachWallet _ reserve _ | .attest _ reserve _ _ _ | .overrideBalance _ reserve _ _ _
  | .resetRound _ reserve _ | .sync _ reserve _ | .syncIfPossible _ reserve _
  | .redeem _ reserve _ _ _ _ | .propose _ reserve _ _ _ | .report _ reserve _ _
  | .freeze _ reserve | .thaw _ reserve | .countReports reserve _ | .enforce reserve _ _
  | .escalate reserve _ | .clearTimer reserve | .attachProven _ reserve _ _ _ _
  | .detach _ reserve _ | .summarize reserve _ => [reserve]
  | .attestSigned attestation _ => [attestation.reserve]
  | .attestBatch _ reserves _ _ _ | .syncBatch _ reserves _ _ => reserves
  | .fulfill _ id _ _ _ _ | .fulfillIfPossible _ id _ _ _ _ | .fulfillTrusted _ id _ _
  | .flagDefault _ id _ _ => ((s.redemptions.records.get? id).map Redemption.reserve).toList
  | .vote _ id _ | .execute _ id _ =>
    ((s.proposals.proposal? id).map fun p => p.action.reserve).toList

namespace Bank

open BitcoinReserve.Action

/-- What the bank keeps for a reserve beside its redemptions is the same. -/
structure Spares (s t : Bank) (reserve : Text) : Prop where
  ledger : s.ledger.Spares t.ledger reserve
  oracle : s.oracle.Spares t.oracle reserve
  reports : t.reports.get? reserve = s.reports.get? reserve
  timer : t.timers.get? reserve = s.timers.get? reserve

variable {s t u : Bank} {reserve other : Text} {a : Attestation} {op : Operation}

theorem Spares.refl (s : Bank) (reserve : Text) : s.Spares s reserve := ⟨rfl, .refl _ _, rfl, rfl⟩

theorem Spares.trans (first : s.Spares t reserve) (next : t.Spares u reserve) :
    s.Spares u reserve where
  ledger := Eq.trans next.ledger first.ledger
  oracle := first.oracle.trans next.oracle
  reports := next.reports.trans first.reports
  timer := next.timer.trans first.timer

theorem Spares.of_ledger {l : Ledger} (ledger : s.ledger.Spares l reserve) :
    s.Spares { s with ledger := l } reserve :=
  ⟨ledger, .refl _ _, rfl, rfl⟩

theorem Spares.of_reports {reports : ReportLog}
    (same : reports.get? reserve = s.reports.get? reserve) :
    s.Spares { s with reports } reserve :=
  ⟨rfl, .refl _ _, same, rfl⟩

theorem Spares.of_timers {timers : Table Text Int}
    (same : timers.get? reserve = s.timers.get? reserve) : s.Spares { s with timers } reserve :=
  ⟨rfl, .refl _ _, rfl, same⟩

/-- Nothing is kept for a reserve in these parts, its redemptions apart. -/
theorem Touched.spares {parts : List Part} (touched : s.Touched parts t) (reserve : Text)
    (sub : parts ⊆ [.authority, .relay, .redemptions, .proposals, .walletProofs, .holdings,
      .token]) : s.Spares t reserve := by
  have accounts : t.ledger.accounts = s.ledger.accounts := by
    refine touched.keeps (f := fun s => s.ledger.accounts) fun part mem s t touch => ?_
    cases touch with
    | opened | edited | minted | burnt => exact absurd (sub mem) (by simp)
    | _ => rfl
  refine ⟨congrArg (Table.get? · reserve) accounts, ?_, ?_, ?_⟩
  · rw [touched.oracle_eq fun mem => absurd (sub mem) (by simp)]
    exact .refl _ _
  · rw [touched.reports_eq fun mem => absurd (sub mem) (by simp)]
  · rw [touched.timers_eq fun mem => absurd (sub mem) (by simp)]

/-- A refusal without a trace spares every reserve. -/
theorem spares_of_done {Q : Prop} (ends : (∃ r, s.step op = (.error (.refused r), s)) ∨ Q)
    (done : Q → s.Spares (s.step op).2 reserve) : s.Spares (s.step op).2 reserve := by
  rcases ends with ⟨r, step⟩ | ended
  · rw [step]
    exact .refl _ _
  · exact done ended

theorem spares_onLedger {α : Type} {f : Bank → Except Refusal (α × Ledger)} {answer : α → Answer}
    (performs : perform op = orFail (onLedger f) answer)
    (spares : ∀ a l, f s = .ok (a, l) → s.ledger.Spares l reserve) :
    s.Spares (s.step op).2 reserve := by
  refine spares_of_done (step_onLedger performs s) fun ⟨a, l, changed, step⟩ => ?_
  rw [step]
  exact .of_ledger (spares a l changed)

theorem spares_onLedger_ {f : Bank → Except Refusal Ledger} {answer : Unit → Answer}
    (performs : perform op = orFail (onLedger_ f) answer)
    (spares : ∀ l, f s = .ok l → s.ledger.Spares l reserve) : s.Spares (s.step op).2 reserve := by
  refine spares_of_done (step_onLedger_ performs s) fun ⟨l, changed, step⟩ => ?_
  rw [step]
  exact .of_ledger (spares l changed)

theorem Submits.spares {x : Action Submission} (ends : x.Yields s (s.Submits other a))
    (coherent : s.oracle.Coherent s.params) (apart : other ≠ reserve) :
    s.Spares (x.after s) reserve := by
  obtain ⟨result, ended, submits⟩ := ends.exists_result
  rw [Action.after, ended]
  cases submits with
  | negative => exact .refl _ _
  | unknown => exact .refl _ _
  | expired found late =>
    have step : s.oracle.Step s.params (.expired _ other a.submittedAt) _ := .expired found late
    exact ⟨rfl, step.spares_of_plain coherent apart (by simp), rfl, rfl⟩
  | recorded _ step => exact ⟨rfl, step.spares_of_plain coherent apart (by simp), rfl, rfl⟩
  | decided _ step backed =>
    have oracle : s.oracle.Spares _ reserve := step.spares_of_plain coherent apart (by simp)
    exact ⟨Ledger.spares_setBacking backed apart, oracle, rfl, rfl⟩

theorem Attests.spares {x : Action Submission} (ends : x.Yields s (s.Attests other a))
    (coherent : s.oracle.Coherent s.params) (apart : other ≠ reserve) :
    s.Spares (x.after s) reserve := by
  cases ends with
  | denied _ refused =>
    unfold Action.after
    rw [refused]
    exact .refl _ _
  | allowed _ submits => exact Submits.spares submits coherent apart

theorem spares_attestSigned (attestation : SignedAttestation) (now : Int)
    (coherent : s.oracle.Coherent s.params) (apart : attestation.reserve ≠ reserve) :
    s.Spares (s.step (.attestSigned attestation now)).2 reserve := by
  cases judged : attestation.verify with
  | error fault =>
    rw [step_attestSigned_unjudged judged]
    exact .refl _ _
  | ok genuine =>
    rw [step_after (perform_attestSigned judged now)]
    cases genuine with
    | true => exact Attests.spares (attests _ _ _ _ now coherent) coherent apart
    | false => exact .refl _ _

theorem submit_spares (caller : Text) (proofHash : Bytes) (amount now : Int) (t : Bank)
    (apart : other ≠ reserve) (h : t.oracle.Coherent t.params ∧ s.Spares t reserve) :
    let u := (submit caller other amount proofHash now).after t
    u.oracle.Coherent u.params ∧ s.Spares u reserve := by
  obtain ⟨coherent, spared⟩ := h
  have ends := submits caller other amount proofHash now coherent
  exact ⟨(submit_coherent caller other amount proofHash now coherent).2,
    spared.trans (Submits.spares ends coherent apart)⟩

theorem spares_attestBatch (caller : Text) {reserves : List Text} (amounts : List Int)
    (proofHash : Bytes) (now : Int) (coherent : s.oracle.Coherent s.params)
    (apart : reserve ∉ reserves) :
    s.Spares ((attestBatch caller reserves amounts proofHash now).after s) reserve := by
  have elsewhere {other : Text} {amount : Int} (mem : (other, amount) ∈ reserves.zip amounts) :
      other ≠ reserve := by
    rintro rfl
    exact apart (List.of_mem_zip mem).1
  unfold Action.after
  rcases attestBatch_ends caller reserves amounts proofHash now s with
    ⟨r, refused⟩ | ⟨-, -, ended⟩
  · rw [refused]
    exact .refl _ _
  · rw [ended]
    exact (after_attestEach (fun t _ amount mem => submit_spares caller proofHash amount now t
      (elsewhere mem)) ⟨coherent, .refl _ _⟩).2

theorem spares_overrideBalance (caller other : Text) (amount : Int) (justification : Text)
    (now : Int) (coherent : s.oracle.Coherent s.params) (apart : other ≠ reserve) :
    s.Spares (s.step (.overrideBalance caller other amount justification now)).2 reserve := by
  have performs : perform (.overrideBalance caller other amount justification now) s =
      orFail (overrideBalance caller other amount justification now) .override s := rfl
  refine spares_of_done (step_ends (overrideBalance_notes ..) performs) ?_
  rintro ⟨_, ⟨entry, o, l, ⟨own, noted⟩, overridden, backed, rfl⟩, step⟩
  have elsewhere : entry.reserve ≠ reserve := own ▸ apart
  have oracle : s.oracle.Spares o reserve :=
    overridden.spares coherent apart (Oracle.overridesOf_append_of_ne noted elsewhere)
  rw [step]
  exact ⟨Ledger.spares_setBacking backed apart, oracle, rfl, rfl⟩

theorem spares_resetRound (caller other : Text) (now : Int)
    (coherent : s.oracle.Coherent s.params) (apart : other ≠ reserve) :
    s.Spares (s.step (.resetRound caller other now)).2 reserve := by
  refine spares_of_done (step_resetRound caller other now s) fun ⟨found, o, reset, step⟩ => ?_
  rw [step]
  exact ⟨rfl, reset.spares_of_plain coherent apart (by simp), rfl, rfl⟩

theorem spares_stamp (s : Bank) (now : Int) (apart : other ≠ reserve) :
    s.Spares (s.stamp other now) reserve :=
  .of_ledger (Table.get?_modify_of_ne _ _ apart)

theorem spares_copyBalance (s : Bank) (now : Int) (apart : other ≠ reserve) :
    s.Spares ((copyBalance other now).after s) reserve := by
  unfold Action.after
  rcases copyBalance_copies other now s with ⟨r, refused⟩ | ⟨b, l, copies, copied⟩
  · rw [refused]
    exact .refl _ _
  · have written : s.Spares { s with ledger := l } reserve :=
      .of_ledger (Ledger.spares_setBacking copies.backed apart)
    rw [copied]
    exact written.trans (spares_stamp _ now apart)

theorem spares_sync (s : Bank) (caller : Text) (now : Int) (apart : other ≠ reserve) :
    s.Spares ((sync caller other now).after s) reserve :=
  after_decide_bind (P := (s.Spares · reserve)) (.refl _ _) fun _ _ =>
    spares_copyBalance s now apart

theorem spares_syncEach (now : Int) {reserves : List Text} (apart : reserve ∉ reserves) :
    s.Spares ((syncEach now reserves).after s) reserve := by
  induction reserves generalizing s with
  | nil => exact .refl _ _
  | cons other rest ih =>
    rw [List.mem_cons, not_or] at apart
    have first := spares_copyBalance s now (Ne.symm apart.1)
    rw [syncEach, after_outcome_bind, after_bind_pure]
    exact first.trans (ih apart.2)

theorem spares_syncBatch (s : Bank) (caller : Text) {reserves : List Text} (now : Int)
    (budget : Option Int) (apart : reserve ∉ reserves) :
    s.Spares ((syncBatch caller reserves now budget).after s) reserve := by
  unfold syncBatch
  refine after_decide_bind (P := (s.Spares · reserve)) (.refl _ _) fun _ _ => ?_
  have within (n : ℕ) : reserve ∉ reserves.take n := fun mem => apart (List.mem_of_mem_take mem)
  have batch := spares_syncEach (s := s) now
    (within (budget.getD s.params.maxBatchOperations).toNat)
  rw [← after_bind_pure] at batch
  exact batch

theorem spares_execute (caller : Text) (id now : Int) (s : Bank)
    (apart : reserve ∉ Operation.reserves (.execute caller id now) s) :
    s.Spares (s.step (.execute caller id now)).2 reserve := by
  refine spares_of_done (step_execute caller id now s) ?_
  rintro ⟨p, l, opened, -, -, changed, step⟩
  have found : s.proposals.proposal? id = some p := (openProposal_eq_ok_iff.mp opened).1
  have elsewhere : p.action.reserve ≠ reserve := by
    rintro rfl
    exact apart (by simp [Operation.reserves, found])
  rw [step]
  exact ⟨Ledger.spares_setStatus changed elsewhere, .refl _ _, rfl, rfl⟩

theorem spares_report (caller reason : Text) (now : Int) (s : Bank) (apart : other ≠ reserve) :
    s.Spares (s.step (.report caller other reason now)).2 reserve := by
  obtain ⟨result, ends, step⟩ := step_report caller other reason now s
  rw [step]
  cases ends with
  | unfit => exact .refl _ _
  | repeated => exact .of_reports (Table.get?_insert_of_ne _ _ apart)
  | filed =>
    exact ⟨Ledger.spares_put _ _ apart, .refl _ _, Table.get?_insert_of_ne _ _ apart, rfl⟩

theorem spares_freeze (caller : Text) (s : Bank) (apart : other ≠ reserve) :
    s.Spares (s.step (.freeze caller other)).2 reserve := by
  have performs : perform (.freeze caller other) s =
      orFail (freeze caller other) (fun _ => .nothing) s := rfl
  refine spares_of_done (step_ends (freeze_ends caller other s) performs) ?_
  rintro ⟨_, ⟨l, froze, rfl⟩, step⟩
  rw [step]
  exact .of_ledger (Ledger.spares_setFrozen froze apart)

theorem spares_thaw (caller : Text) (s : Bank) (apart : other ≠ reserve) :
    s.Spares (s.step (.thaw caller other)).2 reserve := by
  refine spares_of_done (step_thaw caller other s) fun ⟨l, thawed, step⟩ => ?_
  rw [step]
  exact ⟨Ledger.spares_setFrozen thawed apart, .refl _ _, Table.get?_erase_of_ne _ apart, rfl⟩

theorem spares_summarize (now : Int) (s : Bank) (apart : other ≠ reserve) :
    s.Spares (s.step (.summarize other now)).2 reserve := by
  refine spares_of_done (step_summarize other now s) fun ⟨summary, _, step⟩ => ?_
  rw [step]
  exact .of_reports (Table.get?_insert_of_ne _ _ apart)

theorem Reviewed.spares {v : Violation} {now : Int} {l : Ledger}
    (reviewed : s.Reviewed other v now l) (apart : other ≠ reserve) :
    s.ledger.Spares l reserve := by
  rcases reviewed with ⟨-, rfl⟩ | changed
  · rfl
  · exact Ledger.spares_setStatus changed apart

theorem spares_enforce (code : Text) (now : Int) (s : Bank) (apart : other ≠ reserve) :
    s.Spares (s.step (.enforce other code now)).2 reserve := by
  refine spares_of_done (step_enforce other code now s) ?_
  rintro ⟨v, l, -, -, reviewed, step⟩
  rw [step]
  cases v with
  | staleAttestations => exact .of_ledger (reviewed.spares apart)
  | insufficientReserves =>
    exact ⟨reviewed.spares apart, .refl _ _, rfl, Table.get?_insert_of_ne _ _ apart⟩

theorem spares_escalate (now : Int) (s : Bank) (apart : other ≠ reserve) :
    s.Spares (s.step (.escalate other now)).2 reserve := by
  have timer : (s.timers.erase other).get? reserve = s.timers.get? reserve :=
    Table.get?_erase_of_ne _ apart
  refine spares_of_done (step_escalate other now s) ?_
  rintro ⟨started, b, -, -, ⟨-, step⟩ | ⟨-, -, l, froze, step⟩⟩
  · rw [step]
    exact .of_timers timer
  · have ledger : s.ledger.Spares l reserve := by
      rcases froze with ⟨-, rfl⟩ | froze
      · rfl
      · exact Ledger.spares_setFrozen froze apart
    rw [step]
    exact ⟨ledger, .refl _ _, rfl, timer⟩

theorem spares_clearTimer (s : Bank) (apart : other ≠ reserve) :
    s.Spares (s.step (.clearTimer other)).2 reserve := by
  have performs : perform (.clearTimer other) s = orFail (clearTimer other) .flag s := rfl
  refine spares_of_done (step_ends (clearTimer_ends other s) performs) ?_
  rintro ⟨_, rfl | rfl, step⟩
  · rw [step]
    exact .refl _ _
  · rw [step]
    exact .of_timers (Table.get?_erase_of_ne _ apart)

theorem spares_attachProven (caller wallet : Text) (challenge : Bytes) (tx : Transaction)
    (e : Evidence) (s : Bank) (apart : other ≠ reserve) :
    s.Spares (s.step (.attachProven caller other wallet challenge tx e)).2 reserve := by
  refine spares_of_done (step_attachProven caller other wallet challenge tx e s) ?_
  rintro ⟨hash, l, attached, step⟩
  rw [step]
  exact ⟨Ledger.spares_attachWallet attached apart, .refl _ _, rfl, rfl⟩

theorem spares_detach (caller wallet : Text) (s : Bank) (apart : other ≠ reserve) :
    s.Spares (s.step (.detach caller other wallet)).2 reserve := by
  refine spares_of_done (step_detach caller other wallet s) fun ⟨_, l, detached, step⟩ => ?_
  rw [step]
  exact .of_ledger (Ledger.spares_detachWallet detached apart)

theorem spares_redeem (caller : Text) (amount : Int) (address wallet : Text) (now : Int) (s : Bank)
    (apart : other ≠ reserve) :
    s.Spares (s.step (.redeem caller other amount address wallet now)).2 reserve := by
  refine spares_of_done (step_redeem caller other amount address wallet now s) ?_
  rintro ⟨total, l, -, burnt, step⟩
  have ledger : s.ledger.Spares l reserve := Ledger.spares_redeem burnt apart
  rw [step]
  split
  · exact ⟨ledger, .refl _ _, rfl, rfl⟩
  · exact ⟨ledger, .refl _ _, rfl, rfl⟩

/-- An operation spares the reserves that it does not act on, done or refused. -/
theorem step_spares (coherent : s.oracle.Coherent s.params) (apart : reserve ∉ op.reserves s) :
    s.Spares (s.step op).2 reserve := by
  have elsewhere {other : Text} (only : op.reserves s = [other]) : other ≠ reserve := by
    rintro rfl
    exact apart (only ▸ List.mem_singleton_self other)
  cases op with
  | grant | revoke | setRelay | mintToken | burnToken | transferToken | fulfill
  | fulfillIfPossible | fulfillTrusted | flagDefault | propose | vote =>
    exact (step_touched _ s).spares reserve (by simp [Operation.parts])
  | register =>
    exact spares_onLedger rfl fun _ _ opened => Ledger.spares_register opened (elsewhere rfl)
  | mint => exact spares_onLedger rfl fun _ _ minted => Ledger.spares_mint minted (elsewhere rfl)
  | burn => exact spares_onLedger rfl fun _ _ burnt => Ledger.spares_redeem burnt (elsewhere rfl)
  | raiseCap =>
    exact spares_onLedger_ rfl fun _ raised => Ledger.spares_raiseCap raised (elsewhere rfl)
  | setBacking =>
    exact spares_onLedger_ rfl fun _ backed => Ledger.spares_setBacking backed (elsewhere rfl)
  | setStatus =>
    exact spares_onLedger_ rfl fun _ changed => Ledger.spares_setStatus changed (elsewhere rfl)
  | selfPause =>
    exact spares_onLedger_ rfl fun _ paused =>
      Ledger.spares_setStatus (Ledger.setStatus_of_selfPause paused) (elsewhere rfl)
  | resume =>
    exact spares_onLedger_ rfl fun _ resumed =>
      Ledger.spares_setStatus (Ledger.setStatus_of_resume resumed) (elsewhere rfl)
  | setFrozen =>
    exact spares_onLedger_ rfl fun _ flagged => Ledger.spares_setFrozen flagged (elsewhere rfl)
  | attachWallet =>
    exact spares_onLedger_ rfl fun _ attached => Ledger.spares_attachWallet attached (elsewhere rfl)
  | detachWallet =>
    exact spares_onLedger_ rfl fun _ detached => Ledger.spares_detachWallet detached (elsewhere rfl)
  | attest =>
    rw [step_after rfl]
    exact Attests.spares (attests _ _ _ _ _ coherent) coherent (elsewhere rfl)
  | attestSigned => exact spares_attestSigned _ _ coherent (elsewhere rfl)
  | attestBatch =>
    rw [step_after rfl]
    exact spares_attestBatch _ _ _ _ coherent apart
  | overrideBalance => exact spares_overrideBalance _ _ _ _ _ coherent (elsewhere rfl)
  | resetRound => exact spares_resetRound _ _ _ coherent (elsewhere rfl)
  | sync =>
    rw [step_after rfl]
    exact spares_sync s _ _ (elsewhere rfl)
  | syncIfPossible caller other now =>
    rw [step_after rfl, syncIfPossible, after_outcome_bind]
    exact spares_sync s caller now (elsewhere rfl)
  | syncBatch =>
    rw [step_after rfl]
    exact spares_syncBatch s _ _ _ apart
  | redeem => exact spares_redeem _ _ _ _ _ s (elsewhere rfl)
  | execute => exact spares_execute _ _ _ s apart
  | report => exact spares_report _ _ _ s (elsewhere rfl)
  | freeze => exact spares_freeze _ s (elsewhere rfl)
  | thaw => exact spares_thaw _ s (elsewhere rfl)
  | countReports reserve now =>
    rw [step_countReports]
    exact .of_reports (Table.get?_insert_of_ne _ _ (elsewhere rfl))
  | enforce => exact spares_enforce _ _ s (elsewhere rfl)
  | escalate => exact spares_escalate _ s (elsewhere rfl)
  | clearTimer => exact spares_clearTimer s (elsewhere rfl)
  | attachProven => exact spares_attachProven _ _ _ _ _ s (elsewhere rfl)
  | detach => exact spares_detach _ _ s (elsewhere rfl)
  | summarize => exact spares_summarize _ s (elsewhere rfl)

/-- A closing leaves the redemptions of other reserves as they were. -/
theorem closing_spares {x : Action Redemption} {id : Text} (op : Operation)
    (ends : x.Ends s (s.ClosesAt op id))
    (keyed : s.redemptions.Keyed)
    (apart : reserve ∉ ((s.redemptions.records.get? id).map Redemption.reserve).toList) :
    s.redemptions.Spares (x.after s).redemptions reserve := by
  unfold Action.after
  rcases ends with ⟨refusal, refused⟩ | ⟨r, closed, used, found, -, closes, done⟩
  · rw [refused]
    exact .refl _ _
  · obtain rfl : closed.id = id := keyed.closed_id found closes.closing
    have own : closed.reserve = r.reserve :=
      congrArg Redemption.Terms.reserve closes.closing.terms_eq
    have elsewhere : r.reserve ≠ reserve := by
      rintro rfl
      exact apart (by simp [found])
    rw [done]
    exact RedemptionBook.spares_settle found own elsewhere used

/-- A redemption that is opened for another reserve, under a new id. -/
theorem opening_spares (caller : Text) (amount : Int) (address wallet : Text) (now : Int)
    (fresh : Event.Fresh ⟨s, .redeem caller other amount address wallet now⟩)
    (apart : other ≠ reserve) :
    s.redemptions.Spares (s.step (.redeem caller other amount address wallet now)).2.redemptions
      reserve := by
  rcases step_redeem caller other amount address wallet now s with
    ⟨r, step⟩ | ⟨total, l, -, -, step⟩
  · rw [step]
    exact .refl _ _
  · cases named : Redemption.idOf?
        (Redemption.seed other caller (s.redemptions.count + 1) now) with
    | none =>
      rw [named] at step
      rw [step]
      exact .of_eq rfl rfl rfl
    | some id =>
      rw [named] at step
      have opens : Event.opened? ⟨s, .redeem caller other amount address wallet now⟩ =
          some (Redemption.new id other caller amount address wallet now
            s.params.redemptionTimeout) := by
        simp [Event.opened?, Event.ending, step]
      rw [step]
      exact RedemptionBook.spares_add (fresh _ opens) apart

/-- An operation spares the redemptions of the reserves that it does not act on, unless it opens one
under an id that is given already. -/
theorem step_spares_redemptions (keyed : s.redemptions.Keyed) (fresh : Event.Fresh ⟨s, op⟩)
    (apart : reserve ∉ op.reserves s) :
    s.redemptions.Spares (s.step op).2.redemptions reserve := by
  cases op with
  | redeem caller other =>
    have elsewhere : other ≠ reserve := by
      rintro rfl
      exact apart (List.mem_singleton_self other)
    exact opening_spares _ _ _ _ _ fresh elsewhere
  | fulfill caller id claimed tx e now =>
    rw [step_after rfl]
    exact closing_spares (.fulfill caller id claimed tx e now)
      (fulfill_closes rfl caller id claimed now s) keyed apart
  | fulfillIfPossible caller id claimed tx e now =>
    rw [step_after rfl, fulfillIfPossible, after_outcome_bind]
    exact closing_spares (.fulfillIfPossible caller id claimed tx e now)
      (fulfill_closes rfl caller id claimed now s) keyed apart
  | fulfillTrusted caller id amount now =>
    rw [step_after rfl]
    exact closing_spares (.fulfillTrusted caller id amount now)
      (fulfillTrusted_closes _ caller id amount now s) keyed apart
  | flagDefault caller id reason now =>
    rw [step_after rfl]
    exact closing_spares (.flagDefault caller id reason now)
      (flagDefault_closes _ caller id reason now s) keyed apart
  | _ =>
    rw [(step_touched _ s).redemptions_eq (by simp [Operation.parts])]
    exact .refl _ _

/-- An operation leaves everything that is kept for a reserve on which it does not act as it was,
done or refused, unless two strings collide, of which it hashes the second for an id. -/
theorem run_isolated (authority : Authority) (relay : Relay) (params : Parameters)
    (ops : List Operation) (op : Operation) (reserve : Text)
    (apart : reserve ∉ op.reserves ((new authority relay params).run ops)) :
    let s := (new authority relay params).run ops
    let t := (s.step op).2
    s.Spares t reserve ∧
      (∀ wallet, t.ledger.walletOwners.get? wallet = some reserve ↔
        s.ledger.walletOwners.get? wallet = some reserve) ∧
      t.oracle.openRound? reserve = s.oracle.openRound? reserve ∧
      ((∃ p ∈ (new authority relay params).hashed ops, ∃ q, Event.hashed? ⟨s, op⟩ = some q ∧
          p ≠ q ∧ sha256 p = sha256 q) ∨
        s.redemptions.Spares t.redemptions reserve) := by
  intro s t
  have start : (new authority relay params).oracle.Coherent params := Oracle.coherent_empty params
  have coherent : s.oracle.Coherent s.params :=
    (run_keeps (s := new authority relay params) ops start).1
  have spared : s.Spares t reserve := step_spares coherent apart
  have next : (new authority relay params).run (ops ++ [op]) = t := run_concat _ ops op
  refine ⟨spared, ?_, ?_, ?_⟩
  · have registered : s.ledger.Registered params.network :=
      run_registered authority relay params ops
    have registered' : t.ledger.Registered params.network :=
      next ▸ run_registered authority relay params (ops ++ [op])
    exact spared.ledger.owner_iff registered registered'
  · have coherent' : t.oracle.Coherent s.params := by
      have after := (run_keeps (s := new authority relay params) (ops ++ [op]) start).1
      rw [next, step_params] at after
      exact after
    exact spared.oracle.openRound?_eq coherent coherent'
  · obtain ⟨keyed, named⟩ := run_named authority relay params ops
    by_cases collides : ∃ p ∈ (new authority relay params).hashed ops,
        ∃ q, Event.hashed? ⟨s, op⟩ = some q ∧ p ≠ q ∧ sha256 p = sha256 q
    · exact .inl collides
    · have fresh : Event.Fresh ⟨s, op⟩ := by
        refine fresh_of_named named fun q hashes p mem same => ?_
        by_contra differ
        exact collides ⟨p, mem, q, hashes, differ, same⟩
      exact .inr (step_spares_redemptions keyed fresh apart)

/-- A reserve with a pending redemption and an open round, beside another one. -/
def neighbouring : List Operation :=
  redeeming "user" ++ [.register "registrar" "other" 5000 none, .attest "first" "reserve" 5 [] 1]

/-- A batch for the other reserve and for one that there is not. -/
theorem run_isolated_batch :
    let s := (new .everyone ⟨1, 1⟩ .testing).run neighbouring
    let op : Operation := .attestBatch "first" ["other", "absent"] [7, 8] [] 2
    let t := (s.step op).2
    ("reserve" : Text) ∉ op.reserves s ∧ (s.oracle.openRound? "reserve").isSome = true ∧
      s.redemptions.reserveOwes "reserve" = true ∧ t.oracle.roundCount = s.oracle.roundCount + 1 ∧
      s.Spares t "reserve" ∧ t.oracle.openRound? "reserve" = s.oracle.openRound? "reserve" ∧
      s.redemptions.Spares t.redemptions "reserve" := by
  intro s op t
  have apart : ("reserve" : Text) ∉ op.reserves s := by decide +kernel
  have isOpen : (s.oracle.openRound? "reserve").isSome = true := by decide +kernel
  have owes : s.redemptions.reserveOwes "reserve" = true := by decide +kernel
  have opens : t.oracle.roundCount = s.oracle.roundCount + 1 := by decide +kernel
  obtain ⟨spared, -, same, collides | kept⟩ :=
    run_isolated .everyone ⟨1, 1⟩ .testing neighbouring op "reserve" apart
  · obtain ⟨-, -, q, hashes, -⟩ := collides
    cases hashes
  · with_reducible exact ⟨apart, isOpen, owes, opens, spared, same, kept⟩

end Bank

end BitcoinReserve
