import BitcoinReserve.Http.Server
import BitcoinReserve.Proofs.Bank.Attestations
import BitcoinReserve.Proofs.Preimage

/-!
# Signed attestations in a run

Whether a signed attestation is accepted does not depend on what was accepted before. It counts in the
open round of its reserve: in the round that counted it before for as long as that one is open, and in
a later one afterwards.
-/
namespace BitcoinReserve.Bank

open BitcoinReserve.Action

/-- The submission that a signed attestation makes if it is accepted. -/
def accepted? (s : Bank) (a : SignedAttestation) (now : Int) : Option Submission :=
  match (s.step (.attestSigned a now)).1 with
  | .ok (.submission submission) => some submission
  | _ => none

variable {s : Bank} {a : SignedAttestation} {now : Int} {submission : Submission}

theorem accepted?_eq_some_iff :
    s.accepted? a now = some submission ↔ a.verify = .ok true ∧
      attest a.key a.reserve a.amount a.proofHash now s =
        .ok submission (s.step (.attestSigned a now)).2 := by
  unfold accepted?
  cases judged : a.verify with
  | error fault => simp [step_attestSigned_unjudged judged]
  | ok genuine =>
    rw [step_orFail (perform_attestSigned judged now)]
    cases genuine with
    | false =>
      have forged : attestSigned a false now s = .error (.badSignature a.key) s := rfl
      simp [forged]
    | true =>
      have genuine : attestSigned a true now s =
        attest a.key a.reserve a.amount a.proofHash now s := rfl
      rw [genuine]
      cases attest a.key a.reserve a.amount a.proofHash now s with
      | ok submitted t => simp
      | error r t => simp

/-- An amount that is signed has bytes, so it is not negative. -/
theorem nonneg_of_verify (genuine : a.verify = .ok true) : 0 ≤ a.amount := by
  unfold SignedAttestation.verify SignedAttestation.digest at genuine
  obtain ⟨_, digested, -⟩ := Check.bind_eq_ok_iff.mp genuine
  obtain ⟨bytes, signed, -⟩ := Check.map_eq_ok_iff.mp digested
  obtain ⟨_, _, -, written, -⟩ := SignedAttestation.preimage_eq_ok_iff.mp signed
  rw [(Bytes.ofIntBE?_eq_some_iff.mp written).2]
  exact Int.natCast_nonneg _

/-- An accepted attestation is the entry of its key in the round that it enters. -/
theorem entered_of_accepted (coherent : s.oracle.Coherent s.params)
    (accepted : s.accepted? a now = some submission) :
    s.authority.allows a.key .attester = true ∧ a.reserve ∈ s.ledger.accounts.keys ∧
      ∃ r o, s.oracle.Enters s.params a.reserve now r o ∧ submission.round = r.id ∧
        ∃ r', (s.step (.attestSigned a now)).2.oracle.rounds.get? submission.round = some r' ∧
          r'.reserve = a.reserve ∧
          r'.attestations.get? a.key = some ⟨a.key, a.amount, a.proofHash, now⟩ := by
  obtain ⟨-, done⟩ := accepted?_eq_some_iff.mp accepted
  cases attests a.key a.reserve a.amount a.proofHash now coherent with
  | denied _ refused => exact nomatch refused.symm.trans done
  | allowed holds submits =>
    rw [done] at submits
    obtain ⟨registered, r, o, enters, same, r', found, own, entry⟩ := submits.entered
    obtain ⟨-, -, here⟩ := (enters.coherent coherent).openRound?_eq_some_iff.mp enters.isOpen
    refine ⟨holds, registered, r, o, enters, same, ?_⟩
    rw [same]
    exact ⟨r', found, own.trans here, entry⟩

/-- Whether a signed attestation is accepted does not depend on what was accepted before. -/
theorem accepted_iff (coherent : s.oracle.Coherent s.params) :
    (∃ submission, s.accepted? a now = some submission) ↔
      a.verify = .ok true ∧ s.authority.allows a.key .attester = true ∧
        a.reserve ∈ s.ledger.accounts.keys ∧
        ∀ r, s.oracle.openRound? a.reserve = some r → now ≤ r.deadline := by
  constructor
  · rintro ⟨submission, accepted⟩
    obtain ⟨genuine, -⟩ := accepted?_eq_some_iff.mp accepted
    obtain ⟨holds, registered, r, o, enters, -⟩ := entered_of_accepted coherent accepted
    refine ⟨genuine, holds, registered, fun r' opened => ?_⟩
    cases enters with
    | joined found timely =>
      cases found.symm.trans opened
      simpa [Round.isExpired] using timely
    | opened closed => cases closed.symm.trans opened
  · rintro ⟨genuine, holds, registered, timely⟩
    cases attests a.key a.reserve a.amount a.proofHash now coherent with
    | denied lacks => cases holds.symm.trans lacks
    | allowed _ submits =>
      obtain ⟨submission, t, done⟩ :=
        submits.accepted (nonneg_of_verify genuine) registered timely
      have step := step_orFail (perform_attestSigned (s := s) genuine now)
      have same : attestSigned a true now s = .ok submission t := done
      rw [same] at step
      refine ⟨submission, accepted?_eq_some_iff.mpr ⟨genuine, ?_⟩⟩
      rw [step, done]

/-- A posted attestation is accepted or not as one that is handed in. -/
theorem dispatch_attestations {depth : Nat} {r : Http.Request}
    (reads : ((Http.bodyOf depth r).bind Http.Attest.form).bind Http.Attest.attestation = .ok a)
    (s : Bank) :
    (Http.dispatch depth .attestations r s).2 = (s.step (.attestSigned a r.now)).2 ∧
      ∀ submission, s.accepted? a r.now = some submission →
        (Http.dispatch depth .attestations r s).1 = Http.Attest.view submission := by
  have posted : Http.dispatch depth .attestations r s = Http.postAttestation depth r s := rfl
  simp only [posted, Http.postAttestation, reads]
  cases judged : a.verify with
  | error fault =>
    simp [accepted?, step_attestSigned_unjudged judged]
  | ok genuine =>
    have step := step_orFail (perform_attestSigned (s := s) judged r.now)
    simp only [accepted?, step, Http.respond]
    cases attestSigned a genuine r.now s with
    | ok submission t => simp
    | error refusal t => simp

/-- A genuine attestation of an attester is accepted whenever no round of its reserve is overdue.
Once more it counts in the same round if that is still open, and in a later one otherwise. -/
theorem run_replays (authority : Authority) (relay : Relay) (params : Parameters)
    (ops : List Operation) (a : SignedAttestation) (now : Int) :
    let s := (new authority relay params).run ops
    let t := (s.step (.attestSigned a now)).2
    ((∃ submission, s.accepted? a now = some submission) ↔
        a.verify = .ok true ∧ s.authority.allows a.key .attester = true ∧
          a.reserve ∈ s.ledger.accounts.keys ∧
          ∀ r, s.oracle.openRound? a.reserve = some r → now ≤ r.deadline) ∧
      (∀ submission, s.accepted? a now = some submission →
        (∃ r, t.oracle.rounds.get? submission.round = some r ∧ r.reserve = a.reserve ∧
          r.attestations.get? a.key = some ⟨a.key, a.amount, a.proofHash, now⟩) ∧
        ∀ between later again, (t.run between).accepted? a later = some again →
          submission.round ≤ again.round ∧
            (again.round = submission.round ↔
              ∃ r, (t.run between).oracle.rounds.get? submission.round = some r ∧
                r.status = .pending)) ∧
      ∀ (depth : Nat) (r : Http.Request), r.now = now →
        ((Http.bodyOf depth r).bind Http.Attest.form).bind Http.Attest.attestation = .ok a →
        (Http.dispatch depth .attestations r s).2 = t ∧
          ∀ submission, s.accepted? a now = some submission →
            (Http.dispatch depth .attestations r s).1 = Http.Attest.view submission := by
  intro s t
  obtain ⟨coherent, -⟩ : s.oracle.Coherent s.params ∧ _ :=
    run_keeps ops (Oracle.coherent_empty params)
  refine ⟨accepted_iff coherent, fun submission accepted => ?_, ?_⟩
  · obtain ⟨-, -, -, -, -, -, r, found, own, entry⟩ := entered_of_accepted coherent accepted
    refine ⟨⟨r, found, own, entry⟩, fun between later again accepted' => ?_⟩
    obtain ⟨before, -⟩ : t.oracle.Coherent t.params ∧ _ :=
      run_keeps [.attestSigned a now] coherent
    obtain ⟨after, keeps⟩ := run_keeps between before
    obtain ⟨r', found', own', -⟩ := keeps submission.round r found
    obtain ⟨-, -, entered, o, enters, same, -⟩ := entered_of_accepted after accepted'
    obtain ⟨le, same_iff⟩ := enters.id_eq_iff after found' (own'.trans own)
    rw [same]
    refine ⟨le, same_iff.trans ⟨fun still => ⟨r', found', still⟩, ?_⟩⟩
    rintro ⟨_, found'', still⟩
    cases found'.symm.trans found''
    exact still
  · rintro depth r rfl reads
    exact dispatch_attestations reads s

/-- After an arbiter's reset the same attestation counts in a second round. -/
theorem attested_in_two_rounds :
    let a := SignedAttestation.stated
    let s := (new .everyone ⟨1, 1⟩ .testing).run [.register "registrar" "bank-1" 1000 (some 0)]
    let t := (s.step (.attestSigned a 0)).2.run [.resetRound "arbiter" "bank-1" 1]
    let entry? (id : Nat) := ((t.step (.attestSigned a 2)).2.oracle.rounds.get? id).bind
      (·.attestations.get? a.key)
    (s.accepted? a 0).map Submission.round = some 1 ∧
      (t.accepted? a 2).map Submission.round = some 2 ∧
      entry? 1 = some ⟨a.key, a.amount, a.proofHash, 0⟩ ∧
      entry? 2 = some ⟨a.key, a.amount, a.proofHash, 2⟩ := by
  decide +kernel

end BitcoinReserve.Bank
