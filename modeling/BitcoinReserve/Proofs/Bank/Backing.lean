import BitcoinReserve.Proofs.Bank.Attestations
import BitcoinReserve.Proofs.Bank.Syncs

/-!
# Two records of one balance

The oracle keeps the balance of a reserve and the ledger its backing. Rounds, overrides and syncs
write both or neither, so that in a run in which nobody else sets the backing the two agree at all
times, and a sync changes nothing but its own time.
-/
namespace BitcoinReserve

/-- The backing of a reserve and its time, as the ledger has them. -/
def Ledger.backed (l : Ledger) (reserve : Text) : Int × Option Int :=
  l.read (fun a => (a.backing, a.backingUpdatedAt)) (0, none) reserve

/-- The balance of a reserve and its time, as the oracle has them. -/
def Oracle.backed (o : Oracle) (reserve : Text) : Int × Option Int :=
  ((o.balances.get? reserve).map fun b => (b.amount, some b.updatedAt)).getD (0, none)

namespace Ledger

variable {l l' : Ledger} {reserve : Text} {a : Account}

theorem backed_of_setBacking {backing : Int} {now : Option Int} {other : Text}
    (h : l.setBacking other backing now = .ok l') (reserve : Text) :
    l'.backed reserve = if other = reserve then (backing, now) else l.backed reserve := by
  obtain ⟨-, a, -, rfl⟩ := setBacking_eq_ok h
  exact read_put ..

/-- When minting is refused because the backing is old. -/
theorem mint_eq_backingOld_iff {auth : Authority} {p : Parameters} {caller holder : Text}
    {amount now : Int} (found : l.accounts.get? reserve = some a) :
    l.mint auth p caller reserve holder amount (some now) =
        .error (.backingOld reserve p.maxStaleness) ↔
      auth.allows caller .minter = true ∧ 0 < amount ∧ a.frozen = false ∧
        a.status = .active ∧ a.backingIsOld p now = true := by
  simp [mint, Check.bind_eq_error_iff, Authority.require, Check.ensure_eq_error_iff,
    Check.account_eq_error_iff, found, Token.mint, pure, Except.pure]

end Ledger

theorem Oracle.backed_insert {o o' : Oracle} {other : Text} {b : Balance}
    (written : o'.balances = o.balances.insert other b) (reserve : Text) :
    o'.backed reserve =
      if other = reserve then (b.amount, some b.updatedAt) else o.backed reserve := by
  unfold backed
  rw [written, Table.get?_insert]
  split
  · rfl
  · rfl

theorem Oracle.backed_congr {o o' : Oracle} (same : o'.balances = o.balances) (reserve : Text) :
    o'.backed reserve = o.backed reserve := by
  rw [backed, backed, same]

namespace Bank

open BitcoinReserve.Action

variable {s t : Bank} {reserve : Text} {a : Attestation} {now : Int}

/-- The ledger and the oracle have the same balance of every reserve, from the same time. -/
def Agrees (s : Bank) : Prop := ∀ reserve, s.ledger.backed reserve = s.oracle.backed reserve

theorem Agrees.congr (h : s.Agrees)
    (ledger : ∀ reserve, t.ledger.backed reserve = s.ledger.backed reserve)
    (balances : t.oracle.balances = s.oracle.balances) : t.Agrees := by
  intro reserve
  rw [ledger, h, Oracle.backed_congr balances]

/-- A balance that is written in both places. -/
theorem Agrees.write (h : s.Agrees) {b : Balance}
    (backed : s.ledger.setBacking reserve b.amount (some b.updatedAt) = .ok t.ledger)
    (balances : t.oracle.balances = s.oracle.balances.insert reserve b) : t.Agrees := by
  intro other
  rw [Ledger.backed_of_setBacking backed, Oracle.backed_insert balances, h]

/-- A balance that is written once more changes nothing. -/
theorem Agrees.setBacking_eq (h : s.Agrees) {b : Balance} {l : Ledger}
    (heard : s.oracle.balances.get? reserve = some b)
    (backed : s.ledger.setBacking reserve b.amount (some b.updatedAt) = .ok l) : l = s.ledger := by
  obtain ⟨-, a, found, rfl⟩ := Ledger.setBacking_eq_ok backed
  have same := h reserve
  rw [Ledger.backed, Ledger.read_of_get? found, Oracle.backed, heard, Option.map_some,
    Option.getD_some, Prod.mk.injEq] at same
  rw [← same.1, ← same.2]
  exact Ledger.put_of_get? found

theorem Touched.agrees {parts : List Part} (touched : s.Touched parts t) (h : s.Agrees)
    (unbacked : .account .backing ∉ parts) (unheard : .oracle ∉ parts) : t.Agrees := by
  refine h.congr (fun reserve => ?_) (by rw [touched.oracle_eq unheard])
  exact touched.read_eq Account.Field.read_backing unbacked reserve

theorem Agrees.stamp (h : s.Agrees) (reserve : Text) (now : Int) : (s.stamp reserve now).Agrees :=
  (touched_stamp s reserve now).agrees h (by simp) (by simp)

theorem Submits.agrees {x : Action Submission} (ends : x.Yields s (s.Submits reserve a))
    (coherent : s.oracle.Coherent s.params) (h : s.Agrees) : (x.after s).Agrees := by
  obtain ⟨result, ended, submits⟩ := ends.exists_result
  rw [Action.after, ended]
  cases submits with
  | negative => exact h
  | unknown => exact h
  | expired => exact h.congr (fun _ => rfl) rfl
  | recorded _ step => exact h.congr (fun _ => rfl) (step.balances_eq coherent)
  | @decided _ _ _ _ l _ step backed => exact h.write backed (step.balances_eq coherent)

theorem Attests.agrees {x : Action Submission} (ends : x.Yields s (s.Attests reserve a))
    (coherent : s.oracle.Coherent s.params) (h : s.Agrees) : (x.after s).Agrees := by
  cases ends with
  | denied _ refused =>
    unfold Action.after
    rw [refused]
    exact h
  | allowed _ submits => exact Submits.agrees submits coherent h

/-- What is kept by every submission of a batch is kept by the batch. -/
theorem after_attestEach {P : Bank → Prop} {caller : Text} {proofHash : Bytes} {now : Int}
    {items : List (Text × Int)}
    (keeps : ∀ s reserve amount, (reserve, amount) ∈ items → P s →
      P ((submit caller reserve amount proofHash now).after s)) (h : P s) :
    P ((attestEach caller proofHash now items).after s) := by
  induction items generalizing s with
  | nil => exact h
  | cons item rest ih =>
    have first := keeps s item.1 item.2 List.mem_cons_self h
    rw [attestEach, after_outcome_bind, after_bind_pure]
    refine ih (fun s reserve amount mem => ?_) first
    exact keeps s reserve amount (List.mem_cons_of_mem item mem)

/-- A balance that is copied was in the ledger before. -/
theorem Syncs.eq_stamp {x : Sync} (done : s.Syncs x t) (h : s.Agrees) :
    t = s.stamp x.reserve x.time := by
  cases done with
  | copied copies =>
    obtain rfl := h.setBacking_eq copies.heard copies.backed
    rfl

/-- The bank with the syncs of some reserves written down, in order. -/
def stamps (s : Bank) (reserves : List Text) (now : Int) : Bank :=
  reserves.foldl (fun s reserve => s.stamp reserve now) s

theorem Agrees.stamps (h : s.Agrees) (reserves : List Text) (now : Int) :
    (s.stamps reserves now).Agrees := by
  induction reserves generalizing s with
  | nil => exact h
  | cons reserve rest ih => exact ih (h.stamp reserve now)

/-- The items of a batch that succeed are synced, and nothing else happens. -/
theorem Agrees.eq_stamps (h : s.Agrees) {reserves : List Text} {now : Int}
    (trail : Trail Syncs s (reserves.map (⟨·, now⟩)) t) : t = s.stamps reserves now := by
  induction reserves generalizing s with
  | nil =>
    cases trail with
    | nil => rfl
  | cons reserve rest ih =>
    cases trail with
    | cons first later =>
      rw [first.eq_stamp h] at later
      exact ih (h.stamp reserve now) later

theorem Agrees.step_sync (h : s.Agrees) (caller reserve : Text) (now : Int) :
    (∃ r, s.step (.sync caller reserve now) = (.error (.refused r), s)) ∨
      ∃ amount, s.step (.sync caller reserve now) =
        (.ok (.number amount), s.stamp reserve now) := by
  rcases Bank.step_sync caller reserve now s with refused | ⟨amount, t, done, step⟩
  · exact .inl refused
  · rw [done.eq_stamp h] at step
    exact .inr ⟨amount, step⟩

theorem Agrees.step_syncIfPossible (h : s.Agrees) (caller reserve : Text) (now : Int) :
    s.step (.syncIfPossible caller reserve now) = (.ok (.flag false), s) ∨
      s.step (.syncIfPossible caller reserve now) =
        (.ok (.flag true), s.stamp reserve now) := by
  rcases Bank.step_syncIfPossible caller reserve now s with refused | ⟨t, done, step⟩
  · exact .inl refused
  · rw [done.eq_stamp h] at step
    exact .inr step

theorem Agrees.step_syncBatch (h : s.Agrees) (caller : Text) (reserves : List Text) (now : Int)
    (budget : Option Int) :
    (∃ r, s.step (.syncBatch caller reserves now budget) = (.error (.refused r), s)) ∨
      ∃ report, s.step (.syncBatch caller reserves now budget) =
        (.ok (.syncReport report), s.stamps report.succeeded now) := by
  rcases Bank.step_syncBatch caller reserves now budget s with
    refused | ⟨report, t, trail, step⟩
  · exact .inl refused
  · rw [h.eq_stamps trail] at step
    exact .inr ⟨report, step⟩

theorem submit_keeps (caller : Text) (proofHash : Bytes) (now : Int) (s : Bank) (reserve : Text)
    (amount : Int) (h : s.oracle.Coherent s.params ∧ s.Agrees) :
    let t := (submit caller reserve amount proofHash now).after s
    t.oracle.Coherent t.params ∧ t.Agrees := by
  obtain ⟨coherent, agrees⟩ := h
  exact ⟨(submit_coherent caller reserve amount proofHash now coherent).2,
    Submits.agrees (submits caller reserve amount proofHash now coherent) coherent agrees⟩

theorem attestSigned_agrees (attestation : SignedAttestation) (now : Int)
    (coherent : s.oracle.Coherent s.params) (h : s.Agrees) :
    (s.step (.attestSigned attestation now)).2.Agrees := by
  cases judged : attestation.verify with
  | error fault =>
    rw [step_attestSigned_unjudged judged]
    exact h
  | ok genuine =>
    rw [step_after (perform_attestSigned judged now)]
    cases genuine with
    | true => exact Attests.agrees (attests _ _ _ _ now coherent) coherent h
    | false => exact h

theorem attestBatch_agrees (caller : Text) (reserves : List Text) (amounts : List Int)
    (proofHash : Bytes) (now : Int) (coherent : s.oracle.Coherent s.params) (h : s.Agrees) :
    ((attestBatch caller reserves amounts proofHash now).after s).Agrees := by
  unfold Action.after
  rcases attestBatch_ends caller reserves amounts proofHash now s with
    ⟨r, refused⟩ | ⟨-, -, ended⟩
  · rw [refused]
    exact h
  · rw [ended]
    exact (after_attestEach (fun s reserve amount _ => submit_keeps caller proofHash now s reserve
      amount) ⟨coherent, h⟩).2

theorem step_agrees {op : Operation}
    (unset : ∀ reserve backing now, op ≠ .setBacking reserve backing now)
    (coherent : s.oracle.Coherent s.params) (h : s.Agrees) : (s.step op).2.Agrees := by
  cases op with
  | setBacking reserve backing now => exact absurd rfl (unset reserve backing now)
  | attest =>
    rw [step_after rfl]
    exact Attests.agrees (attests _ _ _ _ _ coherent) coherent h
  | attestSigned => exact attestSigned_agrees _ _ coherent h
  | attestBatch =>
    rw [step_after rfl]
    exact attestBatch_agrees _ _ _ _ _ coherent h
  | overrideBalance caller reserve amount justification now =>
    rcases step_overrideBalance caller reserve amount justification now s with
      ⟨r, step⟩ | ⟨entry, o, l, overridden, backed, step⟩
    · rw [step]
      exact h
    · rw [step]
      exact h.write (b := ⟨amount, now, none⟩) backed (overridden.balances_eq coherent)
  | resetRound caller reserve now =>
    rcases step_resetRound caller reserve now s with ⟨r, step⟩ | ⟨found, o, reset, step⟩
    · rw [step]
      exact h
    · rw [step]
      exact h.congr (fun _ => rfl) (reset.balances_eq coherent)
  | sync caller reserve now =>
    rcases h.step_sync caller reserve now with ⟨r, step⟩ | ⟨amount, step⟩
    · rw [step]
      exact h
    · rw [step]
      exact h.stamp reserve now
  | syncIfPossible caller reserve now =>
    rcases h.step_syncIfPossible caller reserve now with step | step
    · rw [step]
      exact h
    · rw [step]
      exact h.stamp reserve now
  | syncBatch caller reserves now budget =>
    rcases h.step_syncBatch caller reserves now budget with ⟨r, step⟩ | ⟨report, step⟩
    · rw [step]
      exact h
    · rw [step]
      exact h.stamps report.succeeded now
  | _ => exact (step_touched _ s).agrees h (by simp [Operation.parts]) (by simp [Operation.parts])

theorem run_agrees (authority : Authority) (relay : Relay) (params : Parameters)
    (ops : List Operation)
    (unset : ∀ reserve backing now, .setBacking reserve backing now ∉ ops) :
    ((new authority relay params).run ops).Agrees := by
  induction ops using List.reverseRecOn with
  | nil => exact fun _ => rfl
  | append_singleton ops op ih =>
    have before := ih fun reserve backing now mem =>
      unset reserve backing now (List.mem_append_left _ mem)
    obtain ⟨coherent, -⟩ := run_keeps (s := new authority relay params) ops
      (Oracle.coherent_empty params)
    rw [run_concat]
    refine step_agrees (fun reserve backing now same => ?_) coherent before
    refine unset reserve backing now ?_
    rw [same]
    exact List.mem_append_right _ List.mem_cons_self

/-- A mint is refused as the ledger refuses it. -/
theorem step_mint_eq_refused_iff {caller holder : Text} {amount : Int} {now : Option Int}
    {r : Refusal} :
    (s.step (.mint caller reserve holder amount now)).1 = .error (.refused r) ↔
      s.ledger.mint s.authority s.params caller reserve holder amount now = .error r := by
  simp only [step, perform, orFail, onLedger]
  cases s.ledger.mint s.authority s.params caller reserve holder amount now with
  | ok minted => simp
  | error r' => simp

/-- What the oracle says of a reserve is what its account says. -/
theorem Agrees.account (h : s.Agrees) {b : Account}
    (found : s.ledger.accounts.get? reserve = some b) :
    (s.oracle.balances.get? reserve = none → b.backing = 0 ∧ b.backingUpdatedAt = none) ∧
      (∀ balance, s.oracle.balances.get? reserve = some balance →
        b.backing = balance.amount ∧ b.backingUpdatedAt = some balance.updatedAt) ∧
      ∀ now, s.oracle.balanceAndAge s.params reserve now =
        (b.backing, b.backingIsOld s.params now) := by
  have same := h reserve
  rw [Ledger.backed, Ledger.read_of_get? found, Oracle.backed] at same
  simp only [Oracle.balanceAndAge, Account.backingIsOld]
  cases heard : s.oracle.balances.get? reserve with
  | none =>
    rw [heard] at same
    obtain ⟨zero, never⟩ := Prod.mk.inj same
    simp [zero, never]
  | some balance =>
    rw [heard] at same
    obtain ⟨amount, updated⟩ := Prod.mk.inj same
    simp [amount, updated]

/-- Where the backing is set by the oracle and by syncs alone, the ledger and the oracle have the
same balance of every registered reserve, from the same time. -/
theorem run_agreement (authority : Authority) (relay : Relay) (params : Parameters)
    (ops : List Operation)
    (unset : ∀ reserve backing now, .setBacking reserve backing now ∉ ops) :
    let s := (new authority relay params).run ops
    (∀ reserve a, s.ledger.accounts.get? reserve = some a →
      (s.oracle.balances.get? reserve = none → a.backing = 0 ∧ a.backingUpdatedAt = none) ∧
      (∀ b, s.oracle.balances.get? reserve = some b →
        a.backing = b.amount ∧ a.backingUpdatedAt = some b.updatedAt) ∧
      ∀ now, s.oracle.balanceAndAge params reserve now = (a.backing, a.backingIsOld params now) ∧
        ∀ caller holder amount,
          (s.step (.mint caller reserve holder amount (some now))).1 =
              .error (.refused (.backingOld reserve params.maxStaleness)) ↔
            s.authority.allows caller .minter = true ∧ 0 < amount ∧ a.frozen = false ∧
              a.status = .active ∧ (s.oracle.balanceAndAge params reserve now).2 = true) ∧
      (∀ caller reserve now answer, (s.step (.sync caller reserve now)).1 = .ok answer →
        (s.step (.sync caller reserve now)).2 = s.stamp reserve now) ∧
      (∀ caller reserve now, (s.step (.syncIfPossible caller reserve now)).1 = .ok (.flag true) →
        (s.step (.syncIfPossible caller reserve now)).2 = s.stamp reserve now) ∧
      ∀ caller reserves now budget report,
        (s.step (.syncBatch caller reserves now budget)).1 = .ok (.syncReport report) →
        (s.step (.syncBatch caller reserves now budget)).2 = s.stamps report.succeeded now := by
  intro s
  have h : s.Agrees := run_agrees authority relay params ops unset
  have params_eq : s.params = params := run_params _ ops
  refine ⟨fun reserve a found => ?_, fun caller reserve now answer done => ?_,
    fun caller reserve now done => ?_, fun caller reserves now budget report done => ?_⟩
  · obtain ⟨unheard, heard, age⟩ := h.account found
    rw [params_eq] at age
    refine ⟨unheard, heard, fun now => ⟨age now, fun caller holder amount => ?_⟩⟩
    rw [step_mint_eq_refused_iff, params_eq, Ledger.mint_eq_backingOld_iff found, age now]
  · rcases h.step_sync caller reserve now with ⟨r, step⟩ | ⟨amount, step⟩
    · rw [step] at done
      cases done
    · rw [step]
  · rcases h.step_syncIfPossible caller reserve now with step | step
    · rw [step] at done
      cases done
    · rw [step]
  · rcases h.step_syncBatch caller reserves now budget with ⟨r, step⟩ | ⟨report', step⟩
    · rw [step] at done
      cases done
    · rw [step] at done ⊢
      cases done
      rfl

/-- Three attesters agree on the balance of a reserve. -/
def attesting : List Operation :=
  [.register "registrar" "reserve" 1000 (some 0), .attest "first" "reserve" 7 [] 1,
    .attest "second" "reserve" 7 [] 2, .attest "third" "reserve" 7 [] 3]

/-- A sync after the round finds the backing in the ledger. -/
theorem run_agreement_attesting :
    let s := (new .everyone ⟨1, 1⟩ .testing).run attesting
    (∀ reserve backing now, .setBacking reserve backing now ∉ attesting) ∧
      (∃ a, s.ledger.accounts.get? "reserve" = some a ∧ a.backing = 7 ∧
        a.backingUpdatedAt = some 3) ∧
      (s.step (.syncIfPossible "syncer" "reserve" 5)).1 = .ok (.flag true) ∧
      (s.step (.syncIfPossible "syncer" "reserve" 5)).2 = s.stamp "reserve" 5 := by
  intro s
  have unset : ∀ reserve backing now, .setBacking reserve backing now ∉ attesting := by
    simp [attesting]
  have registered : ("reserve" : Text) ∈ s.ledger.accounts.keys := by decide +kernel
  obtain ⟨a, found⟩ := Table.mem_keys_iff.mp registered
  have heard : s.oracle.balances.get? "reserve" = some ⟨7, 3, some 1⟩ := by decide +kernel
  have synced : (s.step (.syncIfPossible "syncer" "reserve" 5)).1 = .ok (.flag true) := by
    apply affirmed_of_step
    decide +kernel
  obtain ⟨accounts, -, sync, -⟩ := run_agreement .everyone ⟨1, 1⟩ .testing attesting unset
  obtain ⟨backing, updated⟩ := (accounts "reserve" a found).2.1 _ heard
  exact ⟨unset, ⟨a, found, backing, updated⟩, synced, sync "syncer" "reserve" 5 synced⟩

end Bank

end BitcoinReserve
