import BitcoinReserve.Proofs.Bank.Moves

/-!
# The steps of a bank

Each operation has its parts and leaves the others as they were. The steps that open an account, make
or burn tokens or open a redemption have an outcome lemma each.
-/
namespace BitcoinReserve

namespace Bank

open BitcoinReserve.Action

variable {s : Bank}

theorem touches_finalize (r : Round) (amount now : Int) :
    (finalize r amount now).Touches [.oracle, .account .backing] s := by
  unfold finalize
  refine .bind (.onOracle (by decide) _) fun _ _ _ => ?_
  refine .bind (.onLedger_ (by decide) fun _ => Ledger.edit_of_setBacking) fun _ _ _ => ?_
  exact .pure _

theorem touches_submit (attester reserve : Text) (amount : Int) (proofHash : Bytes) (now : Int) :
    (submit attester reserve amount proofHash now).Touches [.oracle, .account .backing] s := by
  unfold submit
  refine .decide_bind fun _ _ => .decide_bind fun _ _ => .get_bind ?_
  extract_lets enter
  have entered (r : Round) (t : Bank) : (enter r).Touches [.oracle, .account .backing] t := by
    refine .bind (.onOracle (by decide) _) fun _ _ _ => ?_
    split
    · split
      · exact touches_finalize ..
      · exact .pure _
    · exact .pure _
  split
  · split
    · exact .bind (.onOracle (by decide) _) fun _ _ _ => .throw _
    · exact .bind (.pure _) fun _ _ _ => entered _ _
  · exact .bind (.onOracle (by decide) _) fun _ _ _ => entered _ _

theorem touches_attest (caller reserve : Text) (amount : Int) (proofHash : Bytes) (now : Int) :
    (attest caller reserve amount proofHash now).Touches [.oracle, .account .backing] s :=
  .decide_bind fun _ _ => touches_submit ..

theorem touches_attestSigned (a : SignedAttestation) (genuine : Bool) (now : Int) :
    (attestSigned a genuine now).Touches [.oracle, .account .backing] s :=
  .decide_bind fun _ _ => touches_attest ..

theorem touches_attestEach (caller : Text) (proofHash : Bytes) (now : Int)
    (items : List (Text × Int)) :
    (attestEach caller proofHash now items).Touches [.oracle, .account .backing] s := by
  induction items generalizing s with
  | nil => exact .pure _
  | cons item rest ih =>
    refine .bind (.outcome (touches_submit ..)) fun _ _ _ => ?_
    exact .bind ih fun _ _ _ => .pure _

theorem touches_attestBatch (caller : Text) (reserves : List Text) (amounts : List Int)
    (proofHash : Bytes) (now : Int) :
    (attestBatch caller reserves amounts proofHash now).Touches [.oracle, .account .backing] s :=
  .decide_bind fun _ _ => .decide_bind fun _ _ => touches_attestEach ..

theorem touches_overrideBalance (caller reserve : Text) (amount : Int) (justification : Text)
    (now : Int) :
    (overrideBalance caller reserve amount justification now).Touches
      [.oracle, .account .backing] s := by
  unfold overrideBalance
  refine .decide_bind fun _ _ => .decide_bind fun _ _ => .decide_bind fun _ _ => ?_
  refine .decide_bind fun _ _ => .get_bind ?_
  refine .bind (.onOracle (by decide) _) fun _ _ _ => ?_
  refine .bind (.onOracle (by decide) _) fun _ _ _ => ?_
  refine .bind (.onLedger_ (by decide) fun _ => Ledger.edit_of_setBacking) fun _ _ _ => ?_
  exact .pure _

theorem touches_resetRound (caller reserve : Text) (now : Int) :
    (resetRound caller reserve now).Touches [.oracle] s := by
  unfold resetRound
  refine .decide_bind fun _ _ => .get_bind ?_
  split
  · exact .pure _
  · exact .bind (.onOracle (by decide) _) fun _ _ _ => .pure _

/-- The bank with the time of the last sync of a reserve written down. -/
def stamp (s : Bank) (reserve : Text) (now : Int) : Bank :=
  { s with ledger := { s.ledger with
      accounts := s.ledger.accounts.modify reserve ({ · with lastSyncedAt := some now }) } }

theorem touched_stamp (s : Bank) (reserve : Text) (now : Int) :
    s.Touched [.account .syncTime] (s.stamp reserve now) := by
  unfold stamp Table.modify
  cases found : s.ledger.accounts.get? reserve with
  | none => exact .refl
  | some a =>
    have edited : s.ledger.Edit s.params.network .syncTime
        (s.ledger.put reserve { a with lastSyncedAt := some now }) :=
      .put found (.synced now) rfl rfl
    exact .of (.edited edited) (by decide)

theorem touches_copyBalance (reserve : Text) (now : Int) :
    (copyBalance reserve now).Touches [.account .backing, .account .syncTime] s := by
  unfold copyBalance
  refine .get_bind (.decide_bind fun _ _ => ?_)
  split
  · exact .throw _
  · split
    · exact .throw _
    · refine .decide_bind fun _ _ => ?_
      refine .bind (.onLedger_ (by decide) fun _ => Ledger.edit_of_setBacking) fun _ t _ => ?_
      exact .bind ((touched_stamp t reserve now).mono (by decide)) fun _ _ _ => .pure _

theorem touches_sync (caller reserve : Text) (now : Int) :
    (sync caller reserve now).Touches [.account .backing, .account .syncTime] s :=
  .decide_bind fun _ _ => touches_copyBalance ..

theorem touches_syncIfPossible (caller reserve : Text) (now : Int) :
    (syncIfPossible caller reserve now).Touches [.account .backing, .account .syncTime] s :=
  .bind (.outcome (touches_sync ..)) fun _ _ _ => .pure _

theorem touches_syncEach (now : Int) (reserves : List Text) :
    (syncEach now reserves).Touches [.account .backing, .account .syncTime] s := by
  induction reserves generalizing s with
  | nil => exact .pure _
  | cons reserve rest ih =>
    refine .bind (.outcome (touches_copyBalance ..)) fun _ _ _ => ?_
    exact .bind ih fun _ _ _ => .pure _

theorem touches_syncBatch (caller : Text) (reserves : List Text) (now : Int)
    (budget : Option Int) :
    (syncBatch caller reserves now budget).Touches [.account .backing, .account .syncTime] s := by
  unfold syncBatch
  refine .decide_bind fun _ _ => .get_bind ?_
  exact .bind (touches_syncEach ..) fun _ _ _ => .pure _

theorem touches_redeem (caller reserve : Text) (amount : Int) (address wallet : Text)
    (now : Int) :
    (redeem caller reserve amount address wallet now).Touches [.minted, .redemptions] s := by
  unfold redeem
  refine .get_bind (.decide_bind fun _ _ => .decide_bind fun _ _ => .decide_bind fun _ _ => ?_)
  refine .decide_bind fun _ _ => ?_
  refine .bind (.onLedger (by decide) fun _ _ => .burnt) fun _ _ _ => ?_
  refine .bind (.onRedemptions (by decide) _) fun _ _ _ => ?_
  split
  · exact .pure _
  · exact .bind (.onRedemptions (by decide) _) fun _ _ _ => .pure _

theorem touches_fulfill (caller id : Text) (claimed : Int) (tx : Transaction) (e : Evidence)
    (now : Int) : (fulfill caller id claimed tx e now).Touches [.redemptions] s := by
  unfold fulfill
  refine .get_bind (.decide_bind fun _ _ => .decide_bind fun _ _ => .decide_bind fun _ _ => ?_)
  exact .bind (.onRedemptions (by decide) _) fun _ _ _ => .pure _

theorem touches_fulfillIfPossible (caller id : Text) (claimed : Int) (tx : Transaction)
    (e : Evidence) (now : Int) :
    (fulfillIfPossible caller id claimed tx e now).Touches [.redemptions] s :=
  .bind (.outcome (touches_fulfill ..)) fun _ _ _ => .pure _

theorem touches_fulfillTrusted (caller id : Text) (amount now : Int) :
    (fulfillTrusted caller id amount now).Touches [.redemptions] s := by
  unfold fulfillTrusted
  refine .get_bind (.decide_bind fun _ _ => .decide_bind fun _ _ => .decide_bind fun _ _ => ?_)
  refine .decide_bind fun _ _ => ?_
  exact .bind (.onRedemptions (by decide) _) fun _ _ _ => .pure _

theorem touches_flagDefault (caller id reason : Text) (now : Int) :
    (flagDefault caller id reason now).Touches [.redemptions] s := by
  unfold flagDefault
  refine .decide_bind fun _ _ => .decide_bind fun _ _ => .decide_bind fun _ _ => ?_
  refine .decide_bind fun _ _ => ?_
  exact .bind (.onRedemptions (by decide) _) fun _ _ _ => .pure _

theorem touches_propose (caller reserve : Text) (status : ReserveStatus) (reason : Text)
    (now : Int) : (propose caller reserve status reason now).Touches [.proposals] s := by
  unfold propose
  refine .decide_bind fun _ _ => .decide_bind fun _ _ => .decide_bind fun _ _ => ?_
  refine .decide_bind fun _ _ => .get_bind ?_
  exact .bind (.set (by decide) (.proposals _)) fun _ _ _ => .pure _

theorem touches_vote (caller : Text) (id now : Int) :
    (vote caller id now).Touches [.proposals] s := by
  unfold vote
  refine .decide_bind fun _ _ => .decide_bind fun _ _ => .decide_bind fun _ _ => ?_
  refine .decide_bind fun _ _ => ?_
  exact .bind (.modify (by decide) (.proposals _)) fun _ _ _ => .pure _

theorem touches_execute (caller : Text) (id now : Int) :
    (execute caller id now).Touches [.account .status, .proposals] s := by
  unfold execute
  refine .decide_bind fun _ _ => .decide_bind fun _ _ => .get_bind ?_
  refine .decide_bind fun _ _ => .decide_bind fun _ _ => ?_
  refine .bind (.onLedger_ (by decide) fun _ => Ledger.edit_of_setStatus) fun _ _ _ => ?_
  exact .bind (.modify (by decide) (.proposals _)) fun _ _ _ => .pure _

theorem touches_liveReports (reserve : Text) (now : Int) :
    (liveReports reserve now).Touches [.reports] s := by
  unfold liveReports
  exact .get_bind (.bind (.set (by decide) (.reports _)) fun _ _ _ => .pure _)

theorem touches_report (caller reserve reason : Text) (now : Int) :
    (report caller reserve reason now).Touches [.reports, .account .frozen] s := by
  unfold report
  refine .decide_bind fun _ _ => .decide_bind fun _ _ => ?_
  refine .bind ((touches_liveReports ..).mono (by decide)) fun _ _ _ => ?_
  refine .decide_bind fun _ _ => .bind (.modify (by decide) (.reports _)) fun _ _ _ => ?_
  split
  · exact .pure _
  · refine .get_bind ?_
    split
    · refine .bind (.onLedger_ (by decide) fun _ => Ledger.edit_of_setFrozen) fun _ _ _ => ?_
      exact .pure _
    · exact .pure _

theorem touches_freeze (caller reserve : Text) :
    (freeze caller reserve).Touches [.account .frozen] s :=
  .decide_bind fun _ _ => .onLedger_ (by decide) fun _ => Ledger.edit_of_setFrozen

theorem touches_thaw (caller reserve : Text) :
    (thaw caller reserve).Touches [.account .frozen, .reports] s := by
  unfold thaw
  refine .decide_bind fun _ _ => ?_
  refine .bind (.onLedger_ (by decide) fun _ => Ledger.edit_of_setFrozen) fun _ _ _ => ?_
  exact .modify (by decide) (.reports _)

theorem touches_countReports (reserve : Text) (now : Int) :
    (countReports reserve now).Touches [.reports] s :=
  .bind (touches_liveReports ..) fun _ _ _ => .pure _

theorem touches_stopTimer (reserve : Text) : (stopTimer reserve).Touches [.timers] s :=
  .modify (by decide) (.timers _)

theorem touches_enforce (reserve code : Text) (now : Int) :
    (enforce reserve code now).Touches [.account .status, .timers] s := by
  unfold enforce
  refine .decide_bind fun _ _ => .decide_bind fun _ _ => .decide_bind fun _ _ => ?_
  refine .decide_bind fun _ _ => ?_
  extract_lets start
  have started (t : Bank) : (start ()).Touches [.account .status, .timers] t := by
    simp only [start]
    split
    · exact .pure _
    · refine .bind (.modify (by decide) (.timers _)) fun _ _ _ => ?_
      exact .get_bind (.pure _)
  split
  · refine .bind (.onLedger_ (by decide) fun _ => Ledger.edit_of_setStatus) fun _ _ _ => ?_
    exact started _
  · exact started s

theorem touches_escalate (reserve : Text) (now : Int) :
    (escalate reserve now).Touches [.timers, .account .frozen] s := by
  unfold escalate
  have stopped (t : Bank) : (stopTimer reserve).Touches [.timers, .account .frozen] t :=
    (touches_stopTimer reserve).mono (by decide)
  refine .get_bind ?_
  split
  · exact .throw _
  · refine .decide_bind fun _ _ => ?_
    split
    · exact .bind (stopped _) fun _ _ _ => .pure _
    · refine .decide_bind fun _ _ => ?_
      extract_lets finish
      have finished (t : Bank) : (finish ()).Touches [.timers, .account .frozen] t :=
        .bind (stopped t) fun _ _ _ => .pure _
      split
      · refine .bind (.onLedger_ (by decide) fun _ => Ledger.edit_of_setFrozen) fun _ _ _ => ?_
        exact finished _
      · exact finished s

theorem touches_clearTimer (reserve : Text) : (clearTimer reserve).Touches [.timers] s := by
  unfold clearTimer
  refine .get_bind ?_
  split
  · exact .pure _
  · refine .decide_bind fun _ _ => ?_
    split
    · exact .pure _
    · exact .bind (touches_stopTimer _) fun _ _ _ => .pure _

theorem touches_attachProven (caller reserve wallet : Text) (challenge : Bytes) (tx : Transaction)
    (e : Evidence) :
    (attachProven caller reserve wallet challenge tx e).Touches
      [.account .wallets, .walletProofs] s := by
  unfold attachProven
  refine .decide_bind fun _ _ => .decide_bind fun _ _ => .decide_bind fun _ _ => .get_bind ?_
  refine .decide_bind fun _ _ => ?_
  refine .bind (.onLedger_ (by decide) fun _ => Ledger.edit_of_attachWallet) fun _ _ _ => ?_
  exact .bind (.modify (by decide) (.walletProofs _)) fun _ _ _ => .pure _

theorem touches_detach (caller reserve wallet : Text) :
    (detach caller reserve wallet).Touches [.account .wallets] s := by
  unfold detach
  refine .get_bind (.decide_bind fun _ _ => ?_)
  exact .onLedger_ (by decide) fun _ => Ledger.edit_of_detachWallet

theorem touches_summarize (reserve : Text) (now : Int) :
    (summarize reserve now).Touches [.reports] s := by
  unfold summarize
  refine .decide_bind fun _ _ => .get_bind ?_
  exact .bind (touches_countReports ..) fun _ _ _ => .pure _

theorem touches_onToken (f : Token → Except Refusal Token) : (onToken f).Touches [.token] s := by
  refine .onLedger List.mem_cons_self fun _ l changed => ?_
  simp only [Check.map_eq_ok_iff, Prod.mk.injEq, true_and] at changed
  obtain ⟨_, ⟨token, -, rfl⟩, rfl⟩ := changed
  exact .token token

theorem touches_transferToken (source target : Text) (amount : Int) :
    (transferToken source target amount).Touches [.holdings] s := by
  unfold Touches after transferToken
  cases moved : s.ledger.token.transfer? source target amount with
  | none => exact .refl
  | some token => exact .of (.transferred moved) (by decide)

/-- An operation ends as its action does. -/
theorem step_orFail {α : Type} {x : Action α} {answer : α → Answer} {op : Operation}
    (performs : perform op s = orFail x answer s) :
    s.step op = match x s with
      | .ok a t => (.ok (answer a), t)
      | .error r t => (.error (.refused r), t) := by
  unfold step
  rw [performs]
  unfold orFail
  cases x s with
  | ok a t => rfl
  | error r t => rfl

theorem step_eq_ending {α : Type} {x : Action α} {answer : α → Answer} {op : Operation}
    (performs : perform op s = orFail x answer s) :
    s.step op = (((x.ending s).map answer).mapError .refused, x.after s) := by
  rw [step_orFail performs]
  unfold Action.ending after
  cases x s with
  | ok a t => rfl
  | error r t => rfl

theorem step_after {α : Type} {x : Action α} {answer : α → Answer} {op : Operation}
    (performs : perform op s = orFail x answer s) : (s.step op).2 = x.after s :=
  congrArg Prod.snd (step_eq_ending performs)

theorem step_accepted_iff {α : Type} {x : Action α} {answer : α → Answer} {op : Operation}
    (performs : perform op s = orFail x answer s) :
    (∃ b, (s.step op).1 = .ok b) ↔ ∃ a t, x s = .ok a t := by
  rw [step_orFail performs]
  cases x s with
  | ok a t => simp
  | error r t => simp

theorem step_refused_iff {α : Type} {x : Action α} {answer : α → Answer} {op : Operation}
    (performs : perform op s = orFail x answer s) {r : Refusal} :
    (s.step op).1 = .error (.refused r) ↔ ∃ t, x s = .error r t := by
  rw [step_orFail performs]
  cases x s with
  | ok a t => simp
  | error r' t => simp

/-- What an action ends with is what its operation ends with. -/
theorem step_ends {α : Type} {x : Action α} {answer : α → Answer} {op : Operation}
    {P : EStateM.Result Refusal Bank α → Prop} (ends : x.Ends s P)
    (performs : perform op s = orFail x answer s) :
    (∃ r, s.step op = (.error (.refused r), s)) ∨
      ∃ result, P result ∧ s.step op = match result with
        | .ok a t => (.ok (answer a), t)
        | .error r t => (.error (.refused r), t) := by
  have step := step_orFail performs
  rcases ends with ⟨r, refused⟩ | ended
  · rw [refused] at step
    exact .inl ⟨r, step⟩
  · exact .inr ⟨x s, ended, step⟩

theorem touched_orFail {parts : List Part} {α : Type} {x : Action α} {answer : α → Answer}
    {op : Operation} (touches : x.Touches parts s) (performs : perform op s = orFail x answer s) :
    s.Touched parts (s.step op).2 := by
  rw [step_orFail performs]
  revert touches
  unfold Touches after
  cases x s with
  | ok a t => exact id
  | error r t => exact id

/-- An operation on the ledger alone is refused without a trace or replaces the ledger. -/
theorem step_onLedger {op : Operation} {α : Type} {f : Bank → Except Refusal (α × Ledger)}
    {answer : α → Answer} (performs : perform op = orFail (onLedger f) answer) (s : Bank) :
    (∃ r, s.step op = (.error (.refused r), s)) ∨
      ∃ a l, f s = .ok (a, l) ∧ s.step op = (.ok (answer a), { s with ledger := l }) := by
  rw [step_orFail (congrFun performs s)]
  unfold onLedger
  cases f s with
  | ok p => exact .inr ⟨p.1, p.2, rfl, rfl⟩
  | error r => exact .inl ⟨r, rfl⟩

theorem step_onLedger_ {op : Operation} {f : Bank → Except Refusal Ledger}
    {answer : Unit → Answer} (performs : perform op = orFail (onLedger_ f) answer) (s : Bank) :
    (∃ r, s.step op = (.error (.refused r), s)) ∨
      ∃ l, f s = .ok l ∧ s.step op = (.ok (answer ()), { s with ledger := l }) := by
  rcases step_onLedger performs s with refused | ⟨_, l, changed, done⟩
  · exact .inl refused
  · obtain ⟨l', changed, same⟩ := Check.map_eq_ok_iff.mp changed
    cases same
    exact .inr ⟨l, changed, done⟩

/-- What is asked of a redemption before the ledger burns for it. -/
structure Redeemable (s : Bank) (reserve : Text) (amount : Int) (address wallet : Text) : Prop where
  minimum_le : s.params.minRedemptionAmount ≤ amount
  decodes : ∃ d, Address.decode s.params.network address = .ok d
  owned : s.ledger.ownsWallet reserve wallet = true

/-- A redemption is refused without a trace. Otherwise the tokens are burnt and a number is taken,
and a redemption is opened when its seed makes an id. -/
theorem redeem_ends (caller reserve : Text) (amount : Int) (address wallet : Text) (now : Int)
    (s : Bank) :
    (redeem caller reserve amount address wallet now).Ends s fun result => ∃ total l,
      s.Redeemable reserve amount address wallet ∧
        s.ledger.redeem s.authority caller reserve caller amount = .ok (total, l) ∧
        result = match Redemption.idOf?
            (Redemption.seed reserve caller (s.redemptions.count + 1) now) with
          | none => .ok none { s with ledger := l, redemptions := s.redemptions.advance }
          | some id => .ok
              (some (Redemption.new id reserve caller amount address wallet now
                s.params.redemptionTimeout))
              { s with
                ledger := l
                redemptions := s.redemptions.advance.add (Redemption.new id reserve caller amount
                  address wallet now s.params.redemptionTimeout) } := by
  unfold redeem
  refine .get_bind (.decide_bind fun _ enough => .decide_bind fun d decoded => ?_)
  refine .decide_bind fun _ _ => .decide_bind fun _ owned => ?_
  refine .onLedger_bind fun total l burnt => ?_
  have redeemable : s.Redeemable reserve amount address wallet := {
    minimum_le := ensure_eq_ok_iff.mp enough
    decodes := ⟨d, Check.mapError_eq_ok_iff.mp decoded⟩
    owned := ensure_eq_ok_iff.mp owned }
  refine ⟨total, l, redeemable, burnt, ?_⟩
  cases Redemption.idOf? (Redemption.seed reserve caller (s.redemptions.count + 1) now) with
  | none => rfl
  | some id => rfl

end Bank

/-- Whether an operation closes a redemption. -/
def Operation.closes : Operation → Bool
  | .fulfill .. | .fulfillIfPossible .. | .fulfillTrusted .. | .flagDefault .. => true
  | _ => false

/-- Whether an operation opens an account, opens or closes a redemption, or makes or burns tokens. -/
def Operation.issues (op : Operation) : Bool :=
  match op with
  | .mintToken .. | .burnToken .. | .register .. | .mint .. | .burn .. | .redeem .. => true
  | _ => op.closes

/-- The parts of a bank that an operation may change. -/
def Operation.parts : Operation → List Bank.Part
  | .grant .. | .revoke .. => [.authority]
  | .setRelay .. => [.relay]
  | .mintToken .. | .burnToken .. => [.token]
  | .transferToken .. => [.holdings]
  | .register .. => [.accounts]
  | .mint .. | .burn .. => [.minted]
  | .raiseCap .. => [.account .cap]
  | .setBacking .. => [.account .backing]
  | .setStatus .. | .selfPause .. | .resume .. => [.account .status]
  | .setFrozen .. | .freeze .. => [.account .frozen]
  | .attachWallet .. | .detachWallet .. | .detach .. => [.account .wallets]
  | .attest .. | .attestSigned .. | .attestBatch .. | .overrideBalance .. =>
    [.oracle, .account .backing]
  | .resetRound .. => [.oracle]
  | .sync .. | .syncIfPossible .. | .syncBatch .. => [.account .backing, .account .syncTime]
  | .redeem .. => [.minted, .redemptions]
  | .fulfill .. | .fulfillIfPossible .. | .fulfillTrusted .. | .flagDefault .. => [.redemptions]
  | .propose .. | .vote .. => [.proposals]
  | .execute .. => [.account .status, .proposals]
  | .report .. => [.reports, .account .frozen]
  | .thaw .. => [.account .frozen, .reports]
  | .countReports .. | .summarize .. => [.reports]
  | .enforce .. => [.account .status, .timers]
  | .escalate .. => [.timers, .account .frozen]
  | .clearTimer .. => [.timers]
  | .attachProven .. => [.account .wallets, .walletProofs]

namespace Bank

open BitcoinReserve.Action

variable {s : Bank}

theorem perform_attestSigned {attestation : SignedAttestation} {genuine : Bool}
    (judged : attestation.verify = .ok genuine) (now : Int) :
    perform (.attestSigned attestation now) s =
      orFail (attestSigned attestation genuine now) .submission s := by
  simp only [perform, judged]

theorem step_attestSigned_unjudged {attestation : SignedAttestation}
    {fault : SignedAttestation.Fault} (judged : attestation.verify = .error fault) (now : Int) :
    s.step (.attestSigned attestation now) = (.error (.unjudged fault), s) := by
  simp only [step, perform, judged]

theorem touched_attestSigned (attestation : SignedAttestation) (now : Int) :
    s.Touched [.oracle, .account .backing] (s.step (.attestSigned attestation now)).2 := by
  cases judged : attestation.verify with
  | ok genuine =>
    exact touched_orFail (touches_attestSigned attestation genuine now)
      (perform_attestSigned judged now)
  | error fault => rw [step_attestSigned_unjudged judged]

/-- An operation leaves all parts but its own as they were, done or refused. -/
theorem step_touched (op : Operation) (s : Bank) : s.Touched op.parts (s.step op).2 := by
  cases op with
  | grant => exact .of (.authority _) List.mem_cons_self
  | revoke => exact .of (.authority _) List.mem_cons_self
  | setRelay relay => exact .of (.relay relay) List.mem_cons_self
  | mintToken => exact touched_orFail (touches_onToken _) rfl
  | burnToken => exact touched_orFail (touches_onToken _) rfl
  | transferToken => exact touched_orFail (touches_transferToken ..) rfl
  | register => exact touched_orFail (.onLedger List.mem_cons_self fun _ _ => .opened) rfl
  | mint => exact touched_orFail (.onLedger List.mem_cons_self fun _ _ => .minted) rfl
  | burn => exact touched_orFail (.onLedger List.mem_cons_self fun _ _ => .burnt) rfl
  | raiseCap =>
    exact touched_orFail (.onLedger_ List.mem_cons_self fun _ => Ledger.edit_of_raiseCap) rfl
  | setBacking =>
    exact touched_orFail (.onLedger_ List.mem_cons_self fun _ => Ledger.edit_of_setBacking) rfl
  | setStatus =>
    exact touched_orFail (.onLedger_ List.mem_cons_self fun _ => Ledger.edit_of_setStatus) rfl
  | selfPause =>
    refine touched_orFail (.onLedger_ List.mem_cons_self fun _ paused => ?_) rfl
    exact Ledger.edit_of_setStatus (Ledger.setStatus_of_selfPause paused)
  | resume =>
    refine touched_orFail (.onLedger_ List.mem_cons_self fun _ resumed => ?_) rfl
    exact Ledger.edit_of_setStatus (Ledger.setStatus_of_resume resumed)
  | setFrozen =>
    exact touched_orFail (.onLedger_ List.mem_cons_self fun _ => Ledger.edit_of_setFrozen) rfl
  | attachWallet =>
    exact touched_orFail (.onLedger_ List.mem_cons_self fun _ => Ledger.edit_of_attachWallet) rfl
  | detachWallet =>
    exact touched_orFail (.onLedger_ List.mem_cons_self fun _ => Ledger.edit_of_detachWallet) rfl
  | attest => exact touched_orFail (touches_attest ..) rfl
  | attestSigned => exact touched_attestSigned ..
  | attestBatch => exact touched_orFail (touches_attestBatch ..) rfl
  | overrideBalance => exact touched_orFail (touches_overrideBalance ..) rfl
  | resetRound => exact touched_orFail (touches_resetRound ..) rfl
  | sync => exact touched_orFail (touches_sync ..) rfl
  | syncIfPossible => exact touched_orFail (touches_syncIfPossible ..) rfl
  | syncBatch => exact touched_orFail (touches_syncBatch ..) rfl
  | redeem caller reserve amount address wallet now =>
    have touches := touches_redeem (s := s) caller reserve amount address wallet now
    simp only [step, perform]
    revert touches
    unfold Touches after
    cases redeem caller reserve amount address wallet now s with
    | ok r t => cases r <;> exact id
    | error r t => exact id
  | fulfill => exact touched_orFail (touches_fulfill ..) rfl
  | fulfillIfPossible => exact touched_orFail (touches_fulfillIfPossible ..) rfl
  | fulfillTrusted => exact touched_orFail (touches_fulfillTrusted ..) rfl
  | flagDefault => exact touched_orFail (touches_flagDefault ..) rfl
  | propose caller reserve status reason now =>
    have performs : perform (.propose caller reserve status reason now) s =
        orFail (propose caller reserve status reason now) (fun id => .number id) s := rfl
    exact touched_orFail (touches_propose ..) performs
  | vote => exact touched_orFail (touches_vote ..) rfl
  | execute => exact touched_orFail (touches_execute ..) rfl
  | report => exact touched_orFail (touches_report ..) rfl
  | freeze => exact touched_orFail (touches_freeze ..) rfl
  | thaw => exact touched_orFail (touches_thaw ..) rfl
  | countReports reserve now =>
    have performs : perform (.countReports reserve now) s =
        orFail (countReports reserve now) (fun n => .number n) s := rfl
    exact touched_orFail (touches_countReports reserve now) performs
  | enforce => exact touched_orFail (touches_enforce ..) rfl
  | escalate => exact touched_orFail (touches_escalate ..) rfl
  | clearTimer => exact touched_orFail (touches_clearTimer ..) rfl
  | attachProven => exact touched_orFail (touches_attachProven ..) rfl
  | detach => exact touched_orFail (touches_detach ..) rfl
  | summarize => exact touched_orFail (touches_summarize ..) rfl

theorem moves_step (op : Operation) (quiet : op.issues = false) : s.Moves (s.step op).2 := by
  refine (step_touched op s).moves ?_
  cases op with
  | mintToken | burnToken | register | mint | burn | redeem | fulfill | fulfillIfPossible
  | fulfillTrusted | flagDefault => cases quiet
  | _ => simp [Operation.parts, Part.quiet]

theorem step_register (caller reserve : Text) (cap : Int) (now : Option Int) (s : Bank) :
    (∃ r, s.step (.register caller reserve cap now) = (.error (.refused r), s)) ∨
      ∃ a l, s.ledger.register s.authority caller reserve cap now = .ok (a, l) ∧
        s.step (.register caller reserve cap now) =
          (.ok (.account a), { s with ledger := l }) := by
  have performs : perform (.register caller reserve cap now) =
      orFail (onLedger fun s => s.ledger.register s.authority caller reserve cap now)
        .account := rfl
  exact step_onLedger performs s

theorem step_mint (caller reserve holder : Text) (amount : Int) (now : Option Int) (s : Bank) :
    (∃ r, s.step (.mint caller reserve holder amount now) = (.error (.refused r), s)) ∨
      ∃ total l,
        s.ledger.mint s.authority s.params caller reserve holder amount now = .ok (total, l) ∧
        s.step (.mint caller reserve holder amount now) =
          (.ok (.number total), { s with ledger := l }) := by
  have performs : perform (.mint caller reserve holder amount now) =
      orFail (onLedger fun s =>
        s.ledger.mint s.authority s.params caller reserve holder amount now) .number := rfl
  exact step_onLedger performs s

theorem step_burn (caller reserve holder : Text) (amount : Int) (s : Bank) :
    (∃ r, s.step (.burn caller reserve holder amount) = (.error (.refused r), s)) ∨
      ∃ total l, s.ledger.redeem s.authority caller reserve holder amount = .ok (total, l) ∧
        s.step (.burn caller reserve holder amount) =
          (.ok (.number total), { s with ledger := l }) := by
  have performs : perform (.burn caller reserve holder amount) =
      orFail (onLedger fun s => s.ledger.redeem s.authority caller reserve holder amount)
        .number := rfl
  exact step_onLedger performs s

/-- A redemption is refused without a trace, or burns and is left without an id, or is opened. -/
theorem step_redeem (caller reserve : Text) (amount : Int) (address wallet : Text) (now : Int)
    (s : Bank) :
    (∃ r, s.step (.redeem caller reserve amount address wallet now) = (.error (.refused r), s)) ∨
      ∃ total l, s.Redeemable reserve amount address wallet ∧
        s.ledger.redeem s.authority caller reserve caller amount = .ok (total, l) ∧
        s.step (.redeem caller reserve amount address wallet now) =
          match Redemption.idOf?
            (Redemption.seed reserve caller (s.redemptions.count + 1) now) with
          | none => (.error .unnamed, { s with ledger := l, redemptions := s.redemptions.advance })
          | some id =>
            (.ok (.redemption (Redemption.new id reserve caller amount address wallet now
                s.params.redemptionTimeout)),
              { s with
                ledger := l
                redemptions := s.redemptions.advance.add (Redemption.new id reserve caller amount
                  address wallet now s.params.redemptionTimeout) }) := by
  simp only [step, perform]
  rcases redeem_ends caller reserve amount address wallet now s with ⟨r, refused⟩ | ended
  · rw [refused]
    exact .inl ⟨r, rfl⟩
  · obtain ⟨total, l, redeemable, burnt, ended⟩ := ended
    refine .inr ⟨total, l, redeemable, burnt, ?_⟩
    rw [ended]
    cases Redemption.idOf? (Redemption.seed reserve caller (s.redemptions.count + 1) now) with
    | none => rfl
    | some id => rfl

/-- A redemption burns or leaves the ledger as it was, whether it gets an id or not. -/
theorem step_redeem_ledger (caller reserve : Text) (amount : Int) (address wallet : Text)
    (now : Int) (s : Bank) :
    (s.step (.redeem caller reserve amount address wallet now)).2 = s ∨
      ∃ total, s.ledger.redeem s.authority caller reserve caller amount =
        .ok (total, (s.step (.redeem caller reserve amount address wallet now)).2.ledger) := by
  rcases step_redeem caller reserve amount address wallet now s with
    ⟨r, refused⟩ | ⟨total, l, -, burnt, done⟩
  · rw [refused]
    exact .inl rfl
  · refine .inr ⟨total, ?_⟩
    rw [done, burnt]
    split
    · rfl
    · rfl

end Bank

end BitcoinReserve
