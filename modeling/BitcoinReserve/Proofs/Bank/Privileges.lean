import BitcoinReserve.Proofs.Bank.Backing
import BitcoinReserve.Proofs.Bank.Freezes
import BitcoinReserve.Proofs.Bank.Wallets

/-!
# Privileges

An operation asks its caller for a role, or to be the owner, before it changes anything. So each
kind of change is confined to the callers who may make it. Enforcement and escalation are open to
all: the first goes by what the oracle's data shows, the second by the timer of a review.
-/
namespace BitcoinReserve

/-- What is asked of a caller. -/
inductive Demand where
  | role (role : Role)
  | own (owner : Text)
  | ownOrRole (owner : Text) (role : Role)

namespace Operation

/-- Whether an operation is a primitive of the ledger, which takes no caller. -/
def primitive : Operation → Bool
  | .setBacking .. | .setStatus .. | .setFrozen .. => true
  | _ => false

/-- Who calls an operation that looks at its caller. A signed attestation is called by its key. -/
def caller? : Operation → Option Text
  | .register caller .. | .raiseCap caller .. | .mint caller .. | .burn caller ..
  | .selfPause caller .. | .resume caller .. | .attachWallet caller .. | .detachWallet caller ..
  | .attest caller .. | .attestBatch caller .. | .overrideBalance caller .. | .resetRound caller ..
  | .sync caller .. | .syncIfPossible caller .. | .syncBatch caller .. | .redeem caller ..
  | .fulfill caller .. | .fulfillIfPossible caller .. | .fulfillTrusted caller ..
  | .flagDefault caller .. | .propose caller .. | .vote caller .. | .execute caller ..
  | .report caller .. | .freeze caller .. | .thaw caller .. | .attachProven caller ..
  | .detach caller .. => some caller
  | .attestSigned attestation _ => some attestation.key
  | _ => none

/-- What an operation asks of its caller, under the parameters of the bank. -/
def demand? (p : Parameters) : Operation → Option Demand
  | .register .. | .raiseCap .. => some (.role .registrar)
  | .mint .. => some (.role .minter)
  | .burn _ _ holder _ => some (.ownOrRole holder .minter)
  | .selfPause _ reserve _ | .resume _ reserve _ => some (.own reserve)
  | .attachWallet _ reserve _ | .detachWallet _ reserve _ | .attachProven _ reserve _ _ _ _
  | .detach _ reserve _ => some (.ownOrRole reserve .registrar)
  | .attest .. | .attestSigned .. | .attestBatch .. => some (.role .attester)
  | .overrideBalance .. | .resetRound .. | .flagDefault .. => some (.role .arbiter)
  | .sync .. | .syncIfPossible .. | .syncBatch .. => some (.role .syncer)
  | .fulfill .. | .fulfillIfPossible .. =>
    if p.permissionlessFulfillment then none else some (.role .redemptionFulfiller)
  | .fulfillTrusted .. => some (.role .redemptionFulfiller)
  | .propose .. | .vote .. | .execute .. | .report .. => some (.role .watchdog)
  | .freeze .. | .thaw .. => some (.role .governance)
  | _ => none

end Operation

namespace Authority

/-- Where roles are granted, those who hold one are its members. -/
theorem mem_members_iff {roles : Table Text (List Role)} {actor : Text} {role : Role} :
    actor ∈ (granted roles).members role ↔ (granted roles).allows actor role = true := by
  simp only [members, allows, Table.getD, List.mem_map, List.mem_filter]
  constructor
  · rintro ⟨⟨actor, held⟩, ⟨listed, holds⟩, rfl⟩
    rwa [Table.get?_eq_some_iff.mpr listed]
  · intro holds
    cases found : roles.get? actor with
    | none => simp [found] at holds
    | some held =>
      rw [found] at holds
      exact ⟨(actor, held), ⟨Table.get?_eq_some_iff.mp found, holds⟩, rfl⟩

/-- A registrar, a minter and an arbiter, but no watchdog and no governance. -/
def unwatched : Authority :=
  .ofGrants [("registrar", [.registrar]), ("minter", [.minter]), ("arbiter", [.arbiter])]

theorem unwatched_allows {role : Role} (vacant : unwatched.members role = []) (actor : Text) :
    unwatched.allows actor role = false := by
  obtain ⟨roles, same⟩ : ∃ roles, unwatched = granted roles := ⟨_, rfl⟩
  rw [same] at vacant ⊢
  rw [← Bool.not_eq_true, ← mem_members_iff, vacant]
  exact List.not_mem_nil

end Authority

namespace Ledger

variable {l l' : Ledger} {auth : Authority} {caller reserve other wallet : Text}

theorem eq_of_attachWallet {p : Parameters}
    (attached : l.attachWallet auth p caller other wallet = .ok l')
    (changed : l'.wallets reserve ≠ l.wallets reserve) : other = reserve := by
  obtain ⟨-, d, a, -, -, -, rfl⟩ := attachWallet_eq_ok attached
  exact eq_of_read_ne rfl changed

theorem eq_of_detachWallet (detached : l.detachWallet auth caller other wallet = .ok l')
    (changed : l'.wallets reserve ≠ l.wallets reserve) : other = reserve := by
  obtain ⟨-, a, -, -, rfl⟩ := detachWallet_eq_ok detached
  exact eq_of_read_ne rfl changed

end Ledger

namespace Bank

open BitcoinReserve.Action

variable {α β : Type} {s : Bank} {op : Operation} {reserve : Text}

/-- The caller of the operation holds the role. -/
def Holds (s : Bank) (op : Operation) (role : Role) : Prop :=
  ∃ caller, op.caller? = some caller ∧ s.authority.allows caller role = true

/-- The caller of the operation is as is asked. -/
def Meets (s : Bank) (op : Operation) : Demand → Prop
  | .role role => s.Holds op role
  | .own owner => op.caller? = some owner
  | .ownOrRole owner role => op.caller? = some owner ∨ s.Holds op role

/-- A condition that an action must pass to do anything but be refused. -/
theorem eq_or_of_ends {x : Action α} {answer : α → Answer} {Q : Prop}
    (ends : x.Ends s fun _ => Q) (performs : perform op s = orFail x answer s) :
    (s.step op).2 = s ∨ Q := by
  rcases step_ends ends performs with ⟨r, refused⟩ | ⟨_, passed, -⟩
  · exact .inl (congrArg Prod.snd refused)
  · exact .inr passed

theorem eq_or_of_onLedger {f : Bank → Except Refusal (α × Ledger)} {answer : α → Answer}
    {Q : Prop} (performs : perform op = orFail (onLedger f) answer)
    (passed : ∀ a l, f s = .ok (a, l) → Q) : (s.step op).2 = s ∨ Q := by
  rcases step_onLedger performs s with ⟨r, refused⟩ | ⟨a, l, changed, -⟩
  · exact .inl (congrArg Prod.snd refused)
  · exact .inr (passed a l changed)

theorem eq_or_of_onLedger_ {f : Bank → Except Refusal Ledger} {answer : Unit → Answer} {Q : Prop}
    (performs : perform op = orFail (onLedger_ f) answer) (passed : ∀ l, f s = .ok l → Q) :
    (s.step op).2 = s ∨ Q := by
  rcases step_onLedger_ performs s with ⟨r, refused⟩ | ⟨l, changed, -⟩
  · exact .inl (congrArg Prod.snd refused)
  · exact .inr (passed l changed)

theorem ends_require {caller : Text} {role : Role} {f : Unit → Action α}
    (called : op.caller? = some caller) :
    (Action.require caller role >>= f).Ends s fun _ => s.Holds op role :=
  .decide_bind fun _ allowed => .inr ⟨caller, called, Check.require_eq_ok_iff.mp allowed⟩

theorem ends_attestSigned (attestation : SignedAttestation) (genuine : Bool) (now : Int)
    (called : op.caller? = some attestation.key) :
    (attestSigned attestation genuine now).Ends s fun _ => s.Holds op .attester :=
  .decide_bind fun _ _ => ends_require called

theorem ends_fulfill {caller id : Text} {claimed now : Int} {tx : Transaction} {e : Evidence}
    (called : op.caller? = some caller) (restricted : s.params.permissionlessFulfillment ≠ true) :
    (fulfill caller id claimed tx e now).Ends s fun _ => s.Holds op .redemptionFulfiller := by
  unfold fulfill
  refine .get_bind (.decide_bind fun _ allowed => .inr ⟨caller, called, ?_⟩)
  exact (ensure_eq_ok_iff.mp allowed).resolve_left restricted

theorem eq_or_of_outcome {x : Action α} {f : Except Refusal α → β} {answer : β → Answer} {Q : Prop}
    (ends : x.Ends s fun _ => Q)
    (performs : perform op s = orFail (outcome x >>= fun r => Pure.pure (f r)) answer s) :
    (s.step op).2 = s ∨ Q := by
  rw [step_after performs, after_outcome_bind]
  rcases ends with ⟨r, refused⟩ | passed
  · refine .inl ?_
    unfold Action.after
    rw [refused]
    rfl
  · exact .inr passed

theorem meets_of_own {caller owner : Text} {role : Role} (called : op.caller? = some caller)
    (allowed : caller = owner ∨ s.authority.allows caller role = true) :
    s.Meets op (.ownOrRole owner role) := by
  rcases allowed with rfl | allowed
  · exact .inl called
  · exact .inr ⟨caller, called, allowed⟩

/-- An operation whose caller is not as it asks leaves the bank as it was. -/
theorem step_eq_or_meets {d : Demand} (demanded : op.demand? s.params = some d) :
    (s.step op).2 = s ∨ s.Meets op d := by
  cases op with
  | attest | attestBatch | overrideBalance | resetRound | flagDefault | sync | syncBatch | vote
  | execute | freeze | thaw =>
    cases demanded
    exact eq_or_of_ends (ends_require rfl) rfl
  | propose caller other status reason now =>
    cases demanded
    have performs : perform (.propose caller other status reason now) s =
        orFail (propose caller other status reason now) (fun id => .number id) s := rfl
    exact eq_or_of_ends (ends_require rfl) performs
  | register caller =>
    cases demanded
    exact eq_or_of_onLedger rfl fun a l opened => ⟨caller, rfl, (Ledger.register_eq_ok opened).1⟩
  | mint caller =>
    cases demanded
    exact eq_or_of_onLedger rfl fun total l minted => ⟨caller, rfl, (Ledger.mint_eq_ok minted).1⟩
  | burn caller =>
    cases demanded
    exact eq_or_of_onLedger rfl fun total l burnt =>
      meets_of_own rfl (Ledger.redeem_eq_ok burnt).1
  | raiseCap caller =>
    cases demanded
    exact eq_or_of_onLedger_ rfl fun l raised => ⟨caller, rfl, (Ledger.raiseCap_eq_ok raised).1⟩
  | selfPause =>
    cases demanded
    exact eq_or_of_onLedger_ rfl fun l paused => congrArg some (Ledger.selfPause_eq_ok paused).1
  | resume =>
    cases demanded
    exact eq_or_of_onLedger_ rfl fun l resumed => congrArg some (Ledger.resume_eq_ok resumed).1
  | attachWallet =>
    cases demanded
    exact eq_or_of_onLedger_ rfl fun l attached =>
      meets_of_own rfl (Ledger.attachWallet_eq_ok attached).1
  | detachWallet =>
    cases demanded
    exact eq_or_of_onLedger_ rfl fun l detached =>
      meets_of_own rfl (Ledger.detachWallet_eq_ok detached).1
  | attachProven =>
    cases demanded
    refine eq_or_of_ends ((attachProven_ends ..).mono ?_) rfl
    rintro _ ⟨hash, l, attached, -⟩
    exact meets_of_own rfl (Ledger.attachWallet_eq_ok attached).1
  | detach =>
    cases demanded
    refine eq_or_of_ends ((detach_ends ..).mono ?_) rfl
    rintro _ ⟨-, l, detached, -⟩
    exact meets_of_own rfl (Ledger.detachWallet_eq_ok detached).1
  | attestSigned attestation now =>
    cases demanded
    cases judged : attestation.verify with
    | ok genuine =>
      exact eq_or_of_ends (ends_attestSigned attestation genuine now rfl)
        (perform_attestSigned judged now)
    | error fault => exact .inl (congrArg Prod.snd (step_attestSigned_unjudged judged now))
  | syncIfPossible =>
    cases demanded
    exact eq_or_of_outcome (ends_require rfl) rfl
  | report caller other reason now =>
    cases demanded
    refine eq_or_of_ends (.decide_bind fun _ checked => .inr ⟨caller, rfl, ?_⟩) rfl
    exact (checkReport_eq_ok_iff.mp checked).1
  | fulfill =>
    simp only [Operation.demand?, Option.ite_none_left_eq_some, Option.some.injEq] at demanded
    obtain ⟨restricted, rfl⟩ := demanded
    exact eq_or_of_ends (ends_fulfill rfl restricted) rfl
  | fulfillIfPossible =>
    simp only [Operation.demand?, Option.ite_none_left_eq_some, Option.some.injEq] at demanded
    obtain ⟨restricted, rfl⟩ := demanded
    exact eq_or_of_outcome (ends_fulfill rfl restricted) rfl
  | fulfillTrusted =>
    cases demanded
    exact eq_or_of_ends (.get_bind (.decide_bind fun _ _ => ends_require rfl)) rfl
  | grant | revoke | setRelay | mintToken | burnToken | transferToken | setBacking | setStatus
  | setFrozen | redeem | countReports | enforce | escalate | clearTimer | summarize =>
    cases demanded

/-- Who may make each kind of change that a step makes. -/
structure Confined (s : Bank) (op : Operation) (t : Bank) : Prop where
  /-- A reserve is registered or its cap raised. -/
  capped : ∀ reserve, (t.ledger.accounts.get? reserve).map Account.mintingCap ≠
    (s.ledger.accounts.get? reserve).map Account.mintingCap → s.Holds op .registrar
  minted : ∀ reserve, s.ledger.minted reserve < t.ledger.minted reserve → s.Holds op .minter
  burnt : ∀ reserve, t.ledger.minted reserve < s.ledger.minted reserve →
    s.Holds op .minter ∨ ∃ holder, op.caller? = some holder ∧
      t.ledger.token.balance holder = s.ledger.token.balance holder -
        (s.ledger.minted reserve - t.ledger.minted reserve)
  backed : ∀ reserve, t.ledger.backed reserve ≠ s.ledger.backed reserve →
    s.Holds op .attester ∨ s.Holds op .arbiter ∨ s.Holds op .syncer
  wallets : ∀ reserve, t.ledger.wallets reserve ≠ s.ledger.wallets reserve →
    op.caller? = some reserve ∨ s.Holds op .registrar
  moved : ∀ reserve, t.ledger.status reserve ≠ s.ledger.status reserve →
    (op.pauses = true ∧ op.caller? = some reserve) ∨
    (s.Holds op .watchdog ∧ ∃ caller id now, op = .execute caller id now) ∨
    (t.ledger.status reserve = .underReview ∧ ∃ code now, op = .enforce reserve code now ∧
      s.checkViolation reserve code now = .ok .violated)
  thawed : ∀ reserve, s.ledger.frozen reserve = true → t.ledger.frozen reserve = false →
    s.Holds op .governance
  frozen : ∀ reserve, s.ledger.frozen reserve = false → t.ledger.frozen reserve = true →
    s.Holds op .watchdog ∨ s.Holds op .governance ∨
    ∃ now started, op = .escalate reserve now ∧ s.timers.get? reserve = some started ∧
      started + s.params.escalationDelay ≤ now ∧ s.ledger.status reserve = .underReview

/-- A step that changes something has a caller as its operation asks. -/
theorem meets_of_changed {f : Bank → β} {d : Demand} (changed : f (s.step op).2 ≠ f s)
    (demanded : op.demand? s.params = some d) : s.Meets op d :=
  (step_eq_or_meets demanded).resolve_left fun same => changed (congrArg f same)

theorem registrar_of_capped
    (changed : ((s.step op).2.ledger.accounts.get? reserve).map Account.mintingCap ≠
      (s.ledger.accounts.get? reserve).map Account.mintingCap) : s.Holds op .registrar := by
  have meets (demanded : op.demand? s.params = some (.role .registrar)) :
      s.Meets op (.role .registrar) :=
    meets_of_changed (f := fun s => (s.ledger.accounts.get? reserve).map Account.mintingCap)
      changed demanded
  cases op with
  | register | raiseCap => exact meets rfl
  | _ =>
    refine absurd ((step_touched _ s).caps_eq ?_ ?_ reserve) changed
    · simp [Operation.parts]
    · simp [Operation.parts]

/-- Only minting adds to what is minted. -/
theorem minted_le_of_step (unminted : ∀ caller other holder amount now,
      op ≠ .mint caller other holder amount now) (reserve : Text) :
    (s.step op).2.ledger.minted reserve ≤ s.ledger.minted reserve := by
  cases op with
  | mint caller other holder amount now => exact absurd rfl (unminted caller other holder amount now)
  | burn caller other holder amount =>
    rcases step_burn caller other holder amount s with ⟨r, refused⟩ | ⟨total, l, burnt, done⟩
    · rw [refused]
    · rw [done]
      exact Ledger.minted_le_of_redeem reserve burnt
  | redeem caller other amount address wallet now =>
    rcases step_redeem_ledger caller other amount address wallet now s with same | ⟨total, burnt⟩
    · rw [same]
    · exact Ledger.minted_le_of_redeem reserve burnt
  | _ => exact ((step_touched _ s).minted_eq (by simp [Operation.parts]) reserve).le

theorem minter_of_minted
    (more : s.ledger.minted reserve < (s.step op).2.ledger.minted reserve) :
    s.Holds op .minter := by
  by_contra powerless
  refine absurd (minted_le_of_step ?_ reserve) more.not_ge
  rintro caller other holder amount now rfl
  exact powerless (meets_of_changed (f := fun s => s.ledger.minted reserve) more.ne' rfl)

/-- Whoever burns without being a minter burns tokens of their own. -/
theorem minter_or_own_of_burnt
    (less : (s.step op).2.ledger.minted reserve < s.ledger.minted reserve) :
    s.Holds op .minter ∨ ∃ holder, op.caller? = some holder ∧
      (s.step op).2.ledger.token.balance holder = s.ledger.token.balance holder -
        (s.ledger.minted reserve - (s.step op).2.ledger.minted reserve) := by
  cases op with
  | mint =>
    exact .inl (meets_of_changed (f := fun s => s.ledger.minted reserve) less.ne rfl)
  | burn caller other holder amount =>
    rcases step_burn caller other holder amount s with ⟨r, refused⟩ | ⟨total, l, burnt, done⟩
    · rw [refused] at less
      exact absurd less (lt_irrefl _)
    · rw [done] at less ⊢
      rcases (Ledger.redeem_eq_ok burnt).1 with rfl | minter
      · exact .inr ⟨caller, rfl, Ledger.balance_of_minted_lt burnt less⟩
      · exact .inl ⟨caller, rfl, minter⟩
  | redeem caller other amount address wallet now =>
    rcases step_redeem_ledger caller other amount address wallet now s with same | ⟨total, burnt⟩
    · rw [same] at less
      exact absurd less (lt_irrefl _)
    · exact .inr ⟨caller, rfl, Ledger.balance_of_minted_lt burnt less⟩
  | _ => exact absurd ((step_touched _ s).minted_eq (by simp [Operation.parts]) reserve) less.ne

theorem role_of_backed (called : op.primitive = false)
    (changed : (s.step op).2.ledger.backed reserve ≠ s.ledger.backed reserve) :
    s.Holds op .attester ∨ s.Holds op .arbiter ∨ s.Holds op .syncer := by
  have meets {d : Demand} (demanded : op.demand? s.params = some d) : s.Meets op d :=
    meets_of_changed (f := fun s => s.ledger.backed reserve) changed demanded
  cases op with
  | setBacking => cases called
  | attest | attestSigned | attestBatch => exact .inl (meets rfl)
  | overrideBalance => exact .inr (.inl (meets rfl))
  | sync | syncIfPossible | syncBatch => exact .inr (.inr (meets rfl))
  | _ =>
    refine absurd ((step_touched _ s).read_eq Account.Field.read_backing ?_ reserve) changed
    simp [Operation.parts]

/-- Only the wallets of the reserve that is named change. -/
theorem own_or_registrar_of_wallets
    (changed : (s.step op).2.ledger.wallets reserve ≠ s.ledger.wallets reserve) :
    op.caller? = some reserve ∨ s.Holds op .registrar := by
  have meets {other : Text} (named : other = reserve)
      (demanded : op.demand? s.params = some (.ownOrRole other .registrar)) :
      s.Meets op (.ownOrRole reserve .registrar) := by
    rw [← named]
    exact meets_of_changed (f := fun s => s.ledger.wallets reserve) changed demanded
  cases op with
  | attachWallet caller other wallet =>
    rcases step_attachWallet caller other wallet s with ⟨r, refused⟩ | ⟨l, attached, done⟩
    · rw [refused] at changed
      exact absurd rfl changed
    · rw [done] at changed
      exact meets (Ledger.eq_of_attachWallet attached changed) rfl
  | attachProven caller other wallet challenge tx e =>
    rcases step_attachProven caller other wallet challenge tx e s with
      ⟨r, refused⟩ | ⟨hash, l, attached, done⟩
    · rw [refused] at changed
      exact absurd rfl changed
    · rw [done] at changed
      exact meets (Ledger.eq_of_attachWallet attached changed) rfl
  | detachWallet caller other wallet =>
    rcases step_detachWallet caller other wallet s with ⟨r, refused⟩ | ⟨l, detached, done⟩
    · rw [refused] at changed
      exact absurd rfl changed
    · rw [done] at changed
      exact meets (Ledger.eq_of_detachWallet detached changed) rfl
  | detach caller other wallet =>
    rcases step_detach caller other wallet s with ⟨r, refused⟩ | ⟨-, l, detached, done⟩
    · rw [refused] at changed
      exact absurd rfl changed
    · rw [done] at changed
      exact meets (Ledger.eq_of_detachWallet detached changed) rfl
  | _ =>
    refine absurd ((step_touched _ s).read_eq Account.Field.read_wallets ?_ reserve) changed
    simp [Operation.parts]

theorem checkViolation_of_objective {code : Text} {v : Violation} {now : Int}
    (named : objective code = .ok v) :
    s.checkViolation reserve code now = s.examine reserve v now := by
  unfold objective at named
  unfold checkViolation
  split at named
  · rename_i found
    cases named
    rw [found]
  · cases named

/-- A reserve that pauses itself or resumes is the one whose status changes. -/
theorem own_of_moved {f : Bank → Except Refusal Ledger} {answer : Unit → Answer} {owner : Text}
    (performs : perform op = orFail (onLedger_ f) answer)
    (sets : ∀ l, f s = .ok l → ∃ status reason now,
      s.ledger.setStatus owner status reason now = .ok l)
    (demanded : op.demand? s.params = some (.own owner))
    (changed : (s.step op).2.ledger.status reserve ≠ s.ledger.status reserve) :
    op.caller? = some reserve := by
  have owned : op.caller? = some owner :=
    meets_of_changed (f := fun s => s.ledger.status reserve) changed demanded
  rcases step_onLedger_ performs s with ⟨r, refused⟩ | ⟨l, done, step⟩
  · rw [refused] at changed
    exact absurd rfl changed
  · obtain ⟨status, reason, now, set⟩ := sets l done
    rw [step] at changed
    rw [owned, Ledger.eq_of_setStatus set changed]

theorem violated_of_enforce {other code : Text} {now : Int}
    (changed : (s.step (.enforce other code now)).2.ledger.status reserve ≠
      s.ledger.status reserve) :
    other = reserve ∧
      (s.step (.enforce other code now)).2.ledger.status other = .underReview ∧
      s.checkViolation other code now = .ok .violated := by
  rcases step_enforce other code now s with ⟨r, refused⟩ | ⟨v, l, named, examined, reviewed, done⟩
  · rw [refused] at changed
    exact absurd rfl changed
  · have ledger : (s.step (.enforce other code now)).2.ledger = l := by
      rw [done]
      cases v with
      | staleAttestations => rfl
      | insufficientReserves => rfl
    rw [ledger] at changed ⊢
    rcases reviewed with ⟨-, rfl⟩ | set
    · exact absurd rfl changed
    · refine ⟨Ledger.eq_of_setStatus set changed, Ledger.status_of_setStatus set, ?_⟩
      rw [checkViolation_of_objective named, examined]

/-- What stands behind a change of status. -/
theorem cause_of_moved (called : op.primitive = false)
    (changed : (s.step op).2.ledger.status reserve ≠ s.ledger.status reserve) :
    (op.pauses = true ∧ op.caller? = some reserve) ∨
    (s.Holds op .watchdog ∧ ∃ caller id now, op = .execute caller id now) ∨
    ((s.step op).2.ledger.status reserve = .underReview ∧ ∃ code now,
      op = .enforce reserve code now ∧ s.checkViolation reserve code now = .ok .violated) := by
  cases op with
  | setStatus => cases called
  | selfPause =>
    refine .inl ⟨rfl, own_of_moved rfl (fun l paused => ?_) rfl changed⟩
    exact ⟨_, _, _, Ledger.setStatus_of_selfPause paused⟩
  | resume =>
    refine .inl ⟨rfl, own_of_moved rfl (fun l resumed => ?_) rfl changed⟩
    exact ⟨_, _, _, Ledger.setStatus_of_resume resumed⟩
  | execute caller id now =>
    have watchdog : s.Holds (.execute caller id now) .watchdog :=
      meets_of_changed (f := fun s => s.ledger.status reserve) changed rfl
    exact .inr (.inl ⟨watchdog, caller, id, now, rfl⟩)
  | enforce other code now =>
    obtain ⟨rfl, review, violated⟩ := violated_of_enforce changed
    exact .inr (.inr ⟨review, code, now, rfl, violated⟩)
  | _ =>
    refine absurd ((step_touched _ s).moved reserve ?_).status_eq changed
    simp [Operation.parts]

theorem governance_of_thawed (called : op.primitive = false)
    (frozen : s.ledger.frozen reserve = true)
    (thawed : (s.step op).2.ledger.frozen reserve = false) : s.Holds op .governance := by
  have unset : ∀ other frozen, op ≠ .setFrozen other frozen := by
    rintro other frozen rfl
    cases called
  rcases frozen_of_step unset thawed with before | ⟨⟨caller, rfl⟩, -⟩
  · cases frozen.symm.trans before
  · have changed : (s.step (.thaw caller reserve)).2.ledger.frozen reserve ≠
        s.ledger.frozen reserve := by
      rw [frozen, thawed]
      exact Bool.false_ne_true
    exact meets_of_changed (f := fun s => s.ledger.frozen reserve) changed rfl

/-- A reserve that is frozen stays so until governance acts. -/
theorem run_thawed {ops : List Operation} (called : ∀ op ∈ ops, op.primitive = false)
    (frozen : s.ledger.frozen reserve = true)
    (thawed : (s.run ops).ledger.frozen reserve = false) :
    ∃ before op after, ops = before ++ op :: after ∧ (s.run before).Holds op .governance := by
  induction ops using List.reverseRecOn with
  | nil => cases frozen.symm.trans thawed
  | append_singleton ops op ih =>
    rw [List.forall_mem_append, List.forall_mem_singleton] at called
    rw [run_concat] at thawed
    cases still : (s.run ops).ledger.frozen reserve with
    | true => exact ⟨ops, op, [], rfl, governance_of_thawed called.2 still thawed⟩
    | false =>
      obtain ⟨before, op', after, rfl, holds⟩ := ih called.1 still
      exact ⟨before, op', after ++ [op], by simp, holds⟩

/-- What stands behind a freeze. -/
theorem cause_of_frozen (called : op.primitive = false)
    (thawed : s.ledger.frozen reserve = false)
    (frozen : (s.step op).2.ledger.frozen reserve = true) :
    s.Holds op .watchdog ∨ s.Holds op .governance ∨
    ∃ now started, op = .escalate reserve now ∧ s.timers.get? reserve = some started ∧
      started + s.params.escalationDelay ≤ now ∧ s.ledger.status reserve = .underReview := by
  have changed : (s.step op).2.ledger.frozen reserve ≠ s.ledger.frozen reserve := by
    rw [frozen, thawed]
    exact Bool.false_ne_true.symm
  have meets {d : Demand} (demanded : op.demand? s.params = some d) : s.Meets op d :=
    meets_of_changed (f := fun s => s.ledger.frozen reserve) changed demanded
  cases op with
  | setFrozen => cases called
  | report => exact .inl (meets rfl)
  | freeze | thaw => exact .inr (.inl (meets rfl))
  | escalate other now =>
    rcases step_escalate other now s with
      ⟨r, refused⟩ | ⟨started, a, timed, found, ⟨-, stopped⟩ | ⟨review, due, l, froze, done⟩⟩
    · rw [refused] at changed
      exact absurd rfl changed
    · rw [stopped] at changed
      exact absurd rfl changed
    · rw [done] at changed
      rcases froze with ⟨-, rfl⟩ | froze
      · exact absurd rfl changed
      · have here : other = reserve := by
          by_contra ne
          refine changed ((Ledger.frozen_of_setFrozen froze reserve).trans (if_neg ne))
        subst here
        refine .inr (.inr ⟨now, started, rfl, timed, due, ?_⟩)
        rw [Ledger.status_of_get? found, review]
  | _ =>
    refine absurd ((step_touched _ s).read_eq Account.Field.read_frozen ?_ reserve) changed
    simp [Operation.parts]

/-- Whatever the state, an operation changes only what its caller may change. The primitives of the
ledger, which take no caller, are left out, and the escalation of a review is open to all. -/
theorem step_confined (s : Bank) (op : Operation) (called : op.primitive = false) :
    s.Confined op (s.step op).2 where
  capped _ changed := registrar_of_capped changed
  minted _ more := minter_of_minted more
  burnt _ less := minter_or_own_of_burnt less
  backed _ changed := role_of_backed called changed
  wallets _ changed := own_or_registrar_of_wallets changed
  moved _ changed := cause_of_moved called changed
  thawed _ frozen thawed := governance_of_thawed called frozen thawed
  frozen _ thawed frozen := cause_of_frozen called thawed frozen

/-- The minter mints in a bank that has a registrar, a minter and an arbiter. -/
theorem step_confined_mint :
    let op : Operation := .mint "minter" "reserve" "holder" 1000 (some 0)
    op.primitive = false ∧
      ((new .unwatched ⟨1, 1⟩ .testing).run (reviewing.take 2)).ledger.minted "reserve" = 0 ∧
      (((new .unwatched ⟨1, 1⟩ .testing).run (reviewing.take 2)).step op).2.ledger.minted
        "reserve" = 1000 ∧
      ((new .unwatched ⟨1, 1⟩ .testing).run (reviewing.take 2)).Holds op .minter := by
  intro op
  have before : ((new .unwatched ⟨1, 1⟩ .testing).run (reviewing.take 2)).ledger.minted
      "reserve" = 0 := by
    decide +kernel
  have after : (((new .unwatched ⟨1, 1⟩ .testing).run (reviewing.take 2)).step op).2.ledger.minted
      "reserve" = 1000 := by
    decide +kernel
  refine ⟨rfl, before, after, ?_⟩
  refine (step_confined _ op rfl).minted "reserve" ?_
  rw [before, after]
  decide

theorem run_authority (s : Bank) {ops : List Operation}
    (fixed : ∀ op ∈ ops, .authority ∉ op.parts) : (s.run ops).authority = s.authority := by
  induction ops using List.reverseRecOn with
  | nil => rfl
  | append_singleton ops op ih =>
    rw [List.forall_mem_append, List.forall_mem_singleton] at fixed
    rw [run_concat, (step_touched op (s.run ops)).authority_eq fixed.2, ih fixed.1]

/-- A reserve is frozen in a bank without watchdogs and governance, whoever calls the escalation. -/
theorem frozen_by_anyone :
    (∀ actor, ((new .unwatched ⟨1, 1⟩ .testing).run reviewing).authority.allows actor .watchdog =
        false ∧
      ((new .unwatched ⟨1, 1⟩ .testing).run reviewing).authority.allows actor .governance =
        false) ∧
      ((new .unwatched ⟨1, 1⟩ .testing).run reviewing).ledger.frozen "reserve" = false ∧
      (((new .unwatched ⟨1, 1⟩ .testing).run reviewing).step
        (.escalate "reserve" 2700)).2.ledger.frozen "reserve" = true := by
  have fixed : ((new .unwatched ⟨1, 1⟩ .testing).run reviewing).authority = .unwatched :=
    run_authority _ (by simp [reviewing, Operation.parts])
  rw [fixed]
  refine ⟨fun actor => ⟨?_, ?_⟩, by decide +kernel, by decide +kernel⟩
  · exact Authority.unwatched_allows (by decide +kernel) actor
  · exact Authority.unwatched_allows (by decide +kernel) actor

end Bank

end BitcoinReserve
