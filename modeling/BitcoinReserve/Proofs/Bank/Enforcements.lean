import BitcoinReserve.Proofs.Bank.Backing
import BitcoinReserve.Proofs.Bank.Statuses

/-!
# When a violation can be enforced

Enforcement asks for a violation that the oracle's data shows and for a reserve that is not revoked,
and for nothing else. The reading of many reserves finds those that enforcement would accept, and
the revoked ones with them. Where the oracle writes the backing, a reserve that lacks backing does
not escape enforcement.
-/
namespace BitcoinReserve

theorem Violation.named?_name (v : Violation) : named? v.name = some v := by
  cases v with
  | insufficientReserves => rfl
  | staleAttestations => rfl

theorem Violation.eq_name_of_named? {code : Text} {v : Violation} (named : named? code = some v) :
    code = v.name := by
  have same := List.find?_some named
  exact (of_decide_eq_true same).symm

/-- When a reserve can be frozen after the enforcement of the violation, where it starts a timer. -/
def Violation.deadline? (p : Parameters) (now : Int) : Violation → Option Int
  | insufficientReserves => some (now + p.escalationDelay)
  | staleAttestations => none

/-- The account under review for the violation. -/
def Account.reviewed (a : Account) (v : Violation) (now : Int) : Account :=
  if a.status = .underReview then a else a.moveTo .underReview v.name (some now)

namespace Account

theorem status_reviewed (a : Account) (v : Violation) (now : Int) :
    (a.reviewed v now).status = .underReview := by
  unfold reviewed
  split
  · assumption
  · rfl

/-- A review is told once, when it begins. -/
theorem history_reviewed (a : Account) (v : Violation) (now : Int) :
    (a.reviewed v now).history = a.history ++
      if a.status = .underReview then [] else [⟨a.status, .underReview, v.name, some now⟩] := by
  unfold reviewed
  split
  · exact (List.append_nil _).symm
  · rfl

end Account

namespace Ledger

variable {l l' : Ledger} {network : Network}

theorem Write.minted_nonneg (write : l.Write network l') (nonneg : ∀ reserve, 0 ≤ l.minted reserve)
    (reserve : Text) : 0 ≤ l'.minted reserve := by
  have before := nonneg reserve
  cases write with
  | amend amended => rwa [amended.minted_eq]
  | register opened => rwa [minted_of_register reserve opened]
  | mint minted =>
    obtain ⟨-, positive, -⟩ := mint_eq_ok minted
    rw [minted_of_mint reserve minted]
    split
    · omega
    · omega
  | @redeem _ _ other _ _ _ _ burnt =>
    obtain ⟨-, -, a, token, found, -, covered, -⟩ := redeem_eq_ok burnt
    rw [minted_of_redeem reserve burnt]
    split
    · rename_i here
      rw [← here, minted, Table.amountAt_of_get? _ found]
      omega
    · omega

/-- A reserve that is not under review is put there unless it is revoked. -/
theorem setStatus_underReview {reserve : Text} {a : Account}
    (found : l.accounts.get? reserve = some a) (stored : a.status ≠ .emergencyPaused)
    (outside : a.status ≠ .underReview) (v : Violation) (now : Int) :
    l.setStatus reserve .underReview v.name (some now) =
      if a.status = .revoked then .error (.moveNotAllowed .revoked .underReview)
      else .ok (l.put reserve (a.reviewed v now)) := by
  have account : l.account reserve = .ok a := Check.account_eq_ok_iff.mpr found
  simp only [setStatus, account, Account.reviewed, if_neg outside, Bind.bind, Except.bind]
  cases status : a.status with
  | active => rfl
  | selfPaused => rfl
  | underReview => exact absurd status outside
  | revoked => rfl
  | emergencyPaused => exact absurd status stored

end Ledger

namespace Bank

open BitcoinReserve.Action

variable {s t : Bank} {reserve : Text} {a : Account} {v : Violation} {now : Int}

theorem Touched.minted_nonneg {parts : List Part} (touched : s.Touched parts t)
    (nonneg : ∀ reserve, 0 ≤ s.ledger.minted reserve) : ∀ reserve, 0 ≤ t.ledger.minted reserve := by
  induction touched with
  | refl => exact nonneg
  | @tail u t _ last ih =>
    have written {l : Ledger} (write : u.ledger.Write u.params.network l) := write.minted_nonneg ih
    obtain ⟨part, -, touch⟩ := last
    cases touch with
    | opened opened => exact written (.register opened)
    | edited edited => exact written (.amend edited.amend)
    | minted minted => exact written (.mint minted)
    | burnt burnt => exact written (.redeem burnt)
    | authority | relay | oracle | redemptions | proposals | reports | timers | walletProofs
    | transferred | token => exact ih

/-- Nothing is ever burnt against a reserve that was not minted against it. -/
theorem run_minted_nonneg (authority : Authority) (relay : Relay) (params : Parameters)
    (ops : List Operation) (reserve : Text) :
    0 ≤ ((new authority relay params).run ops).ledger.minted reserve := by
  induction ops using List.reverseRecOn generalizing reserve with
  | nil => exact Int.le_refl 0
  | append_singleton ops op ih =>
    rw [run_concat]
    exact (step_touched op _).minted_nonneg ih reserve

/-- The oracle's data shows the violation of a reserve with this account. -/
def Shows (s : Bank) (a : Account) (reserve : Text) (now : Int) : Violation → Prop
  | .insufficientReserves => ∃ b, s.oracle.balances.get? reserve = some b ∧
      now - b.updatedAt ≤ s.params.maxStaleness ∧
      b.amount * 100 < a.minted * s.params.minCollateralRatio
  | .staleAttestations => ∀ b, s.oracle.balances.get? reserve = some b →
      s.params.maxStaleness < now - b.updatedAt

theorem shows_insufficientReserves_iff :
    s.Shows a reserve now .insufficientReserves ↔
      (s.oracle.balanceAndAge s.params reserve now).2 = false ∧
        (s.oracle.balanceAndAge s.params reserve now).1 * 100 <
          a.minted * s.params.minCollateralRatio := by
  unfold Shows Oracle.balanceAndAge
  cases s.oracle.balances.get? reserve with
  | none => simp
  | some b => simp

theorem shows_staleAttestations_iff :
    s.Shows a reserve now .staleAttestations ↔
      (s.oracle.balanceAndAge s.params reserve now).2 = true := by
  unfold Shows Oracle.balanceAndAge
  cases s.oracle.balances.get? reserve with
  | none => simp
  | some b => simp

/-- Of a registered reserve the data tells whether the violation is there. -/
theorem exists_examine (found : s.ledger.accounts.get? reserve = some a) (v : Violation)
    (now : Int) : ∃ finding, s.examine reserve v now = .ok finding ∧
      (finding = .violated ↔ s.Shows a reserve now v) := by
  have account : s.ledger.account reserve = .ok a := Check.account_eq_ok_iff.mpr found
  simp only [examine, account, Bind.bind, Except.bind]
  cases v with
  | insufficientReserves =>
    rw [shows_insufficientReserves_iff]
    cases s.oracle.balanceAndAge s.params reserve now with
    | mk balance old =>
      cases old with
      | true => exact ⟨.stale, rfl, by simp⟩
      | false =>
        by_cases lacking : balance * 100 < a.minted * s.params.minCollateralRatio
        · exact ⟨.violated, by simp [lacking], by simp [lacking]⟩
        · exact ⟨.sufficient, by simp [lacking], by simp [lacking]⟩
  | staleAttestations =>
    rw [shows_staleAttestations_iff]
    cases s.oracle.balanceAndAge s.params reserve now with
    | mk balance old =>
      cases old with
      | true => exact ⟨.violated, rfl, by simp⟩
      | false => exact ⟨.fresh, rfl, by simp⟩

/-- The bank with the reserve under review for the violation, and with a timer where too little
backing is the violation. -/
def reviewed (s : Bank) (a : Account) (reserve : Text) (v : Violation) (now : Int) : Bank :=
  { s with
    ledger := s.ledger.put reserve (a.reviewed v now)
    timers := if v = .insufficientReserves then s.timers.insert reserve now else s.timers }

/-- How the enforcement of a violation ends on a reserve with this account. -/
inductive Enforces (s : Bank) (a : Account) (reserve : Text) (v : Violation) (now : Int) :
    EStateM.Result Refusal Bank (Option Int) → Prop
  | unshown (finding : Violation.Finding) (unshown : ¬ s.Shows a reserve now v) :
      Enforces s a reserve v now (.error (.noViolation finding) s)
  | barred (shown : s.Shows a reserve now v) (revoked : a.status = .revoked) :
      Enforces s a reserve v now (.error (.moveNotAllowed .revoked .underReview) s)
  | reviewed (shown : s.Shows a reserve now v) (unrevoked : a.status ≠ .revoked) :
      Enforces s a reserve v now
        (.ok (v.deadline? s.params now) (s.reviewed a reserve v now))

theorem enforces (found : s.ledger.accounts.get? reserve = some a)
    (stored : a.status ≠ .emergencyPaused) (v : Violation) (now : Int) :
    (enforce reserve v.name now).Yields s (s.Enforces a reserve v now) := by
  have named : objective v.name = .ok v := by rw [objective, Violation.named?_name]
  have account : s.ledger.account reserve = .ok a := Check.account_eq_ok_iff.mpr found
  obtain ⟨finding, examined, shown⟩ := exists_examine found v now
  unfold enforce
  refine .decide_of_ok named (.decide_of_ok examined (.decide_bind (fun r refused => ?_) ?_))
  · obtain ⟨fine, rfl⟩ := Check.ensure_eq_error_iff.mp refused
    exact .unshown finding (mt shown.mpr fine)
  intro _ violated
  have shows := shown.mp (ensure_eq_ok_iff.mp violated)
  refine .decide_of_ok account ?_
  extract_lets start
  have starts (unrevoked : a.status ≠ .revoked) :
      (start ()).Yields { s with ledger := s.ledger.put reserve (a.reviewed v now) }
        (s.Enforces a reserve v now) := by
    have reviewed := Enforces.reviewed shows unrevoked
    cases v with
    | insufficientReserves => exact reviewed
    | staleAttestations => exact reviewed
  by_cases already : a.status = .underReview
  · have same : s.ledger.put reserve (a.reviewed v now) = s.ledger := by
      rw [Account.reviewed, if_pos already, Ledger.put_of_get? found]
    have stays := starts (by rw [already]; decide)
    rw [same] at stays
    rw [if_neg (not_not.mpr already)]
    exact stays
  · have moves := Ledger.setStatus_underReview found stored already v now
    rw [if_pos already]
    by_cases revoked : a.status = .revoked
    · rw [if_pos revoked] at moves
      refine .onLedger_unit_cases (fun r refused => ?_) fun l changed => ?_
      · cases moves.symm.trans refused
        exact .barred shows revoked
      · cases moves.symm.trans changed
    · rw [if_neg revoked] at moves
      exact .onLedger_unit_bind moves (starts revoked)

/-- The three endings of an enforcement, as the answer and the state of its operation. -/
theorem step_enforce_cases (found : s.ledger.accounts.get? reserve = some a)
    (stored : a.status ≠ .emergencyPaused) (v : Violation) (now : Int) :
    (¬ s.Shows a reserve now v ∧ ∃ finding, s.step (.enforce reserve v.name now) =
        (.error (.refused (.noViolation finding)), s)) ∨
      (s.Shows a reserve now v ∧ a.status = .revoked ∧ s.step (.enforce reserve v.name now) =
        (.error (.refused (.moveNotAllowed .revoked .underReview)), s)) ∨
      (s.Shows a reserve now v ∧ a.status ≠ .revoked ∧ s.step (.enforce reserve v.name now) =
        (.ok (.due (v.deadline? s.params now)), s.reviewed a reserve v now)) := by
  have performs : perform (.enforce reserve v.name now) s =
      orFail (enforce reserve v.name now) .due s := rfl
  obtain ⟨result, ended, enforces⟩ := (enforces found stored v now).exists_result
  rw [step_orFail performs, ended]
  cases enforces with
  | unshown finding unshown => exact .inl ⟨unshown, finding, rfl⟩
  | barred shown revoked => exact .inr (.inl ⟨shown, revoked, rfl⟩)
  | reviewed shown unrevoked => exact .inr (.inr ⟨shown, unrevoked, rfl⟩)

/-- An enforcement is accepted where the violation is shown of a reserve that is not revoked. -/
theorem enforce_accepted_iff (found : s.ledger.accounts.get? reserve = some a)
    (stored : a.status ≠ .emergencyPaused) :
    (∃ answer, (s.step (.enforce reserve v.name now)).1 = .ok answer) ↔
      s.Shows a reserve now v ∧ a.status ≠ .revoked := by
  rcases step_enforce_cases found stored v now with
    ⟨unshown, finding, step⟩ | ⟨-, revoked, step⟩ | ⟨shown, unrevoked, step⟩
  · simp [step, unshown]
  · simp [step, revoked]
  · simp [step, shown, unrevoked]

theorem enforce_barred_iff (found : s.ledger.accounts.get? reserve = some a)
    (stored : a.status ≠ .emergencyPaused) :
    (s.step (.enforce reserve v.name now)).1 =
        .error (.refused (.moveNotAllowed .revoked .underReview)) ↔
      s.Shows a reserve now v ∧ a.status = .revoked := by
  rcases step_enforce_cases found stored v now with
    ⟨unshown, finding, step⟩ | ⟨shown, revoked, step⟩ | ⟨-, unrevoked, step⟩
  · simp [step, unshown]
  · simp [step, shown, revoked]
  · simp [step, unrevoked]

theorem step_of_accepted {answer : Answer} (found : s.ledger.accounts.get? reserve = some a)
    (stored : a.status ≠ .emergencyPaused)
    (accepted : (s.step (.enforce reserve v.name now)).1 = .ok answer) :
    s.step (.enforce reserve v.name now) =
      (.ok (.due (v.deadline? s.params now)), s.reviewed a reserve v now) := by
  rcases step_enforce_cases found stored v now with
    ⟨-, finding, step⟩ | ⟨-, -, step⟩ | ⟨-, -, step⟩
  · cases (congrArg Prod.fst step).symm.trans accepted
  · cases (congrArg Prod.fst step).symm.trans accepted
  · exact step

/-- The enforcement succeeds, or is refused for nothing but the revocation of the reserve. -/
def enforceable (s : Bank) (reserve code : Text) (now : Int) : Bool :=
  match (s.step (.enforce reserve code now)).1 with
  | .ok _ => true
  | .error (.refused (.moveNotAllowed .revoked .underReview)) => true
  | .error _ => false

theorem enforceable_iff (found : s.ledger.accounts.get? reserve = some a)
    (stored : a.status ≠ .emergencyPaused) (v : Violation) (now : Int) :
    s.enforceable reserve v.name now = true ↔ s.Shows a reserve now v := by
  unfold enforceable
  rcases step_enforce_cases found stored v now with
    ⟨unshown, finding, step⟩ | ⟨shown, -, step⟩ | ⟨shown, -, step⟩
  · simp [step, unshown]
  · simp [step, shown]
  · simp [step, shown]

theorem enforceable_of_unnamed {code : Text} (unnamed : Violation.named? code = none) :
    s.enforceable reserve code now = false := by
  have performs : perform (.enforce reserve code now) s =
      orFail (enforce reserve code now) .due s := rfl
  have ended : enforce reserve code now s = .error (.notObjective code) s := by
    simp only [enforce, objective, unnamed, Bind.bind, EStateM.bind, Action.decide]
  rw [enforceable, step_orFail performs, ended]

/-- The reading of many reserves finds those whose enforcement is accepted, or refused for nothing
but their revocation. -/
theorem violators_eq
    (stored : ∀ reserve a, s.ledger.accounts.get? reserve = some a → a.status ≠ .emergencyPaused)
    (reserves : List Text) (code : Text) (now : Int) :
    s.violators reserves code now = reserves.filter fun reserve =>
      s.ledger.hasReserve reserve && s.enforceable reserve code now := by
  unfold violators
  refine List.filter_congr fun reserve _ => ?_
  unfold checkViolation Ledger.hasReserve Table.contains
  cases named : Violation.named? code with
  | none => simp [enforceable_of_unnamed named]
  | some v =>
    obtain rfl := Violation.eq_name_of_named? named
    cases found : s.ledger.accounts.get? reserve with
    | none =>
      simp only [Option.isSome_none, Bool.false_and]
      split
      · rfl
      · rfl
    | some a =>
      obtain ⟨finding, examined, shown⟩ := exists_examine found v now
      have accepted := enforceable_iff found (stored reserve a found) v now
      rw [← shown] at accepted
      simp only [examined, Option.isSome_some, Bool.true_and]
      by_cases violated : finding = .violated
      · rw [accepted.mpr violated, violated]
      · rw [Bool.eq_false_iff.mpr (mt accepted.mp violated)]
        cases finding with
        | violated => exact absurd rfl violated
        | notObjective | fresh | stale | sufficient => rfl

theorem run_status_stored (authority : Authority) (relay : Relay) (params : Parameters)
    (ops : List Operation) (reserve : Text) (a : Account)
    (found : ((new authority relay params).run ops).ledger.accounts.get? reserve = some a) :
    a.status ≠ .emergencyPaused := by
  obtain ⟨later, moved⟩ := run_moved (new authority relay params) ops reserve
  rw [← Ledger.status_of_get? found]
  exact moved.course.stored nofun

/-- With the oracle's balance as its backing, a reserve with fresh data lacks backing as its account
has it. -/
theorem Agrees.shows_iff (agrees : s.Agrees) {b : Balance}
    (found : s.ledger.accounts.get? reserve = some a)
    (heard : s.oracle.balances.get? reserve = some b)
    (fresh : now - b.updatedAt ≤ s.params.maxStaleness) :
    s.Shows a reserve now .insufficientReserves ↔
      a.backing * 100 < a.minted * s.params.minCollateralRatio := by
  obtain ⟨-, same, -⟩ := agrees.account found
  obtain ⟨amount, -⟩ := same b heard
  rw [amount]
  constructor
  · rintro ⟨b', heard', -, lacking⟩
    cases heard.symm.trans heard'
    exact lacking
  · exact fun lacking => ⟨b, heard, fresh, lacking⟩

/-- Backing below what is minted is too little at every ratio that is sound. -/
theorem lacking_of_backing_lt (nonneg : 0 ≤ a.minted) (lacking : a.backing < a.minted) :
    a.backing * 100 < a.minted * s.params.minCollateralRatio :=
  calc a.backing * 100 < a.minted * 100 := by omega
    _ ≤ a.minted * s.params.minCollateralRatio :=
      Int.mul_le_mul_of_nonneg_left s.params.sound.minCollateralRatio_ge nonneg

/-- A violation is enforced exactly if the oracle's data shows it and the reserve is not revoked.
The reading of many reserves finds those for which this holds but for the revocation. -/
theorem run_enforcements (authority : Authority) (relay : Relay) (params : Parameters)
    (ops : List Operation) :
    let s := (new authority relay params).run ops
    (∀ reserve a, s.ledger.accounts.get? reserve = some a → ∀ v now,
      let ending := (s.step (.enforce reserve v.name now)).1
      ((∃ answer, ending = .ok answer) ↔ s.Shows a reserve now v ∧ a.status ≠ .revoked) ∧
      (ending = .error (.refused (.moveNotAllowed .revoked .underReview)) ↔
        s.Shows a reserve now v ∧ a.status = .revoked) ∧
      ∀ answer, ending = .ok answer →
        s.step (.enforce reserve v.name now) =
          (.ok (.due (v.deadline? s.params now)), s.reviewed a reserve v now) ∧
        (a.reviewed v now).status = .underReview ∧
        (a.reviewed v now).history = a.history ++
          if a.status = .underReview then [] else [⟨a.status, .underReview, v.name, some now⟩]) ∧
    (∀ reserves code now, s.violators reserves code now = reserves.filter fun reserve =>
      s.ledger.hasReserve reserve && s.enforceable reserve code now) ∧
    ((∀ reserve backing now, .setBacking reserve backing now ∉ ops) →
      ∀ reserve a b now, s.ledger.accounts.get? reserve = some a → a.status ≠ .revoked →
        s.oracle.balances.get? reserve = some b → now - b.updatedAt ≤ s.params.maxStaleness →
        let code := Violation.insufficientReserves.name
        ((∃ answer, (s.step (.enforce reserve code now)).1 = .ok answer) ↔
          a.backing * 100 < a.minted * s.params.minCollateralRatio) ∧
        (a.backing < a.minted →
          ∃ answer, (s.step (.enforce reserve code now)).1 = .ok answer)) := by
  intro s
  have stored := run_status_stored authority relay params ops
  refine ⟨fun reserve a found v now => ?_, violators_eq stored, ?_⟩
  · have unpaused := stored reserve a found
    exact ⟨enforce_accepted_iff found unpaused, enforce_barred_iff found unpaused,
      fun answer accepted => ⟨step_of_accepted found unpaused accepted, a.status_reviewed v now,
        a.history_reviewed v now⟩⟩
  · intro unset reserve a b now found unrevoked heard fresh code
    have agrees := run_agrees authority relay params ops unset
    have nonneg : 0 ≤ a.minted := by
      have minted := run_minted_nonneg authority relay params ops reserve
      rwa [Ledger.minted, Table.amountAt_of_get? _ found] at minted
    have accepted_iff : (∃ answer, (s.step (.enforce reserve code now)).1 = .ok answer) ↔
        a.backing * 100 < a.minted * s.params.minCollateralRatio := by
      rw [enforce_accepted_iff found (stored reserve a found),
        agrees.shows_iff found heard fresh]
      exact and_iff_left unrevoked
    exact ⟨accepted_iff, fun lacking => accepted_iff.mpr (lacking_of_backing_lt nonneg lacking)⟩

/-- A reserve whose backing is found to be half of what is minted. -/
def halved : List Operation :=
  [.register "registrar" "reserve" 1000 (some 0),
    .overrideBalance "arbiter" "reserve" 1000 "audit" 0,
    .mint "minter" "reserve" "holder" 1000 (some 0),
    .overrideBalance "arbiter" "reserve" 500 "second audit" 0]

/-- The reserve is found as often as it is asked about, and comes under review with a timer. -/
theorem run_enforcements_halved :
    let s := (new .everyone ⟨1, 1⟩ .testing).run halved
    let code : Text := "INSUFFICIENT_RESERVES"
    (∀ reserve backing now, .setBacking reserve backing now ∉ halved) ∧
      ∃ a b, s.ledger.accounts.get? "reserve" = some a ∧ a.status ≠ .revoked ∧
        s.oracle.balances.get? "reserve" = some b ∧ 0 - b.updatedAt ≤ s.params.maxStaleness ∧
        a.backing < a.minted ∧
        s.step (.enforce "reserve" code 0) =
          (.ok (.due (some 2700)), s.reviewed a "reserve" .insufficientReserves 0) ∧
        s.violators ["reserve", "stranger", "reserve"] code 0 = ["reserve", "reserve"] := by
  intro s code
  have unset : ∀ reserve backing now, .setBacking reserve backing now ∉ halved := by
    simp [halved]
  have account : (s.ledger.accounts.get? "reserve").map
      (fun a => (a.status, a.backing, a.minted)) = some (.active, 500, 1000) := by decide +kernel
  have balance : s.oracle.balances.get? "reserve" = some ⟨500, 0, none⟩ := by decide +kernel
  obtain ⟨a, found, values⟩ := Option.map_eq_some_iff.mp account
  obtain ⟨active, rest⟩ := Prod.mk.inj values
  obtain ⟨backing, minted⟩ := Prod.mk.inj rest
  have unrevoked : a.status ≠ .revoked := by
    rw [active]
    decide
  have fresh : (0 : Int) - (⟨500, 0, none⟩ : Balance).updatedAt ≤ s.params.maxStaleness := by
    decide +kernel
  have lacking : a.backing < a.minted := by omega
  obtain ⟨exactly, batch, complete⟩ := run_enforcements .everyone ⟨1, 1⟩ .testing halved
  obtain ⟨answer, accepted⟩ :=
    (complete unset "reserve" a _ 0 found unrevoked balance fresh).2 lacking
  obtain ⟨step, -⟩ := (exactly "reserve" a found .insufficientReserves 0).2.2 answer accepted
  refine ⟨unset, a, _, found, unrevoked, balance, fresh, lacking, step, ?_⟩
  rw [batch]
  decide +kernel

end Bank

end BitcoinReserve
