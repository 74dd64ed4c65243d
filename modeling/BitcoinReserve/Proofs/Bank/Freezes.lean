import BitcoinReserve.Proofs.Bank.Openings
import BitcoinReserve.Proofs.Bank.Reports

/-!
# Frozen and revoked reserves

A freeze lies beside the status: setting and clearing it leaves the status and its history alone.
While a reserve is frozen, and for ever once it is revoked, nothing is minted or burnt against it
and no redemption of it is opened.
-/
namespace BitcoinReserve

/-- Whether an operation is one that freezes or thaws reserves. -/
def Operation.flags : Operation → Bool
  | .setFrozen .. | .report .. | .freeze .. | .thaw .. | .escalate .. => true
  | _ => false

/-- Whether an operation is one by which a reserve pauses itself or resumes. -/
def Operation.pauses : Operation → Bool
  | .selfPause .. | .resume .. => true
  | _ => false

namespace Ledger

/-- Neither minting nor redeeming is open to the reserve. -/
def Halted (l : Ledger) (reserve : Text) : Prop :=
  l.frozen reserve = true ∨ l.status reserve = .revoked

variable {l l' : Ledger} {auth : Authority} {caller reserve other holder : Text}
  {amount total : Int}

theorem Halted.ne_of_mint {p : Parameters} {now : Option Int} (halted : l.Halted reserve)
    (minted : l.mint auth p caller other holder amount now = .ok (total, l')) :
    other ≠ reserve := by
  rintro rfl
  obtain ⟨-, -, a, token, found, thawed, active, -⟩ := mint_eq_ok minted
  rcases halted with frozen | revoked
  · rw [Ledger.frozen, read_of_get? found, thawed] at frozen
    cases frozen
  · rw [status_of_get? found, active] at revoked
    cases revoked

theorem Halted.ne_of_redeem (halted : l.Halted reserve)
    (burnt : l.redeem auth caller other holder amount = .ok (total, l')) : other ≠ reserve := by
  rintro rfl
  obtain ⟨-, -, a, token, found, redeemable, -⟩ := redeem_eq_ok burnt
  simp only [Account.canRedeem, Bool.and_eq_true, Bool.not_eq_true'] at redeemable
  rcases halted with frozen | revoked
  · rw [Ledger.frozen, read_of_get? found, redeemable.2] at frozen
    cases frozen
  · rw [status_of_get? found] at revoked
    rw [revoked] at redeemable
    cases redeemable.1

/-- A reserve that is under review or revoked neither pauses itself nor resumes. -/
theorem get?_of_selfPause {now : Option Int} {a : Account}
    (paused : l.selfPause caller other now = .ok l') (found : l.accounts.get? reserve = some a)
    (closed : a.status = .underReview ∨ a.status = .revoked) :
    l'.accounts.get? reserve = some a := by
  obtain ⟨b, found', -, allowed, rfl⟩ := setStatus_eq_ok (setStatus_of_selfPause paused)
  rw [get?_put, if_neg, found]
  rintro rfl
  cases found.symm.trans found'
  rcases closed with review | revoked
  · rw [review] at allowed
    cases allowed
  · rw [revoked] at allowed
    cases allowed

theorem get?_of_resume {now : Option Int} {a : Account}
    (resumed : l.resume caller other now = .ok l') (found : l.accounts.get? reserve = some a)
    (closed : a.status = .underReview ∨ a.status = .revoked) :
    l'.accounts.get? reserve = some a := by
  obtain ⟨-, resumed, b, found', paused⟩ := resume_eq_ok resumed
  obtain ⟨_, -, -, -, rfl⟩ := setStatus_eq_ok resumed
  rw [get?_put, if_neg, found]
  rintro rfl
  cases found.symm.trans found'
  rcases closed with review | revoked
  · cases review.symm.trans paused
  · cases revoked.symm.trans paused

end Ledger

namespace Bank

/-- The event clears the freeze of the reserve. -/
def Event.thaws (e : Event) (reserve : Text) : Bool :=
  match e.operation, e.ending with
  | .thaw _ thawed, .ok _ => thawed = reserve
  | .setFrozen thawed false, .ok _ => thawed = reserve
  | _, _ => false

/-- Nothing is minted or burnt against the reserve in a run, and no redemption of it is opened: each
record of one has been there with its terms. -/
structure Still (s : Bank) (ops : List Operation) (reserve : Text) : Prop where
  minted_eq : (s.run ops).ledger.minted reserve = s.ledger.minted reserve
  unopened : ∀ e ∈ s.events ops, ∀ r, e.opened? = some r → r.reserve ≠ reserve
  recorded : ∀ id r, (s.run ops).redemptions.records.get? id = some r → r.reserve = reserve →
    ∃ r', s.redemptions.records.get? id = some r' ∧ r.terms = r'.terms

variable {s : Bank} {reserve : Text}

theorem run_capsRise (s : Bank) (ops : List Operation) :
    s.ledger.CapsRise (s.run ops).ledger := by
  induction ops using List.reverseRecOn with
  | nil => exact .refl _
  | append_singleton ops op ih =>
    rw [run_concat]
    exact ih.trans (step_touched op (s.run ops)).capsRise

theorem run_keyed (keyed : s.redemptions.Keyed) (ops : List Operation) :
    (s.run ops).redemptions.Keyed := by
  induction ops using List.reverseRecOn with
  | nil => exact keyed
  | append_singleton ops op ih => exact (books_concat s ops op).keyed ih

theorem minted_of_step (op : Operation) (halted : s.ledger.Halted reserve) :
    (s.step op).2.ledger.minted reserve = s.ledger.minted reserve := by
  cases op with
  | mint caller other holder amount now =>
    rcases step_mint caller other holder amount now s with ⟨r, refused⟩ | ⟨total, l, minted, done⟩
    · rw [refused]
    · rw [done]
      refine (Ledger.minted_of_mint reserve minted).trans ?_
      rw [if_neg (halted.ne_of_mint minted), Int.add_zero]
  | burn caller other holder amount =>
    rcases step_burn caller other holder amount s with ⟨r, refused⟩ | ⟨total, l, burnt, done⟩
    · rw [refused]
    · rw [done]
      refine (Ledger.minted_of_redeem reserve burnt).trans ?_
      rw [if_neg (halted.ne_of_redeem burnt), Int.sub_zero]
  | redeem caller other amount address wallet now =>
    rcases step_redeem_ledger caller other amount address wallet now s with same | ⟨total, burnt⟩
    · rw [same]
    · rw [Ledger.minted_of_redeem reserve burnt, if_neg (halted.ne_of_redeem burnt), Int.sub_zero]
  | _ => exact (step_touched _ s).minted_eq (by simp [Operation.parts]) reserve

/-- A redemption that is opened has burnt tokens against its reserve. -/
theorem burnt_of_opened {op : Operation} {r : Redemption}
    (opens : Event.opened? ⟨s, op⟩ = some r) :
    ∃ caller amount total l,
      s.ledger.redeem s.authority caller r.reserve caller amount = .ok (total, l) := by
  cases op with
  | redeem caller other amount address wallet now =>
    rcases step_redeem caller other amount address wallet now s with
      ⟨refusal, refused⟩ | ⟨total, l, -, burnt, done⟩
    · simp [Event.opened?, Event.ending, refused] at opens
    · cases named : Redemption.idOf?
        (Redemption.seed other caller (s.redemptions.count + 1) now) with
      | none =>
        rw [named] at done
        simp [Event.opened?, Event.ending, done] at opens
      | some id =>
        rw [named] at done
        simp only [Event.opened?, Event.ending, done, Option.some.injEq] at opens
        subst opens
        exact ⟨caller, amount, total, l, burnt⟩
  | _ => cases opens

theorem ne_of_opened {op : Operation} {r : Redemption} (halted : s.ledger.Halted reserve)
    (opens : Event.opened? ⟨s, op⟩ = some r) : r.reserve ≠ reserve := by
  obtain ⟨caller, amount, total, l, burnt⟩ := burnt_of_opened opens
  exact halted.ne_of_redeem burnt

theorem Event.Books.recorded {e : Event} {b : RedemptionBook} (books : e.Books b)
    (keyed : e.found.redemptions.Keyed)
    (unopened : ∀ r, e.opened? = some r → r.reserve ≠ reserve) {id : Text} {r : Redemption}
    (found : b.records.get? id = some r) (own : r.reserve = reserve) :
    ∃ r', e.found.redemptions.records.get? id = some r' ∧ r.terms = r'.terms := by
  cases books with
  | kept => exact ⟨r, found, rfl⟩
  | unnamed => exact ⟨r, found, rfl⟩
  | opened redeemable seeded hashes opens =>
    rw [RedemptionBook.get?_add] at found
    split at found
    · cases found
      exact absurd own (unopened _ opens)
    · exact ⟨r, found, rfl⟩
  | closed opens before pending closes =>
    exact (RedemptionBook.settles_settle keyed _ before closes.closing).before found

theorem Still.nil (s : Bank) (reserve : Text) : s.Still [] reserve where
  minted_eq := rfl
  unopened _ mem := nomatch mem
  recorded _ r found _ := ⟨r, found, rfl⟩

theorem Still.concat {ops : List Operation} (still : s.Still ops reserve) (op : Operation)
    (keyed : (s.run ops).redemptions.Keyed) (halted : (s.run ops).ledger.Halted reserve) :
    s.Still (ops ++ [op]) reserve where
  minted_eq := by
    rw [run_concat]
    exact (minted_of_step op halted).trans still.minted_eq
  unopened := by
    rw [events_concat, List.forall_mem_append, List.forall_mem_singleton]
    exact ⟨still.unopened, fun r opens => ne_of_opened halted opens⟩
  recorded id r found own := by
    have unopened (r : Redemption) (opens : Event.opened? ⟨s.run ops, op⟩ = some r) :
        r.reserve ≠ reserve := ne_of_opened halted opens
    obtain ⟨r', before, same⟩ := (books_concat s ops op).recorded keyed unopened found own
    have own' : r'.reserve = reserve := by
      rw [← own]
      exact (congrArg Redemption.Terms.reserve same).symm
    obtain ⟨r'', first, same'⟩ := still.recorded id r' before own'
    exact ⟨r'', first, same.trans same'⟩

/-- As long as each operation of a run finds the reserve halted, nothing happens to its tokens. -/
theorem run_still (keyed : s.redemptions.Keyed) {ops : List Operation}
    (halted : ∀ n < ops.length, (s.run (ops.take n)).ledger.Halted reserve) :
    s.Still ops reserve := by
  induction ops using List.reverseRecOn with
  | nil => exact .nil s reserve
  | append_singleton ops op ih =>
    rw [List.length_append, List.length_singleton] at halted
    have last := halted ops.length (Nat.lt_succ_self _)
    rw [List.take_left] at last
    refine (ih fun n less => ?_).concat op (run_keyed keyed ops) last
    have earlier := halted n (Nat.lt_succ_of_lt less)
    rwa [List.take_append_of_le_length (Nat.le_of_lt less)] at earlier

/-- Revocation is for ever. -/
theorem run_revoked (revoked : s.ledger.status reserve = .revoked) (ops : List Operation) :
    (s.run ops).ledger.status reserve = .revoked ∧
      (s.run ops).ledger.history reserve = s.ledger.history reserve := by
  obtain ⟨later, moved⟩ := run_moved s ops reserve
  have course := moved.course
  rw [revoked] at course
  obtain ⟨rfl, same⟩ := course.of_revoked
  exact ⟨same, by rw [moved.history_eq, List.append_nil]⟩

theorem still_of_revoked (keyed : s.redemptions.Keyed)
    (revoked : s.ledger.status reserve = .revoked) (ops : List Operation) :
    s.Still ops reserve :=
  run_still keyed fun n _ => .inr (run_revoked revoked (ops.take n)).1

theorem frozen_of_thaws {op : Operation} (thaws : Event.thaws ⟨s, op⟩ reserve = true) :
    (s.step op).2.ledger.frozen reserve = false := by
  unfold Event.thaws Event.ending at thaws
  cases op with
  | thaw caller other =>
    rcases step_thaw caller other s with ⟨r, refused⟩ | ⟨l, thawed, done⟩
    · simp [refused] at thaws
    · simp only [done, decide_eq_true_eq] at thaws
      rw [done, Ledger.frozen_of_setFrozen thawed, if_pos thaws]
  | setFrozen other frozen =>
    have performs : perform (.setFrozen other frozen) =
        orFail (Action.onLedger_ fun s => s.ledger.setFrozen other frozen)
          fun _ => .nothing := rfl
    rcases step_onLedger_ performs s with ⟨r, refused⟩ | ⟨l, thawed, done⟩
    · simp [refused] at thaws
    · cases frozen with
      | true => simp at thaws
      | false =>
        simp only [done, decide_eq_true_eq] at thaws
        rw [done, Ledger.frozen_of_setFrozen thawed, if_pos thaws]
  | _ => simp at thaws

theorem get?_of_pauses {op : Operation} (pauses : op.pauses = true) {a : Account}
    (found : s.ledger.accounts.get? reserve = some a)
    (closed : a.status = .underReview ∨ a.status = .revoked) :
    (s.step op).2.ledger.accounts.get? reserve = some a := by
  cases op with
  | selfPause caller other now =>
    have performs : perform (.selfPause caller other now) =
        orFail (Action.onLedger_ fun s => s.ledger.selfPause caller other now)
          fun _ => .nothing := rfl
    rcases step_onLedger_ performs s with ⟨r, refused⟩ | ⟨l, paused, done⟩
    · rwa [refused]
    · rw [done]
      exact Ledger.get?_of_selfPause paused found closed
  | resume caller other now =>
    have performs : perform (.resume caller other now) =
        orFail (Action.onLedger_ fun s => s.ledger.resume caller other now)
          fun _ => .nothing := rfl
    rcases step_onLedger_ performs s with ⟨r, refused⟩ | ⟨l, resumed, done⟩
    · rwa [refused]
    · rw [done]
      exact Ledger.get?_of_resume resumed found closed
  | _ => cases pauses

/-- A step that is not for a change of status leaves every status with its history. -/
theorem kept_of_statusDate? {op : Operation} (undated : op.statusDate? = none) {a b : Account}
    (found : s.ledger.accounts.get? reserve = some a)
    (found' : (s.step op).2.ledger.accounts.get? reserve = some b) :
    b.status = a.status ∧ b.history = a.history := by
  obtain ⟨later, moved⟩ := step_moved op s reserve
  have unmoved : later = [] := by
    have dated := moved.dated
    rw [undated] at dated
    exact List.map_eq_nil_iff.mp (List.sublist_nil.mp dated)
  subst unmoved
  have history := moved.history_eq
  have status := moved.status_eq
  rw [Ledger.history_of_get? found', Ledger.history_of_get? found, List.append_nil] at history
  rw [Ledger.status_of_get? found', Ledger.status_of_get? found] at status
  exact ⟨status, history⟩

theorem Operation.statusDate?_of_flags {op : Operation} (flags : op.flags = true) :
    op.statusDate? = none := by
  cases op with
  | setFrozen | report | freeze | thaw | escalate => rfl
  | _ => cases flags

theorem minted_of_get? {l l' : Ledger} {a b : Account}
    (found : l.accounts.get? reserve = some a) (found' : l'.accounts.get? reserve = some b)
    (same : l'.minted reserve = l.minted reserve) : b.minted = a.minted := by
  rwa [Ledger.minted, Ledger.minted, Table.amountAt_of_get? _ found',
    Table.amountAt_of_get? _ found] at same

/-- The history of a reserve leads to its status by allowed changes and only grows at its end, and
freezing changes neither. While an account is frozen, and for ever once it is revoked, nothing is
minted or burnt against it. -/
theorem run_standings (authority : Authority) (relay : Relay) (params : Parameters)
    (before after : List Operation) :
    let s := (new authority relay params).run before
    let t := s.run after
    ∀ reserve a, s.ledger.accounts.get? reserve = some a →
      (a.status ≠ .emergencyPaused ∧ ReserveStatus.Course .active a.history a.status) ∧
      (∀ op, op.flags = true → ∃ b, (s.step op).2.ledger.accounts.get? reserve = some b ∧
        b.status = a.status ∧ b.history = a.history ∧
        (Event.thaws ⟨s, op⟩ reserve = true → b.effectiveStatus = a.status)) ∧
      (a.status = .underReview ∨ a.status = .revoked → ∀ op, op.pauses = true →
        (s.step op).2.ledger.accounts.get? reserve = some a) ∧
      ∃ b, t.ledger.accounts.get? reserve = some b ∧
        (∃ later, b.history = a.history ++ later ∧ a.status.Course later b.status) ∧
        ((∀ n < after.length, (s.run (after.take n)).ledger.frozen reserve = true) →
          s.Still after reserve ∧ b.minted = a.minted) ∧
        (a.status = .revoked → s.Still after reserve ∧ b.minted = a.minted ∧
          b.status = .revoked ∧ b.history = a.history) := by
  intro s t reserve a found
  have status := Ledger.status_of_get? found
  have history := Ledger.history_of_get? found
  have keyed : s.redemptions.Keyed :=
    run_keyed (booked_new authority relay params).keyed before
  obtain ⟨b, found', -⟩ := run_capsRise s after reserve a found
  have status' := Ledger.status_of_get? found'
  have history' := Ledger.history_of_get? found'
  have minted (still : s.Still after reserve) : b.minted = a.minted :=
    minted_of_get? found found' still.minted_eq
  refine ⟨?_, fun op flags => ?_, fun closed op pauses => get?_of_pauses pauses found closed, b,
    found', ?_, fun frozen => ?_, fun revoked => ?_⟩
  · obtain ⟨changes, moved⟩ := run_moved (new authority relay params) before reserve
    have course : ReserveStatus.Course .active changes a.status := by
      rw [← status]
      exact moved.course
    have same : a.history = changes := by
      rw [← history, moved.history_eq]
      rfl
    rw [same]
    exact ⟨course.stored nofun, course⟩
  · obtain ⟨c, kept, -⟩ := (step_touched op s).capsRise reserve a found
    obtain ⟨same, told⟩ := kept_of_statusDate? (Operation.statusDate?_of_flags flags) found kept
    refine ⟨c, kept, same, told, fun thaws => ?_⟩
    have thawed := frozen_of_thaws thaws
    rw [Ledger.frozen, Ledger.read_of_get? kept] at thawed
    rw [Account.effectiveStatus, thawed, if_neg Bool.false_ne_true, same]
  · obtain ⟨later, moved⟩ := run_moved s after reserve
    refine ⟨later, ?_, ?_⟩
    · rw [← history', ← history, moved.history_eq]
    · rw [← status', ← status]
      exact moved.course
  · have still := run_still keyed fun n less => .inl (frozen n less)
    exact ⟨still, minted still⟩
  · have halted : s.ledger.status reserve = .revoked := status.trans revoked
    have still := still_of_revoked keyed halted after
    obtain ⟨closed, told⟩ := run_revoked halted after
    exact ⟨still, minted still, status'.symm.trans closed, by rw [← history', ← history, told]⟩

/-- A reserve is frozen, asked for tokens and for a payout in vain, and thawed. -/
theorem run_standings_frozen :
    let before := redeeming "user" ++ [.freeze "governor" "reserve"]
    let after : List Operation := [.mint "minter" "reserve" "user" 500 none,
      .redeem "user" "reserve" 1000 "bcrt1qpv9skzctpv9skzctpv9skzctpv9skzctn6078e"
        "bcrt1qqyqszqgpqyqszqgpqyqszqgpqyqszqgpvxat9t" 9, .thaw "governor" "reserve"]
    let l := ((new .everyone ⟨1, 1⟩ .testing).run before).ledger
    let l' := (((new .everyone ⟨1, 1⟩ .testing).run before).run after).ledger
    (∀ n < after.length, (((new .everyone ⟨1, 1⟩ .testing).run before).run
        (after.take n)).ledger.frozen "reserve" = true) ∧
      ((new .everyone ⟨1, 1⟩ .testing).run before).Still after "reserve" ∧
      (∃ a, l.accounts.get? "reserve" = some a ∧ a.minted = 2000) ∧
      ∃ b, l'.accounts.get? "reserve" = some b ∧ b.minted = 2000 ∧
        b.effectiveStatus = .active := by
  intro before after l l'
  have frozen : ∀ n < after.length, (((new .everyone ⟨1, 1⟩ .testing).run before).run
      (after.take n)).ledger.frozen "reserve" = true := by
    decide +kernel
  have registered : (l.accounts.get? "reserve").map Account.minted = some 2000 := by decide +kernel
  have thawed : (l'.accounts.get? "reserve").map Account.effectiveStatus = some .active := by
    decide +kernel
  obtain ⟨a, found, minted⟩ := Option.map_eq_some_iff.mp registered
  obtain ⟨-, -, -, b, found', -, stretch, -⟩ :=
    run_standings .everyone ⟨1, 1⟩ .testing before after "reserve" a found
  obtain ⟨still, same⟩ := stretch frozen
  obtain ⟨c, found'', active⟩ := Option.map_eq_some_iff.mp thawed
  cases found'.symm.trans found''
  exact ⟨frozen, still, ⟨a, found, minted⟩, b, found', same.trans minted, active⟩

end Bank

end BitcoinReserve
