import BitcoinReserve.Proofs.Bank.Openings

/-!
# Burns and their redemptions

Where tokens are burnt for redemptions only, what was ever minted against a reserve is still minted,
or promised by a redemption, or lost: a redemption whose names have no bytes burns its tokens and
gets no id, so that nothing is recorded of it.
-/
namespace BitcoinReserve

/-- Whether an operation makes or burns tokens otherwise than by a mint of the ledger or by a
redemption. -/
def Operation.unrecorded : Operation → Bool
  | .mintToken .. | .burnToken .. | .burn .. => true
  | _ => false

namespace Bank

namespace Event

/-- What the event mints against a reserve. -/
def minted (e : Event) (reserve : Text) : Int :=
  match e.operation, e.ending with
  | .mint _ r _ amount _, .ok _ => if r = reserve then amount else 0
  | _, _ => 0

/-- What the event burns against a reserve without opening a redemption. -/
def lost (e : Event) (reserve : Text) : Int :=
  match e.operation, e.ending with
  | .redeem _ r amount _ _ _, .error .unnamed => if r = reserve then amount else 0
  | _, _ => 0

end Event

/-- What is minted against a reserve or promised by its redemptions. -/
def outstanding (s : Bank) (reserve : Text) : Int :=
  s.ledger.minted reserve + s.redemptions.promised reserve

variable {s t : Bank}

theorem outstanding_of_moves (moves : s.Moves t) (reserve : Text) :
    t.outstanding reserve = s.outstanding reserve := by
  rw [outstanding, outstanding, moves.amends.minted_eq, moves.redemptions_eq]

/-- Closing a redemption takes nothing from what it promised. -/
theorem Event.Settles.outstanding_eq {e : Event} (settles : e.Settles t)
    (keyed : e.found.redemptions.Keyed) (reserve : Text) :
    t.outstanding reserve = e.found.outstanding reserve := by
  cases settles with
  | declined => rfl
  | @closed id r closed used done found pending closes =>
    have settled := RedemptionBook.settles_settle keyed used found closes.closing
    rw [outstanding, outstanding, settle, settled.promised_eq]

/-- A mint is refused and changes nothing, or adds to what is outstanding. -/
theorem outstanding_of_mint (caller reserve holder : Text) (amount : Int) (now : Option Int)
    (s : Bank) (other : Text) :
    (s.step (.mint caller reserve holder amount now)).2.outstanding other =
      s.outstanding other + Event.minted ⟨s, .mint caller reserve holder amount now⟩ other := by
  rcases step_mint caller reserve holder amount now s with ⟨r, refused⟩ | ⟨total, l, minted, done⟩
  · simp [Event.minted, Event.ending, refused]
  · have moved := Ledger.minted_of_mint other minted
    simp only [Event.minted, Event.ending, done, outstanding, moved]
    omega

/-- A redemption is refused and changes nothing, or its burn is promised or lost. -/
theorem outstanding_of_redeem (caller reserve : Text) (amount : Int) (address wallet : Text)
    (now : Int) (s : Bank)
    (fresh : Event.Fresh ⟨s, .redeem caller reserve amount address wallet now⟩) (other : Text) :
    (s.step (.redeem caller reserve amount address wallet now)).2.outstanding other +
        Event.lost ⟨s, .redeem caller reserve amount address wallet now⟩ other =
      s.outstanding other := by
  rcases step_redeem caller reserve amount address wallet now s with
    ⟨r, refused⟩ | ⟨total, l, -, burnt, done⟩
  · simp [Event.lost, Event.ending, refused]
  · have taken := Ledger.minted_of_redeem other burnt
    cases named : Redemption.idOf?
        (Redemption.seed reserve caller (s.redemptions.count + 1) now) with
    | none =>
      rw [named] at done
      have promised : s.redemptions.advance.promised other = s.redemptions.promised other := rfl
      simp only [Event.lost, Event.ending, done, outstanding, taken, promised]
      omega
    | some id =>
      rw [named] at done
      have opens : Event.opened? ⟨s, .redeem caller reserve amount address wallet now⟩ =
          some (Redemption.new id reserve caller amount address wallet now
            s.params.redemptionTimeout) := by
        simp [Event.opened?, Event.ending, done]
      have added := RedemptionBook.promised_add (fresh _ opens) other
      have counts : (Redemption.new id reserve caller amount address wallet now
          s.params.redemptionTimeout).amountFor other = if reserve = other then amount else 0 := rfl
      simp only [Event.lost, Event.ending, done, outstanding, taken, added, counts]
      omega

/-- What a step adds to what is outstanding, where burns are for redemptions. -/
theorem step_outstanding (op : Operation) (recorded : op.unrecorded = false) (s : Bank)
    (keyed : s.redemptions.Keyed) (fresh : Event.Fresh ⟨s, op⟩) (reserve : Text) :
    s.outstanding reserve + Event.minted ⟨s, op⟩ reserve =
      (s.step op).2.outstanding reserve + Event.lost ⟨s, op⟩ reserve := by
  have quietly (same : (s.step op).2.outstanding reserve = s.outstanding reserve) :
      s.outstanding reserve + 0 = (s.step op).2.outstanding reserve + 0 := by
    rw [same]
  cases op with
  | mintToken | burnToken | burn => cases recorded
  | register caller r cap now =>
    refine quietly ?_
    rcases step_register caller r cap now s with ⟨r, refused⟩ | ⟨a, l, opened, done⟩
    · rw [refused]
    · rw [done, outstanding, outstanding, Ledger.minted_of_register reserve opened]
  | mint caller r holder amount now =>
    have added := outstanding_of_mint caller r holder amount now s reserve
    exact added.symm.trans (Int.add_zero _).symm
  | redeem caller r amount address wallet now =>
    have taken := outstanding_of_redeem caller r amount address wallet now s fresh reserve
    exact (Int.add_zero _).trans taken.symm
  | fulfill | fulfillIfPossible | fulfillTrusted | flagDefault =>
    exact quietly ((step_settles _ rfl s).outstanding_eq keyed reserve)
  | _ => exact quietly (outstanding_of_moves (moves_step _ rfl) reserve)

/-- What holds after a run in which all burns are for redemptions. -/
structure Recorded (s : Bank) (ops : List Operation) : Prop extends s.Booked ops where
  minted_eq (reserve : Text) : ((s.events ops).map (·.minted reserve)).sum =
    (s.run ops).outstanding reserve + ((s.events ops).map (·.lost reserve)).sum

theorem recorded_new (authority : Authority) (relay : Relay) (params : Parameters) :
    (new authority relay params).Recorded [] where
  toBooked := booked_new authority relay params
  minted_eq _ := rfl

theorem Recorded.concat {ops : List Operation} {op : Operation} (h : s.Recorded ops)
    (recorded : op.unrecorded = false) (collisionless : s.Collisionless (ops ++ [op])) :
    s.Recorded (ops ++ [op]) where
  toBooked := h.toBooked.concat collisionless
  minted_eq reserve := by
    have before := h.minted_eq reserve
    have step := step_outstanding op recorded (s.run ops) h.keyed
      (h.toBooked.fresh collisionless) reserve
    rw [run_concat, events_concat]
    simp only [List.map_append, List.sum_append, List.map_cons, List.map_nil, List.sum_cons,
      List.sum_nil, before]
    omega

/-- Records stay, however the run goes on. -/
theorem Recorded.kept {before after : List Operation} (h : s.Recorded before)
    (recorded : ∀ op ∈ after, op.unrecorded = false)
    (collisionless : s.Collisionless (before ++ after)) :
    s.Recorded (before ++ after) ∧
      (s.run before).redemptions.Kept (s.run (before ++ after)).redemptions := by
  induction after using List.reverseRecOn with
  | nil =>
    rw [List.append_nil]
    exact ⟨h, .refl _⟩
  | append_singleton after op ih =>
    rw [← List.append_assoc] at collisionless ⊢
    obtain ⟨earlier, kept⟩ := ih (fun op' mem => recorded op' (List.mem_append_left _ mem))
      collisionless.of_append
    have last := earlier.concat (recorded op (List.mem_append_right _ List.mem_cons_self))
      collisionless
    have fresh := earlier.toBooked.fresh collisionless
    exact ⟨last, kept.trans ((books_concat s _ op).kept_records earlier.keyed fresh)⟩

/-- A redemption passes its checks while the name of the reserve or of the caller has no bytes. -/
def Event.Loses (e : Event) (reserve : Text) : Prop :=
  ∃ caller amount address wallet now,
    e.operation = .redeem caller reserve amount address wallet now ∧
      (∀ r, e.ending ≠ .error (.refused r)) ∧
      (Text.utf8? reserve = none ∨ Text.utf8? caller = none)

/-- Tokens are lost by such redemptions and by no other event. -/
theorem Event.lost_cases (e : Event) (reserve : Text) :
    (e.lost reserve = 0 ∧ ¬ e.Loses reserve) ∨ (0 < e.lost reserve ∧ e.Loses reserve) := by
  obtain ⟨s, op⟩ := e
  cases op with
  | redeem caller r amount address wallet now =>
    rcases step_redeem caller r amount address wallet now s with
      ⟨refusal, refused⟩ | ⟨total, l, -, burnt, done⟩
    · left
      refine ⟨by simp [lost, ending, refused], ?_⟩
      rintro ⟨_, _, _, _, _, same, passed, -⟩
      exact passed refusal (congrArg Prod.fst refused)
    · obtain ⟨-, positive, -⟩ := Ledger.redeem_eq_ok burnt
      have nameless := @Redemption.idOf?_seed_eq_none_iff r caller (s.redemptions.count + 1) now
      cases named : Redemption.idOf? (Redemption.seed r caller (s.redemptions.count + 1) now) with
      | none =>
        rw [named] at done
        have loses : lost ⟨s, .redeem caller r amount address wallet now⟩ reserve =
            if r = reserve then amount else 0 := by
          simp [lost, ending, done]
        by_cases same : r = reserve
        · subst same
          right
          rw [loses, if_pos rfl]
          refine ⟨positive, caller, amount, address, wallet, now, rfl, ?_, nameless.mp named⟩
          intro refusal
          simp [ending, done]
        · left
          rw [loses, if_neg same]
          refine ⟨rfl, ?_⟩
          rintro ⟨_, _, _, _, _, same', -⟩
          cases same'
          exact same rfl
      | some id =>
        left
        rw [named] at done
        refine ⟨by simp [lost, ending, done], ?_⟩
        rintro ⟨_, _, _, _, _, same, -, without⟩
        cases same
        rw [nameless.mpr without] at named
        cases named
  | _ =>
    left
    refine ⟨rfl, ?_⟩
    rintro ⟨_, _, _, _, _, same, -⟩
    cases same

theorem sum_lost (events : List Event) (reserve : Text) :
    0 ≤ (events.map (·.lost reserve)).sum ∧
      ((events.map (·.lost reserve)).sum = 0 ↔ ∀ e ∈ events, ¬ e.Loses reserve) := by
  induction events with
  | nil => simp
  | cons e events ih =>
    obtain ⟨nonneg, zero⟩ := ih
    rw [List.map_cons, List.sum_cons, List.forall_mem_cons]
    rcases e.lost_cases reserve with ⟨unlost, keeps⟩ | ⟨lost, loses⟩
    · rw [unlost, Int.zero_add]
      exact ⟨nonneg, zero.trans (and_iff_right keeps).symm⟩
    · refine ⟨by omega, ⟨fun sum => by omega, fun keeps => absurd loses keeps.1⟩⟩

/-- What was minted against a reserve is minted still, promised by its redemptions or lost. None is
lost exactly when every redemption that passes its checks has names with bytes. -/
theorem run_redemptions (authority : Authority) (relay : Relay) (params : Parameters)
    (before after : List Operation) (recorded : ∀ op ∈ before ++ after, op.unrecorded = false)
    (injective : ∀ p ∈ (new authority relay params).hashed (before ++ after),
      ∀ q ∈ (new authority relay params).hashed (before ++ after), sha256 p = sha256 q → p = q) :
    let s := new authority relay params
    let events := s.events (before ++ after)
    let earlier := (s.run before).redemptions
    let now := s.run (before ++ after)
    (∀ reserve, (events.map (·.minted reserve)).sum =
      now.ledger.minted reserve + now.redemptions.promised reserve +
        (events.map (·.lost reserve)).sum) ∧
    (∀ reserve, (events.map (·.minted reserve)).sum =
        now.ledger.minted reserve + now.redemptions.promised reserve ↔
      ∀ e ∈ events, ¬ e.Loses reserve) ∧
    now.redemptions.records.values.length = (events.filterMap Event.opened?).length ∧
    (now.redemptions.records.values.map Redemption.id).Nodup ∧ earlier.Kept now.redemptions := by
  intro s events earlier now
  have first : s.Recorded before := by
    refine (@Recorded.kept _ [] before (recorded_new authority relay params) ?_ ?_).1
    · exact fun op mem => recorded op (List.mem_append_left _ mem)
    · exact fun p hp q hq => injective p (mem_hashed_append hp after) q (mem_hashed_append hq after)
  obtain ⟨whole, kept⟩ := first.kept (fun op mem => recorded op (List.mem_append_right _ mem))
    injective
  have ids : now.redemptions.records.values.map Redemption.id = now.redemptions.records.keys := by
    rw [Table.values, Table.keys, List.map_map]
    exact List.map_congr_left fun entry mem => whole.keyed _ _ (Table.get?_eq_some_iff.mpr mem)
  refine ⟨whole.minted_eq, fun reserve => ?_, ?_, ?_, kept⟩
  · have minted : (events.map (·.minted reserve)).sum =
        now.ledger.minted reserve + now.redemptions.promised reserve +
          (events.map (·.lost reserve)).sum := whole.minted_eq reserve
    rw [← (sum_lost events reserve).2]
    constructor
    · intro same
      omega
    · intro unlost
      omega
  · have lengths := congrArg List.length (ids.trans whole.keys_eq)
    rw [List.length_map, List.length_map] at lengths
    exact lengths
  · rw [ids]
    exact now.redemptions.records.nodup

theorem run_redemptions_redeeming :
    let s := new .everyone ⟨1, 1⟩ .testing
    let ops := redeeming "user"
    let now := s.run ops
    (∀ op ∈ ops, op.unrecorded = false) ∧
      (∀ p ∈ s.hashed ops, ∀ q ∈ s.hashed ops, sha256 p = sha256 q → p = q) ∧
      (s.hashed ops).length = 1 ∧
      ((s.events ops).map (·.minted "reserve")).sum = 3000 ∧
      now.ledger.minted "reserve" + now.redemptions.promised "reserve" = 3000 := by
  intro s ops now
  have recorded : ∀ op ∈ [] ++ ops, op.unrecorded = false := by decide
  have one : ∀ p ∈ s.hashed ops, p = "reserve_user_1_0".toUTF8.data.toList := by decide +kernel
  have injective : ∀ p ∈ s.hashed ops, ∀ q ∈ s.hashed ops, sha256 p = sha256 q → p = q := by
    intro p hp q hq _
    rw [one p hp, one q hq]
  have minted : ((s.events ops).map (·.minted "reserve")).sum = 3000 := by decide +kernel
  have lost : ((s.events ops).map (·.lost "reserve")).sum = 0 := by decide +kernel
  obtain ⟨balance, -⟩ := run_redemptions .everyone ⟨1, 1⟩ .testing [] ops recorded injective
  have balance : ((s.events ops).map (·.minted "reserve")).sum =
    now.ledger.minted "reserve" + now.redemptions.promised "reserve" +
      ((s.events ops).map (·.lost "reserve")).sum := balance "reserve"
  exact ⟨recorded, injective, by decide +kernel, minted, by omega⟩

/-- A user whose name is a surrogate burns tokens for which no redemption is ever recorded. -/
theorem redeeming_lost :
    let s := new .everyone ⟨1, 1⟩ .testing
    let ops := redeeming ⟨[.surrogate 0]⟩
    let now := s.run ops
    (∀ op ∈ ops, op.unrecorded = false) ∧ s.hashed ops = [] ∧
      ((s.events ops).map (·.minted "reserve")).sum = 3000 ∧
      now.ledger.minted "reserve" + now.redemptions.promised "reserve" = 2000 := by
  decide +kernel

end Bank

end BitcoinReserve
