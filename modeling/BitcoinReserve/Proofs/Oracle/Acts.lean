import BitcoinReserve.Proofs.Oracle.Rounds

/-!
# The acts of an oracle

Every change of an oracle is one of five acts. Each act keeps the oracle coherent and leaves the
closed rounds as they are.
-/
namespace BitcoinReserve.Oracle

/-- What happens to an oracle. -/
inductive Act where
  /-- An attestation that leaves its round open. -/
  | recorded (round : Nat) (reserve : Text) (a : Attestation)
  /-- An attestation that decides its round. -/
  | decided (round : Nat) (reserve : Text) (a : Attestation) (amount : Int)
  | expired (round : Nat) (reserve : Text) (now : Int)
  | reset (reserve : Text) (now : Int)
  | overridden (reserve : Text) (amount now : Int)
  deriving DecidableEq, Repr

/-- Closes the open round of a reserve, if there is one. -/
def closeOpen (o : Oracle) (reserve : Text) (status : RoundStatus) (now : Int) : Oracle :=
  match o.openRound? reserve with
  | some r => o.close r status now
  | none => o

@[simp] theorem balances_closeOpen (o : Oracle) (reserve : Text) (status : RoundStatus)
    (now : Int) : (o.closeOpen reserve status now).balances = o.balances := by
  unfold closeOpen
  split <;> rfl

@[simp] theorem overrides_closeOpen (o : Oracle) (reserve : Text) (status : RoundStatus)
    (now : Int) : (o.closeOpen reserve status now).overrides = o.overrides := by
  unfold closeOpen
  split <;> rfl

/-- The round that an attestation enters, and the oracle in which it is open. -/
inductive Enters (p : Parameters) (o : Oracle) (reserve : Text) (now : Int) :
    Round → Oracle → Prop
  | joined {r : Round} (found : o.openRound? reserve = some r)
      (timely : r.isExpired now = false) : Enters p o reserve now r o
  | opened (closed : o.openRound? reserve = none) :
      Enters p o reserve now (o.openNew p reserve now).1 (o.openNew p reserve now).2

inductive Step (p : Parameters) (o : Oracle) : Act → Oracle → Prop
  | recorded {reserve : Text} {a : Attestation} {r : Round} {o₁ : Oracle}
      (enters : o.Enters p reserve a.submittedAt r o₁) (nonneg : 0 ≤ a.amount)
      (undecided : (r.record a).decision? p = none) :
      Step p o (.recorded r.id reserve a) (o₁.putRound (r.record a))
  | decided {reserve : Text} {a : Attestation} {r : Round} {o₁ : Oracle} {amount : Int}
      (enters : o.Enters p reserve a.submittedAt r o₁) (nonneg : 0 ≤ a.amount)
      (decides : (r.record a).decision? p = some amount) :
      Step p o (.decided r.id reserve a amount)
        (((o₁.putRound (r.record a)).close { r.record a with finalizedAmount := some amount }
          .finalized a.submittedAt).setBalance r.reserve ⟨amount, a.submittedAt, some r.id⟩)
  | expired {reserve : Text} {r : Round} {now : Int} (found : o.openRound? reserve = some r)
      (late : r.isExpired now = true) :
      Step p o (.expired r.id reserve now) (o.close r .expired now)
  | reset (reserve : Text) (now : Int) :
      Step p o (.reset reserve now) (o.closeOpen reserve .reset now)
  | overridden {reserve : Text} {amount now : Int} (entry : Override) (nonneg : 0 ≤ amount) :
      Step p o (.overridden reserve amount now)
        { (o.closeOpen reserve .overridden now).setBalance reserve ⟨amount, now, none⟩ with
          overrides := o.overrides ++ [entry] }

variable {p : Parameters} {o o' o₁ : Oracle} {reserve : Text} {r s : Round} {now : Int} {id : Nat}
  {a : Attestation} {act : Act}

namespace Enters

theorem coherent (enters : o.Enters p reserve now r o₁) (h : o.Coherent p) : o₁.Coherent p := by
  cases enters with
  | joined => exact h
  | opened closed => exact h.openNew closed now

theorem balances_eq (enters : o.Enters p reserve now r o₁) : o₁.balances = o.balances := by
  cases enters with
  | joined => rfl
  | opened => rfl

theorem isOpen (enters : o.Enters p reserve now r o₁) : o₁.openRound? reserve = some r := by
  cases enters with
  | joined found => exact found
  | opened => simp [openRound?, openNew]

theorem le_deadline (enters : o.Enters p reserve now r o₁) : now ≤ r.deadline := by
  cases enters with
  | joined found timely => simpa [Round.isExpired] using timely
  | opened =>
    have := p.sound.attestationTimeout_pos
    simp only [openNew, Round.new]
    omega

/-- A round of the reserve is entered exactly when it is pending, and none after the one entered. -/
theorem id_eq_iff (enters : o.Enters p reserve now r o₁) (h : o.Coherent p)
    (found : o.rounds.get? id = some s) (own : s.reserve = reserve) :
    id ≤ r.id ∧ (r.id = id ↔ s.status = .pending) := by
  cases enters with
  | joined opened =>
    obtain ⟨stored, pending, own'⟩ := h.openRound?_eq_some_iff.mp opened
    have same : s.reserve = r.reserve := own.trans own'.symm
    refine ⟨h.latest _ r stored pending id s found same, ?_, fun still => ?_⟩
    · rintro rfl
      cases stored.symm.trans found
      exact pending
    · exact h.open_unique stored found pending still same.symm
  | opened closed =>
    have le : id ≤ o.roundCount := h.le_count found
    refine ⟨Nat.le_succ_of_le le, fun same => ?_, fun still => ?_⟩
    · exact absurd same (Nat.lt_succ_of_le le).ne'
    · obtain rfl := h.keyed id s found
      have opened := h.openRound?_eq_some_iff.mpr ⟨found, still, own⟩
      exact nomatch closed.symm.trans opened

end Enters

/-- A round that is put and then closed is written once. -/
theorem rounds_decided (o : Oracle) (r : Round) (a : Attestation) (amount : Int) :
    ((o.putRound (r.record a)).close { r.record a with finalizedAmount := some amount }
      .finalized a.submittedAt).rounds = o.rounds.insert r.id (r.decide a amount) :=
  Table.insert_insert ..

theorem Coherent.close (h : o.Coherent p) (found : o.openRound? reserve = some r)
    {status : RoundStatus} (now : Int) (ended : status ≠ .pending) (void : status ≠ .finalized) :
    (o.close r status now).Coherent p := by
  obtain ⟨stored, -, own⟩ := h.openRound?_eq_some_iff.mp found
  refine h.put found ((h.sound _ _ stored).close now ended void) rfl rfl rfl rfl ?_
  have closed : (r.close status now).status ≠ .pending := ended
  rw [if_neg closed, ← own]
  rfl

theorem Coherent.closeOpen (h : o.Coherent p) (reserve : Text) {status : RoundStatus} (now : Int)
    (ended : status ≠ .pending) (void : status ≠ .finalized) :
    (o.closeOpen reserve status now).Coherent p := by
  unfold Oracle.closeOpen
  split
  · rename_i r found
    exact h.close found now ended void
  · exact h

/-- Balances and overrides have no part in the coherence of rounds. -/
theorem Coherent.congr (h : o.Coherent p) (count : o'.roundCount = o.roundCount)
    (rounds : o'.rounds = o.rounds) (openRounds : o'.openRounds = o.openRounds) :
    o'.Coherent p := by
  constructor
  · rw [rounds]
    exact h.keyed
  · rw [rounds, count]
    exact h.numbered
  · rw [rounds, openRounds]
    exact h.open_iff
  · rw [rounds]
    exact h.latest
  · rw [rounds]
    exact h.sound

theorem Step.coherent (step : o.Step p act o') (h : o.Coherent p) : o'.Coherent p := by
  cases step with
  | @recorded reserve a r o₁ enters nonneg undecided =>
    have h₁ := enters.coherent h
    obtain ⟨stored, pending, own⟩ := h₁.openRound?_eq_some_iff.mp enters.isOpen
    have sound := (h₁.sound _ _ stored).record pending nonneg enters.le_deadline undecided
    refine h₁.put enters.isOpen sound rfl rfl rfl rfl ?_
    have still : (r.record a).status = .pending := pending
    rw [if_pos still]
    rfl
  | @decided reserve a r o₁ amount enters nonneg decides =>
    have h₁ := enters.coherent h
    obtain ⟨stored, pending, own⟩ := h₁.openRound?_eq_some_iff.mp enters.isOpen
    have sound := (h₁.sound _ _ stored).decide nonneg enters.le_deadline decides
    refine h₁.put enters.isOpen sound rfl rfl rfl (rounds_decided ..) ?_
    have closed : (r.decide a amount).status ≠ .pending := nofun
    rw [if_neg closed, ← own]
    rfl
  | expired found => exact h.close found _ nofun nofun
  | reset reserve now => exact h.closeOpen reserve now nofun nofun
  | @overridden reserve amount now entry nonneg =>
    have closed : (o.closeOpen reserve .overridden now).Coherent p :=
      h.closeOpen reserve now nofun nofun
    exact closed.congr rfl rfl rfl

/-- Every round is there still, of the same reserve, and as it was if it was closed. -/
def Keeps (o o' : Oracle) : Prop :=
  ∀ id r, o.rounds.get? id = some r → ∃ r', o'.rounds.get? id = some r' ∧
    r'.reserve = r.reserve ∧ (r.status ≠ .pending → r' = r)

theorem Keeps.of_eq (same : o'.rounds = o.rounds) : o.Keeps o' :=
  fun _ r found => ⟨r, same ▸ found, rfl, fun _ => rfl⟩

theorem Keeps.trans (h : o.Keeps o₁) (h' : o₁.Keeps o') : o.Keeps o' := by
  intro id r found
  obtain ⟨r₁, found₁, own₁, same₁⟩ := h id r found
  obtain ⟨r₂, found₂, own₂, same₂⟩ := h' id r₁ found₁
  refine ⟨r₂, found₂, own₂.trans own₁, fun closed => ?_⟩
  cases same₁ closed
  exact same₂ closed

/-- An open round is written. -/
theorem Coherent.keeps_put (h : o.Coherent p) (found : o.openRound? reserve = some r)
    (rounds : o'.rounds = o.rounds.insert r.id s) (same : s.reserve = r.reserve) :
    o.Keeps o' := by
  obtain ⟨stored, pending, -⟩ := h.openRound?_eq_some_iff.mp found
  intro id t there
  rw [rounds, Table.get?_insert]
  split
  · rename_i at_id
    subst at_id
    cases stored.symm.trans there
    exact ⟨s, rfl, same, fun closed => absurd pending closed⟩
  · exact ⟨t, there, rfl, fun _ => rfl⟩

theorem Enters.keeps (enters : o.Enters p reserve now r o₁) (h : o.Coherent p) : o.Keeps o₁ := by
  cases enters with
  | joined => exact .of_eq rfl
  | opened =>
    intro id t there
    have other : o.roundCount + 1 ≠ id := (Nat.lt_succ_of_le (h.le_count there)).ne'
    exact ⟨t, (Table.get?_insert_of_ne _ _ other).trans there, rfl, fun _ => rfl⟩

theorem Coherent.keeps_closeOpen (h : o.Coherent p) (reserve : Text) (status : RoundStatus)
    (now : Int) : o.Keeps (o.closeOpen reserve status now) := by
  unfold Oracle.closeOpen
  split
  · rename_i r found
    exact h.keeps_put found rfl rfl
  · exact .of_eq rfl

theorem Step.keeps (step : o.Step p act o') (h : o.Coherent p) : o.Keeps o' := by
  cases step with
  | recorded enters =>
    exact (enters.keeps h).trans ((enters.coherent h).keeps_put enters.isOpen rfl rfl)
  | decided enters =>
    exact (enters.keeps h).trans
      ((enters.coherent h).keeps_put enters.isOpen (rounds_decided ..) rfl)
  | expired found => exact h.keeps_put found rfl rfl
  | reset reserve now => exact h.keeps_closeOpen reserve .reset now
  | overridden =>
    exact h.keeps_closeOpen _ .overridden _

end BitcoinReserve.Oracle
