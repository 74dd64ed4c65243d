import BitcoinReserve.Proofs.Bank.Runs
import BitcoinReserve.Proofs.Trail

/-!
# Syncs

A sync copies a balance that is not too old and marks the reserve with its time. The operations that
sync do so once, once if they can, or once for each item of a batch that succeeds, and do nothing
else.
-/
namespace BitcoinReserve

/-- A sync that succeeds. -/
structure Sync where
  reserve : Text
  time : Int
  deriving DecidableEq, Repr

/-- Whether an operation copies balances into the ledger. -/
def Operation.syncs : Operation → Bool
  | .sync .. | .syncIfPossible .. | .syncBatch .. => true
  | _ => false

namespace Bank

open BitcoinReserve.Action

variable {s t : Bank} {op : Operation} {x : Sync}

/-- A sync of the reserve is due, and the oracle has a recent balance that goes into the ledger. -/
structure Copies (s : Bank) (reserve : Text) (now : Int) (b : Balance) (l : Ledger) : Prop where
  due : ∀ a, s.ledger.accounts.get? reserve = some a → recentSync? s.params a now = none
  heard : s.oracle.balances.get? reserve = some b
  recent : now - b.updatedAt ≤ s.params.maxStaleness
  backed : s.ledger.setBacking reserve b.amount (some b.updatedAt) = .ok l

/-- What is copied is the balance of the oracle with its time, and the sync is written down. -/
theorem copyBalance_copies (reserve : Text) (now : Int) (s : Bank) :
    (copyBalance reserve now).Ends s fun result => ∃ b l, s.Copies reserve now b l ∧
      result = .ok b.amount ({ s with ledger := l }.stamp reserve now) := by
  unfold copyBalance
  refine .get_bind (.decide_bind fun a found => ?_)
  rw [Check.account_eq_ok_iff] at found
  split
  · exact .inl ⟨_, rfl⟩
  · rename_i due
    split
    · exact .inl ⟨_, rfl⟩
    · rename_i b heard
      have age : s.oracle.balanceAndAge s.params reserve now =
          (b.amount, decide (s.params.maxStaleness < now - b.updatedAt)) := by
        rw [Oracle.balanceAndAge, heard]
      rw [age]
      refine .decide_bind fun _ recent => .onLedger_unit_bind fun l backed => ?_
      refine ⟨b, l, ⟨fun c found' => ?_, heard, ?_, backed⟩, rfl⟩
      · cases found.symm.trans found'
        exact due
      · exact Int.not_lt.mp (of_decide_eq_false (ensure_eq_ok_iff.mp recent))

/-- A balance is copied, and the reserve is marked with the time. -/
inductive Syncs (s : Bank) (x : Sync) : Bank → Prop
  | copied {b : Balance} {l : Ledger} (copies : s.Copies x.reserve x.time b l) :
      Syncs s x ({ s with ledger := l }.stamp x.reserve x.time)

theorem Syncs.params_eq (done : s.Syncs x t) : t.params = s.params := by
  cases done with
  | copied => rfl

theorem Syncs.oracle_eq (done : s.Syncs x t) : t.oracle = s.oracle := by
  cases done with
  | copied => rfl

theorem copyBalance_syncs (reserve : Text) (now : Int) (s : Bank) :
    (copyBalance reserve now).Ends s fun result => ∃ amount t,
      s.Syncs ⟨reserve, now⟩ t ∧ result = .ok amount t := by
  refine (copyBalance_copies reserve now s).mono ?_
  rintro _ ⟨b, l, copies, rfl⟩
  exact ⟨b.amount, _, .copied copies, rfl⟩

theorem sync_syncs (caller reserve : Text) (now : Int) (s : Bank) :
    (sync caller reserve now).Ends s fun result => ∃ amount t,
      s.Syncs ⟨reserve, now⟩ t ∧ result = .ok amount t := by
  unfold sync
  exact .decide_bind fun _ _ => copyBalance_syncs reserve now s

theorem trail_syncEach (now : Int) (reserves : List Text) (s : Bank) :
    ∃ items t, syncEach now reserves s = .ok items t ∧
      Trail Syncs s (((items.filter (·.result.toBool)).map SyncItem.reserve).map (⟨·, now⟩)) t := by
  induction reserves generalizing s with
  | nil => exact ⟨[], s, rfl, .nil _⟩
  | cons reserve rest ih =>
    rcases copyBalance_syncs reserve now s with ⟨r, refused⟩ | ⟨amount, t, done, copied⟩
    · obtain ⟨items, u, rest, trail⟩ := ih s
      refine ⟨⟨reserve, .error r⟩ :: items, u, ?_, trail⟩
      rw [syncEach, outcome_bind, Action.ending, Action.after, refused]
      simp only [Bind.bind, EStateM.bind, rest]
      rfl
    · obtain ⟨items, u, rest, trail⟩ := ih t
      refine ⟨⟨reserve, .ok amount⟩ :: items, u, ?_, .cons done trail⟩
      rw [syncEach, outcome_bind, Action.ending, Action.after, copied]
      simp only [Bind.bind, EStateM.bind, rest]
      rfl

theorem syncBatch_syncs (caller : Text) (reserves : List Text) (now : Int) (budget : Option Int)
    (s : Bank) :
    (syncBatch caller reserves now budget).Ends s fun result => ∃ report t,
      Trail Syncs s (report.succeeded.map (⟨·, now⟩)) t ∧ result = .ok report t := by
  unfold syncBatch
  refine .decide_bind fun _ _ => .get_bind ?_
  obtain ⟨items, t, done, trail⟩ :=
    trail_syncEach now (reserves.take (budget.getD s.params.maxBatchOperations).toNat) s
  refine .inr ⟨⟨items, reserves.drop (budget.getD s.params.maxBatchOperations).toNat⟩, t, trail, ?_⟩
  simp only [Bind.bind, EStateM.bind, done]
  rfl

/-- The syncs of an event that succeed, in order. -/
def Event.syncs (e : Event) : List Sync :=
  match e.operation, e.ending with
  | .sync _ reserve now, .ok _ => [⟨reserve, now⟩]
  | .syncIfPossible _ reserve now, .ok (.flag true) => [⟨reserve, now⟩]
  | .syncBatch _ _ now _, .ok (.syncReport report) => report.succeeded.map (⟨·, now⟩)
  | _, _ => []

/-- The syncs of a run that succeed, in order. -/
def syncsOf (s : Bank) (ops : List Operation) : List Sync := (s.events ops).flatMap Event.syncs

theorem syncsOf_concat (s : Bank) (ops : List Operation) (op : Operation) :
    s.syncsOf (ops ++ [op]) = s.syncsOf ops ++ Event.syncs ⟨s.run ops, op⟩ := by
  unfold syncsOf
  rw [events_concat, List.flatMap_append, List.flatMap_singleton]

theorem step_sync (caller reserve : Text) (now : Int) (s : Bank) :
    (∃ r, s.step (.sync caller reserve now) = (.error (.refused r), s)) ∨
      ∃ amount t, s.Syncs ⟨reserve, now⟩ t ∧
        s.step (.sync caller reserve now) = (.ok (.number amount), t) := by
  have performs : perform (.sync caller reserve now) s =
      orFail (sync caller reserve now) .number s := rfl
  rcases step_ends (sync_syncs caller reserve now s) performs with
    refused | ⟨_, ⟨amount, t, done, rfl⟩, step⟩
  · exact .inl refused
  · exact .inr ⟨amount, t, done, step⟩

theorem step_syncIfPossible (caller reserve : Text) (now : Int) (s : Bank) :
    s.step (.syncIfPossible caller reserve now) = (.ok (.flag false), s) ∨
      ∃ t, s.Syncs ⟨reserve, now⟩ t ∧
        s.step (.syncIfPossible caller reserve now) = (.ok (.flag true), t) := by
  have performs : perform (.syncIfPossible caller reserve now) s =
      orFail (syncIfPossible caller reserve now) .flag s := rfl
  rw [step_orFail performs]
  unfold syncIfPossible
  rw [outcome_bind, Action.ending, Action.after]
  rcases sync_syncs caller reserve now s with ⟨r, refused⟩ | ⟨amount, t, done, copied⟩
  · rw [refused]
    exact .inl rfl
  · rw [copied]
    exact .inr ⟨t, done, rfl⟩

theorem step_syncBatch (caller : Text) (reserves : List Text) (now : Int) (budget : Option Int)
    (s : Bank) :
    (∃ r, s.step (.syncBatch caller reserves now budget) = (.error (.refused r), s)) ∨
      ∃ report t, Trail Syncs s (report.succeeded.map (⟨·, now⟩)) t ∧
        s.step (.syncBatch caller reserves now budget) = (.ok (.syncReport report), t) := by
  have performs : perform (.syncBatch caller reserves now budget) s =
      orFail (syncBatch caller reserves now budget) .syncReport s := rfl
  rcases step_ends (syncBatch_syncs caller reserves now budget s) performs with
    refused | ⟨_, ⟨report, t, trail, rfl⟩, step⟩
  · exact .inl refused
  · exact .inr ⟨report, t, trail, step⟩

/-- An operation that syncs does nothing else. -/
theorem trail_of_syncs (kind : op.syncs = true) :
    Trail Syncs s (Event.syncs ⟨s, op⟩) (s.step op).2 := by
  cases op with
  | sync caller reserve now =>
    rcases step_sync caller reserve now s with ⟨r, step⟩ | ⟨amount, t, done, step⟩
    · simp only [Event.syncs, Event.ending, step]
      exact .nil _
    · simp only [Event.syncs, Event.ending, step]
      exact .single done
  | syncIfPossible caller reserve now =>
    rcases step_syncIfPossible caller reserve now s with step | ⟨t, done, step⟩
    · simp only [Event.syncs, Event.ending, step]
      exact .nil _
    · simp only [Event.syncs, Event.ending, step]
      exact .single done
  | syncBatch caller reserves now budget =>
    rcases step_syncBatch caller reserves now budget s with ⟨r, step⟩ | ⟨report, t, trail, step⟩
    · simp only [Event.syncs, Event.ending, step]
      exact .nil _
    · simp only [Event.syncs, Event.ending, step]
      exact trail
  | _ => cases kind

theorem syncs_eq_nil (other : op.syncs = false) : Event.syncs ⟨s, op⟩ = [] := by
  cases op with
  | sync | syncIfPossible | syncBatch => cases other
  | _ => rfl

end Bank

end BitcoinReserve
