import BitcoinReserve.Proofs.Bank.Backing

/-!
# The spacing of syncs

The next sync of a reserve comes an interval after its mark at the earliest, alone or in a batch and
whatever time the caller gives.
-/
namespace BitcoinReserve

/-- The times of the syncs of one reserve. -/
def Sync.timesOf (reserve : Text) (syncs : List Sync) : List Int :=
  (syncs.filter (·.reserve = reserve)).map Sync.time

/-- The reserve is marked with the time of its sync, an interval after its last mark. -/
structure Sync.Marks (interval : Int) (f : Text → Option Int) (sync : Sync)
    (g : Text → Option Int) : Prop where
  due : ∀ last, f sync.reserve = some last → last + interval ≤ sync.time
  marked : g = Function.update f sync.reserve (some sync.time)

section Marks

variable {interval : Int} {f g : Text → Option Int} {syncs : List Sync} {reserve : Text}

theorem Sync.timesOf_concat (reserve : Text) (syncs : List Sync) (sync : Sync) :
    timesOf reserve (syncs ++ [sync]) =
      timesOf reserve syncs ++ if sync.reserve = reserve then [sync.time] else [] := by
  unfold timesOf
  rw [List.filter_append, List.map_append]
  by_cases here : sync.reserve = reserve
  · simp [here]
  · simp [here]

/-- The mark is the time of the last sync, so that each sync is due by the one before. -/
theorem Trail.spaced (trail : Trail (Sync.Marks interval) f syncs g) (unmarked : f reserve = none) :
    (Sync.timesOf reserve syncs).IsChain (fun earlier later => earlier + interval ≤ later) ∧
      g reserve = (Sync.timesOf reserve syncs).getLast? := by
  refine trail.induction_last (P := fun syncs g =>
    (Sync.timesOf reserve syncs).IsChain (fun earlier later => earlier + interval ≤ later) ∧
      g reserve = (Sync.timesOf reserve syncs).getLast?) ⟨.nil, unmarked⟩ ?_
  rintro syncs g sync _ ⟨spaced, last⟩ ⟨due, rfl⟩
  rw [Sync.timesOf_concat, Function.update_apply]
  by_cases here : sync.reserve = reserve
  · subst here
    rw [if_pos rfl, if_pos rfl, List.getLast?_concat, List.isChain_append]
    refine ⟨⟨spaced, .singleton _, fun earlier mem later only => ?_⟩, rfl⟩
    cases only
    exact due earlier (last.trans mem)
  · rw [if_neg here, if_neg (Ne.symm here), List.append_nil]
    exact ⟨spaced, last⟩

end Marks

/-- The time of the last sync of a reserve. -/
def Ledger.lastSync (l : Ledger) (reserve : Text) : Option Int :=
  l.read Account.lastSyncedAt none reserve

/-- A balance of the oracle that is not too old at the time of the sync is in the ledger. -/
def Oracle.Copied (o : Oracle) (p : Parameters) (sync : Sync) (l : Ledger) : Prop :=
  ∃ b, o.balances.get? sync.reserve = some b ∧ sync.time - b.updatedAt ≤ p.maxStaleness ∧
    l.backed sync.reserve = (b.amount, some b.updatedAt)

namespace Bank

variable {s t : Bank} {op : Operation} {reserve : Text} {x : Sync} {xs : List Sync}

theorem backed_stamp (s : Bank) (reserve : Text) (now : Int) :
    (s.stamp reserve now).ledger.backed = s.ledger.backed := by
  funext other
  exact (touched_stamp s reserve now).read_eq Account.Field.read_backing (by simp) other

theorem lastSync_stamp {a : Account} (found : s.ledger.accounts.get? reserve = some a) (now : Int) :
    (s.stamp reserve now).ledger.lastSync =
      Function.update s.ledger.lastSync reserve (some now) := by
  funext other
  simp only [stamp, Ledger.lastSync, Ledger.read, Table.get?_modify, Function.update_apply]
  by_cases here : reserve = other
  · subst here
    simp [found]
  · simp [here, Ne.symm here]

theorem Copies.lastSync_eq {now : Int} {b : Balance} {l : Ledger}
    (copies : s.Copies reserve now b l) :
    ({ s with ledger := l }.stamp reserve now).ledger.lastSync =
      Function.update s.ledger.lastSync reserve (some now) := by
  have edit : s.ledger.Edit s.params.network .backing l := Ledger.edit_of_setBacking copies.backed
  have same : l.lastSync = s.ledger.lastSync :=
    funext fun other => edit.read_eq Account.Field.read_syncTime (by decide)
  obtain ⟨-, a, found, rfl⟩ := Ledger.setBacking_eq_ok copies.backed
  rw [lastSync_stamp (Table.get?_insert_self ..), same]

/-- An interval has gone by since the last sync. -/
theorem Copies.spaced {now last : Int} {b : Balance} {l : Ledger}
    (copies : s.Copies reserve now b l) (marked : s.ledger.lastSync reserve = some last) :
    last + s.params.minSyncInterval ≤ now := by
  obtain ⟨-, a, found, -⟩ := Ledger.setBacking_eq_ok copies.backed
  rw [Ledger.lastSync, Ledger.read_of_get? found] at marked
  have due := copies.due a found
  simp only [recentSync?, marked, Option.map_some, Option.filter_some, decide_eq_true_eq] at due
  split at due
  · cases due
  · omega

theorem Syncs.marks (done : s.Syncs x t) :
    Sync.Marks s.params.minSyncInterval s.ledger.lastSync x t.ledger.lastSync := by
  cases done with
  | copied copies => exact ⟨fun _ marked => copies.spaced marked, copies.lastSync_eq⟩

theorem marks_of_trail (trail : Trail Syncs s xs t) :
    Trail (Sync.Marks s.params.minSyncInterval) s.ledger.lastSync xs t.ledger.lastSync := by
  induction trail with
  | nil => exact .nil _
  | cons first _ ih =>
    have same := first.params_eq
    rw [same] at ih
    exact .cons first.marks ih

theorem Syncs.copied_self (done : s.Syncs x t) :
    s.oracle.Copied s.params x t.ledger := by
  cases done with
  | @copied b l copies =>
    refine ⟨b, copies.heard, copies.recent, ?_⟩
    rw [backed_stamp, Ledger.backed_of_setBacking copies.backed, if_pos rfl]

/-- A later sync copies the same balance or that of another reserve. -/
theorem Syncs.copied_mono {p : Parameters} {earlier : Sync} (done : s.Syncs x t)
    (h : s.oracle.Copied p earlier s.ledger) : s.oracle.Copied p earlier t.ledger := by
  cases done with
  | @copied b l copies =>
    obtain ⟨b', heard, recent, backed⟩ := h
    refine ⟨b', heard, recent, ?_⟩
    rw [backed_stamp, Ledger.backed_of_setBacking copies.backed]
    split
    · rename_i here
      rw [here] at copies
      cases copies.heard.symm.trans heard
      rfl
    · exact backed

theorem copied_of_trail (trail : Trail Syncs s xs t) :
    ∀ x ∈ xs, s.oracle.Copied s.params x t.ledger := by
  have all := trail.induction_last
    (P := fun xs t => t.oracle = s.oracle ∧ t.params = s.params ∧
      ∀ x ∈ xs, s.oracle.Copied s.params x t.ledger)
    ⟨rfl, rfl, fun _ mem => absurd mem List.not_mem_nil⟩ ?_
  · exact all.2.2
  · rintro xs t x u ⟨oracle, params, before⟩ done
    refine ⟨done.oracle_eq.trans oracle, done.params_eq.trans params, fun other mem => ?_⟩
    rw [← oracle] at before ⊢
    rcases List.mem_append.mp mem with earlier | last
    · exact done.copied_mono (before other earlier)
    · cases List.mem_singleton.mp last
      rw [← params]
      exact done.copied_self

/-- An operation of another kind leaves the marks. -/
theorem lastSync_step (other : op.syncs = false) :
    (s.step op).2.ledger.lastSync = s.ledger.lastSync := by
  have unmarked : .account .syncTime ∉ op.parts := by
    cases op with
    | sync | syncIfPossible | syncBatch => cases other
    | _ => simp [Operation.parts]
  funext reserve
  exact (step_touched op s).read_eq Account.Field.read_syncTime unmarked reserve

theorem step_marks (op : Operation) (s : Bank) :
    Trail (Sync.Marks s.params.minSyncInterval) s.ledger.lastSync (Event.syncs ⟨s, op⟩)
      (s.step op).2.ledger.lastSync := by
  cases kind : op.syncs with
  | true => exact marks_of_trail (trail_of_syncs kind)
  | false =>
    rw [syncs_eq_nil kind, lastSync_step kind]
    exact .nil _

theorem step_copied (op : Operation) (s : Bank) :
    ∀ x ∈ Event.syncs ⟨s, op⟩, s.oracle.Copied s.params x (s.step op).2.ledger := by
  cases kind : op.syncs with
  | true => exact copied_of_trail (trail_of_syncs kind)
  | false =>
    rw [syncs_eq_nil kind]
    exact fun _ mem => absurd mem List.not_mem_nil

theorem run_marks (ops : List Operation) (s : Bank) :
    Trail (Sync.Marks s.params.minSyncInterval) s.ledger.lastSync (s.syncsOf ops)
      (s.run ops).ledger.lastSync := by
  induction ops using List.reverseRecOn with
  | nil => exact .nil _
  | append_singleton ops op ih =>
    have last := step_marks op (s.run ops)
    rw [run_params] at last
    rw [syncsOf_concat, run_concat]
    exact ih.append last

theorem run_copied (ops : List Operation) (s : Bank) :
    ∀ e ∈ s.events ops, ∀ x ∈ e.syncs,
      e.found.oracle.Copied s.params x (e.found.step e.operation).2.ledger := by
  induction ops using List.reverseRecOn with
  | nil => exact fun _ mem => absurd mem List.not_mem_nil
  | append_singleton ops op ih =>
    intro e mem
    rw [events_concat] at mem
    rcases List.mem_append.mp mem with earlier | here
    · exact ih e earlier
    · cases List.mem_singleton.mp here
      rw [← run_params s ops]
      exact step_copied op (s.run ops)

/-- With whatever times the callers give, the syncs of a reserve that succeed come in the order of
their times, at least the minimal interval apart, and each copies a balance that is recent then. -/
theorem run_syncs (authority : Authority) (relay : Relay) (params : Parameters)
    (ops : List Operation) :
    let s := new authority relay params
    (∀ reserve,
      let times := Sync.timesOf reserve (s.syncsOf ops)
      times.IsChain (fun earlier later => earlier + params.minSyncInterval ≤ later) ∧
        times.Pairwise (· ≤ ·) ∧ (s.run ops).ledger.lastSync reserve = times.getLast?) ∧
    ∀ e ∈ s.events ops, ∀ x ∈ e.syncs,
      e.found.oracle.Copied params x (e.found.step e.operation).2.ledger := by
  intro s
  refine ⟨fun reserve => ?_, run_copied ops s⟩
  intro times
  have unmarked : s.ledger.lastSync reserve = none := rfl
  obtain ⟨spaced, last⟩ := (run_marks ops s).spaced unmarked
  refine ⟨spaced, ?_, last⟩
  have nonneg := params.sound.minSyncInterval_nonneg
  have ordered : times.IsChain (· ≤ ·) := spaced.imp fun earlier later due => by
    have due : earlier + params.minSyncInterval ≤ later := due
    omega
  exact List.isChain_iff_pairwise.mp ordered

/-- A sync before its time is refused, also one dated back, and a batch syncs a reserve once. -/
example : Sync.timesOf "reserve" ((new .everyone ⟨1, 1⟩ .testing).syncsOf
    [.register "registrar" "reserve" 1000 (some 0),
      .overrideBalance "arbiter" "reserve" 7 "audit" 1,
      .sync "syncer" "reserve" 10, .sync "syncer" "reserve" 5,
      .syncIfPossible "syncer" "reserve" 69,
      .syncBatch "syncer" ["reserve", "reserve"] 70 none]) = [10, 70] := by
  decide +kernel

end Bank

end BitcoinReserve
