import BitcoinReserve.Proofs.Bank.Batches
import BitcoinReserve.Proofs.Bank.OpenRounds

/-!
# Consensus

As many attesters as a round needs attest a balance at one time, in some order. Before the last of
them the round is open. The last one decides it if more than half name one amount, whoever is last.
-/
namespace BitcoinReserve

/-- The operation by which an attestation is made. -/
def Attestation.operation (reserve : Text) (a : Attestation) : Operation :=
  .attest a.attester reserve a.amount a.proofHash a.submittedAt

namespace Round

variable {r : Round} {entries : List Attestation}

/-- The round with these attestations. -/
def holding (r : Round) (entries : List Attestation) : Round :=
  { r with attestations := .keyed Attestation.attester entries }

theorem record_holding (r : Round) (entries : List Attestation) (a : Attestation) :
    (r.holding entries).record a = r.holding (entries ++ [a]) := by
  simp only [holding, record, Table.keyed_concat]

theorem values_holding (distinct : (entries.map Attestation.attester).Nodup) :
    (r.holding entries).attestations.values = entries :=
  (Table.keyed_of_nodup distinct).2

theorem size_holding (distinct : (entries.map Attestation.attester).Nodup) :
    (r.holding entries).size = entries.length := by
  rw [size_eq, values_holding distinct]

theorem votes_holding (distinct : (entries.map Attestation.attester).Nodup) (amount : Int) :
    (r.holding entries).votes amount = Attestation.votes entries amount := by
  rw [votes, values_holding distinct]

end Round

/-- A round takes the place of an earlier one with its number. -/
theorem Oracle.putRound_putRound (o : Oracle) {r r' : Round} (same : r'.id = r.id) :
    (o.putRound r).putRound r' = o.putRound r' := by
  simp only [putRound, same, Table.insert_insert]

namespace Bank

open BitcoinReserve.Action

variable {s : Bank} {reserve : Text} {now amount : Int} {entries order before : List Attestation}
  {a : Attestation}

/-- The round that is opened for the reserve next. -/
def newRound (s : Bank) (reserve : Text) (now : Int) : Round :=
  (s.oracle.openNew s.params reserve now).1

/-- The bank with a new round of the reserve that holds these attestations. -/
def gathering (s : Bank) (reserve : Text) (now : Int) (entries : List Attestation) : Bank :=
  { s with
    oracle := (s.oracle.openNew s.params reserve now).2.putRound
      ((s.newRound reserve now).holding entries) }

/-- Distinct attesters attest a reserve without an open round, all at one time. -/
structure Ballot (s : Bank) (reserve : Text) (now : Int) (entries : List Attestation) : Prop where
  registered : reserve ∈ s.ledger.accounts.keys
  closed : s.oracle.openRound? reserve = none
  distinct : (entries.map Attestation.attester).Nodup
  permitted : ∀ a ∈ entries, s.authority.allows a.attester .attester = true
  nonneg : ∀ a ∈ entries, 0 ≤ a.amount
  dated : ∀ a ∈ entries, a.submittedAt = now

theorem Ballot.perm (h : s.Ballot reserve now entries) (perm : order.Perm entries) :
    s.Ballot reserve now order where
  registered := h.registered
  closed := h.closed
  distinct := (perm.map Attestation.attester).nodup_iff.mpr h.distinct
  permitted a mem := h.permitted a (perm.mem_iff.mp mem)
  nonneg a mem := h.nonneg a (perm.mem_iff.mp mem)
  dated a mem := h.dated a (perm.mem_iff.mp mem)

theorem Ballot.of_append {later : List Attestation} (h : s.Ballot reserve now (entries ++ later)) :
    s.Ballot reserve now entries where
  registered := h.registered
  closed := h.closed
  distinct := by
    have distinct := h.distinct
    rw [List.map_append] at distinct
    exact distinct.of_append_left
  permitted a mem := h.permitted a (List.mem_append_left _ mem)
  nonneg a mem := h.nonneg a (List.mem_append_left _ mem)
  dated a mem := h.dated a (List.mem_append_left _ mem)

theorem openRound?_gathering (s : Bank) (reserve : Text) (now : Int) (entries : List Attestation) :
    (s.gathering reserve now entries).oracle.openRound? reserve =
      some ((s.newRound reserve now).holding entries) := by
  simp [gathering, newRound, Oracle.openRound?, Oracle.openNew, Oracle.putRound, Round.holding]

theorem gathering_nil (s : Bank) (reserve : Text) (now : Int) :
    s.gathering reserve now [] = { s with oracle := (s.oracle.openNew s.params reserve now).2 } := by
  have again : (s.oracle.openNew s.params reserve now).2.putRound (s.newRound reserve now) =
      (s.oracle.openNew s.params reserve now).2 :=
    congrArg (fun rounds => { (s.oracle.openNew s.params reserve now).2 with rounds })
      (Table.insert_insert ..)
  exact congrArg (fun oracle => { s with oracle }) again

theorem gathering_record (s : Bank) (reserve : Text) (now : Int) (entries : List Attestation)
    (a : Attestation) :
    let t := s.gathering reserve now entries
    { t with oracle := t.oracle.putRound (((s.newRound reserve now).holding entries).record a) } =
      s.gathering reserve now (entries ++ [a]) := by
  have same : ((s.newRound reserve now).holding (entries ++ [a])).id =
      ((s.newRound reserve now).holding entries).id := rfl
  simp only [Round.record_holding, gathering, Oracle.putRound_putRound _ same]

theorem submit_gathering (registered : reserve ∈ s.ledger.accounts.keys) (nonneg : 0 ≤ a.amount)
    (entries : List Attestation) :
    let t := s.gathering reserve a.submittedAt entries
    submit a.attester reserve a.amount a.proofHash a.submittedAt t =
      enter s.params ((s.newRound reserve a.submittedAt).holding entries) a t := by
  refine submit_of_enters registered nonneg (.joined (openRound?_gathering ..) ?_)
  have wait := s.params.sound.attestationTimeout_pos
  simp only [Round.isExpired, Round.holding, newRound, Oracle.openNew, Round.new]
  exact decide_eq_false (by omega)

theorem submit_of_closed (registered : reserve ∈ s.ledger.accounts.keys) (nonneg : 0 ≤ a.amount)
    (closed : s.oracle.openRound? reserve = none) :
    submit a.attester reserve a.amount a.proofHash a.submittedAt s =
      submit a.attester reserve a.amount a.proofHash a.submittedAt
        (s.gathering reserve a.submittedAt []) := by
  rw [submit_gathering registered nonneg, gathering_nil]
  exact submit_of_enters registered nonneg (.opened closed)

/-- The answer to the n-th attestation of a new round, where it leaves the round open. -/
def joined (s : Bank) (n : Nat) : Except Failure Answer :=
  .ok (.submission ⟨s.oracle.roundCount + 1, .pending, n, none⟩)

/-- What an attestation of a ballot does to a round that is not decided by it. -/
theorem step_gathering_undecided (registered : reserve ∈ s.ledger.accounts.keys)
    (nonneg : 0 ≤ a.amount) (permitted : s.authority.allows a.attester .attester = true)
    (undecided : ((s.newRound reserve a.submittedAt).holding (entries ++ [a])).decision? s.params =
      none) :
    (s.gathering reserve a.submittedAt entries).step (a.operation reserve) =
      (s.joined ((s.newRound reserve a.submittedAt).holding (entries ++ [a])).size,
        s.gathering reserve a.submittedAt (entries ++ [a])) := by
  have allowed : (s.gathering reserve a.submittedAt entries).authority.allows a.attester .attester =
      true := permitted
  refine step_ok_of_allows allowed rfl ?_
  rw [← Round.record_holding] at undecided ⊢
  rw [submit_gathering registered nonneg, enter_undecided undecided, ← gathering_record]
  rfl

/-- The bank with the new round decided by these attestations and the amount in the ledger. -/
def elected (s : Bank) (reserve : Text) (now : Int) (entries : List Attestation) (amount : Int)
    (l : Ledger) : Bank :=
  let r := (s.newRound reserve now).holding entries
  { s with
    oracle := ((s.gathering reserve now entries).oracle.close
      { r with finalizedAmount := some amount } .finalized now).setBalance reserve
        ⟨amount, now, some r.id⟩
    ledger := l }

theorem step_gathering_decided {l : Ledger} (registered : reserve ∈ s.ledger.accounts.keys)
    (nonneg : 0 ≤ a.amount) (permitted : s.authority.allows a.attester .attester = true)
    (decided : ((s.newRound reserve a.submittedAt).holding (entries ++ [a])).decision? s.params =
      some amount)
    (backed : s.ledger.setBacking reserve amount (some a.submittedAt) = .ok l) :
    (s.gathering reserve a.submittedAt entries).step (a.operation reserve) =
      (.ok (.submission ⟨s.oracle.roundCount + 1, .finalized,
        ((s.newRound reserve a.submittedAt).holding (entries ++ [a])).size, some amount⟩),
        s.elected reserve a.submittedAt (entries ++ [a]) amount l) := by
  have allowed : (s.gathering reserve a.submittedAt entries).authority.allows a.attester .attester =
      true := permitted
  refine step_ok_of_allows allowed rfl ?_
  rw [← Round.record_holding] at decided
  rw [submit_gathering registered nonneg, enter_decided decided, gathering_record,
    Round.record_holding]
  exact finalize_yields (P := (· = _)) backed rfl

/-- While too few attest, the round stays open with all that they said. -/
theorem Ballot.run_gathering (h : s.Ballot reserve now entries)
    (few : entries.length < s.params.consensusThreshold) :
    let ops := entries.map (Attestation.operation reserve)
    (s.gathering reserve now []).run ops = s.gathering reserve now entries ∧
      ((s.gathering reserve now []).events ops).map Event.ending =
        (List.range' 1 entries.length).map s.joined := by
  induction entries using List.reverseRecOn with
  | nil => exact ⟨rfl, rfl⟩
  | append_singleton entries a ih =>
    have size := Round.size_holding (r := s.newRound reserve now) h.distinct
    have undecided : ((s.newRound reserve now).holding (entries ++ [a])).decision? s.params =
        none := by
      rw [Round.decision?_eq_none_iff, size]
      exact .inl few
    have mem : a ∈ entries ++ [a] := List.mem_append_right _ List.mem_cons_self
    rw [List.length_append, List.length_singleton] at few size
    obtain ⟨run, endings⟩ := ih h.of_append (by omega)
    obtain rfl := h.dated a mem
    have step := step_gathering_undecided h.registered (h.nonneg a mem) (h.permitted a mem)
      undecided
    simp only [List.map_append, List.map_singleton, run_concat, events_concat, run, endings]
    rw [Event.ending, step, size, List.length_append, List.length_singleton,
      List.range'_1_concat, List.map_append, Nat.add_comm 1]
    exact ⟨rfl, rfl⟩

/-- The first attestation finds the new round empty, as if it had been open. -/
theorem step_of_closed (registered : reserve ∈ s.ledger.accounts.keys) (nonneg : 0 ≤ a.amount)
    (permitted : s.authority.allows a.attester .attester = true)
    (closed : s.oracle.openRound? reserve = none) :
    s.step (a.operation reserve) =
      (s.gathering reserve a.submittedAt []).step (a.operation reserve) := by
  have permitted' : (s.gathering reserve a.submittedAt []).authority.allows a.attester .attester =
      true := permitted
  rw [Attestation.operation, step_of_allows permitted rfl, step_of_allows permitted' rfl]
  simp only [Action.ending, Action.after, submit_of_closed registered nonneg closed]

theorem Ballot.run_closed (h : s.Ballot reserve now order) (nonempty : order ≠ []) :
    let ops := order.map (Attestation.operation reserve)
    s.run ops = (s.gathering reserve now []).run ops ∧
      (s.events ops).map Event.ending =
        ((s.gathering reserve now []).events ops).map Event.ending := by
  cases order with
  | nil => exact absurd rfl nonempty
  | cons a rest =>
    have mem : a ∈ a :: rest := List.mem_cons_self
    obtain rfl := h.dated a mem
    have step := step_of_closed h.registered (h.nonneg a mem) (h.permitted a mem) h.closed
    simp only [List.map_cons, run, List.foldl_cons, events, Event.ending, step, true_and]

/-- A ballot is its last attestation, made in the round that holds the others. -/
theorem Ballot.run_concat (h : s.Ballot reserve now (before ++ [a]))
    (few : before.length < s.params.consensusThreshold) :
    let ops := (before ++ [a]).map (Attestation.operation reserve)
    let last := (s.gathering reserve now before).step (a.operation reserve)
    s.run ops = last.2 ∧
      (s.events ops).map Event.ending =
        (List.range' 1 before.length).map s.joined ++ [last.1] := by
  intro ops last
  obtain ⟨run, endings⟩ := h.run_closed (by simp)
  obtain ⟨run', endings'⟩ := h.of_append.run_gathering few
  rw [run, endings]
  simp only [List.map_append, List.map_singleton, Bank.run_concat, events_concat, run', endings']
  exact ⟨rfl, rfl⟩

/-- Only the last attestation finalizes the new round. What it finds is the balance of the reserve and
its backing from the time of the ballot on, and nothing else has changed beside the oracle. -/
structure Elects (s t : Bank) (answers : List (Except Failure Answer)) (reserve : Text) (now : Int)
    (order : List Attestation) (amount : Int) : Prop where
  answers_eq : answers = (List.range' 1 (order.length - 1)).map s.joined ++
    [.ok (.submission ⟨s.oracle.roundCount + 1, .finalized, order.length, some amount⟩)]
  balances_eq : t.oracle.balances =
    s.oracle.balances.insert reserve ⟨amount, now, some (s.oracle.roundCount + 1)⟩
  backed : ∃ a, s.ledger.accounts.get? reserve = some a ∧
    t = { s with
      oracle := t.oracle
      ledger := s.ledger.put reserve { a with backing := amount, backingUpdatedAt := some now } }
  closed : t.oracle.openRound? reserve = none
  round : ∃ r, t.oracle.rounds.get? (s.oracle.roundCount + 1) = some r ∧ r.status = .finalized ∧
    r.finalizedAmount = some amount ∧ r.attestations.values = order

/-- No attestation finalizes the new round, which stays open with all of them. -/
structure Divides (s t : Bank) (answers : List (Except Failure Answer)) (reserve : Text)
    (order : List Attestation) : Prop where
  answers_eq : answers = (List.range' 1 order.length).map s.joined
  balances_eq : t.oracle.balances = s.oracle.balances
  rest_eq : t = { s with oracle := t.oracle }
  round : ∃ r, t.oracle.openRound? reserve = some r ∧ r.id = s.oracle.roundCount + 1 ∧
    r.status = .pending ∧ r.attestations.values = order

theorem elects_elected {l : Ledger} {answers : List (Except Failure Answer)}
    (distinct : (order.map Attestation.attester).Nodup)
    (backed : s.ledger.setBacking reserve amount (some now) = .ok l)
    (answered : answers = (List.range' 1 (order.length - 1)).map s.joined ++
      [.ok (.submission ⟨s.oracle.roundCount + 1, .finalized, order.length, some amount⟩)]) :
    s.Elects (s.elected reserve now order amount l) answers reserve now order amount where
  answers_eq := answered
  balances_eq := rfl
  backed := by
    obtain ⟨-, a, found, rfl⟩ := Ledger.setBacking_eq_ok backed
    exact ⟨a, found, rfl⟩
  closed := by
    simp [elected, gathering, Oracle.openRound?, Oracle.setBalance, Oracle.close, Oracle.putRound,
      Table.get?_erase, newRound, Oracle.openNew, Round.holding, Round.new]
  round := by
    refine ⟨_, Table.get?_insert_self .., rfl, rfl, ?_⟩
    exact Round.values_holding (r := s.newRound reserve now) distinct

theorem divides_gathering (distinct : (order.map Attestation.attester).Nodup) :
    s.Divides (s.gathering reserve now order) ((List.range' 1 order.length).map s.joined) reserve
      order where
  answers_eq := rfl
  balances_eq := rfl
  rest_eq := rfl
  round := ⟨_, openRound?_gathering .., rfl, rfl, Round.values_holding distinct⟩

theorem eq_concat_of_enough (enough : order.length = s.params.consensusThreshold) :
    ∃ before a, order = before ++ [a] ∧ before.length < s.params.consensusThreshold := by
  have three := s.params.sound.consensusThreshold_ge
  rcases List.eq_nil_or_concat' order with rfl | ⟨before, a, rfl⟩
  · rw [List.length_nil] at enough
    omega
  · rw [List.length_append, List.length_singleton] at enough
    exact ⟨before, a, rfl, by omega⟩

theorem Ballot.elects (h : s.Ballot reserve now order)
    (enough : order.length = s.params.consensusThreshold)
    (most : order.length < 2 * Attestation.votes order amount) :
    let ops := order.map (Attestation.operation reserve)
    s.Elects (s.run ops) ((s.events ops).map Event.ending) reserve now order amount := by
  have size := Round.size_holding (r := s.newRound reserve now) h.distinct
  have votes := Round.votes_holding (r := s.newRound reserve now) h.distinct amount
  have decided : ((s.newRound reserve now).holding order).decision? s.params = some amount := by
    rw [Round.decision?_eq_some_iff, size, votes]
    exact ⟨enough.ge, most⟩
  have voted : 0 < Attestation.votes order amount := by omega
  obtain ⟨b, listed, named⟩ := List.countP_pos_iff.mp voted
  have nonneg : 0 ≤ amount := by
    rw [← of_decide_eq_true named]
    exact h.nonneg b listed
  obtain ⟨_, found⟩ := Table.mem_keys_iff.mp h.registered
  obtain ⟨l, backed⟩ := setBacking_eq_ok nonneg found (some now)
  obtain ⟨before, a, rfl, few⟩ := eq_concat_of_enough enough
  have mem : a ∈ before ++ [a] := List.mem_append_right _ List.mem_cons_self
  obtain rfl := h.dated a mem
  obtain ⟨run, answers⟩ := h.run_concat few
  rw [step_gathering_decided h.registered (h.nonneg a mem) (h.permitted a mem) decided backed,
    size] at run answers
  intro ops
  rw [run]
  refine elects_elected h.distinct backed (answers.trans ?_)
  rw [List.length_append, List.length_singleton, Nat.add_sub_cancel]

theorem Ballot.divides (h : s.Ballot reserve now order)
    (enough : order.length = s.params.consensusThreshold)
    (divided : ∀ amount, 2 * Attestation.votes order amount ≤ order.length) :
    let ops := order.map (Attestation.operation reserve)
    s.Divides (s.run ops) ((s.events ops).map Event.ending) reserve order := by
  have size := Round.size_holding (r := s.newRound reserve now) h.distinct
  have undecided : ((s.newRound reserve now).holding order).decision? s.params = none := by
    simp only [Round.decision?_eq_none_iff, Round.count_amounts, size,
      Round.votes_holding h.distinct]
    exact .inr divided
  obtain ⟨before, a, rfl, few⟩ := eq_concat_of_enough enough
  have mem : a ∈ before ++ [a] := List.mem_append_right _ List.mem_cons_self
  obtain rfl := h.dated a mem
  obtain ⟨run, answers⟩ := h.run_concat few
  rw [step_gathering_undecided h.registered (h.nonneg a mem) (h.permitted a mem) undecided,
    size] at run answers
  intro ops
  have all : (List.range' 1 (before ++ [a]).length).map s.joined =
      (s.events ops).map Event.ending := by
    rw [answers, List.length_append, List.length_singleton, List.range'_1_concat, List.map_append,
      Nat.add_comm 1]
    rfl
  rw [run, ← all]
  exact divides_gathering h.distinct

/-- The majority of a round is what more than half of its attestations name, if there is such an
amount. What comes of a ballot is the same in whatever order the attesters come. -/
theorem run_consensus :
    (∀ (r : Round) amount n,
      r.majority? = some (amount, n) ↔ r.votes amount = n ∧ r.size < 2 * n) ∧
    (∀ r : Round, r.majority? = none ↔ ∀ amount, 2 * r.votes amount ≤ r.size) ∧
    (∀ (r : Round) amount, (∀ other, r.votes other ≤ r.votes amount) →
      r.majority? = if r.size < 2 * r.votes amount then some (amount, r.votes amount) else none) ∧
    (∀ r r' : Round, r.attestations.values.Perm r'.attestations.values →
      r.majority? = r'.majority?) ∧
    ∀ (s : Bank) reserve now entries, s.Ballot reserve now entries →
      entries.length = s.params.consensusThreshold → ∀ order, order.Perm entries →
        let ops := order.map (Attestation.operation reserve)
        let answers := (s.events ops).map Event.ending
        (∀ amount, entries.length < 2 * Attestation.votes entries amount →
          s.Elects (s.run ops) answers reserve now order amount) ∧
        ((∀ amount, 2 * Attestation.votes entries amount ≤ entries.length) →
          s.Divides (s.run ops) answers reserve order) := by
  refine ⟨fun _ _ _ => Round.majority?_eq_some_iff, fun _ => Round.majority?_eq_none_iff,
    fun _ _ => Round.majority?_of_leading, fun _ _ => Round.majority?_eq_of_perm,
    fun s reserve now entries ballot enough order perm => ?_⟩
  have votes (amount : Int) : Attestation.votes order amount = Attestation.votes entries amount :=
    perm.countP_eq _
  simp only [← votes, ← perm.length_eq] at enough ⊢
  exact ⟨fun amount => (ballot.perm perm).elects enough, (ballot.perm perm).divides enough⟩

/-- Two of three name one amount. Also where they come first, the third finalizes the round. -/
theorem run_consensus_three :
    let s := (new .everyone ⟨1, 1⟩ .testing).run [.register "registrar" "reserve" 1000 (some 0)]
    let entries : List Attestation := [⟨"a", 7, [], 4⟩, ⟨"b", 5, [], 4⟩, ⟨"c", 7, [], 4⟩]
    let order : List Attestation := [⟨"a", 7, [], 4⟩, ⟨"c", 7, [], 4⟩, ⟨"b", 5, [], 4⟩]
    let ops := order.map (Attestation.operation "reserve")
    s.Ballot "reserve" 4 entries ∧ order.Perm entries ∧
      s.Elects (s.run ops) ((s.events ops).map Event.ending) "reserve" 4 order 7 := by
  intro s entries order ops
  have ballot : s.Ballot "reserve" 4 entries := by
    constructor
    · decide +kernel
    · exact Option.isNone_iff_eq_none.mp (by decide +kernel)
    · decide +kernel
    · exact fun _ _ => rfl
    · decide
    · decide
  have perm : order.Perm entries := by decide
  obtain ⟨-, -, -, -, ballots⟩ := run_consensus
  have enough : (entries.length : Int) = s.params.consensusThreshold := by decide +kernel
  obtain ⟨elects, -⟩ := ballots s "reserve" 4 entries ballot enough order perm
  exact ⟨ballot, perm, elects 7 (by decide)⟩

end Bank

end BitcoinReserve
