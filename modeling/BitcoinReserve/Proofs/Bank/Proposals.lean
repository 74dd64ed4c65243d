import BitcoinReserve.Proofs.Bank.Motions

/-!
# Proposals in a run

The events of a run tell of each proposal who opened it, who voted for it and when, and whether it
was executed: at most once, by enough votes and at a time that the policy allows. Its execution is
told by one entry in the history of its reserve.
-/
namespace BitcoinReserve

namespace Bank

/-- The event executes the proposal, which was before as it is now but for its execution. -/
structure Event.Enacts (e : Event) (params : Parameters) (p : Proposal) : Prop where
  found : e.found.proposals.proposals.get? p.id =
    some { p with executed := false, executedAt := none }
  quorum : params.watchdogQuorum ≤ p.votes
  enacted : ∃ caller now, e.operation = .execute caller p.id now ∧ p.executedAt = some now ∧
    p.Timely params.executionPolicy now ∧
    ∀ reserve, (e.found.step e.operation).2.ledger.history reserve =
      e.found.ledger.history reserve ++ if p.action.reserve = reserve then
        [⟨e.found.ledger.status reserve, p.action.status, p.action.reason, some now⟩] else []

end Bank

open Bank

/-- What the events of a run tell of a proposal. -/
structure Proposal.Told (params : Parameters) (events : List Event) (p : Proposal) : Prop where
  proposed : ∃ e ∈ events, e.operation = .propose p.proposer p.action.reserve p.action.status
    p.action.reason p.createdAt ∧ e.ending = .ok (.number p.id)
  ends_eq : p.votingEndsAt = p.createdAt + params.votingPeriod
  voters_eq : p.voters = events.filterMap (·.casts? p.id)
  nodup : p.voters.Nodup
  head_eq : p.voters.head? = some p.proposer
  watchdogs : ∀ e ∈ events, ∀ voter, e.casts? p.id = some voter →
    e.found.authority.allows voter .watchdog = true
  timely : ∀ e ∈ events, ∀ voter now, e.operation = .vote voter p.id now →
    e.casts? p.id = some voter → now ≤ p.votingEndsAt
  executions : events.countP (·.executes p.id) = if p.executed then 1 else 0
  unexecuted : p.executed = false → p.executedAt = none
  execution : ∀ e ∈ events, e.executes p.id = true → e.Enacts params p

namespace Proposal.Told

variable {params : Parameters} {events : List Event} {e : Event} {p : Proposal} {now : Int}

theorem executed_of_executes (h : p.Told params events) (mem : e ∈ events)
    (executes : e.executes p.id = true) : p.executed = true := by
  have positive : 0 < events.countP (·.executes p.id) :=
    List.countP_pos_iff.mpr ⟨e, mem, executes⟩
  rw [h.executions] at positive
  split at positive
  · assumption
  · cases positive

/-- What the events tell of a proposal, they tell with one event more that votes for it, executes it
or leaves it as it was. -/
theorem concat (h : p.Told params events) {voters : List Text} {executed : Bool}
    {executedAt : Option Int} (cast : voters = p.voters ++ (e.casts? p.id).toList)
    (valid : ∀ voter, e.casts? p.id = some voter → voter ∉ p.voters ∧
      e.found.authority.allows voter .watchdog = true ∧
      ∀ now, e.operation = .vote voter p.id now → now ≤ p.votingEndsAt)
    (count : (if executed then 1 else 0) =
      (if p.executed then 1 else 0) + if e.executes p.id then 1 else 0)
    (unexecuted : executed = false → executedAt = none)
    (kept : p.executed = true → { p with voters, executed, executedAt } = p)
    (enacts : e.executes p.id = true → e.Enacts params { p with voters, executed, executedAt }) :
    Told params (events ++ [e]) { p with voters, executed, executedAt } where
  proposed := by
    obtain ⟨opening, mem, opened⟩ := h.proposed
    exact ⟨opening, List.mem_append_left _ mem, opened⟩
  ends_eq := h.ends_eq
  voters_eq := by
    rw [List.filterMap_append, ← h.voters_eq, cast]
    cases voted : e.casts? p.id with
    | none => simp [voted]
    | some voter => simp [voted]
  nodup := by
    rw [cast]
    cases voted : e.casts? p.id with
    | none => simpa using h.nodup
    | some voter =>
      rw [Option.toList_some, ← List.concat_eq_append]
      exact h.nodup.concat (valid voter voted).1
  head_eq := by
    rw [cast, List.head?_append, h.head_eq]
    rfl
  watchdogs := by
    rw [List.forall_mem_append, List.forall_mem_singleton]
    exact ⟨h.watchdogs, fun voter voted => (valid voter voted).2.1⟩
  timely := by
    rw [List.forall_mem_append, List.forall_mem_singleton]
    exact ⟨h.timely, fun voter now operation voted => (valid voter voted).2.2 now operation⟩
  executions := by
    rw [List.countP_append, h.executions, List.countP_singleton, count]
  unexecuted := unexecuted
  execution := by
    rw [List.forall_mem_append, List.forall_mem_singleton]
    refine ⟨fun e' mem executes => ?_, enacts⟩
    rw [kept (h.executed_of_executes mem executes)]
    exact h.execution e' mem executes

/-- An event that neither votes for a proposal nor executes it tells nothing of it. -/
theorem skip (h : p.Told params events) (uncast : e.casts? p.id = none)
    (idle : e.executes p.id = false) : p.Told params (events ++ [e]) := by
  refine h.concat (by simp [uncast]) (by simp [uncast]) (by simp [idle]) h.unexecuted
    (fun _ => rfl) fun executes => ?_
  cases idle.symm.trans executes

/-- The event that opens a proposal is the first that tells of it. -/
theorem new {id : Nat} {proposer : Text} {action : StatusAction}
    (silent : ∀ e ∈ events, e.casts? id = none ∧ e.executes id = false)
    (operation : e.operation = .propose proposer action.reserve action.status action.reason now)
    (ending : e.ending = .ok (.number id))
    (watchdog : e.found.authority.allows proposer .watchdog = true) :
    (Proposal.new id proposer action now params.votingPeriod).Told params (events ++ [e]) := by
  have cast : e.casts? id = some proposer := by simp [Event.casts?, operation, ending]
  have uncast : events.filterMap (·.casts? id) = [] :=
    List.filterMap_eq_nil_iff.mpr fun e mem => (silent e mem).1
  have unexecuted : events.countP (·.executes id) = 0 :=
    List.countP_eq_zero.mpr fun e mem => Bool.eq_false_iff.mp (silent e mem).2
  have idle : e.executes id = false := by simp [Event.executes, operation]
  constructor
  · exact ⟨e, List.mem_append_right _ List.mem_cons_self, operation, ending⟩
  · rfl
  · show [proposer] = (events ++ [e]).filterMap (·.casts? id)
    simp [uncast, cast]
  · exact List.nodup_singleton proposer
  · rfl
  · rw [List.forall_mem_append, List.forall_mem_singleton]
    refine ⟨fun e' mem voter voted => ?_, fun voter voted => ?_⟩
    · cases (silent e' mem).1.symm.trans voted
    · cases cast.symm.trans voted
      exact watchdog
  · rw [List.forall_mem_append, List.forall_mem_singleton]
    refine ⟨fun e' mem voter now' _ voted => ?_, fun voter now' voting => ?_⟩
    · cases (silent e' mem).1.symm.trans voted
    · cases operation.symm.trans voting
  · show (events ++ [e]).countP (·.executes id) = 0
    rw [List.countP_append, unexecuted, List.countP_singleton, idle]
    rfl
  · exact fun _ => rfl
  · rw [List.forall_mem_append, List.forall_mem_singleton]
    refine ⟨fun e' mem executes => ?_, fun executes => ?_⟩
    · cases (silent e' mem).2.symm.trans executes
    · cases idle.symm.trans executes

end Proposal.Told

namespace Bank

/-- The proposals have the numbers from 1 on in the order in which they were opened, and the events
tell of each of them. -/
structure Chronicle (params : Parameters) (events : List Event) (b : ProposalBook) : Prop where
  keys : b.proposals.keys = List.range' 1 b.count
  numbered : events.filterMap Event.proposed? = b.proposals.keys.map Int.ofNat
  told : ∀ id p, b.proposals.get? id = some p → p.id = id ∧ p.Told params events
  silent : ∀ e ∈ events, ∀ id, b.count < id → e.casts? id = none ∧ e.executes id = false

namespace Chronicle

variable {params : Parameters} {events : List Event} {e : Event} {b : ProposalBook} {id : Nat}
  {p q : Proposal} {now : Int}

theorem le_count (h : Chronicle params events b) (found : b.proposals.get? id = some p) :
    1 ≤ id ∧ id ≤ b.count := by
  have mem := Table.mem_keys_iff.mpr ⟨p, found⟩
  rw [h.keys, List.mem_range'_1] at mem
  omega

/-- An event that opens nothing may write a proposal that it tells of. -/
theorem put (h : Chronicle params events b) (found : b.proposals.get? id = some p)
    (unopened : e.proposed? = none) (same : q.id = id) (told : q.Told params (events ++ [e]))
    (others : ∀ other, other ≠ id → e.casts? other = none ∧ e.executes other = false) :
    Chronicle params (events ++ [e]) (b.put q) where
  keys := by
    rw [ProposalBook.put, same]
    exact (Table.keys_insert_of_get? found).trans h.keys
  numbered := by
    rw [ProposalBook.put, same, Table.keys_insert_of_get? found, List.filterMap_append, h.numbered,
      List.filterMap_cons_none unopened, List.filterMap_nil, List.append_nil]
  told other r there := by
    rw [ProposalBook.put, same] at there
    rcases Table.get?_insert_eq_some_iff.mp there with ⟨rfl, rfl⟩ | ⟨ne, there⟩
    · exact ⟨same, told⟩
    · obtain ⟨rfl, before⟩ := h.told other r there
      obtain ⟨uncast, idle⟩ := others r.id (Ne.symm ne)
      exact ⟨rfl, before.skip uncast idle⟩
  silent := by
    rw [List.forall_mem_append, List.forall_mem_singleton]
    refine ⟨h.silent, fun other beyond => others other ?_⟩
    have := h.le_count found
    have : b.count < other := beyond
    omega

/-- An event that leaves the book as it was. -/
theorem idle (h : Chronicle params events b) (unopened : e.proposed? = none)
    (silent : ∀ id, e.casts? id = none ∧ e.executes id = false) :
    Chronicle params (events ++ [e]) b where
  keys := h.keys
  numbered := by
    rw [List.filterMap_append, h.numbered, List.filterMap_cons_none unopened, List.filterMap_nil,
      List.append_nil]
  told id p found := by
    obtain ⟨same, told⟩ := h.told id p found
    exact ⟨same, told.skip (silent p.id).1 (silent p.id).2⟩
  silent := by
    rw [List.forall_mem_append, List.forall_mem_singleton]
    exact ⟨h.silent, fun id _ => silent id⟩

theorem openNew (h : Chronicle params events b) {proposer : Text} {action : StatusAction}
    {period : Int}
    (opened : e.proposed? = some ((b.count + 1 : Nat) : Int))
    (told : (Proposal.new (b.count + 1) proposer action now period).Told params (events ++ [e]))
    (others : ∀ other, other ≠ b.count + 1 →
      e.casts? other = none ∧ e.executes other = false) :
    Chronicle params (events ++ [e]) (b.openNew proposer action now period).2 := by
  have missing : b.proposals.get? (b.count + 1) = none := by
    rw [Table.get?_eq_none_iff, h.keys, List.mem_range'_1]
    omega
  have keys : ((b.openNew proposer action now period).2).proposals.keys =
      b.proposals.keys ++ [b.count + 1] := Table.keys_insert_of_get?_none missing
  constructor
  · rw [keys, h.keys, Nat.add_comm]
    exact List.range'_1_concat.symm
  · rw [keys, List.filterMap_append, h.numbered, List.filterMap_cons_some opened,
      List.filterMap_nil, List.map_append]
    rfl
  · intro id p there
    rcases Table.get?_insert_eq_some_iff.mp there with ⟨rfl, rfl⟩ | ⟨ne, there⟩
    · exact ⟨rfl, told⟩
    · obtain ⟨rfl, before⟩ := h.told id p there
      obtain ⟨uncast, idle⟩ := others p.id (Ne.symm ne)
      exact ⟨rfl, before.skip uncast idle⟩
  · rw [List.forall_mem_append, List.forall_mem_singleton]
    refine ⟨fun e' mem id beyond => h.silent e' mem id (Nat.lt_of_succ_lt beyond), ?_⟩
    exact fun id beyond => others id (Nat.ne_of_gt beyond)

end Chronicle

theorem Event.Motion.chronicle {params : Parameters} {events : List Event} {e : Event}
    {b : ProposalBook} (motion : e.Motion b) (params_eq : e.found.params = params)
    (h : Chronicle params events e.found.proposals) : Chronicle params (events ++ [e]) b := by
  subst params_eq
  cases motion with
  | idle unproposed uncast unexecuted =>
    exact h.idle unproposed fun id => ⟨uncast id, unexecuted id⟩
  | opened operation ending watchdog =>
    refine h.openNew (by simp [proposed?, operation, ending]) ?_ fun other ne => ⟨?_, ?_⟩
    · exact .new (fun e mem => h.silent e mem _ (Nat.lt_succ_self _)) operation ending watchdog
    · simp only [casts?, operation, ending, Nat.cast_inj, if_neg (Ne.symm ne)]
    · simp only [executes, operation]
  | @voted caller id now answer p operation ending watchdog found pending timely fresh =>
    obtain ⟨rfl, told⟩ := h.told id p found
    have cast (other : Nat) : e.casts? other = if p.id = other then some caller else none := by
      simp [casts?, operation, ending]
    have idle (other : Nat) : e.executes other = false := by simp [executes, operation]
    refine h.put found (by simp [proposed?, operation]) rfl ?_ fun other ne => ⟨?_, idle other⟩
    · refine told.concat (by simp [cast]) (fun voter voted => ?_) (by simp [idle]) told.unexecuted
        (fun executed => ?_) fun executes => ?_
      · rw [cast, if_pos rfl] at voted
        cases voted
        refine ⟨fresh, watchdog, fun now' voting => ?_⟩
        cases operation.symm.trans voting
        exact timely
      · cases pending.symm.trans executed
      · cases (idle p.id).symm.trans executes
    · rw [cast, if_neg (Ne.symm ne)]
  | @executed caller id now _ p _ operation ending found pending quorum timely changed written =>
    obtain ⟨rfl, told⟩ := h.told id p found
    have uncast (other : Nat) : e.casts? other = none := by simp [casts?, operation]
    have executes (other : Nat) : e.executes other = decide (p.id = other) := by
      simp [Event.executes, operation, ending]
    refine h.put found (by simp [proposed?, operation]) rfl ?_ fun other ne => ⟨uncast other, ?_⟩
    · refine told.concat (by simp [uncast]) (by simp [uncast]) (by simp [executes, pending])
        (fun unexecuted => by cases unexecuted) (fun executed => ?_) fun _ => ?_
      · cases pending.symm.trans executed
      · refine ⟨?_, quorum, caller, now, operation, rfl, timely, fun reserve => ?_⟩
        · rw [found, ← pending, ← told.unexecuted pending]
        · rw [written]
          exact Ledger.history_of_setStatus changed reserve
    · rw [executes, decide_eq_false (Ne.symm ne)]

theorem run_chronicle (authority : Authority) (relay : Relay) (params : Parameters)
    (ops : List Operation) :
    Chronicle params ((new authority relay params).events ops)
      ((new authority relay params).run ops).proposals := by
  induction ops using List.reverseRecOn with
  | nil => exact ⟨rfl, rfl, fun _ _ found => (by cases found), fun _ mem => (by cases mem)⟩
  | append_singleton ops op ih =>
    rw [events_concat, run_concat]
    exact (step_motion op _).chronicle (run_params _ ops) ih

/-- No event writes a proposal that is executed. -/
theorem Event.Motion.executed_kept {params : Parameters} {events : List Event} {e : Event}
    {b : ProposalBook} {id : Nat} {p : Proposal} (motion : e.Motion b)
    (h : Chronicle params events e.found.proposals)
    (there : e.found.proposals.proposals.get? id = some p) (done : p.executed = true) :
    b.proposals.get? id = some p := by
  have other {q : Proposal} {id' : Nat} (found : e.found.proposals.proposals.get? id' = some q)
      (pending : q.executed = false) : q.id ≠ id := by
    obtain ⟨rfl, -⟩ := h.told id' q found
    rintro rfl
    cases found.symm.trans there
    cases done.symm.trans pending
  cases motion with
  | idle => exact there
  | opened =>
    have := (h.le_count there).2
    exact (Table.get?_insert_of_ne _ _ (by simp only [Proposal.new]; omega)).trans there
  | voted _ _ _ found pending =>
    exact (Table.get?_insert_of_ne _ _ (other found pending)).trans there
  | executed _ _ found pending =>
    exact (Table.get?_insert_of_ne _ _ (other found pending)).trans there

theorem run_executed (authority : Authority) (relay : Relay) (params : Parameters)
    (ops more : List Operation) {id : Nat} {p : Proposal}
    (found : ((new authority relay params).run ops).proposals.proposals.get? id = some p)
    (executed : p.executed = true) :
    ((new authority relay params).run (ops ++ more)).proposals.proposals.get? id = some p := by
  induction more using List.reverseRecOn with
  | nil => rwa [List.append_nil]
  | append_singleton more op ih =>
    rw [← List.append_assoc, run_concat]
    exact (step_motion op _).executed_kept (run_chronicle authority relay params (ops ++ more)) ih
      executed

/-- An execution whose change of status the ledger refuses changes nothing. -/
theorem execute_refused {s : Bank} {id now : Int} {p : Proposal} {r : Refusal} (caller : Text)
    (opened : s.openProposal id = .ok p)
    (refused : s.ledger.setStatus p.action.reserve p.action.status p.action.reason (some now) =
      .error r) : ∃ f, s.step (.execute caller id now) = (.error f, s) := by
  rcases step_execute caller id now s with ⟨f, step⟩ | ⟨q, l, opened', -, -, changed, -⟩
  · exact ⟨.refused f, step⟩
  · cases opened.symm.trans opened'
    cases refused.symm.trans changed

/-- Proposals are numbered from one on in the order in which they were opened. The events tell of
each who voted and when, and that it was executed at most once. -/
theorem run_proposals (authority : Authority) (relay : Relay) (params : Parameters)
    (ops more : List Operation) :
    let s := new authority relay params
    let t := s.run ops
    t.proposals.proposals.keys = List.range' 1 t.proposals.count ∧
      (s.events ops).filterMap Event.proposed? = t.proposals.proposals.keys.map Int.ofNat ∧
      (∀ id p, t.proposals.proposals.get? id = some p →
        p.id = id ∧ p.Told params (s.events ops) ∧
          (p.executed = true →
            (s.run (ops ++ more)).proposals.proposals.get? id = some p)) ∧
      ∀ caller id now p r, t.openProposal id = .ok p →
        t.ledger.setStatus p.action.reserve p.action.status p.action.reason (some now) = .error r →
        ∃ f, t.step (.execute caller id now) = (.error f, t) := by
  intro s t
  have chronicle := run_chronicle authority relay params ops
  refine ⟨chronicle.keys, chronicle.numbered, fun id p found => ?_, fun caller id now p r => ?_⟩
  · obtain ⟨same, told⟩ := chronicle.told id p found
    exact ⟨same, told, run_executed authority relay params ops more found⟩
  · exact execute_refused caller

/-- Two watchdogs vote for the proposal of a third, and someone executes it. -/
def voting : List Operation :=
  [.register "registrar" "reserve" 1000 (some 0),
    .propose "first" "reserve" .underReview "audit" 0, .vote "second" 1 1, .vote "third" 1 2,
    .execute "anyone" 1 3]

/-- One execution of the proposal succeeds, and nothing changes it after that. -/
theorem run_proposals_voting :
    let s := new .everyone ⟨1, 1⟩ .testing
    let p : Proposal := ⟨1, "first", ⟨"reserve", .underReview, "audit"⟩, 0, 7200,
      ["first", "second", "third"], true, some 3⟩
    (s.run voting).proposals.proposals.get? 1 = some p ∧
      (s.events voting).countP (·.executes 1) = 1 ∧
      ∀ more, (s.run (voting ++ more)).proposals.proposals.get? 1 = some p := by
  intro s p
  have found : (s.run voting).proposals.proposals.get? 1 = some p := by decide +kernel
  have told (more : List Operation) :=
    (run_proposals .everyone ⟨1, 1⟩ .testing voting more).2.2.1 1 p found
  exact ⟨found, (told []).2.1.executions, fun more => (told more).2.2 rfl⟩

end Bank

end BitcoinReserve
