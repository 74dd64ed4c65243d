import BitcoinReserve.Proofs.Bank.Proposals

/-!
# Proposals that await something

A proposal is listed as active while it can get votes or has enough of them. It can be acted on
while it can get votes, and then as long as it can be executed. The two part where executions end
with the voting period: a proposal with enough votes that was not executed in time stays on the
list, although nobody can do anything about it.
-/
namespace BitcoinReserve

instance : Infinite Text :=
  Infinite.of_injective (fun n => Text.mk (List.replicate n default)) fun n m same => by
    have lengths := congrArg (fun text => text.points.length) same
    simpa using lengths

theorem Text.exists_notMem (texts : List Text) : ∃ text, text ∉ texts := by
  classical
  obtain ⟨text, notMem⟩ := Infinite.exists_notMem_finset texts.toFinset
  exact ⟨text, mt List.mem_toFinset.mpr notMem⟩

theorem Authority.allows_grant (a : Authority) (actor : Text) (role : Role) :
    (a.grant actor role).allows actor role = true := by
  cases a with
  | everyone => rfl
  | granted roles => simp [grant, allows, Table.getD]

/-- A change of status is refused for the move or for the reserve. -/
theorem Ledger.kind_of_setStatus {l : Ledger} {reserve reason : Text} {status : ReserveStatus}
    {now : Option Int} {r : Refusal} (refused : l.setStatus reserve status reason now = .error r) :
    r.kind = .invalidStatusTransition ∨ r.kind = .reserveNotFound := by
  simp only [setStatus, Check.bind_eq_error_iff, Check.ensure_eq_error_iff,
    Check.account_eq_error_iff, ensure_eq_ok_iff] at refused
  rcases refused with ⟨-, rfl⟩ | ⟨-, -, ⟨-, rfl⟩ | ⟨a, -, ⟨-, rfl⟩ | ⟨-, -, written⟩⟩⟩
  · exact .inl rfl
  · exact .inr rfl
  · exact .inl rfl
  · cases written

theorem Proposal.isActive_iff {p : Proposal} {now quorum : Int} :
    p.isActive now quorum = true ↔
      p.executed = false ∧ (quorum ≤ p.votes ∨ now ≤ p.votingEndsAt) := by
  unfold isActive status
  cases p.executed with
  | true => simp
  | false =>
    by_cases enough : quorum ≤ p.votes
    · simp [enough]
    · by_cases ended : p.votingEndsAt < now
      · simp [enough, ended]
      · simp [enough, ended, Int.not_lt.mp ended]

namespace Bank

open BitcoinReserve.Action

variable {s : Bank} {caller : Text} {p : Proposal} {id now : Int}

theorem vote_yields (watchdog : s.authority.allows caller .watchdog = true)
    (opened : s.openProposal id = .ok p) :
    (vote caller id now).Yields s fun result => (∃ votes t, result = .ok votes t) ↔
      now ≤ p.votingEndsAt ∧ caller ∉ p.voters := by
  have allowed : s.authority.require caller .watchdog = .ok () :=
    Check.require_eq_ok_iff.mpr watchdog
  unfold vote
  refine .decide_of_ok allowed (.decide_of_ok opened ?_)
  refine .decide_bind (fun r late => ?_) fun _ timely => ?_
  · have ended := (Check.ensure_eq_error_iff.mp late).1
    simp [ended]
  refine .decide_bind (fun r twice => ?_) fun _ fresh => ?_
  · have voted := (Check.ensure_eq_error_iff.mp twice).1
    simp only [reduceCtorEq, exists_false, false_iff, not_and]
    exact fun _ => voted
  · exact iff_of_true ⟨_, _, rfl⟩ ⟨ensure_eq_ok_iff.mp timely, ensure_eq_ok_iff.mp fresh⟩

/-- The kinds of refusal of an execution for want of votes or for its time. -/
def executionBarriers : List Kind := [.proposalNotApproved, .proposalExpired, .votingNotEnded]

theorem kind_of_checkTime {policy : ExecutionPolicy} {r : Refusal}
    (refused : checkTime policy p now = .error r) : r.kind ∈ executionBarriers := by
  cases policy with
  | withinVotingPeriod =>
    obtain ⟨-, rfl⟩ := Check.ensure_eq_error_iff.mp refused
    show Kind.proposalExpired ∈ executionBarriers
    decide
  | afterVotingPeriod =>
    obtain ⟨-, rfl⟩ := Check.ensure_eq_error_iff.mp refused
    show Kind.votingNotEnded ∈ executionBarriers
    decide

theorem execute_yields (watchdog : s.authority.allows caller .watchdog = true)
    (opened : s.openProposal id = .ok p) :
    (execute caller id now).Yields s fun result =>
      (∀ r t, result = .error r t → r.kind ∉ executionBarriers) ↔
        s.params.watchdogQuorum ≤ p.votes ∧ p.Timely s.params.executionPolicy now := by
  have barred {r : Refusal} (mem : r.kind ∈ executionBarriers) :
      ¬ ∀ r' t, (.error r s : EStateM.Result Refusal Bank StatusAction) = .error r' t →
        r'.kind ∉ executionBarriers :=
    fun free => free r s rfl mem
  have allowed : s.authority.require caller .watchdog = .ok () :=
    Check.require_eq_ok_iff.mpr watchdog
  unfold execute
  refine .decide_of_ok allowed (.decide_of_ok opened (.get_bind ?_))
  refine .decide_bind (fun r few => ?_) fun _ enough => ?_
  · obtain ⟨lacking, rfl⟩ := Check.ensure_eq_error_iff.mp few
    have kind : Kind.proposalNotApproved ∈ executionBarriers := by decide
    exact iff_of_false (barred kind) fun accepted => lacking accepted.1
  refine .decide_bind (fun r untimely => ?_) fun _ timely => ?_
  · refine iff_of_false (barred (kind_of_checkTime untimely)) fun accepted => ?_
    cases untimely.symm.trans (checkTime_eq_ok_iff.mpr accepted.2)
  have accepted := And.intro (ensure_eq_ok_iff.mp enough) (checkTime_eq_ok_iff.mp timely)
  refine .onLedger_unit_cases (fun r refused => ?_) fun l changed => ?_
  · refine iff_of_true (fun r' t same => ?_) accepted
    cases same
    rcases Ledger.kind_of_setStatus refused with kind | kind
    · rw [kind]
      decide
    · rw [kind]
      decide
  · refine iff_of_true (fun r' t same => ?_) accepted
    cases same

theorem vote_accepted_iff (watchdog : s.authority.allows caller .watchdog = true)
    (opened : s.openProposal id = .ok p) :
    (∃ answer, (s.step (.vote caller id now)).1 = .ok answer) ↔
      now ≤ p.votingEndsAt ∧ caller ∉ p.voters :=
  (step_accepted_iff rfl).trans (vote_yields watchdog opened)

theorem execute_unbarred_iff (watchdog : s.authority.allows caller .watchdog = true)
    (opened : s.openProposal id = .ok p) :
    (∀ r, (s.step (.execute caller id now)).1 = .error (.refused r) →
        r.kind ∉ executionBarriers) ↔
      s.params.watchdogQuorum ≤ p.votes ∧ p.Timely s.params.executionPolicy now := by
  have performs : perform (.execute caller id now) s =
      orFail (execute caller id now) .action s := rfl
  simp only [step_refused_iff performs, forall_exists_index]
  exact execute_yields watchdog opened

/-- The caller's first vote for the proposal is accepted, or the caller executes it as far as votes
and time go. -/
def Acts (s : Bank) (caller : Text) (p : Proposal) (now : Int) : Prop :=
  (caller ∉ p.voters ∧ ∃ answer, (s.step (.vote caller p.id now)).1 = .ok answer) ∨
    ∀ r, (s.step (.execute caller p.id now)).1 = .error (.refused r) → r.kind ∉ executionBarriers

/-- The proposal is not executed, and at some time from now on somebody who is made a watchdog acts
on it. -/
def Actionable (s : Bank) (p : Proposal) (now : Int) : Prop :=
  p.executed = false ∧ ∃ later, now ≤ later ∧
    ∃ caller, (s.step (.grant caller .watchdog)).2.Acts caller p later

/-- The proposal has enough votes, and the period in which it could be executed is over. -/
structure Lapsed (s : Bank) (p : Proposal) (now : Int) : Prop where
  policy : s.params.executionPolicy = .withinVotingPeriod
  pending : p.executed = false
  quorum : s.params.watchdogQuorum ≤ p.votes
  ended : p.votingEndsAt < now

/-- Votes are still counted, or there are enough and executions wait for the end of the voting. -/
def Awaits (s : Bank) (p : Proposal) (now : Int) : Prop :=
  now ≤ p.votingEndsAt ∨
    s.params.watchdogQuorum ≤ p.votes ∧ s.params.executionPolicy = .afterVotingPeriod

theorem acts_iff (watchdog : s.authority.allows caller .watchdog = true)
    (opened : s.openProposal p.id = .ok p) :
    s.Acts caller p now ↔ (now ≤ p.votingEndsAt ∧ caller ∉ p.voters) ∨
      s.params.watchdogQuorum ≤ p.votes ∧ p.Timely s.params.executionPolicy now := by
  rw [Acts, vote_accepted_iff watchdog opened, execute_unbarred_iff watchdog opened]
  refine or_congr_left ?_
  rw [and_left_comm, and_self]

theorem awaits_of_acts {later : Int} (watchdog : s.authority.allows caller .watchdog = true)
    (opened : s.openProposal p.id = .ok p) (after : now ≤ later) (acts : s.Acts caller p later) :
    s.Awaits p now := by
  rcases (acts_iff watchdog opened).mp acts with ⟨inTime, -⟩ | ⟨enough, timely⟩
  · exact .inl (after.trans inTime)
  · cases policy : s.params.executionPolicy with
    | withinVotingPeriod =>
      rw [policy] at timely
      exact .inl (after.trans timely)
    | afterVotingPeriod => exact .inr ⟨enough, policy⟩

/-- A watchdog who has not voted yet can vote or, after the voting, execute. -/
theorem exists_acts (watchdog : s.authority.allows caller .watchdog = true)
    (opened : s.openProposal p.id = .ok p) (fresh : caller ∉ p.voters) (awaits : s.Awaits p now) :
    ∃ later, now ≤ later ∧ s.Acts caller p later := by
  rcases awaits with inTime | ⟨enough, policy⟩
  · exact ⟨now, Int.le_refl now, (acts_iff watchdog opened).mpr (.inl ⟨inTime, fresh⟩)⟩
  · have timely : p.Timely s.params.executionPolicy (max now (p.votingEndsAt + 1)) := by
      rw [policy]
      exact Int.lt_of_lt_of_le (Int.lt_succ p.votingEndsAt) (le_max_right _ _)
    exact ⟨_, le_max_left _ _, (acts_iff watchdog opened).mpr (.inr ⟨enough, timely⟩)⟩

theorem opened_of_get? (found : s.proposals.proposals.get? p.id = some p)
    (pending : p.executed = false) : s.openProposal p.id = .ok p :=
  openProposal_eq_ok_iff.mpr ⟨ProposalBook.proposal?_eq_some_iff.mpr ⟨p.id, rfl, found⟩, pending⟩

theorem actionable_iff (found : s.proposals.proposals.get? p.id = some p) :
    s.Actionable p now ↔ p.executed = false ∧ s.Awaits p now := by
  have granted (caller : Text) :
      (s.step (.grant caller .watchdog)).2.authority.allows caller .watchdog = true :=
    s.authority.allows_grant caller .watchdog
  have opened (pending : p.executed = false) (caller : Text) :
      (s.step (.grant caller .watchdog)).2.openProposal p.id = .ok p :=
    opened_of_get? found pending
  constructor
  · rintro ⟨pending, later, after, caller, acts⟩
    have awaits : (s.step (.grant caller .watchdog)).2.Awaits p now :=
      awaits_of_acts (granted caller) (opened pending caller) after acts
    exact ⟨pending, awaits⟩
  · rintro ⟨pending, awaits⟩
    obtain ⟨caller, fresh⟩ := Text.exists_notMem p.voters
    obtain ⟨later, after, acts⟩ :=
      exists_acts (granted caller) (opened pending caller) fresh awaits
    exact ⟨pending, later, after, caller, acts⟩

theorem isActive_iff_awaits_or_lapsed :
    p.isActive now s.params.watchdogQuorum = true ↔
      (p.executed = false ∧ s.Awaits p now) ∨ s.Lapsed p now := by
  rw [Proposal.isActive_iff]
  constructor
  · rintro ⟨pending, enough | inTime⟩
    · rcases Int.lt_or_le p.votingEndsAt now with ended | inTime
      · cases policy : s.params.executionPolicy with
        | withinVotingPeriod => exact .inr ⟨policy, pending, enough, ended⟩
        | afterVotingPeriod => exact .inl ⟨pending, .inr ⟨enough, policy⟩⟩
      · exact .inl ⟨pending, .inl inTime⟩
    · exact .inl ⟨pending, .inl inTime⟩
  · rintro (⟨pending, inTime | ⟨enough, -⟩⟩ | lapsed)
    · exact ⟨pending, .inr inTime⟩
    · exact ⟨pending, .inl enough⟩
    · exact ⟨lapsed.pending, .inl lapsed.quorum⟩

theorem Lapsed.not_awaits (lapsed : s.Lapsed p now) : ¬ s.Awaits p now := by
  rintro (inTime | ⟨-, after⟩)
  · have := lapsed.ended
    omega
  · cases lapsed.policy.symm.trans after

/-- In every run the active proposals are those that somebody can act on from now on, and those with
enough votes whose period of execution is over. Of the latter there are none where executions wait
for the end of the voting. -/
theorem run_agenda (authority : Authority) (relay : Relay) (params : Parameters)
    (ops : List Operation) (now : Int) :
    let s := (new authority relay params).run ops
    (∀ p, p ∈ s.proposals.active now s.params.watchdogQuorum ↔
      p ∈ s.proposals.proposals.values ∧ (s.Actionable p now ∨ s.Lapsed p now)) ∧
    ∀ p ∈ s.proposals.proposals.values,
      ¬ (s.Actionable p now ∧ s.Lapsed p now) ∧
      ∀ caller, s.authority.allows caller .watchdog = true → caller ∉ p.voters →
        (s.Actionable p now ↔
          p.executed = false ∧ ∃ later, now ≤ later ∧ s.Acts caller p later) := by
  intro s
  have stands {p : Proposal} (mem : p ∈ s.proposals.proposals.values) :
      s.proposals.proposals.get? p.id = some p := by
    obtain ⟨id, found⟩ := Table.mem_values_iff.mp mem
    obtain ⟨rfl, -⟩ := (run_chronicle authority relay params ops).told id p found
    exact found
  refine ⟨fun p => ?_, fun p mem => ⟨?_, fun caller watchdog fresh => ?_⟩⟩
  · rw [ProposalBook.active, List.mem_filter, isActive_iff_awaits_or_lapsed]
    exact and_congr_right fun mem => or_congr_left (actionable_iff (stands mem)).symm
  · rintro ⟨actionable, lapsed⟩
    exact lapsed.not_awaits ((actionable_iff (stands mem)).mp actionable).2
  · rw [actionable_iff (stands mem)]
    refine and_congr_right fun pending => ?_
    have opened := opened_of_get? (stands mem) pending
    exact ⟨exists_acts watchdog opened fresh,
      fun ⟨later, after, acts⟩ => awaits_of_acts watchdog opened after acts⟩

/-- Enough votes for a proposal that nobody executes. -/
def unexecuted : List Operation :=
  [.register "registrar" "reserve" 1000 (some 0),
    .propose "first" "reserve" .underReview "audit" 0, .vote "second" 1 1, .vote "third" 1 2]

/-- The proposal that is left. -/
def unexecutedProposal : Proposal where
  id := 1
  proposer := "first"
  action := ⟨"reserve", .underReview, "audit"⟩
  createdAt := 0
  votingEndsAt := 7200
  voters := ["first", "second", "third"]
  executed := false
  executedAt := none

/-- Until the voting ends a fourth watchdog can act on the proposal, and then it lapses. -/
theorem run_agenda_unexecuted :
    let s := (new .everyone ⟨1, 1⟩ .testing).run unexecuted
    let p := unexecutedProposal
    let fourth : Text := "fourth"
    s.authority.allows fourth .watchdog = true ∧ fourth ∉ p.voters ∧
      p ∈ s.proposals.active 7200 s.params.watchdogQuorum ∧ s.Actionable p 7200 ∧
      (∃ later, 7200 ≤ later ∧ s.Acts fourth p later) ∧
      p ∈ s.proposals.active 7201 s.params.watchdogQuorum ∧ s.Lapsed p 7201 := by
  intro s p fourth
  have mem : p ∈ s.proposals.active 7200 s.params.watchdogQuorum := by decide +kernel
  have lapsed : s.Lapsed p 7201 := by
    constructor <;> decide +kernel
  obtain ⟨active, each⟩ := run_agenda .everyone ⟨1, 1⟩ .testing unexecuted 7200
  obtain ⟨active', -⟩ := run_agenda .everyone ⟨1, 1⟩ .testing unexecuted 7201
  obtain ⟨stands, actionable | early⟩ := (active p).mp mem
  · have fresh : fourth ∉ p.voters := by decide
    obtain ⟨-, acts⟩ := ((each p stands).2 fourth rfl fresh).mp actionable
    exact ⟨rfl, fresh, mem, actionable, acts, (active' p).mpr ⟨stands, .inr lapsed⟩, lapsed⟩
  · have := early.ended
    exact absurd this (by decide)

/-- A proposal is listed as active at a time from which on nobody can vote for it or execute it. -/
theorem active_but_lapsed :
    let s := (new .everyone ⟨1, 1⟩ .testing).run unexecuted
    unexecutedProposal ∈ s.proposals.active 7201 s.params.watchdogQuorum ∧
      unexecutedProposal.executed = false ∧ ¬ s.Actionable unexecutedProposal 7201 := by
  intro s
  have mem : unexecutedProposal ∈ s.proposals.active 7201 s.params.watchdogQuorum := by
    decide +kernel
  have found : s.proposals.proposals.get? unexecutedProposal.id = some unexecutedProposal := by
    decide +kernel
  refine ⟨mem, rfl, fun actionable => ?_⟩
  rcases ((actionable_iff found).mp actionable).2 with inTime | ⟨-, after⟩
  · exact absurd inTime (by decide)
  · cases after

end Bank

end BitcoinReserve
