import BitcoinReserve.Proofs.Bank.Statuses

/-!
# Motions

What the watchdogs do to the book of proposals: one is opened, gets a vote or is executed. All else
leaves the book as it was.
-/
namespace BitcoinReserve

/-- Whether the policy lets a proposal be executed at a time. -/
def Proposal.Timely (p : Proposal) (policy : ExecutionPolicy) (now : Int) : Prop :=
  match policy with
  | .withinVotingPeriod => now ≤ p.votingEndsAt
  | .afterVotingPeriod => p.votingEndsAt < now

theorem ProposalBook.proposal?_eq_some_iff {b : ProposalBook} {id : Int} {p : Proposal} :
    b.proposal? id = some p ↔ ∃ n : Nat, id = n ∧ b.proposals.get? n = some p := by
  cases id with
  | ofNat n => simp [proposal?]
  | negSucc n => simp [proposal?]

namespace Bank

open BitcoinReserve.Action

variable {s : Bank} {caller reserve reason : Text} {status : ReserveStatus} {now : Int}
  {p : Proposal}

theorem openProposal_eq_ok_iff {id : Int} :
    s.openProposal id = .ok p ↔ s.proposals.proposal? id = some p ∧ p.executed = false := by
  unfold openProposal
  cases s.proposals.proposal? id with
  | none => simp
  | some q =>
    simp only [Check.bind_eq_ok_iff, ensure_eq_ok_iff, Check.pure_eq_ok_iff, exists_const,
      Option.some.injEq]
    constructor
    · rintro ⟨pending, rfl⟩
      exact ⟨rfl, pending⟩
    · rintro ⟨rfl, pending⟩
      exact ⟨pending, rfl⟩

theorem checkTime_eq_ok_iff {policy : ExecutionPolicy} :
    checkTime policy p now = .ok () ↔ p.Timely policy now := by
  cases policy with
  | withinVotingPeriod => exact ensure_eq_ok_iff
  | afterVotingPeriod => exact ensure_eq_ok_iff

theorem propose_ends (caller reserve : Text) (status : ReserveStatus) (reason : Text) (now : Int)
    (s : Bank) :
    (propose caller reserve status reason now).Ends s fun result =>
      s.authority.allows caller .watchdog = true ∧
        result = .ok (s.proposals.count + 1) { s with
          proposals := (s.proposals.openNew caller ⟨reserve, status, reason⟩ now
            s.params.votingPeriod).2 } := by
  unfold propose
  refine .decide_bind fun _ watchdog => .decide_bind fun _ _ => .decide_bind fun _ _ => ?_
  refine .decide_bind fun _ _ => .get_bind (.inr ⟨Check.require_eq_ok_iff.mp watchdog, rfl⟩)

theorem vote_ends (caller : Text) (id now : Int) (s : Bank) :
    (vote caller id now).Ends s fun result => ∃ p votes,
      s.authority.allows caller .watchdog = true ∧ s.openProposal id = .ok p ∧
        now ≤ p.votingEndsAt ∧ caller ∉ p.voters ∧
        result = .ok votes { s with
          proposals := s.proposals.put { p with voters := p.voters ++ [caller] } } := by
  unfold vote
  refine .decide_bind fun _ watchdog => .decide_bind fun p opened => .decide_bind fun _ timely => ?_
  refine .decide_bind fun _ fresh => .inr ?_
  exact ⟨p, Proposal.votes { p with voters := p.voters ++ [caller] },
    Check.require_eq_ok_iff.mp watchdog, opened, ensure_eq_ok_iff.mp timely,
    ensure_eq_ok_iff.mp fresh, rfl⟩

namespace Event

/-- The number of the proposal that the event opens. -/
def proposed? (e : Event) : Option Int :=
  match e.operation, e.ending with
  | .propose .., .ok (.number id) => some id
  | _, _ => none

/-- The voter whose vote for a proposal the event counts. Whoever opens a proposal votes for it. -/
def casts? (e : Event) (id : Nat) : Option Text :=
  match e.operation, e.ending with
  | .propose caller _ _ _ _, .ok (.number opened) => if opened = id then some caller else none
  | .vote caller voted _, .ok _ => if voted = id then some caller else none
  | _, _ => none

/-- Whether the event executes a proposal. -/
def executes (e : Event) (id : Nat) : Bool :=
  match e.operation, e.ending with
  | .execute _ executed _, .ok _ => executed = id
  | _, _ => false

/-- What an event does to the book of proposals. -/
inductive Motion (e : Event) : ProposalBook → Prop
  | idle (unproposed : e.proposed? = none) (uncast : ∀ id, e.casts? id = none)
      (unexecuted : ∀ id, e.executes id = false) : Motion e e.found.proposals
  | opened {caller reserve reason : Text} {status : ReserveStatus} {now : Int}
      (operation : e.operation = .propose caller reserve status reason now)
      (ending : e.ending = .ok (.number (e.found.proposals.count + 1 : Nat)))
      (watchdog : e.found.authority.allows caller .watchdog = true) :
      Motion e (e.found.proposals.openNew caller ⟨reserve, status, reason⟩ now
        e.found.params.votingPeriod).2
  | voted {caller : Text} {id : Nat} {now : Int} {answer : Answer} {p : Proposal}
      (operation : e.operation = .vote caller id now) (ending : e.ending = .ok answer)
      (watchdog : e.found.authority.allows caller .watchdog = true)
      (found : e.found.proposals.proposals.get? id = some p) (pending : p.executed = false)
      (timely : now ≤ p.votingEndsAt) (fresh : caller ∉ p.voters) :
      Motion e (e.found.proposals.put { p with voters := p.voters ++ [caller] })
  | executed {caller : Text} {id : Nat} {now : Int} {answer : Answer} {p : Proposal} {l : Ledger}
      (operation : e.operation = .execute caller id now) (ending : e.ending = .ok answer)
      (found : e.found.proposals.proposals.get? id = some p) (pending : p.executed = false)
      (quorum : e.found.params.watchdogQuorum ≤ p.votes)
      (timely : p.Timely e.found.params.executionPolicy now)
      (changed : e.found.ledger.setStatus p.action.reserve p.action.status p.action.reason
        (some now) = .ok l)
      (written : (e.found.step e.operation).2.ledger = l) :
      Motion e (e.found.proposals.put { p with executed := true, executedAt := some now })

end Event

theorem motion_propose (caller reserve : Text) (status : ReserveStatus) (reason : Text) (now : Int)
    (s : Bank) :
    Event.Motion ⟨s, .propose caller reserve status reason now⟩
      (s.step (.propose caller reserve status reason now)).2.proposals := by
  have performs : perform (.propose caller reserve status reason now) s =
      orFail (propose caller reserve status reason now) (fun id => .number id) s := rfl
  rcases step_ends (propose_ends caller reserve status reason now s) performs with
    ⟨r, step⟩ | ⟨_, ⟨watchdog, rfl⟩, step⟩
  · have ending : Event.ending ⟨s, .propose caller reserve status reason now⟩ =
        .error (.refused r) := congrArg Prod.fst step
    rw [step]
    refine .idle ?_ (fun id => ?_) (fun id => ?_)
    · simp only [Event.proposed?, ending]
    · simp only [Event.casts?, ending]
    · rfl
  · rw [step]
    exact .opened rfl (congrArg Prod.fst step) watchdog

theorem motion_vote (caller : Text) (id now : Int) (s : Bank) :
    Event.Motion ⟨s, .vote caller id now⟩ (s.step (.vote caller id now)).2.proposals := by
  have performs : perform (.vote caller id now) s = orFail (vote caller id now) .number s := rfl
  rcases step_ends (vote_ends caller id now s) performs with
    ⟨r, step⟩ | ⟨_, ⟨p, votes, watchdog, opened, timely, fresh, rfl⟩, step⟩
  · have ending : Event.ending ⟨s, .vote caller id now⟩ = .error (.refused r) :=
      congrArg Prod.fst step
    rw [step]
    refine .idle rfl (fun id => ?_) (fun id => rfl)
    simp only [Event.casts?, ending]
  · obtain ⟨found, pending⟩ := openProposal_eq_ok_iff.mp opened
    obtain ⟨n, rfl, found⟩ := ProposalBook.proposal?_eq_some_iff.mp found
    rw [step]
    exact .voted rfl (congrArg Prod.fst step) watchdog found pending timely fresh

theorem motion_execute (caller : Text) (id now : Int) (s : Bank) :
    Event.Motion ⟨s, .execute caller id now⟩ (s.step (.execute caller id now)).2.proposals := by
  rcases step_execute caller id now s with
    ⟨r, step⟩ | ⟨p, l, opened, quorum, timely, changed, step⟩
  · have ending : Event.ending ⟨s, .execute caller id now⟩ = .error (.refused r) :=
      congrArg Prod.fst step
    rw [step]
    refine .idle rfl (fun id => rfl) (fun id => ?_)
    simp only [Event.executes, ending]
  · obtain ⟨found, pending⟩ := openProposal_eq_ok_iff.mp opened
    obtain ⟨n, rfl, found⟩ := ProposalBook.proposal?_eq_some_iff.mp found
    have written : (s.step (.execute caller n now)).2.ledger = l := by rw [step]
    rw [step]
    exact .executed rfl (congrArg Prod.fst step) found pending quorum
      (checkTime_eq_ok_iff.mp timely) changed written

/-- Every operation makes a motion in the book or leaves it as it was. -/
theorem step_motion (op : Operation) (s : Bank) :
    Event.Motion ⟨s, op⟩ (s.step op).2.proposals := by
  cases op with
  | propose => exact motion_propose ..
  | vote => exact motion_vote ..
  | execute => exact motion_execute ..
  | _ =>
    rw [(step_touched _ s).proposals_eq (by simp [Operation.parts])]
    exact .idle rfl (fun _ => rfl) (fun _ => rfl)

end Bank

end BitcoinReserve
