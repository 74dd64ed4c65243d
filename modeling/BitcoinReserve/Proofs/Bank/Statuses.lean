import BitcoinReserve.Proofs.Bank.Closings
import BitcoinReserve.Proofs.Ledger.Course

/-!
# The statuses of reserves

Five operations are for a change of status, by the date that they are given. All others leave the
statuses and their histories as they were.
-/
namespace BitcoinReserve

/-- The date of the change that an operation makes to a status, where it makes one. -/
def Operation.statusDate? : Operation → Option (Option Int)
  | .setStatus _ _ _ now | .selfPause _ _ now | .resume _ _ now => some now
  | .execute _ _ now | .enforce _ _ now => some (some now)
  | _ => none

/-- The time that an operation is given. -/
def Operation.time? : Operation → Option Int
  | .register _ _ _ now | .mint _ _ _ _ now | .setBacking _ _ now | .setStatus _ _ _ now
  | .selfPause _ _ now | .resume _ _ now => now
  | .attest _ _ _ _ now | .attestSigned _ now | .attestBatch _ _ _ _ now
  | .overrideBalance _ _ _ _ now | .resetRound _ _ now | .sync _ _ now | .syncIfPossible _ _ now
  | .syncBatch _ _ now _ | .redeem _ _ _ _ _ now | .fulfill _ _ _ _ _ now
  | .fulfillIfPossible _ _ _ _ _ now | .fulfillTrusted _ _ _ now | .flagDefault _ _ _ now
  | .propose _ _ _ _ now | .vote _ _ now | .execute _ _ now | .report _ _ _ now
  | .countReports _ now | .enforce _ _ now | .escalate _ now | .summarize _ now => some now
  | _ => none

theorem Operation.time?_of_statusDate? {op : Operation} {now : Int}
    (h : op.statusDate? = some (some now)) : op.time? = some now := by
  cases op with
  | setStatus | selfPause | resume | execute | enforce => exact Option.some.inj h
  | _ => cases h

/-- Where every change of status is given its time, the dates of changes are among the times. -/
theorem Operation.statusDates_sublist {ops : List Operation}
    (dated : ∀ op ∈ ops, op.statusDate? ≠ some none) :
    (ops.filterMap Operation.statusDate?).Sublist ((ops.filterMap Operation.time?).map some) := by
  induction ops with
  | nil => exact .slnil
  | cons op rest ih =>
    obtain ⟨first, others⟩ := List.forall_mem_cons.mp dated
    cases date : op.statusDate? with
    | none =>
      rw [List.filterMap_cons_none date, List.filterMap_cons]
      split
      · exact ih others
      · exact (ih others).cons _
    | some d =>
      cases d with
      | none => exact absurd date first
      | some now =>
        rw [List.filterMap_cons_some date,
          List.filterMap_cons_some (Operation.time?_of_statusDate? date)]
        exact (ih others).cons_cons _

/-- Changes made by operations whose times do not decrease bear times of these, in order. -/
theorem Ledger.Moved.ordered {l l' : Ledger} {reserve : Text} {later : List StatusChange}
    {ops : List Operation} (moved : l.Moved l' reserve later (ops.filterMap Operation.statusDate?))
    (dated : ∀ op ∈ ops, op.statusDate? ≠ some none)
    (ordered : (ops.filterMap Operation.time?).Pairwise (· ≤ ·)) :
    (∀ c ∈ later, ∃ now ∈ ops.filterMap Operation.time?, c.changedAt = some now) ∧
      later.Pairwise fun c d => ∀ x y, c.changedAt = some x → d.changedAt = some y → x ≤ y := by
  have sub := moved.dated.trans (Operation.statusDates_sublist dated)
  constructor
  · intro c mem
    obtain ⟨now, listed, same⟩ := List.mem_map.mp (sub.subset (List.mem_map_of_mem mem))
    exact ⟨now, listed, same.symm⟩
  · have sorted : ((ops.filterMap Operation.time?).map some).Pairwise
        fun d d' : Option Int => ∀ x y, d = some x → d' = some y → x ≤ y := by
      refine List.pairwise_map.mpr (ordered.imp fun {x y} le x' y' here there => ?_)
      cases here
      cases there
      exact le
    exact List.pairwise_map.mp (sorted.sublist sub)

namespace Bank

open BitcoinReserve.Action

variable {s t : Bank} {reserve : Text}

/-- Only a change of status changes statuses and their histories. -/
theorem Touched.moved {parts : List Part} (touched : s.Touched parts t) (reserve : Text)
    (untouched : .account .status ∉ parts) : s.ledger.Moved t.ledger reserve [] [] := by
  have kept := touched.read_eq Account.Field.read_status untouched reserve
  rw [Ledger.read_status, Ledger.read_status, Prod.mk.injEq] at kept
  exact .of_eq kept.1 kept.2

theorem execute_ends (caller : Text) (id now : Int) (s : Bank) :
    (execute caller id now).Ends s fun result => ∃ p l, s.openProposal id = .ok p ∧
      s.params.watchdogQuorum ≤ p.votes ∧ checkTime s.params.executionPolicy p now = .ok () ∧
      s.ledger.setStatus p.action.reserve p.action.status p.action.reason (some now) = .ok l ∧
      result = .ok p.action { s with
        ledger := l
        proposals := s.proposals.put { p with executed := true, executedAt := some now } } := by
  unfold execute
  refine .decide_bind fun _ _ => .decide_bind fun p opened => .get_bind ?_
  refine .decide_bind fun _ enough => .decide_bind fun _ timely => ?_
  refine .onLedger_unit_bind fun l changed => ?_
  exact ⟨p, l, opened, ensure_eq_ok_iff.mp enough, timely, changed, rfl⟩

theorem step_execute (caller : Text) (id now : Int) (s : Bank) :
    (∃ r, s.step (.execute caller id now) = (.error (.refused r), s)) ∨
      ∃ p l, s.openProposal id = .ok p ∧ s.params.watchdogQuorum ≤ p.votes ∧
        checkTime s.params.executionPolicy p now = .ok () ∧
        s.ledger.setStatus p.action.reserve p.action.status p.action.reason (some now) = .ok l ∧
        s.step (.execute caller id now) = (.ok (.action p.action), { s with
          ledger := l
          proposals := s.proposals.put { p with executed := true, executedAt := some now } }) := by
  have performs : perform (.execute caller id now) s =
      orFail (execute caller id now) .action s := rfl
  rcases step_ends (execute_ends caller id now s) performs with
    refused | ⟨_, ⟨p, l, opened, quorum, timely, changed, rfl⟩, done⟩
  · exact .inl refused
  · exact .inr ⟨p, l, opened, quorum, timely, changed, done⟩

/-- How an enforcement writes the ledger: a reserve that is not under review is put there. -/
def Reviewed (s : Bank) (reserve : Text) (v : Violation) (now : Int) (l : Ledger) : Prop :=
  (s.ledger.status reserve = .underReview ∧ l = s.ledger) ∨
    s.ledger.setStatus reserve .underReview v.name (some now) = .ok l

theorem enforce_ends (reserve code : Text) (now : Int) (s : Bank) :
    (enforce reserve code now).Ends s fun result => ∃ v l, objective code = .ok v ∧
      s.examine reserve v now = .ok .violated ∧ s.Reviewed reserve v now l ∧
      result = match v with
        | .staleAttestations => .ok none { s with ledger := l }
        | .insufficientReserves => .ok (some (now + s.params.escalationDelay))
            { s with ledger := l, timers := s.timers.insert reserve now } := by
  unfold enforce
  refine .decide_bind fun v named => .decide_bind fun finding examined => ?_
  refine .decide_bind fun _ violated => .decide_bind fun a found => ?_
  obtain rfl := ensure_eq_ok_iff.mp violated
  have here : s.ledger.status reserve = a.status :=
    Ledger.status_of_get? (Check.account_eq_ok_iff.mp found)
  extract_lets start
  split
  · refine .onLedger_unit_bind fun l changed => ⟨v, l, named, examined, .inr changed, ?_⟩
    cases v <;> rfl
  · rename_i already
    refine .inr ⟨v, s.ledger, named, examined, .inl ⟨?_, rfl⟩, ?_⟩
    · rw [here]
      exact not_not.mp already
    · cases v <;> rfl

/-- An enforcement is refused without a trace, or the reserve is under review then. A timer starts
where too little backing is the violation. -/
theorem step_enforce (reserve code : Text) (now : Int) (s : Bank) :
    (∃ r, s.step (.enforce reserve code now) = (.error (.refused r), s)) ∨
      ∃ v l, objective code = .ok v ∧ s.examine reserve v now = .ok .violated ∧
        s.Reviewed reserve v now l ∧
        s.step (.enforce reserve code now) = match v with
          | .staleAttestations => (.ok (.due none), { s with ledger := l })
          | .insufficientReserves => (.ok (.due (some (now + s.params.escalationDelay))),
              { s with ledger := l, timers := s.timers.insert reserve now }) := by
  have performs : perform (.enforce reserve code now) s =
      orFail (enforce reserve code now) .due s := rfl
  rcases step_ends (enforce_ends reserve code now s) performs with
    refused | ⟨result, ⟨v, l, named, examined, reviewed, rfl⟩, done⟩
  · exact .inl refused
  · refine .inr ⟨v, l, named, examined, reviewed, ?_⟩
    rw [done]
    cases v <;> rfl

theorem status_of_enforce {code : Text} {now : Int} {answer : Answer}
    (done : (s.step (.enforce reserve code now)).1 = .ok answer) :
    (s.step (.enforce reserve code now)).2.ledger.status reserve = .underReview := by
  rcases step_enforce reserve code now s with ⟨r, refused⟩ | ⟨v, l, -, -, reviewed, enforced⟩
  · rw [refused] at done
    cases done
  · have put : l.status reserve = .underReview := by
      rcases reviewed with ⟨already, rfl⟩ | changed
      · exact already
      · exact Ledger.status_of_setStatus changed
    rw [enforced]
    cases v with
    | staleAttestations => exact put
    | insufficientReserves => exact put

theorem moved_onLedger {op : Operation} {f : Bank → Except Refusal Ledger}
    {answer : Unit → Answer} {dates : List (Option Int)}
    (performs : perform op = orFail (onLedger_ f) answer)
    (moves : ∀ l, f s = .ok l → ∃ later, s.ledger.Moved l reserve later dates) :
    ∃ later, s.ledger.Moved (s.step op).2.ledger reserve later dates := by
  rcases step_onLedger_ performs s with ⟨r, refused⟩ | ⟨l, changed, done⟩
  · rw [refused]
    exact ⟨[], (Ledger.Moved.of_eq rfl rfl).mono (List.nil_sublist _)⟩
  · rw [done]
    exact moves l changed

theorem Reviewed.moved {v : Violation} {now : Int} {l : Ledger} {other : Text}
    (reviewed : s.Reviewed other v now l) (reserve : Text) :
    ∃ later, s.ledger.Moved l reserve later [some now] := by
  rcases reviewed with ⟨-, rfl⟩ | changed
  · exact ⟨[], (Ledger.Moved.of_eq rfl rfl).mono (List.nil_sublist _)⟩
  · exact Ledger.moved_of_setStatus changed reserve

/-- A step moves a status by the change that its operation is for. -/
theorem step_moved (op : Operation) (s : Bank) (reserve : Text) :
    ∃ later, s.ledger.Moved (s.step op).2.ledger reserve later op.statusDate?.toList := by
  have stays : s.ledger.Moved s.ledger reserve [] [] := .of_eq rfl rfl
  cases op with
  | setStatus =>
    exact moved_onLedger rfl fun l changed => Ledger.moved_of_setStatus changed reserve
  | selfPause =>
    refine moved_onLedger rfl fun l paused => ?_
    exact Ledger.moved_of_setStatus (Ledger.setStatus_of_selfPause paused) reserve
  | resume =>
    refine moved_onLedger rfl fun l resumed => ?_
    exact Ledger.moved_of_setStatus (Ledger.setStatus_of_resume resumed) reserve
  | execute caller id now =>
    rcases step_execute caller id now s with
      ⟨r, refused⟩ | ⟨p, l, -, -, -, changed, done⟩
    · rw [refused]
      exact ⟨[], stays.mono (List.nil_sublist _)⟩
    · rw [done]
      exact Ledger.moved_of_setStatus changed reserve
  | enforce other code now =>
    rcases step_enforce other code now s with
      ⟨r, refused⟩ | ⟨v, l, -, -, reviewed, done⟩
    · rw [refused]
      exact ⟨[], stays.mono (List.nil_sublist _)⟩
    · rw [done]
      cases v with
      | staleAttestations => exact reviewed.moved reserve
      | insufficientReserves => exact reviewed.moved reserve
  | _ =>
    refine ⟨[], ((step_touched _ s).moved reserve ?_).mono (List.nil_sublist _)⟩
    simp [Operation.parts]

theorem run_moved (s : Bank) (ops : List Operation) (reserve : Text) :
    ∃ later, s.ledger.Moved (s.run ops).ledger reserve later
      (ops.filterMap Operation.statusDate?) := by
  induction ops using List.reverseRecOn with
  | nil => exact ⟨[], .of_eq rfl rfl⟩
  | append_singleton ops op ih =>
    obtain ⟨earlier, before⟩ := ih
    obtain ⟨last, step⟩ := step_moved op (s.run ops) reserve
    refine ⟨earlier ++ last, ?_⟩
    rw [run_concat, List.filterMap_append]
    convert before.trans step using 1
    cases h : op.statusDate? <;> simp [h]

end Bank

end BitcoinReserve
