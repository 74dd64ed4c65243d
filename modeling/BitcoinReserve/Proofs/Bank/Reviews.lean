import BitcoinReserve.Proofs.Bank.Statuses

/-!
# Reviews and their escalation

A timer starts when a reserve is put or kept under review for too little backing. It stands apart
from the status: a review can end and another begin while the timer of the first still stands. A
reserve that is frozen for staying under review stayed there since its timer started, or it left
review and came back.
-/
namespace BitcoinReserve

/-- A reserve that is under review after some changes and after some more was put there by the last
change of all. If there are more, the first of them ended the review that it was under. -/
theorem Ledger.Moved.last_review {l l' l'' : Ledger} {reserve : Text}
    {first later : List StatusChange} {ops more : List Operation}
    (moved : l.Moved l' reserve first (ops.filterMap Operation.statusDate?))
    (moved' : l'.Moved l'' reserve later (more.filterMap Operation.statusDate?))
    (start : l.status reserve = .active) (review : l'.status reserve = .underReview)
    (review' : l''.status reserve = .underReview)
    (dated : ∀ op ∈ ops ++ more, op.statusDate? ≠ some none)
    (ordered : ((ops ++ more).filterMap Operation.time?).Pairwise (· ≤ ·)) :
    ∃ last since, (first ++ later).getLast? = some last ∧ last.next = .underReview ∧
      last.changedAt = some since ∧ since ∈ (ops ++ more).filterMap Operation.time? ∧
      (later = [] → since ∈ ops.filterMap Operation.time?) ∧
      ∀ ended rest, later = ended :: rest → ended.previous = .underReview ∧
        ∃ left ∈ more.filterMap Operation.time?, ended.changedAt = some left ∧ left ≤ since := by
  obtain ⟨earlyDated, lateDated⟩ := List.forall_mem_append.mp dated
  have whole := moved.trans moved'
  rw [← List.filterMap_append] at whole
  obtain ⟨wholeTimes, -⟩ := whole.ordered dated ordered
  rw [List.filterMap_append, List.pairwise_append] at ordered
  obtain ⟨earlyOrdered, lateOrdered, -⟩ := ordered
  obtain ⟨firstTimes, -⟩ := moved.ordered earlyDated earlyOrdered
  obtain ⟨laterTimes, laterOrdered⟩ := moved'.ordered lateDated lateOrdered
  rcases whole.course.eq_or_last with ⟨-, same⟩ | ⟨earlier, last, status, split, leads⟩
  · rw [start, review'] at same
    cases same
  have isLast : (first ++ later).getLast? = some last := by
    rw [split, List.getLast?_concat]
  obtain ⟨since, sinceMem, date⟩ := wholeTimes last (List.mem_of_getLast? isLast)
  refine ⟨last, since, isLast, leads.next_eq.trans review', date, sinceMem, ?_, ?_⟩
  · rintro rfl
    rw [List.append_nil] at isLast
    obtain ⟨time, mem, same⟩ := firstTimes last (List.mem_of_getLast? isLast)
    rw [date] at same
    cases same
    exact mem
  · rintro ended rest rfl
    obtain ⟨left, leftMem, leftDate⟩ := laterTimes ended List.mem_cons_self
    have ends : ended.previous = l'.status reserve := by
      cases moved'.course with
      | cons leads _ => exact leads.previous_eq
    refine ⟨ends.trans review, left, leftMem, leftDate, ?_⟩
    rw [List.getLast?_append_of_ne_nil first (List.cons_ne_nil ended rest)] at isLast
    rcases List.mem_cons.mp (List.mem_of_getLast? isLast) with rfl | mem
    · rw [leftDate] at date
      cases date
      exact Int.le_refl _
    · exact List.rel_of_pairwise_cons laterOrdered mem left since leftDate date

namespace Bank

open BitcoinReserve.Action

variable {s t : Bank} {reserve : Text}

theorem escalate_ends (reserve : Text) (now : Int) (s : Bank) :
    (escalate reserve now).Ends s fun result => ∃ started a,
      s.timers.get? reserve = some started ∧ s.ledger.accounts.get? reserve = some a ∧
      ((a.status ≠ .underReview ∧
          result = .ok false { s with timers := s.timers.erase reserve }) ∨
        (a.status = .underReview ∧ started + s.params.escalationDelay ≤ now ∧
          ∃ l, (a.frozen = true ∧ l = s.ledger ∨ s.ledger.setFrozen reserve true = .ok l) ∧
            result = .ok true { s with ledger := l, timers := s.timers.erase reserve })) := by
  unfold escalate
  refine .get_bind ?_
  split
  · exact .inl ⟨_, rfl⟩
  · rename_i started timed
    refine .decide_bind fun a found => ?_
    rw [Check.account_eq_ok_iff] at found
    split
    · rename_i left
      exact .inr ⟨started, a, timed, found, .inl ⟨left, rfl⟩⟩
    · rename_i still
      refine .decide_bind fun _ due => ?_
      have due := ensure_eq_ok_iff.mp due
      have still : a.status = .underReview := not_not.mp still
      split
      · refine .onLedger_unit_bind fun l froze => ?_
        exact ⟨started, a, timed, found, .inr ⟨still, due, l, .inr froze, rfl⟩⟩
      · rename_i frozen
        have frozen : a.frozen = true := by simpa using frozen
        exact .inr ⟨started, a, timed, found, .inr ⟨still, due, s.ledger, .inl ⟨frozen, rfl⟩, rfl⟩⟩

/-- An escalation is refused without a trace, or stops the timer. It freezes the reserve where it is
still under review and the delay is over. -/
theorem step_escalate (reserve : Text) (now : Int) (s : Bank) :
    (∃ r, s.step (.escalate reserve now) = (.error (.refused r), s)) ∨
      ∃ started a, s.timers.get? reserve = some started ∧
        s.ledger.accounts.get? reserve = some a ∧
        ((a.status ≠ .underReview ∧ s.step (.escalate reserve now) =
            (.ok (.flag false), { s with timers := s.timers.erase reserve })) ∨
          (a.status = .underReview ∧ started + s.params.escalationDelay ≤ now ∧
            ∃ l, (a.frozen = true ∧ l = s.ledger ∨ s.ledger.setFrozen reserve true = .ok l) ∧
              s.step (.escalate reserve now) = (.ok (.flag true),
                { s with ledger := l, timers := s.timers.erase reserve }))) := by
  have performs : perform (.escalate reserve now) s =
      orFail (escalate reserve now) .flag s := rfl
  rcases step_ends (escalate_ends reserve now s) performs with
    refused | ⟨result, ⟨started, a, timed, found, outcome⟩, done⟩
  · exact .inl refused
  · refine .inr ⟨started, a, timed, found, ?_⟩
    rw [done]
    rcases outcome with ⟨left, rfl⟩ | ⟨still, due, l, froze, rfl⟩
    · exact .inl ⟨left, rfl⟩
    · exact .inr ⟨still, due, l, froze, rfl⟩

theorem clearTimer_ends (reserve : Text) (s : Bank) :
    (clearTimer reserve).Ends s fun result => result = .ok false s ∨
      result = .ok true { s with timers := s.timers.erase reserve } := by
  unfold clearTimer
  refine .get_bind ?_
  split
  · exact .inr (.inl rfl)
  · refine .decide_bind fun a _ => ?_
    split
    · exact .inr (.inl rfl)
    · exact .inr (.inr rfl)

/-- The event starts the timer of a reserve. -/
def Event.starts (e : Event) (reserve : Text) (started : Int) : Prop :=
  ∃ code, e.operation = .enforce reserve code started ∧
    e.ending = .ok (.due (some (started + e.found.params.escalationDelay)))

/-- A timer that stands after a step stood before it or was started by it. -/
theorem timer_of_step {op : Operation} {started : Int}
    (timed : (s.step op).2.timers.get? reserve = some started) :
    s.timers.get? reserve = some started ∨ Event.starts ⟨s, op⟩ reserve started := by
  cases op with
  | enforce other code now =>
    rcases step_enforce other code now s with ⟨r, refused⟩ | ⟨v, l, -, -, -, enforced⟩
    · rw [refused] at timed
      exact .inl timed
    · cases v with
      | staleAttestations =>
        rw [enforced] at timed
        exact .inl timed
      | insufficientReserves =>
        rw [enforced, Table.get?_insert] at timed
        split at timed
        · rename_i here
          obtain rfl := here
          cases timed
          exact .inr ⟨code, rfl, congrArg Prod.fst enforced⟩
        · exact .inl timed
  | escalate other now =>
    have erased : (s.timers.erase other).get? reserve = some started →
        s.timers.get? reserve = some started := by
      rw [Table.get?_erase]
      split
      · intro absent
        cases absent
      · exact id
    rcases step_escalate other now s with
      ⟨r, refused⟩ | ⟨_, a, -, -, ⟨-, stopped⟩ | ⟨-, -, l, -, frozen⟩⟩
    · rw [refused] at timed
      exact .inl timed
    · rw [stopped] at timed
      exact .inl (erased timed)
    · rw [frozen] at timed
      exact .inl (erased timed)
  | clearTimer other =>
    have performs : perform (.clearTimer other) s = orFail (clearTimer other) .flag s := rfl
    rcases step_ends (clearTimer_ends other s) performs with
      ⟨r, refused⟩ | ⟨result, rfl | rfl, done⟩
    · rw [refused] at timed
      exact .inl timed
    · rw [done] at timed
      exact .inl timed
    · rw [done, Table.get?_erase] at timed
      split at timed
      · cases timed
      · exact .inl timed
  | _ =>
    rw [(step_touched _ s).timers_eq (by simp [Operation.parts])] at timed
    exact .inl timed

/-- Every timer was started by an event of the run. -/
theorem timer_of_run {authority : Authority} {relay : Relay} {params : Parameters}
    {ops : List Operation} {started : Int}
    (timed : ((new authority relay params).run ops).timers.get? reserve = some started) :
    ∃ before op after, ops = before ++ op :: after ∧
      Event.starts ⟨(new authority relay params).run before, op⟩ reserve started := by
  induction ops using List.reverseRecOn with
  | nil => cases timed
  | append_singleton ops op ih =>
    rw [run_concat] at timed
    rcases timer_of_step timed with earlier | starts
    · obtain ⟨before, op', after, rfl, starts⟩ := ih earlier
      exact ⟨before, op', after ++ [op], by simp, starts⟩
    · exact ⟨ops, op, [], rfl, starts⟩

/-- The escalation that freezes a reserve finds it under review and its timer run out. -/
theorem found_of_escalate {now : Int}
    (escalated : (s.step (.escalate reserve now)).1 = .ok (.flag true)) :
    ∃ started, s.timers.get? reserve = some started ∧ s.ledger.status reserve = .underReview ∧
      started + s.params.escalationDelay ≤ now := by
  rcases step_escalate reserve now s with
    ⟨r, refused⟩ | ⟨started, a, timed, found, ⟨-, stopped⟩ | ⟨review, due, -⟩⟩
  · rw [refused] at escalated
    cases escalated
  · rw [stopped] at escalated
    cases escalated
  · exact ⟨started, timed, (Ledger.status_of_get? found).trans review, due⟩

/-- An escalation leaves statuses and histories as they were. -/
theorem moved_of_escalate (reserve other : Text) (now : Int) (s : Bank) :
    s.ledger.Moved (s.step (.escalate reserve now)).2.ledger other [] [] :=
  (step_touched _ s).moved other (by simp [Operation.parts])

theorem Event.starts.reviews {op : Operation} {started : Int}
    (starts : Event.starts ⟨s, op⟩ reserve started) :
    (s.step op).2.ledger.status reserve = .underReview := by
  obtain ⟨code, rfl, answered⟩ := starts
  exact status_of_enforce answered

theorem Event.starts.time? {e : Event} {started : Int} (starts : e.starts reserve started) :
    e.operation.time? = some started := by
  obtain ⟨code, same, -⟩ := starts
  rw [same]
  rfl

/-- Where times do not decrease, they come up to that of an operation and go on from there. -/
theorem times_at {before after : List Operation} {op : Operation} {started : Int}
    (timed : op.time? = some started)
    (ordered : ((before ++ [op] ++ after).filterMap Operation.time?).Pairwise (· ≤ ·)) :
    (∀ time ∈ (before ++ [op]).filterMap Operation.time?, time ≤ started) ∧
      ∀ time ∈ after.filterMap Operation.time?, started ≤ time := by
  have here : [op].filterMap Operation.time? = [started] := by simp [timed]
  rw [List.filterMap_append, List.pairwise_append, List.filterMap_append, here] at ordered
  obtain ⟨upTo, -, across⟩ := ordered
  obtain ⟨-, -, within⟩ := List.pairwise_append.mp upTo
  constructor
  · intro time mem
    rw [List.filterMap_append, here, List.mem_append, List.mem_singleton] at mem
    rcases mem with earlier | rfl
    · exact within time earlier started List.mem_cons_self
    · exact Int.le_refl time
  · exact across started (List.mem_append_right _ List.mem_cons_self)

/-- Where times do not decrease, a reserve that is frozen by escalation is under review and was so
when its timer was started. If anything changed since, the first change ended the review. -/
theorem run_escalation (authority : Authority) (relay : Relay) (params : Parameters)
    (ops : List Operation) (reserve : Text) (now : Int)
    (dated : ∀ op ∈ ops, op.statusDate? ≠ some none)
    (ordered : ((ops ++ [Operation.escalate reserve now]).filterMap Operation.time?).Pairwise (· ≤ ·))
    (escalated : (((new authority relay params).run ops).step (.escalate reserve now)).1 =
      .ok (.flag true)) :
    let s := new authority relay params
    ∃ before op after started, ops = before ++ op :: after ∧
      Event.starts ⟨s.run before, op⟩ reserve started ∧ started + params.escalationDelay ≤ now ∧
      ∃ a b later, (s.run (before ++ [op])).ledger.accounts.get? reserve = some a ∧
        (s.run (ops ++ [.escalate reserve now])).ledger.accounts.get? reserve = some b ∧
        a.status = .underReview ∧ b.status = .underReview ∧ b.history = a.history ++ later ∧
        ∃ last since, b.history.getLast? = some last ∧ last.next = .underReview ∧
          last.changedAt = some since ∧ since ≤ now ∧
          (later = [] → since + params.escalationDelay ≤ now) ∧
          ∀ ended rest, later = ended :: rest → ended.previous = .underReview ∧
            ∃ left, ended.changedAt = some left ∧ started ≤ left ∧ left ≤ since := by
  intro s
  have params_eq (done : List Operation) : (s.run done).params = params := run_params s done
  obtain ⟨started, timed, review, due⟩ := found_of_escalate escalated
  rw [params_eq] at due
  obtain ⟨before, op, after, rfl, starts⟩ := timer_of_run timed
  refine ⟨before, op, after, started, rfl, starts, due, ?_⟩
  have cut : before ++ op :: after = (before ++ [op]) ++ after := by simp
  rw [cut] at dated ordered review ⊢
  rw [List.filterMap_append, List.pairwise_append] at ordered
  obtain ⟨orderedOps, -, untilNow⟩ := ordered
  obtain ⟨untilStart, sinceStart⟩ := times_at starts.time? orderedOps
  obtain ⟨first, moved⟩ := run_moved s (before ++ [op]) reserve
  obtain ⟨later, moved'⟩ := run_moved (s.run (before ++ [op])) after reserve
  rw [← run_append] at moved'
  have reviewed : (s.run (before ++ [op])).ledger.status reserve = .underReview := by
    rw [run_concat]
    exact starts.reviews
  have frozen := moved_of_escalate reserve reserve now (s.run (before ++ [op] ++ after))
  rw [← run_concat] at frozen
  obtain ⟨a, aFound, aStatus⟩ := Ledger.get?_of_status (by rw [reviewed]; decide)
  obtain ⟨b, bFound, bStatus⟩ := Ledger.get?_of_status (by rw [frozen.status_eq, review]; decide)
  have aHistory : a.history = first := by
    rw [← Ledger.history_of_get? aFound, moved.history_eq]
    rfl
  have bHistory : b.history = first ++ later := by
    rw [← Ledger.history_of_get? bFound, frozen.history_eq, moved'.history_eq, moved.history_eq,
      List.append_nil]
    rfl
  refine ⟨a, b, later, aFound, bFound, aStatus.trans reviewed, ?_, ?_, ?_⟩
  · rw [bStatus, frozen.status_eq, review]
  · rw [bHistory, aHistory]
  obtain ⟨last, since, isLast, next, date, mem, unchanged, changed⟩ :=
    moved.last_review moved' rfl reviewed review dated orderedOps
  refine ⟨last, since, by rw [bHistory, isLast], next, date,
    untilNow since mem now (by simp [Operation.time?]), fun still => ?_, ?_⟩
  · have early := untilStart since (unchanged still)
    omega
  · intro ended rest same
    obtain ⟨ends, left, leftMem, leftDate, le⟩ := changed ended rest same
    exact ⟨ends, left, leftDate, sinceStart left leftMem, le⟩

/-- A reserve loses half of its backing and is put under review at time 0. -/
def reviewing : List Operation :=
  [.register "registrar" "reserve" 1000 (some 0), .setBacking "reserve" 1000 (some 0),
    .mint "minter" "reserve" "holder" 1000 (some 0),
    .overrideBalance "arbiter" "reserve" 500 "audit" 0,
    .enforce "reserve" "INSUFFICIENT_RESERVES" 0]

/-- A reserve that stays under review for the delay of 2700 seconds. -/
theorem run_escalation_reviewing :
    (∀ op ∈ reviewing, op.statusDate? ≠ some none) ∧
      ((reviewing ++ [Operation.escalate "reserve" 2700]).filterMap Operation.time?).Pairwise
        (· ≤ ·) ∧
      (((new .everyone ⟨1, 1⟩ .testing).run reviewing).step (.escalate "reserve" 2700)).1 =
        .ok (.flag true) ∧
      ∃ b last since, ((new .everyone ⟨1, 1⟩ .testing).run
          (reviewing ++ [.escalate "reserve" 2700])).ledger.accounts.get? "reserve" = some b ∧
        b.history.getLast? = some last ∧ last.next = .underReview ∧
        last.changedAt = some since ∧ since ≤ 2700 := by
  have dated : ∀ op ∈ reviewing, op.statusDate? ≠ some none := by decide
  have ordered : ((reviewing ++ [Operation.escalate "reserve" 2700]).filterMap
      Operation.time?).Pairwise (· ≤ ·) := by decide
  have escalated : (((new .everyone ⟨1, 1⟩ .testing).run reviewing).step
      (.escalate "reserve" 2700)).1 = .ok (.flag true) := by
    apply affirmed_of_step
    decide +kernel
  obtain ⟨-, -, -, started, -, -, -, -, b, later, -, found, -, -, -, last, since, isLast, next,
    date, past, -⟩ := run_escalation .everyone ⟨1, 1⟩ .testing reviewing "reserve" 2700 dated
      ordered escalated
  exact ⟨dated, ordered, escalated, b, last, since, found, isLast, next, date, past⟩

/-- A reserve is frozen one second after it came under review, by the timer of a review that ended
long before. -/
theorem escalated_by_ended_review :
    let s := new .everyone ⟨1, 1⟩ .testing
    let ops := reviewing ++ [.setStatus "reserve" .active "cleared" (some 60),
      .setStatus "reserve" .underReview "second finding" (some 2699)]
    (∀ op ∈ ops, op.statusDate? ≠ some none) ∧
      ((ops ++ [Operation.escalate "reserve" 2700]).filterMap Operation.time?).Pairwise (· ≤ ·) ∧
      ((s.run ops).step (.escalate "reserve" 2700)).1 = .ok (.flag true) ∧
      ((s.run (ops ++ [.escalate "reserve" 2700])).ledger.accounts.get? "reserve").bind
        (·.history.getLast?) = some ⟨.active, .underReview, "second finding", some 2699⟩ ∧
      ¬ 2699 ≤ 2700 - Parameters.testing.escalationDelay := by
  intro s ops
  have escalated : ((s.run ops).step (.escalate "reserve" 2700)).1 = .ok (.flag true) := by
    apply affirmed_of_step
    decide +kernel
  exact ⟨by decide, by decide, escalated, by decide +kernel, by decide⟩

end Bank

end BitcoinReserve
