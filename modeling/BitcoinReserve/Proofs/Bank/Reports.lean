import BitcoinReserve.Http.Server
import BitcoinReserve.Proofs.Bank.Reviews

/-!
# Reports in a run

Whoever looks at the reports of a reserve forgets those that lie outside the window. The reports
that are left decide what the full log of the run decides, which has every report that was filed
since the reserve was thawed last.
-/
namespace BitcoinReserve

namespace ReportLog

/-- The reports that count at a time. -/
def counted (p : Parameters) (reports : List CriticalReport) (now : Int) : List CriticalReport :=
  reports.filter fun r => now - p.reportWindow < r.reportedAt

/-- From the latest of these times on the same reports count. -/
def Agree (p : Parameters) (times : List Int) (kept full : List CriticalReport) : Prop :=
  ∀ now, (∀ time ∈ times, time ≤ now) → counted p kept now = counted p full now

variable {p : Parameters} {times later : List Int} {kept full : List CriticalReport} {now : Int}

theorem length_live_le (log : ReportLog) (p : Parameters) (reserve : Text) (now : Int) :
    (live log p reserve now).length ≤ (log.getD reserve []).length :=
  List.length_filter_le ..

/-- A report that counts at a time has counted at every time before. -/
theorem counted_counted {before : Int} (le : before ≤ now) :
    counted p (counted p kept before) now = counted p kept now := by
  unfold counted
  rw [List.filter_filter]
  refine List.filter_congr fun r _ => ?_
  rw [Bool.eq_iff_iff]
  simp only [Bool.and_eq_true, decide_eq_true_eq]
  omega

theorem Agree.mono (h : Agree p times kept full) (sub : times ⊆ later) :
    Agree p later kept full :=
  fun now past => h now fun time mem => past time (sub mem)

/-- Reports that do not count any more can be forgotten. -/
theorem Agree.prune (h : Agree p times kept full) (mem : now ∈ times) :
    Agree p times (counted p kept now) full := by
  intro after past
  rw [counted_counted (past now mem)]
  exact h after past

theorem Agree.append (h : Agree p times kept full) (r : CriticalReport) :
    Agree p times (kept ++ [r]) (full ++ [r]) := by
  intro now past
  unfold counted
  rw [List.filter_append, List.filter_append]
  exact congrArg (· ++ _) (h now past)

end ReportLog

def Ledger.frozen (l : Ledger) (reserve : Text) : Bool := l.read Account.frozen false reserve

theorem Ledger.setFrozen_true {l : Ledger} {reserve : Text} {a : Account}
    (found : l.accounts.get? reserve = some a) :
    l.setFrozen reserve true = .ok (l.put reserve { a with frozen := true }) := by
  simp only [setFrozen, Check.bind_eq_ok_iff, Check.account_eq_ok_iff, ensure_eq_ok_iff,
    Check.pure_eq_ok_iff, true_or, true_and, exists_const]
  exact ⟨a, found, rfl⟩

theorem Ledger.frozen_of_setFrozen {l l' : Ledger} {other : Text} {frozen : Bool}
    (h : l.setFrozen other frozen = .ok l') (reserve : Text) :
    l'.frozen reserve = if other = reserve then frozen else l.frozen reserve := by
  obtain ⟨a, -, -, rfl⟩ := setFrozen_eq_ok h
  exact read_put ..

namespace Bank

open BitcoinReserve.Action

variable {s t : Bank} {caller reserve reason : Text} {now : Int}

/-- What a report needs before the reports of its reserve are looked at. -/
structure Reportable (s : Bank) (caller reserve reason : Text) (a : Account) : Prop where
  watchdog : s.authority.allows caller .watchdog = true
  reasoned : reason ≠ ""
  found : s.ledger.accounts.get? reserve = some a

/-- Whether a report leaves the reserve of an account frozen. -/
def freezes (s : Bank) (a : Account) (reserve : Text) (now : Int) : Bool :=
  a.frozen || decide (s.params.reportThreshold ≤ (s.reports.live s.params reserve now).length + 1)

/-- What a report ends with. -/
inductive Reports (s : Bank) (caller reserve reason : Text) (now : Int) :
    EStateM.Result Refusal Bank Bool → Prop
  | unfit {r : Refusal} (unfit : ∀ a, ¬ s.Reportable caller reserve reason a)
      (other : ∀ actor reserve, r ≠ .reportedAlready actor reserve) :
      Reports s caller reserve reason now (.error r s)
  | repeated {a : Account} (fit : s.Reportable caller reserve reason a)
      (again : ∃ r ∈ s.reports.live s.params reserve now, r.reporter = caller) :
      Reports s caller reserve reason now (.error (.reportedAlready caller reserve)
        { s with reports := s.reports.prune s.params reserve now })
  | filed {a : Account} (fit : s.Reportable caller reserve reason a)
      (fresh : ∀ r ∈ s.reports.live s.params reserve now, r.reporter ≠ caller) :
      Reports s caller reserve reason now (.ok (s.freezes a reserve now) { s with
        ledger := s.ledger.put reserve { a with frozen := s.freezes a reserve now }
        reports := s.reports.insert reserve
          (s.reports.live s.params reserve now ++ [⟨caller, reserve, reason, now⟩]) })

theorem checkReport_ne_repeated {hasReason : Bool} {actor : Text}
    (refused : s.checkReport caller hasReason = .error (.reportedAlready actor reserve)) :
    False := by
  simp [checkReport, Check.bind_eq_error_iff, Authority.require,
    Check.ensure_eq_error_iff] at refused

theorem checkReport_eq_ok_iff :
    s.checkReport caller (reason ≠ "") = .ok () ↔
      s.authority.allows caller .watchdog = true ∧ reason ≠ "" := by
  simp [checkReport]

theorem report_yields (caller reserve reason : Text) (now : Int) (s : Bank) :
    (report caller reserve reason now).Yields s (s.Reports caller reserve reason now) := by
  unfold report
  refine .decide_bind (fun r refused => ?_) fun _ checked => ?_
  · refine .unfit (fun a fit => ?_) fun actor other same =>
      checkReport_ne_repeated (same ▸ refused)
    rw [checkReport_eq_ok_iff.mpr ⟨fit.watchdog, fit.reasoned⟩] at refused
    cases refused
  obtain ⟨watchdog, reasoned⟩ := checkReport_eq_ok_iff.mp checked
  refine .decide_bind (fun r refused => ?_) fun a found => ?_
  · obtain ⟨missing, rfl⟩ := Check.account_eq_error_iff.mp refused
    refine .unfit (fun a fit => ?_) fun actor other same => by cases same
    rw [fit.found] at missing
    cases missing
  rw [Check.account_eq_ok_iff] at found
  have fit : s.Reportable caller reserve reason a := ⟨watchdog, reasoned, found⟩
  have pruned (f : List CriticalReport → Action Bool)
      (next : (f (s.reports.live s.params reserve now)).Yields
        { s with reports := s.reports.prune s.params reserve now }
        (s.Reports caller reserve reason now)) :
      (liveReports reserve now >>= f).Yields s (s.Reports caller reserve reason now) := next
  refine pruned _ (.decide_bind (fun r refused => ?_) fun _ fresh => ?_)
  · obtain ⟨again, rfl⟩ := Check.ensure_eq_error_iff.mp refused
    exact .repeated fit (by simpa using again)
  have fresh : ∀ r ∈ s.reports.live s.params reserve now, r.reporter ≠ caller := by
    simpa using ensure_eq_ok_iff.mp fresh
  have filed : s.Reports caller reserve reason now _ := .filed fit fresh
  rw [← s.reports.insert_insert reserve (s.reports.live s.params reserve now)] at filed
  have kept (frozen : Bool) (same : a.frozen = frozen) :
      s.ledger.put reserve { a with frozen } = s.ledger := by
    rw [← same]
    exact Ledger.put_of_get? found
  refine .modify_bind ?_
  split
  · rename_i frozen
    have same : s.freezes a reserve now = true := by simp [freezes, frozen]
    rw [same, kept true frozen] at filed
    exact filed
  · rename_i thawed
    have thawed : a.frozen = false := Bool.eq_false_of_not_eq_true thawed
    refine .get_bind ?_
    split
    · rename_i enough
      have same : s.freezes a reserve now = true := by simpa [freezes, thawed] using enough
      rw [same] at filed
      exact .onLedger_unit_bind (Ledger.setFrozen_true found) filed
    · rename_i few
      have same : s.freezes a reserve now = false := by simpa [freezes, thawed] using few
      rw [same, kept false thawed] at filed
      exact filed

/-- What an event does to the full log of a reserve. -/
def Event.logs (e : Event) (reserve : Text) (full : List CriticalReport) : List CriticalReport :=
  match e.operation, e.ending with
  | .report caller reported reason now, .ok _ =>
    if reported = reserve then full ++ [⟨caller, reserve, reason, now⟩] else full
  | .thaw _ thawed, .ok _ => if thawed = reserve then [] else full
  | _, _ => full

/-- The full log of a reserve: the reports that were filed since it was thawed last. -/
def filed (s : Bank) (ops : List Operation) (reserve : Text) : List CriticalReport :=
  (s.events ops).foldl (fun full e => e.logs reserve full) []

theorem filed_concat (s : Bank) (ops : List Operation) (op : Operation) (reserve : Text) :
    s.filed (ops ++ [op]) reserve =
      Event.logs ⟨s.run ops, op⟩ reserve (s.filed ops reserve) := by
  unfold filed
  rw [events_concat, List.foldl_append]
  rfl

/-- What an event does to the reports that are kept of a reserve, and to the full log of it. -/
inductive Event.Leaves (e : Event) (reserve : Text) (t : Bank) : Prop
  | kept (silent : ∀ full, e.logs reserve full = full)
      (same : t.reports.getD reserve [] = e.found.reports.getD reserve [])
  | pruned {now : Int} (timed : e.operation.time? = some now)
      (silent : ∀ full, e.logs reserve full = full)
      (live : t.reports.getD reserve [] = e.found.reports.live e.found.params reserve now)
  | filed {r : CriticalReport} (timed : e.operation.time? = some r.reportedAt)
      (logs : ∀ full, e.logs reserve full = full ++ [r])
      (fresh : ∀ r' ∈ e.found.reports.live e.found.params reserve r.reportedAt,
        r'.reporter ≠ r.reporter)
      (few : t.ledger.frozen reserve = false →
        (e.found.reports.live e.found.params reserve r.reportedAt).length + 1 <
          e.found.params.reportThreshold)
      (live : t.reports.getD reserve [] =
        e.found.reports.live e.found.params reserve r.reportedAt ++ [r])
  | forgotten (logs : ∀ full, e.logs reserve full = []) (cleared : t.reports.getD reserve [] = [])

theorem Event.Leaves.of_reports_eq {op : Operation}
    (silent : ∀ full, Event.logs ⟨s, op⟩ reserve full = full)
    (same : t.reports = s.reports) : Event.Leaves ⟨s, op⟩ reserve t :=
  .kept silent (by rw [same])

theorem Event.Leaves.of_prune {op : Operation} {other : Text}
    (timed : op.time? = some now) (silent : ∀ full, Event.logs ⟨s, op⟩ reserve full = full)
    (pruned : t.reports = s.reports.prune s.params other now) :
    Event.Leaves ⟨s, op⟩ reserve t := by
  by_cases here : other = reserve
  · subst here
    refine .pruned timed silent ?_
    rw [pruned, ReportLog.prune, Table.getD, Table.get?_insert_self]
    rfl
  · refine .kept silent ?_
    rw [pruned, ReportLog.prune, Table.getD, Table.get?_insert_of_ne _ _ here]
    rfl

theorem step_report (caller reserve reason : Text) (now : Int) (s : Bank) :
    ∃ result, s.Reports caller reserve reason now result ∧
      s.step (.report caller reserve reason now) = match result with
        | .ok frozen t => (.ok (.flag frozen), t)
        | .error r t => (.error (.refused r), t) := by
  have performs : perform (.report caller reserve reason now) s =
      orFail (report caller reserve reason now) .flag s := rfl
  refine ⟨_, report_yields caller reserve reason now s, (step_orFail performs).trans ?_⟩
  cases report caller reserve reason now s with
  | ok frozen t => rfl
  | error r t => rfl

/-- The reports that are left decide on a report that fits. -/
theorem Reportable.decided {a : Account} (fit : s.Reportable caller reserve reason a) (now : Int) :
    ((∃ r ∈ s.reports.live s.params reserve now, r.reporter = caller) →
      (s.step (.report caller reserve reason now)).1 =
          .error (.refused (.reportedAlready caller reserve)) ∧
        (s.step (.report caller reserve reason now)).2.ledger = s.ledger) ∧
      ((∀ r ∈ s.reports.live s.params reserve now, r.reporter ≠ caller) →
        ∃ frozen, (s.step (.report caller reserve reason now)).1 = .ok (.flag frozen) ∧
          (s.step (.report caller reserve reason now)).2.ledger =
            s.ledger.put reserve { a with frozen } ∧
          (frozen = true ↔ a.frozen = true ∨
            s.params.reportThreshold ≤ (s.reports.live s.params reserve now).length + 1)) := by
  obtain ⟨result, ended, step⟩ := step_report caller reserve reason now s
  rw [step]
  cases ended with
  | unfit unfit => exact absurd fit (unfit a)
  | repeated _ again =>
    refine ⟨fun _ => ⟨rfl, rfl⟩, fun fresh => ?_⟩
    obtain ⟨r, mem, same⟩ := again
    exact absurd same (fresh r mem)
  | filed fit' fresh =>
    cases fit.found.symm.trans fit'.found
    refine ⟨fun ⟨r, mem, same⟩ => absurd same (fresh r mem), fun _ => ?_⟩
    refine ⟨s.freezes a reserve now, rfl, rfl, ?_⟩
    rw [freezes, Bool.or_eq_true, decide_eq_true_eq]

theorem step_countReports (reserve : Text) (now : Int) (s : Bank) :
    s.step (.countReports reserve now) =
      (.ok (.number (s.reports.live s.params reserve now).length),
        { s with reports := s.reports.prune s.params reserve now }) :=
  rfl

theorem summarize_ends (reserve : Text) (now : Int) (s : Bank) :
    (summarize reserve now).Ends s fun result => ∃ summary,
      summary.reports = (s.reports.live s.params reserve now).length ∧
        result = .ok summary { s with reports := s.reports.prune s.params reserve now } := by
  unfold summarize
  exact .decide_bind fun a found => .get_bind (.inr ⟨_, rfl, rfl⟩)

theorem thaw_ends (caller reserve : Text) (s : Bank) :
    (thaw caller reserve).Ends s fun result => ∃ l, s.ledger.setFrozen reserve false = .ok l ∧
      result = .ok () { s with ledger := l, reports := s.reports.erase reserve } := by
  unfold thaw
  exact .decide_bind fun _ _ => .onLedger_unit_bind fun l thawed => ⟨l, thawed, rfl⟩

theorem step_thaw (caller reserve : Text) (s : Bank) :
    (∃ r, s.step (.thaw caller reserve) = (.error (.refused r), s)) ∨
      ∃ l, s.ledger.setFrozen reserve false = .ok l ∧ s.step (.thaw caller reserve) =
        (.ok .nothing, { s with ledger := l, reports := s.reports.erase reserve }) := by
  have performs : perform (.thaw caller reserve) s =
      orFail (thaw caller reserve) (fun _ => .nothing) s := rfl
  rcases step_ends (thaw_ends caller reserve s) performs with
    refused | ⟨_, ⟨l, thawed, rfl⟩, done⟩
  · exact .inl refused
  · exact .inr ⟨l, thawed, done⟩

theorem step_summarize (reserve : Text) (now : Int) (s : Bank) :
    (∃ r, s.step (.summarize reserve now) = (.error (.refused r), s)) ∨
      ∃ summary, summary.reports = (s.reports.live s.params reserve now).length ∧
        s.step (.summarize reserve now) = (.ok (.summary summary),
          { s with reports := s.reports.prune s.params reserve now }) := by
  have performs : perform (.summarize reserve now) s =
      orFail (summarize reserve now) .summary s := rfl
  rcases step_ends (summarize_ends reserve now s) performs with
    refused | ⟨_, ⟨summary, counted, rfl⟩, done⟩
  · exact .inl refused
  · exact .inr ⟨summary, counted, done⟩

theorem leaves_report (caller other reason : Text) (now : Int) (s : Bank) (reserve : Text) :
    Event.Leaves ⟨s, .report caller other reason now⟩ reserve
      (s.step (.report caller other reason now)).2 := by
  obtain ⟨result, ended, step⟩ := step_report caller other reason now s
  rw [step]
  cases ended with
  | unfit =>
    refine .of_reports_eq (fun full => ?_) rfl
    simp only [Event.logs, Event.ending, step]
  | repeated fit again =>
    refine .of_prune rfl (fun full => ?_) rfl
    simp only [Event.logs, Event.ending, step]
  | filed fit fresh =>
    have logs (full : List CriticalReport) :
        Event.logs ⟨s, .report caller other reason now⟩ reserve full =
          if other = reserve then full ++ [⟨caller, reserve, reason, now⟩] else full := by
      simp only [Event.logs, Event.ending, step]
    by_cases here : other = reserve
    · subst here
      refine .filed (r := ⟨caller, other, reason, now⟩) rfl (fun full => ?_) fresh ?_ ?_
      · rw [logs, if_pos rfl]
      · rw [Ledger.frozen, Ledger.read_of_get? (Ledger.get?_put_self ..)]
        simp [freezes]
      · simp only [Table.getD, Table.get?_insert_self]
        rfl
    · refine .kept (fun full => ?_) ?_
      · rw [logs, if_neg here]
      · simp only [Table.getD, Table.get?_insert_of_ne _ _ here]

theorem leaves_thaw (caller other : Text) (s : Bank) (reserve : Text) :
    Event.Leaves ⟨s, .thaw caller other⟩ reserve (s.step (.thaw caller other)).2 := by
  rcases step_thaw caller other s with ⟨r, step⟩ | ⟨l, -, step⟩
  · rw [step]
    refine .of_reports_eq (fun full => ?_) rfl
    simp only [Event.logs, Event.ending, step]
  · have logs (full : List CriticalReport) :
        Event.logs ⟨s, .thaw caller other⟩ reserve full =
          if other = reserve then [] else full := by
      simp only [Event.logs, Event.ending, step]
    rw [step]
    by_cases here : other = reserve
    · refine .forgotten (fun full => ?_) ?_
      · rw [logs, if_pos here]
      · simp only [Table.getD, Table.get?_erase, if_pos here, Option.getD_none]
    · refine .kept (fun full => ?_) ?_
      · rw [logs, if_neg here]
      · simp only [Table.getD, Table.get?_erase_of_ne _ here]

theorem leaves_summarize (other : Text) (now : Int) (s : Bank) (reserve : Text) :
    Event.Leaves ⟨s, .summarize other now⟩ reserve (s.step (.summarize other now)).2 := by
  rcases step_summarize other now s with ⟨r, step⟩ | ⟨summary, -, step⟩
  · rw [step]
    exact .of_reports_eq (fun _ => rfl) rfl
  · rw [step]
    exact .of_prune rfl (fun _ => rfl) rfl

theorem step_leaves (op : Operation) (s : Bank) (reserve : Text) :
    Event.Leaves ⟨s, op⟩ reserve (s.step op).2 := by
  cases op with
  | report => exact leaves_report ..
  | thaw => exact leaves_thaw ..
  | summarize => exact leaves_summarize ..
  | countReports other now =>
    rw [step_countReports]
    exact .of_prune rfl (fun _ => rfl) rfl
  | _ =>
    refine .of_reports_eq (fun _ => rfl) ((step_touched _ s).reports_eq ?_)
    simp [Operation.parts]

/-- What stands beside the full log of a reserve: the reports that are kept count alike, and no
watchdog has two among them. -/
structure Logged (p : Parameters) (times : List Int) (full kept : List CriticalReport) : Prop where
  agree : ReportLog.Agree p times kept full
  nodup : (kept.map CriticalReport.reporter).Nodup

theorem Logged.prune {p : Parameters} {times : List Int} {full kept : List CriticalReport}
    (h : Logged p times full kept) (mem : now ∈ times) :
    Logged p times full (ReportLog.counted p kept now) where
  agree := h.agree.prune mem
  nodup := h.nodup.sublist (List.filter_sublist.map _)

theorem Event.Leaves.logged {op : Operation} {p : Parameters} {times : List Int}
    {full : List CriticalReport} (leaves : Event.Leaves ⟨s, op⟩ reserve t)
    (params : s.params = p) (timed : ∀ time ∈ op.time?, time ∈ times)
    (h : Logged p times full (s.reports.getD reserve [])) :
    Logged p times (Event.logs ⟨s, op⟩ reserve full) (t.reports.getD reserve []) := by
  subst params
  cases leaves with
  | kept silent same =>
    rw [silent, same]
    exact h
  | pruned at_now silent live =>
    rw [silent, live]
    exact h.prune (timed _ at_now)
  | @filed r at_now logs fresh few live =>
    have pruned := h.prune (timed _ at_now)
    rw [logs, live]
    constructor
    · exact pruned.agree.append r
    · rw [List.map_append, List.map_singleton, ← List.concat_eq_append]
      refine pruned.nodup.concat fun again => ?_
      obtain ⟨r', mem, same⟩ := List.mem_map.mp again
      exact fresh r' mem same
  | forgotten logs cleared =>
    rw [logs, cleared]
    exact ⟨fun _ _ => rfl, List.nodup_nil⟩

/-- The reports that a run keeps count as those of the full log. -/
theorem run_logged (authority : Authority) (relay : Relay) (params : Parameters)
    (ops : List Operation) (reserve : Text) :
    Logged params (ops.filterMap Operation.time?) ((new authority relay params).filed ops reserve)
      (((new authority relay params).run ops).reports.getD reserve []) := by
  induction ops using List.reverseRecOn with
  | nil => exact ⟨fun _ _ => rfl, List.nodup_nil⟩
  | append_singleton ops op ih =>
    have mem : ∀ time ∈ op.time?, time ∈ (ops ++ [op]).filterMap Operation.time? := by
      intro time same
      exact List.mem_filterMap.mpr ⟨op, List.mem_append_right _ List.mem_cons_self, same⟩
    have sub : ops.filterMap Operation.time? ⊆ (ops ++ [op]).filterMap Operation.time? := by
      rw [List.filterMap_append]
      exact List.subset_append_left _ _
    have leaves := step_leaves op ((new authority relay params).run ops) reserve
    rw [filed_concat, run_concat]
    exact leaves.logged (run_params _ ops) mem ⟨ih.agree.mono sub, ih.nodup⟩

theorem freeze_ends (caller reserve : Text) (s : Bank) :
    (freeze caller reserve).Ends s fun result => ∃ l, s.ledger.setFrozen reserve true = .ok l ∧
      result = .ok () { s with ledger := l } := by
  unfold freeze
  exact .decide_bind fun _ _ => .onLedger_unit fun l froze => ⟨l, froze, rfl⟩

/-- Nothing but a thaw, which leaves no reports, makes a frozen reserve one that is not, unless the
flag is set from outside. -/
theorem frozen_of_step {op : Operation} (unset : ∀ other frozen, op ≠ .setFrozen other frozen)
    (thawed : (s.step op).2.ledger.frozen reserve = false) :
    s.ledger.frozen reserve = false ∨
      (∃ caller, op = .thaw caller reserve) ∧ (s.step op).2.reports.getD reserve [] = [] := by
  have froze {other : Text} {l : Ledger} (h : s.ledger.setFrozen other true = .ok l)
      (thawed : l.frozen reserve = false) : s.ledger.frozen reserve = false := by
    rw [Ledger.frozen_of_setFrozen h] at thawed
    split at thawed
    · cases thawed
    · exact thawed
  cases op with
  | setFrozen other frozen => exact absurd rfl (unset other frozen)
  | report caller other reason now =>
    obtain ⟨result, ended, step⟩ := step_report caller other reason now s
    rw [step] at thawed
    cases ended with
    | unfit => exact .inl thawed
    | repeated => exact .inl thawed
    | @filed a fit fresh =>
      simp only [Ledger.frozen, Ledger.read_put] at thawed
      split at thawed
      · rename_i here
        simp only [freezes, Bool.or_eq_false_iff] at thawed
        rw [← here, Ledger.frozen, Ledger.read_of_get? fit.found]
        exact .inl thawed.1
      · exact .inl thawed
  | freeze caller other =>
    have performs : perform (.freeze caller other) s =
        orFail (freeze caller other) (fun _ => .nothing) s := rfl
    rcases step_ends (freeze_ends caller other s) performs with
      ⟨r, step⟩ | ⟨_, ⟨l, frozen, rfl⟩, step⟩
    · rw [step] at thawed
      exact .inl thawed
    · rw [step] at thawed
      exact .inl (froze frozen thawed)
  | thaw caller other =>
    rcases step_thaw caller other s with ⟨r, step⟩ | ⟨l, cleared, step⟩
    · rw [step] at thawed
      exact .inl thawed
    · rw [step] at thawed ⊢
      simp only at thawed
      rw [Ledger.frozen_of_setFrozen cleared] at thawed
      split at thawed
      · rename_i here
        subst here
        refine .inr ⟨⟨caller, rfl⟩, ?_⟩
        simp only [Table.getD, Table.get?_erase, if_true, Option.getD_none]
      · exact .inl thawed
  | escalate other now =>
    rcases step_escalate other now s with
      ⟨r, step⟩ | ⟨_, a, -, -, ⟨-, step⟩ | ⟨-, -, l, ⟨-, rfl⟩ | frozen, step⟩⟩
    · rw [step] at thawed
      exact .inl thawed
    · rw [step] at thawed
      exact .inl thawed
    · rw [step] at thawed
      exact .inl thawed
    · rw [step] at thawed
      exact .inl (froze frozen thawed)
  | _ =>
    rw [Ledger.frozen, (step_touched _ s).read_eq Account.Field.read_frozen
      (by simp [Operation.parts])] at thawed
    exact .inl thawed

/-- A reserve that is not frozen has fewer reports than freeze it. -/
def Sparse (s : Bank) (reserve : Text) : Prop :=
  s.ledger.frozen reserve = false →
    (s.reports.getD reserve []).length < s.params.reportThreshold

theorem Sparse.of_nil (cleared : s.reports.getD reserve [] = []) : s.Sparse reserve := by
  intro _
  rw [cleared]
  have := s.params.sound.reportThreshold_pos
  simp only [List.length_nil]
  omega

theorem Sparse.step {op : Operation} (unset : ∀ other frozen, op ≠ .setFrozen other frozen)
    (h : s.Sparse reserve) : (s.step op).2.Sparse reserve := by
  intro thawed
  rcases frozen_of_step unset thawed with before | ⟨-, cleared⟩
  · have below := h before
    rw [step_params]
    cases step_leaves op s reserve with
    | kept silent same =>
      rw [same]
      exact below
    | @pruned now timed silent live =>
      have shorter := ReportLog.length_live_le s.reports s.params reserve now
      rw [live]
      exact Int.lt_of_le_of_lt (Int.ofNat_le.mpr shorter) below
    | filed timed logs fresh few live =>
      rw [live, List.length_append]
      exact few thawed
    | forgotten logs cleared =>
      have := Sparse.of_nil cleared thawed
      rw [step_params] at this
      exact this
  · exact Sparse.of_nil cleared thawed

theorem run_sparse (authority : Authority) (relay : Relay) (params : Parameters)
    (ops : List Operation) (unset : ∀ other frozen, .setFrozen other frozen ∉ ops)
    (reserve : Text) : ((new authority relay params).run ops).Sparse reserve := by
  induction ops using List.reverseRecOn with
  | nil => exact .of_nil rfl
  | append_singleton ops op ih =>
    have before := ih fun other frozen mem => unset other frozen (List.mem_append_left _ mem)
    rw [run_concat]
    refine before.step fun other frozen same => unset other frozen ?_
    rw [same]
    exact List.mem_append_right _ List.mem_cons_self

/-- A request for a reserve does to the bank what a summary does. -/
theorem dispatch_reserve (depth : Nat) (reserve : Text) (r : Http.Request) (s : Bank) :
    (Http.dispatch depth (.reserve reserve) r s).2 = (s.step (.summarize reserve r.now)).2 := by
  have performs : perform (.summarize reserve r.now) s =
      orFail (summarize reserve r.now) .summary s := rfl
  have requested : Http.dispatch depth (.reserve reserve) r s =
      Http.respond (summarize reserve r.now) (fun summary => ⟨200, some summary.view⟩) s := rfl
  rw [requested, step_orFail performs, Http.respond]
  cases summarize reserve r.now s with
  | ok summary t => rfl
  | error refusal t => rfl

/-- At a time that is not before any other of the run, whatever was pruned decides nothing: reports
are refused, counted and acted on as the full log says. -/
theorem run_reports (authority : Authority) (relay : Relay) (params : Parameters)
    (ops : List Operation) (reserve : Text) (now : Int)
    (past : ∀ time ∈ ops.filterMap Operation.time?, time ≤ now) :
    let s := (new authority relay params).run ops
    let counted := ReportLog.counted params ((new authority relay params).filed ops reserve) now
    (∀ caller reason a, s.Reportable caller reserve reason a →
      let t := s.step (.report caller reserve reason now)
      ((∃ r ∈ counted, r.reporter = caller) →
        t.1 = .error (.refused (.reportedAlready caller reserve)) ∧ t.2.ledger = s.ledger) ∧
      ((∀ r ∈ counted, r.reporter ≠ caller) → ∃ frozen, t.1 = .ok (.flag frozen) ∧
        t.2.ledger = s.ledger.put reserve { a with frozen } ∧
        (frozen = true ↔ a.frozen = true ∨ params.reportThreshold ≤ counted.length + 1))) ∧
      (s.step (.countReports reserve now)).1 = .ok (.number counted.length) ∧
      (∀ summary, (s.step (.summarize reserve now)).1 = .ok (.summary summary) →
        summary.reports = counted.length) ∧
      (∀ (depth : Nat) (r : Http.Request),
        (Http.dispatch depth (.reserve reserve) r s).2 = (s.step (.summarize reserve r.now)).2) ∧
      ((s.reports.getD reserve []).map CriticalReport.reporter).Nodup ∧
      ((∀ other frozen, .setFrozen other frozen ∉ ops) → ∀ a,
        s.ledger.accounts.get? reserve = some a → a.frozen = false →
        (s.reports.getD reserve []).length < params.reportThreshold ∧
          counted.length < params.reportThreshold) := by
  intro s counted
  have params_eq : s.params = params := run_params _ ops
  obtain ⟨agree, nodup⟩ := run_logged authority relay params ops reserve
  have live : s.reports.live s.params reserve now = counted := by
    rw [params_eq]
    exact agree now past
  refine ⟨fun caller reason a fit => ?_, ?_, fun summary answered => ?_, ?_, nodup, ?_⟩
  · have decided := fit.decided now
    rw [live, params_eq] at decided
    exact decided
  · rw [step_countReports, live]
  · rcases step_summarize reserve now s with ⟨r, step⟩ | ⟨summary', same, step⟩
    · rw [step] at answered
      cases answered
    · rw [step] at answered
      cases answered
      rw [same, live]
  · exact fun depth r => dispatch_reserve depth reserve r s
  · intro unset a found thawed
    have sparse := run_sparse authority relay params ops unset reserve
    have few := sparse (by rw [Ledger.frozen, Ledger.read_of_get? found, thawed])
    rw [run_params] at few
    have shorter : counted.length ≤ (s.reports.getD reserve []).length := by
      rw [← live]
      exact ReportLog.length_live_le ..
    exact ⟨few, Int.lt_of_le_of_lt (Int.ofNat_le.mpr shorter) few⟩

/-- Two watchdogs report a reserve, and someone looks at it when the first report counts no more. -/
def reporting : List Operation :=
  [.register "registrar" "reserve" 1000 (some 0), .report "first" "reserve" "outage" 0,
    .report "second" "reserve" "outage" 1, .summarize "reserve" 3600]

/-- The first watchdog reports again. With the second it is one too few to freeze the reserve. -/
theorem run_reports_reporting :
    let s := (new .everyone ⟨1, 1⟩ .testing).run reporting
    (∀ time ∈ reporting.filterMap Operation.time?, time ≤ 3600) ∧
      (∃ a, s.Reportable "first" "reserve" "outage" a) ∧
      (s.step (.countReports "reserve" 3600)).1 = .ok (.number 1) ∧
      (s.step (.report "first" "reserve" "outage" 3600)).1 = .ok (.flag false) ∧
      (s.reports.getD "reserve" []).length < Parameters.testing.reportThreshold := by
  intro s
  have past : ∀ time ∈ reporting.filterMap Operation.time?, time ≤ 3600 := by decide
  have registered : ("reserve" : Text) ∈ s.ledger.accounts.keys := by decide +kernel
  obtain ⟨a, found⟩ := Table.mem_keys_iff.mp registered
  have fit : s.Reportable "first" "reserve" "outage" a := ⟨rfl, by decide, found⟩
  have thawed : s.ledger.frozen "reserve" = false := by decide +kernel
  rw [Ledger.frozen, Ledger.read_of_get? found] at thawed
  have one : (ReportLog.counted .testing
      ((new .everyone ⟨1, 1⟩ .testing).filed reporting "reserve") 3600).map
        CriticalReport.reporter = [("second" : Text)] := by decide +kernel
  have single := congrArg List.length one
  rw [List.length_map, List.length_singleton] at single
  obtain ⟨report, count, -, -, -, few⟩ :=
    run_reports .everyone ⟨1, 1⟩ .testing reporting "reserve" 3600 past
  obtain ⟨frozen, answered, -, frozen_iff⟩ := (report "first" "outage" a fit).2 fun r mem => by
    have listed := List.mem_map_of_mem (f := CriticalReport.reporter) mem
    rw [one, List.mem_singleton] at listed
    rw [listed]
    decide
  rw [single] at count frozen_iff
  have still : frozen = false := by
    rw [← Bool.not_eq_true, frozen_iff, thawed]
    decide
  refine ⟨past, ⟨a, fit⟩, count, still ▸ answered, ?_⟩
  exact (few (by simp [reporting]) a found thawed).1

end Bank

end BitcoinReserve
