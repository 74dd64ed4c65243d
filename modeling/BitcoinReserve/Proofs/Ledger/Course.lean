import BitcoinReserve.Proofs.Ledger.Readings
import BitcoinReserve.Proofs.Trail

/-!
# The course of a status

The status of a reserve changes by allowed moves, and its history tells all of them. A reserve that
is not registered yet counts as active without a history, which is how it will be registered.
-/
namespace BitcoinReserve

/-- The change is an allowed move from one status to another. -/
structure StatusChange.Leads (a : ReserveStatus) (c : StatusChange) (b : ReserveStatus) : Prop where
  previous_eq : c.previous = a
  next_eq : c.next = b
  allowed : a.mayBecome b = true

/-- Changes that lead from one status to another. -/
abbrev ReserveStatus.Course : ReserveStatus → List StatusChange → ReserveStatus → Prop :=
  Trail StatusChange.Leads

namespace ReserveStatus

variable {a b : ReserveStatus} {changes : List StatusChange}

theorem mayBecome_revoked (status : ReserveStatus) : revoked.mayBecome status = false := by
  cases status <;> rfl

theorem mayBecome_emergencyPaused (status : ReserveStatus) :
    status.mayBecome emergencyPaused = false := by
  cases status <;> rfl

/-- No course leads out of revocation. -/
theorem Course.of_revoked (course : Course revoked changes b) : changes = [] ∧ b = revoked := by
  cases course with
  | nil => exact ⟨rfl, rfl⟩
  | cons first later => cases (mayBecome_revoked _).symm.trans first.allowed

/-- No course leads to the status that is only reported. -/
theorem Course.stored (course : Course a changes b) (start : a ≠ emergencyPaused) :
    b ≠ emergencyPaused := by
  rcases course.eq_or_last with ⟨-, rfl⟩ | ⟨before, c, status, -, last⟩
  · exact start
  · rintro rfl
    cases (mayBecome_emergencyPaused _).symm.trans last.allowed

end ReserveStatus

namespace Ledger

def status (l : Ledger) (reserve : Text) : ReserveStatus :=
  ((l.accounts.get? reserve).map Account.status).getD .active

def history (l : Ledger) (reserve : Text) : List StatusChange :=
  ((l.accounts.get? reserve).map Account.history).getD []

/-- The status of a reserve takes a course, told at the end of its history, with changes of these
dates. -/
structure Moved (l l' : Ledger) (reserve : Text) (later : List StatusChange)
    (dates : List (Option Int)) : Prop where
  history_eq : l'.history reserve = l.history reserve ++ later
  course : (l.status reserve).Course later (l'.status reserve)
  dated : (later.map StatusChange.changedAt).Sublist dates

variable {l l' l'' : Ledger} {reserve other : Text} {a b : Account}

theorem status_of_get? (found : l.accounts.get? reserve = some a) :
    l.status reserve = a.status := by
  simp [status, found]

theorem history_of_get? (found : l.accounts.get? reserve = some a) :
    l.history reserve = a.history := by
  simp [history, found]

theorem get?_of_status (h : l.status reserve ≠ .active) :
    ∃ a, l.accounts.get? reserve = some a ∧ a.status = l.status reserve := by
  unfold status at h ⊢
  cases found : l.accounts.get? reserve with
  | none => simp [found] at h
  | some a => exact ⟨a, rfl, rfl⟩

theorem Moved.of_eq (status : l'.status reserve = l.status reserve)
    (history : l'.history reserve = l.history reserve) : l.Moved l' reserve [] [] where
  history_eq := by rw [history, List.append_nil]
  course := by
    rw [status]
    exact .nil _
  dated := .slnil

theorem Moved.trans {later later' : List StatusChange} {dates dates' : List (Option Int)}
    (first : l.Moved l' reserve later dates) (next : l'.Moved l'' reserve later' dates') :
    l.Moved l'' reserve (later ++ later') (dates ++ dates') where
  history_eq := by rw [next.history_eq, first.history_eq, List.append_assoc]
  course := first.course.append next.course
  dated := by
    rw [List.map_append]
    exact first.dated.append next.dated

theorem Moved.mono {later : List StatusChange} {dates dates' : List (Option Int)}
    (h : l.Moved l' reserve later dates) (sub : dates.Sublist dates') :
    l.Moved l' reserve later dates' :=
  ⟨h.history_eq, h.course, h.dated.trans sub⟩

theorem Moved.status_eq {dates : List (Option Int)} (h : l.Moved l' reserve [] dates) :
    l'.status reserve = l.status reserve := by
  rcases h.course.eq_or_last with ⟨-, same⟩ | ⟨before, c, status, split, -⟩
  · exact same.symm
  · exact absurd split (by simp)

theorem read_status (l : Ledger) (reserve : Text) :
    l.read (fun a => (a.status, a.history)) (.active, []) reserve =
      (l.status reserve, l.history reserve) := by
  unfold read status history
  cases l.accounts.get? reserve with
  | none => rfl
  | some a => rfl

@[simp] theorem get?_put (l : Ledger) (reserve other : Text) (a : Account) :
    (l.put reserve a).accounts.get? other =
      if reserve = other then some a else l.accounts.get? other :=
  Table.get?_insert l.accounts reserve other a

theorem get?_put_self (l : Ledger) (reserve : Text) (a : Account) :
    (l.put reserve a).accounts.get? reserve = some a := by
  simp

theorem status_of_setStatus {status : ReserveStatus} {reason : Text} {now : Option Int}
    (h : l.setStatus reserve status reason now = .ok l') : l'.status reserve = status := by
  obtain ⟨a, -, -, -, rfl⟩ := setStatus_eq_ok h
  exact status_of_get? (get?_put_self _ _ _)

/-- Only the status that is set changes. -/
theorem eq_of_setStatus {status : ReserveStatus} {reason : Text} {now : Option Int}
    (h : l.setStatus other status reason now = .ok l')
    (changed : l'.status reserve ≠ l.status reserve) : other = reserve := by
  obtain ⟨a, -, -, -, rfl⟩ := setStatus_eq_ok h
  by_contra ne
  refine changed ?_
  rw [Ledger.status, Ledger.status, get?_put, if_neg ne]

/-- A change of status appends one entry to the history of its reserve and none elsewhere. -/
theorem history_of_setStatus {status : ReserveStatus} {reason : Text} {now : Option Int}
    (h : l.setStatus other status reason now = .ok l') (reserve : Text) :
    l'.history reserve = l.history reserve ++
      if other = reserve then [⟨l.status reserve, status, reason, now⟩] else [] := by
  obtain ⟨a, found, -, -, rfl⟩ := setStatus_eq_ok h
  by_cases here : other = reserve
  · subst here
    rw [if_pos rfl, history_of_get? (get?_put_self ..), history_of_get? found,
      status_of_get? found]
    rfl
  · simp [Ledger.history, here]

/-- A change of status is told by one entry in the history of its reserve and by none elsewhere. -/
theorem moved_of_setStatus {status : ReserveStatus} {reason : Text} {now : Option Int}
    (h : l.setStatus other status reason now = .ok l') (reserve : Text) :
    ∃ later, l.Moved l' reserve later [now] := by
  obtain ⟨a, found, -, allowed, rfl⟩ := setStatus_eq_ok h
  by_cases here : other = reserve
  · subst here
    have written := l.get?_put_self other (a.moveTo status reason now)
    refine ⟨[⟨a.status, status, reason, now⟩], ?_, ?_, .refl _⟩
    · rw [history_of_get? found, history_of_get? written]
      rfl
    · rw [status_of_get? found, status_of_get? written]
      exact .single ⟨rfl, rfl, allowed⟩
  · have kept : l.Moved (l.put other (a.moveTo status reason now)) reserve [] [] := by
      refine .of_eq ?_ ?_
      · simp [Ledger.status, here]
      · simp [Ledger.history, here]
    exact ⟨[], kept.mono (List.nil_sublist _)⟩

end Ledger

end BitcoinReserve
