import BitcoinReserve.Operation
import Mathlib

/-!
# Outcomes

When a check or an action succeeds, with what value and in which state. A composite outcome is taken
apart into those of its parts.
-/
namespace BitcoinReserve

namespace Check

variable {ε ε' α β : Type}

@[simp] theorem bind_eq_ok_iff {x : Except ε α} {f : α → Except ε β} {b : β} :
    (x >>= f) = .ok b ↔ ∃ a, x = .ok a ∧ f a = .ok b := by
  cases x with
  | error e => simp [bind, Except.bind]
  | ok a => simp [bind, Except.bind]

theorem bind_eq_error_iff {x : Except ε α} {f : α → Except ε β} {e : ε} :
    (x >>= f) = .error e ↔ x = .error e ∨ ∃ a, x = .ok a ∧ f a = .error e := by
  cases x with
  | error e => simp [bind, Except.bind]
  | ok a => simp [bind, Except.bind]

@[simp] theorem pure_eq_ok_iff {a b : α} : (pure a : Except ε α) = .ok b ↔ a = b := by
  simp [pure, Except.pure]

@[simp] theorem map_eq_ok_iff {x : Except ε α} {f : α → β} {b : β} :
    x.map f = .ok b ↔ ∃ a, x = .ok a ∧ f a = b := by
  cases x with
  | error e => simp [Except.map]
  | ok a => simp [Except.map]

theorem map_eq_error_iff {x : Except ε α} {f : α → β} {e : ε} :
    x.map f = .error e ↔ x = .error e := by
  cases x with
  | error e => simp [Except.map]
  | ok a => simp [Except.map]

@[simp] theorem mapError_eq_ok_iff {x : Except ε α} {f : ε → ε'} {a : α} :
    x.mapError f = .ok a ↔ x = .ok a := by
  cases x with
  | error e => simp [Except.mapError]
  | ok a => simp [Except.mapError]

theorem mapError_eq_error_iff {x : Except ε α} {f : ε → ε'} {e' : ε'} :
    x.mapError f = .error e' ↔ ∃ e, x = .error e ∧ f e = e' := by
  cases x with
  | error e => simp [Except.mapError]
  | ok a => simp [Except.mapError]

theorem toOption_eq_some_iff {x : Except ε α} {a : α} : x.toOption = some a ↔ x = .ok a := by
  cases x with
  | error e => simp [Except.toOption]
  | ok a => simp [Except.toOption]

attribute [simp] ensure_eq_ok_iff

@[simp] theorem reject_eq_ok_iff {condition : Prop} [Decidable condition] {e : ε}
    {x : Except ε α} {a : α} :
    (if condition then .error e else x) = .ok a ↔ ¬ condition ∧ x = .ok a := by
  by_cases h : condition
  · simp [h]
  · simp [h]

@[simp] theorem require_eq_ok_iff {auth : Authority} {actor : Text} {role : Role} {u : Unit} :
    auth.require actor role = .ok u ↔ auth.allows actor role = true :=
  ensure_eq_ok_iff

@[simp] theorem requireOrOwn_eq_ok_iff {auth : Authority} {actor owner : Text} {role : Role}
    {u : Unit} :
    auth.requireOrOwn actor owner role = .ok u ↔ actor = owner ∨ auth.allows actor role = true :=
  ensure_eq_ok_iff

@[simp] theorem account_eq_ok_iff {l : Ledger} {reserve : Text} {a : Account} :
    l.account reserve = .ok a ↔ l.accounts.get? reserve = some a := by
  unfold Ledger.account
  cases l.accounts.get? reserve with
  | none => simp
  | some b => simp

theorem ensure_eq_error_iff {condition : Prop} [Decidable condition] {r r' : Refusal} :
    ensure condition r = .error r' ↔ ¬ condition ∧ r = r' := by
  by_cases h : condition
  · simp [ensure, h]
  · simp [ensure, h]

theorem account_eq_error_iff {l : Ledger} {reserve : Text} {r : Refusal} :
    l.account reserve = .error r ↔
      l.accounts.get? reserve = none ∧ .reserveUnknown reserve = r := by
  unfold Ledger.account
  cases l.accounts.get? reserve with
  | none => simp
  | some b => simp

end Check

namespace Action

variable {α β : Type} {s t : Bank}

@[simp] theorem map_eq_ok_iff {x : Action α} {f : α → β} {b : β} :
    (f <$> x) s = .ok b t ↔ ∃ a, x s = .ok a t ∧ f a = b := by
  simp only [Functor.map, EStateM.map]
  cases x s with
  | ok a u =>
    constructor
    · intro h
      cases h
      exact ⟨a, rfl, rfl⟩
    · rintro ⟨a, ⟨rfl, rfl⟩, rfl⟩
      rfl
  | error r u => simp

@[simp] theorem decide_eq_ok_iff {f : Bank → Except Refusal α} {a : α} :
    decide f s = .ok a t ↔ t = s ∧ f s = .ok a := by
  unfold decide
  cases f s with
  | ok b => simp [and_comm, eq_comm]
  | error r => simp

end Action

end BitcoinReserve
