import BitcoinReserve.Proofs.Oracle.Journal

/-!
# Acts on other reserves

The rounds, the balances and the overrides of all reserves stand in the same tables. An act on one
reserve leaves those of every other reserve as they were.
-/
namespace BitcoinReserve.Oracle

/-- What the oracle holds of a reserve is the same. The open round is the pending one of the
rounds. -/
structure Spares (o o' : Oracle) (reserve : Text) : Prop where
  balance : o'.balances.get? reserve = o.balances.get? reserve
  rounds : o.rounds.SameOn (·.reserve = reserve) o'.rounds
  overrides : o'.overridesOf (some reserve) = o.overridesOf (some reserve)

variable {p : Parameters} {o o' o'' o₁ : Oracle} {reserve other : Text} {r r' : Round} {now : Int}
  {act : Act}

theorem Spares.refl (o : Oracle) (reserve : Text) : o.Spares o reserve := ⟨rfl, .refl _ _, rfl⟩

theorem Spares.trans (first : o.Spares o' reserve) (next : o'.Spares o'' reserve) :
    o.Spares o'' reserve where
  balance := next.balance.trans first.balance
  rounds := first.rounds.trans next.rounds
  overrides := next.overrides.trans first.overrides

/-- In coherent oracles the rounds tell which one is open. -/
theorem Spares.openRound?_eq (h : o.Spares o' reserve) (coherent : o.Coherent p)
    (coherent' : o'.Coherent p) : o'.openRound? reserve = o.openRound? reserve := by
  ext r
  rw [coherent'.openRound?_eq_some_iff, coherent.openRound?_eq_some_iff]
  constructor
  · rintro ⟨found, pending, own⟩
    exact ⟨(h.rounds r.id r own).mp found, pending, own⟩
  · rintro ⟨found, pending, own⟩
    exact ⟨(h.rounds r.id r own).mpr found, pending, own⟩

theorem overridesOf_append_of_ne {entry : Override}
    (written : o'.overrides = o.overrides ++ [entry]) (apart : entry.reserve ≠ reserve) :
    o'.overridesOf (some reserve) = o.overridesOf (some reserve) := by
  simp [overridesOf, written, apart.symm]

/-- Only an override is noted among the overrides. -/
theorem Step.overrides_eq (step : o.Step p act o')
    (plain : ∀ reserve amount now, act ≠ .overridden reserve amount now) :
    o'.overrides = o.overrides := by
  cases step with
  | recorded enters => cases enters <;> rfl
  | decided enters => cases enters <;> rfl
  | expired => rfl
  | reset => exact overrides_closeOpen ..
  | overridden => exact absurd rfl (plain _ _ _)

theorem Enters.rounds_sameOn (enters : o.Enters p other now r o₁) (h : o.Coherent p)
    (apart : other ≠ reserve) : o.rounds.SameOn (·.reserve = reserve) o₁.rounds := by
  cases enters with
  | joined => exact .refl _ _
  | opened =>
    refine .insert apart fun s found => ?_
    have fresh : o.rounds.get? (o.roundCount + 1) = none := h.fresh (Nat.lt_succ_self _)
    cases fresh.symm.trans found

/-- The open round of another reserve is written. -/
theorem Coherent.rounds_sameOn (h : o.Coherent p) (found : o.openRound? other = some r)
    (written : o'.rounds = o.rounds.insert r.id r') (same : r'.reserve = r.reserve)
    (apart : other ≠ reserve) : o.rounds.SameOn (·.reserve = reserve) o'.rounds := by
  obtain ⟨stored, -, own⟩ := h.openRound?_eq_some_iff.mp found
  rw [written]
  refine .insert ?_ fun s found => ?_
  · rw [same, own]
    exact apart
  · cases stored.symm.trans found
    rw [own]
    exact apart

theorem Coherent.rounds_sameOn_closeOpen (h : o.Coherent p) (status : RoundStatus) (now : Int)
    (apart : other ≠ reserve) :
    o.rounds.SameOn (·.reserve = reserve) (o.closeOpen other status now).rounds := by
  unfold Oracle.closeOpen
  split
  · rename_i r found
    exact h.rounds_sameOn found rfl rfl apart
  · exact .refl _ _

theorem Step.rounds_sameOn (step : o.Step p act o') (h : o.Coherent p)
    (apart : act.reserve ≠ reserve) : o.rounds.SameOn (·.reserve = reserve) o'.rounds := by
  cases step with
  | recorded enters =>
    have entered := enters.rounds_sameOn h apart
    exact entered.trans ((enters.coherent h).rounds_sameOn enters.isOpen rfl rfl apart)
  | decided enters =>
    have entered := enters.rounds_sameOn h apart
    exact entered.trans
      ((enters.coherent h).rounds_sameOn enters.isOpen (rounds_decided ..) rfl apart)
  | expired found => exact h.rounds_sameOn found rfl rfl apart
  | reset => exact h.rounds_sameOn_closeOpen .reset _ apart
  | overridden => exact h.rounds_sameOn_closeOpen .overridden _ apart

/-- An act on another reserve, which may note an override there. -/
theorem Step.spares (step : o.Step p act o') (h : o.Coherent p) (apart : act.reserve ≠ reserve)
    (noted : o'.overridesOf (some reserve) = o.overridesOf (some reserve)) :
    o.Spares o' reserve where
  balance := by
    rw [step.balances_eq h]
    split
    · exact Table.get?_insert_of_ne _ _ apart
    · rfl
  rounds := step.rounds_sameOn h apart
  overrides := noted

theorem Step.spares_of_plain (step : o.Step p act o') (h : o.Coherent p)
    (apart : act.reserve ≠ reserve)
    (plain : ∀ reserve amount now, act ≠ .overridden reserve amount now) :
    o.Spares o' reserve := by
  refine step.spares h apart ?_
  rw [overridesOf, step.overrides_eq plain]
  rfl

end BitcoinReserve.Oracle
