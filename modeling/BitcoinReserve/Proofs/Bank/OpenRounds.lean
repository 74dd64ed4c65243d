import BitcoinReserve.Proofs.Bank.Attestations

/-!
# Open rounds in a run

Rounds are numbered in the order in which they are opened, and a number goes on naming the round that
got it. The open rounds are the pending ones, and none of them is left open with a majority.
-/
namespace BitcoinReserve

/-- A round is undecided while too few attest or each amount has at most half of them. -/
theorem Round.decision?_eq_none_iff {p : Parameters} {r : Round} :
    r.decision? p = none ↔
      r.size < p.consensusThreshold ∨ ∀ amount, 2 * r.amounts.count amount ≤ r.size := by
  unfold decision?
  split
  · rename_i enough
    simp only [Option.map_eq_none_iff, majority?_eq_none_iff, count_amounts]
    constructor
    · exact .inr
    · rintro (few | divided)
      · omega
      · exact divided
  · rename_i few
    simp only [true_iff]
    exact .inl (by omega)

namespace Oracle

/-- The rounds of `o` are there under their numbers, and those opened since are numbered on. -/
structure Extends (o o' : Oracle) : Prop where
  count_le : o.roundCount ≤ o'.roundCount
  keys_eq : o'.rounds.keys = o.rounds.keys ++
    List.range' (o.roundCount + 1) (o'.roundCount - o.roundCount)
  opening : ∀ id r, o.rounds.get? id = some r → ∃ r', o'.rounds.get? id = some r' ∧
    r'.reserve = r.reserve ∧ r'.openedAt = r.openedAt

variable {p : Parameters} {o o' o₁ : Oracle} {reserve : Text} {r s : Round} {now : Int} {act : Act}

namespace Extends

theorem of_eq (count : o'.roundCount = o.roundCount) (rounds : o'.rounds = o.rounds) :
    o.Extends o' where
  count_le := count.ge
  keys_eq := by simp [count, rounds]
  opening id r found := ⟨r, rounds ▸ found, rfl, rfl⟩

theorem trans (h : o.Extends o₁) (h' : o₁.Extends o') : o.Extends o' where
  count_le := h.count_le.trans h'.count_le
  keys_eq := by
    obtain ⟨n, reached⟩ := Nat.exists_eq_add_of_le h.count_le
    obtain ⟨m, ended⟩ := Nat.exists_eq_add_of_le h'.count_le
    rw [h'.keys_eq, h.keys_eq, List.append_assoc, ended, reached]
    have cut : o.roundCount + n + 1 = o.roundCount + 1 + n := by omega
    have whole : o.roundCount + n + m - o.roundCount = n + m := by omega
    rw [Nat.add_sub_cancel_left, Nat.add_sub_cancel_left, cut, whole, List.range'_append_1]
  opening id r found := by
    obtain ⟨r₁, found₁, own₁, opened₁⟩ := h.opening id r found
    obtain ⟨r₂, found₂, own₂, opened₂⟩ := h'.opening id r₁ found₁
    exact ⟨r₂, found₂, own₂.trans own₁, opened₂.trans opened₁⟩

end Extends

/-- A new round gets the next number. -/
theorem Coherent.extends_openNew (h : o.Coherent p) (reserve : Text) (now : Int) :
    o.Extends (o.openNew p reserve now).2 where
  count_le := Nat.le_succ _
  keys_eq := by
    have fresh : o.rounds.get? (o.roundCount + 1) = none := h.fresh (Nat.lt_succ_self _)
    have inserted := Table.keys_insert_of_get?_none
      (b := Round.new (o.roundCount + 1) reserve now p.attestationTimeout) fresh
    have one : (o.openNew p reserve now).2.roundCount - o.roundCount = 1 :=
      Nat.add_sub_cancel_left ..
    rw [one, List.range'_one]
    exact inserted
  opening id r found := by
    have other : o.roundCount + 1 ≠ id := (Nat.lt_succ_of_le (h.le_count found)).ne'
    exact ⟨r, (Table.get?_insert_of_ne _ _ other).trans found, rfl, rfl⟩

/-- An open round is written under its number. -/
theorem Coherent.extends_put (h : o.Coherent p) (found : o.openRound? reserve = some r)
    (count : o'.roundCount = o.roundCount) (rounds : o'.rounds = o.rounds.insert r.id s)
    (own : s.reserve = r.reserve) (opened : s.openedAt = r.openedAt) : o.Extends o' := by
  obtain ⟨stored, -, -⟩ := h.openRound?_eq_some_iff.mp found
  refine ⟨count.ge, ?_, fun id t there => ?_⟩
  · rw [rounds, Table.keys_insert_of_get? stored, count, Nat.sub_self, List.range'_zero,
      List.append_nil]
  · rw [rounds, Table.get?_insert]
    split
    · rename_i at_id
      subst at_id
      cases stored.symm.trans there
      exact ⟨s, rfl, own, opened⟩
    · exact ⟨t, there, rfl, rfl⟩

theorem Coherent.extends_closeOpen (h : o.Coherent p) (reserve : Text) (status : RoundStatus)
    (now : Int) : o.Extends (o.closeOpen reserve status now) := by
  unfold Oracle.closeOpen
  split
  · rename_i r found
    exact h.extends_put found rfl rfl rfl rfl
  · exact .of_eq rfl rfl

theorem Enters.extends (enters : o.Enters p reserve now r o₁) (h : o.Coherent p) :
    o.Extends o₁ := by
  cases enters with
  | joined => exact .of_eq rfl rfl
  | opened => exact h.extends_openNew reserve now

theorem Step.extends (step : o.Step p act o') (h : o.Coherent p) : o.Extends o' := by
  cases step with
  | recorded enters =>
    exact (enters.extends h).trans ((enters.coherent h).extends_put enters.isOpen rfl rfl rfl rfl)
  | decided enters =>
    exact (enters.extends h).trans
      ((enters.coherent h).extends_put enters.isOpen rfl (rounds_decided ..) rfl rfl)
  | expired found => exact h.extends_put found rfl rfl rfl rfl
  | reset reserve now => exact h.extends_closeOpen reserve .reset now
  | @overridden reserve amount now =>
    have closed := h.extends_closeOpen reserve .overridden now
    exact closed.trans (.of_eq rfl rfl)

theorem extends_of_trail {journal : List Act} (trail : Trail (Step p) o journal o')
    (coherent : o.Coherent p) : o.Extends o' := by
  have both := trail.induction_last (P := fun _ t => t.Coherent p ∧ o.Extends t)
    ⟨coherent, .of_eq rfl rfl⟩ fun _ t act u before step =>
      ⟨step.coherent before.1, before.2.trans (step.extends before.1)⟩
  exact both.2

end Oracle

namespace Bank

variable {s : Bank}

theorem run_extends (ops : List Operation) (coherent : s.oracle.Coherent s.params) :
    s.oracle.Extends (s.run ops).oracle :=
  Oracle.extends_of_trail (run_tells ops coherent).1 coherent

/-- Rounds are numbered from one on in the order in which they were opened. The open round of a
reserve is its one pending round, and cannot be decided yet. -/
theorem run_openRounds (authority : Authority) (relay : Relay) (params : Parameters)
    (ops more : List Operation) :
    let s := (new authority relay params).run ops
    s.oracle.rounds.keys = List.range' 1 s.oracle.roundCount ∧
      (∀ id r, s.oracle.rounds.get? id = some r →
        r.id = id ∧ r.deadline = r.openedAt + params.attestationTimeout) ∧
      (∀ id r, s.oracle.rounds.get? id = some r →
        ∃ r', (s.run more).oracle.rounds.get? id = some r' ∧ r'.reserve = r.reserve ∧
          r'.openedAt = r.openedAt) ∧
      (∀ reserve id, s.oracle.openRounds.get? reserve = some id ↔
        ∃ r, s.oracle.rounds.get? id = some r ∧ r.status = .pending ∧ r.reserve = reserve) ∧
      (∀ id r id' r', s.oracle.rounds.get? id = some r → s.oracle.rounds.get? id' = some r' →
        r.status = .pending → r'.status = .pending → r.reserve = r'.reserve → id = id') ∧
      ∀ id r, s.oracle.rounds.get? id = some r → r.status = .pending →
        r.size < params.consensusThreshold ∨ ∀ amount, 2 * r.amounts.count amount ≤ r.size := by
  intro s
  have numbered : Oracle.empty.Extends s.oracle :=
    run_extends (s := new authority relay params) ops (Oracle.coherent_empty params)
  have coherent : s.oracle.Coherent s.params :=
    (run_keeps (s := new authority relay params) ops (Oracle.coherent_empty params)).1
  have params_eq : s.params = params := run_params _ ops
  refine ⟨numbered.keys_eq, fun id r found => ?_, (run_extends more coherent).opening,
    coherent.open_iff, ?_, fun id r found pending => ?_⟩
  · rw [← params_eq]
    exact ⟨coherent.keyed id r found, (coherent.sound id r found).deadline_eq⟩
  · intro id r id' r' found found' pending pending' same
    exact coherent.open_unique found found' pending pending' same
  · obtain ⟨-, -, undecided⟩ := (coherent.sound id r found).undecided pending
    rw [← params_eq]
    exact Round.decision?_eq_none_iff.mp undecided

end Bank

end BitcoinReserve
