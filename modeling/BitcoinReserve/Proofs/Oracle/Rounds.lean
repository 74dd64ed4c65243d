import BitcoinReserve.Proofs.Oracle.Majority
import BitcoinReserve.Proofs.Trail

/-!
# The rounds of an oracle

An oracle changes by acts: an attestation is recorded or decides its round, a round expires, is reset
or overridden. Whatever acts happen, a round holds one sound attestation of each attester, an open
round is undecided, and a round that is closed stays as it is.
-/
namespace BitcoinReserve

namespace Round

/-- The amount that decides the round: that of a strict majority, once enough attest. -/
def decision? (p : Parameters) (r : Round) : Option Int :=
  if p.consensusThreshold ≤ r.size then r.majority?.map Prod.fst else none

structure Sound (p : Parameters) (r : Round) : Prop where
  deadline_eq : r.deadline = r.openedAt + p.attestationTimeout
  entry : ∀ name a, r.attestations.get? name = some a →
    a.attester = name ∧ 0 ≤ a.amount ∧ a.submittedAt ≤ r.deadline
  undecided : r.status = .pending →
    r.finalizedAmount = none ∧ r.closedAt = none ∧ r.decision? p = none
  decided : r.status = .finalized → ∃ amount closed, r.finalizedAmount = some amount ∧
    r.closedAt = some closed ∧ closed ≤ r.deadline ∧ r.decision? p = some amount

variable {p : Parameters} {r : Round} {amount : Int}

theorem decision?_eq_some_iff :
    r.decision? p = some amount ↔ p.consensusThreshold ≤ r.size ∧ r.size < 2 * r.votes amount := by
  unfold decision?
  split
  · rename_i enough
    rw [Option.map_eq_some_iff]
    constructor
    · rintro ⟨⟨_, n⟩, found, rfl⟩
      obtain ⟨rfl, most⟩ := majority?_eq_some found
      exact ⟨enough, most⟩
    · rintro ⟨-, most⟩
      exact ⟨_, majority?_eq_some_iff.mpr ⟨rfl, most⟩, rfl⟩
  · rename_i few
    simp [few]

theorem decision?_eq_some (h : r.decision? p = some amount) :
    p.consensusThreshold ≤ r.size ∧ amount ∈ r.amounts ∧ r.size < 2 * r.amounts.count amount := by
  obtain ⟨enough, most⟩ := decision?_eq_some_iff.mp h
  rw [count_amounts]
  refine ⟨enough, ?_, most⟩
  by_contra unlisted
  rw [votes_eq_zero unlisted] at most
  omega

theorem Sound.attestation (sound : r.Sound p) {a : Attestation}
    (mem : a ∈ r.attestations.values) : 0 ≤ a.amount ∧ a.submittedAt ≤ r.deadline := by
  obtain ⟨name, found⟩ := Table.mem_values_iff.mp mem
  exact (sound.entry name a found).2

theorem Sound.amount_nonneg (sound : r.Sound p) (mem : amount ∈ r.amounts) : 0 ≤ amount := by
  obtain ⟨a, listed, rfl⟩ := List.mem_map.mp mem
  exact (sound.attestation listed).1

/-- The attesters of a round are the keys of their entries, so no two entries share one. -/
theorem Sound.attesters_eq (sound : r.Sound p) :
    r.attestations.values.map Attestation.attester = r.attestations.keys := by
  simp only [Table.values, Table.keys, List.map_map]
  refine List.map_congr_left fun entry mem => ?_
  exact (sound.entry entry.1 entry.2 (Table.get?_eq_some_iff.mpr mem)).1

theorem sound_new (p : Parameters) (id : Nat) (reserve : Text) (now : Int) :
    (Round.new id reserve now p.attestationTimeout).Sound p where
  deadline_eq := rfl
  entry _ _ found := nomatch found
  undecided _ := by
    refine ⟨rfl, rfl, if_neg ?_⟩
    have := p.sound.consensusThreshold_ge
    have empty : (Round.new id reserve now p.attestationTimeout).size = 0 := rfl
    omega
  decided finalized := nomatch finalized

theorem Sound.entry_record (sound : r.Sound p) {a : Attestation} (nonneg : 0 ≤ a.amount)
    (timely : a.submittedAt ≤ r.deadline) (name : Text) (b : Attestation)
    (found : (r.record a).attestations.get? name = some b) :
    b.attester = name ∧ 0 ≤ b.amount ∧ b.submittedAt ≤ r.deadline := by
  rcases Table.get?_insert_eq_some_iff.mp found with ⟨rfl, rfl⟩ | ⟨-, found⟩
  · exact ⟨rfl, nonneg, timely⟩
  · exact sound.entry name b found

theorem Sound.record (sound : r.Sound p) {a : Attestation} (pending : r.status = .pending)
    (nonneg : 0 ≤ a.amount) (timely : a.submittedAt ≤ r.deadline)
    (undecided : (r.record a).decision? p = none) : (r.record a).Sound p where
  deadline_eq := sound.deadline_eq
  entry := sound.entry_record nonneg timely
  undecided still := ⟨(sound.undecided still).1, (sound.undecided still).2.1, undecided⟩
  decided finalized := nomatch pending.symm.trans finalized

/-- The round with an attestation that decides it. -/
def decide (r : Round) (a : Attestation) (amount : Int) : Round :=
  { r.record a with finalizedAmount := some amount }.close .finalized a.submittedAt

theorem Sound.decide (sound : r.Sound p) {a : Attestation} (nonneg : 0 ≤ a.amount)
    (timely : a.submittedAt ≤ r.deadline) (decides : (r.record a).decision? p = some amount) :
    (r.decide a amount).Sound p where
  deadline_eq := sound.deadline_eq
  entry := sound.entry_record nonneg timely
  undecided pending := nomatch pending
  decided _ := ⟨amount, a.submittedAt, rfl, rfl, timely, decides⟩

theorem Sound.close (sound : r.Sound p) {status : RoundStatus} (now : Int)
    (ended : status ≠ .pending) (void : status ≠ .finalized) : (r.close status now).Sound p where
  deadline_eq := sound.deadline_eq
  entry := sound.entry
  undecided pending := absurd pending ended
  decided finalized := absurd finalized void

end Round

namespace Oracle

/-- Rounds are numbered from one on, and the open rounds are the pending ones. A pending round is the
last of its reserve. -/
structure Coherent (p : Parameters) (o : Oracle) : Prop where
  keyed : ∀ id r, o.rounds.get? id = some r → r.id = id
  numbered : ∀ id, id ∈ o.rounds.keys ↔ 1 ≤ id ∧ id ≤ o.roundCount
  open_iff : ∀ reserve id, o.openRounds.get? reserve = some id ↔
    ∃ r, o.rounds.get? id = some r ∧ r.status = .pending ∧ r.reserve = reserve
  latest : ∀ id r, o.rounds.get? id = some r → r.status = .pending →
    ∀ id' r', o.rounds.get? id' = some r' → r'.reserve = r.reserve → id' ≤ id
  sound : ∀ id r, o.rounds.get? id = some r → r.Sound p

variable {p : Parameters} {o o' : Oracle} {reserve : Text} {r r' : Round} {now : Int}

theorem coherent_empty (p : Parameters) : Oracle.empty.Coherent p where
  keyed _ _ found := nomatch found
  numbered id := by
    simp only [Oracle.empty, Table.keys_empty, List.not_mem_nil, false_iff]
    omega
  open_iff reserve id := by simp [Oracle.empty]
  latest _ _ found := nomatch found
  sound _ _ found := nomatch found

theorem Coherent.openRound?_eq_some_iff (h : o.Coherent p) :
    o.openRound? reserve = some r ↔
      o.rounds.get? r.id = some r ∧ r.status = .pending ∧ r.reserve = reserve := by
  unfold openRound?
  rw [Option.bind_eq_some_iff]
  constructor
  · rintro ⟨id, opened, found⟩
    obtain rfl := h.keyed id r found
    obtain ⟨r', found', pending, own⟩ := (h.open_iff reserve r.id).mp opened
    cases found.symm.trans found'
    exact ⟨found, pending, own⟩
  · rintro ⟨found, pending, own⟩
    exact ⟨r.id, (h.open_iff reserve r.id).mpr ⟨r, found, pending, own⟩, found⟩

theorem Coherent.openRound?_eq_none_iff (h : o.Coherent p) :
    o.openRound? reserve = none ↔ o.openRounds.get? reserve = none := by
  unfold openRound?
  rw [Option.bind_eq_none_iff]
  constructor
  · intro missing
    by_contra opened
    obtain ⟨id, opened⟩ := Option.ne_none_iff_exists'.mp opened
    obtain ⟨r, found, -⟩ := (h.open_iff reserve id).mp opened
    rw [missing id opened] at found
    cases found
  · intro closed id opened
    rw [closed] at opened
    cases opened

/-- A reserve has at most one open round. -/
theorem Coherent.open_unique (h : o.Coherent p) {id id' : Nat} (found : o.rounds.get? id = some r)
    (found' : o.rounds.get? id' = some r') (pending : r.status = .pending)
    (pending' : r'.status = .pending) (same : r.reserve = r'.reserve) : id = id' :=
  le_antisymm (h.latest id' r' found' pending' id r found same)
    (h.latest id r found pending id' r' found' same.symm)

theorem Coherent.le_count (h : o.Coherent p) {id : Nat} (found : o.rounds.get? id = some r) :
    id ≤ o.roundCount :=
  ((h.numbered id).mp (Table.mem_keys_iff.mpr ⟨r, found⟩)).2

theorem Coherent.fresh (h : o.Coherent p) {id : Nat} (beyond : o.roundCount < id) :
    o.rounds.get? id = none := by
  rw [Table.get?_eq_none_iff, h.numbered]
  omega

theorem Coherent.openNew (h : o.Coherent p) (closed : o.openRound? reserve = none) (now : Int) :
    (o.openNew p reserve now).2.Coherent p := by
  have alone (id : Nat) (r : Round) (found : o.rounds.get? id = some r)
      (pending : r.status = .pending) : reserve ≠ r.reserve := by
    rintro rfl
    have unopened := h.openRound?_eq_none_iff.mp closed
    cases unopened.symm.trans ((h.open_iff r.reserve id).mpr ⟨r, found, pending, rfl⟩)
  have older (id : Nat) (r : Round) (found : o.rounds.get? id = some r) : id < o.roundCount + 1 :=
    Nat.lt_succ_of_le (h.le_count found)
  refine ⟨fun id r found => ?_, fun id => ?_, fun other id => ?_,
    fun id r found pending id' r' found' same => ?_, fun id r found => ?_⟩
  · rcases Table.get?_insert_eq_some_iff.mp found with ⟨rfl, rfl⟩ | ⟨-, found⟩
    · rfl
    · exact h.keyed id r found
  · simp only [Oracle.openNew, Table.mem_keys_insert, h.numbered]
    simp only [Round.new]
    omega
  · simp only [Oracle.openNew, Table.get?_insert_eq_some_iff, h.open_iff]
    constructor
    · rintro (⟨rfl, rfl⟩ | ⟨-, r, found, pending, own⟩)
      · exact ⟨_, .inl ⟨rfl, rfl⟩, rfl, rfl⟩
      · exact ⟨r, .inr ⟨(older id r found).ne', found⟩, pending, own⟩
    · rintro ⟨r, ⟨rfl, rfl⟩ | ⟨-, found⟩, pending, own⟩
      · exact .inl ⟨own, rfl⟩
      · exact .inr ⟨own ▸ alone id r found pending, r, found, pending, own⟩
  · rcases Table.get?_insert_eq_some_iff.mp found with ⟨rfl, rfl⟩ | ⟨-, found⟩
    · rcases Table.get?_insert_eq_some_iff.mp found' with ⟨rfl, -⟩ | ⟨-, found'⟩
      · exact le_rfl
      · exact (older id' r' found').le
    · rcases Table.get?_insert_eq_some_iff.mp found' with ⟨-, rfl⟩ | ⟨-, found'⟩
      · exact absurd same (alone id r found pending)
      · exact h.latest id r found pending id' r' found' same
  · rcases Table.get?_insert_eq_some_iff.mp found with ⟨-, rfl⟩ | ⟨-, found⟩
    · exact Round.sound_new ..
    · exact h.sound id r found

/-- The open rounds are the pending ones still when an open round is written, and left out once it is
closed. -/
theorem Coherent.open_iff_put (h : o.Coherent p) (found : o.openRound? reserve = some r)
    (own : r'.reserve = r.reserve) (other : Text) (id : Nat) :
    (if r'.status = .pending then o.openRounds else o.openRounds.erase reserve).get? other =
        some id ↔
      ∃ s, (o.rounds.insert r.id r').get? id = some s ∧ s.status = .pending ∧
        s.reserve = other := by
  obtain ⟨stored, pending, here⟩ := h.openRound?_eq_some_iff.mp found
  simp only [Table.get?_insert_eq_some_iff]
  split
  · rename_i still
    rw [h.open_iff]
    constructor
    · rintro ⟨s, there, pending', own'⟩
      by_cases at_id : r.id = id
      · subst at_id
        cases stored.symm.trans there
        exact ⟨r', .inl ⟨rfl, rfl⟩, still, own.trans own'⟩
      · exact ⟨s, .inr ⟨at_id, there⟩, pending', own'⟩
    · rintro ⟨s, ⟨rfl, rfl⟩ | ⟨-, there⟩, pending', own'⟩
      · exact ⟨r, stored, pending, own.symm.trans own'⟩
      · exact ⟨s, there, pending', own'⟩
  · rename_i ended
    rw [Table.get?_erase_eq_some_iff, h.open_iff]
    constructor
    · rintro ⟨different, s, there, pending', own'⟩
      refine ⟨s, .inr ⟨?_, there⟩, pending', own'⟩
      rintro rfl
      cases stored.symm.trans there
      exact different (here.symm.trans own')
    · rintro ⟨s, ⟨rfl, rfl⟩ | ⟨off_id, there⟩, pending', own'⟩
      · exact absurd pending' ended
      · refine ⟨?_, s, there, pending', own'⟩
        rintro rfl
        exact off_id (h.open_unique stored there pending pending' (here.trans own'.symm))

/-- An open round is written, and it stays open or is closed. -/
theorem Coherent.put (h : o.Coherent p) (found : o.openRound? reserve = some r)
    (sound : r'.Sound p) (same : r'.id = r.id) (own : r'.reserve = r.reserve)
    (count : o'.roundCount = o.roundCount) (rounds : o'.rounds = o.rounds.insert r.id r')
    (openRounds : o'.openRounds =
      if r'.status = .pending then o.openRounds else o.openRounds.erase reserve) :
    o'.Coherent p := by
  obtain ⟨stored, pending, -⟩ := h.openRound?_eq_some_iff.mp found
  have earlier (id : Nat) (s : Round) (there : (o.rounds.insert r.id r').get? id = some s) :
      ∃ t, o.rounds.get? id = some t ∧ t.reserve = s.reserve ∧
        (s.status = .pending → t.status = .pending) := by
    rcases Table.get?_insert_eq_some_iff.mp there with ⟨rfl, rfl⟩ | ⟨-, there⟩
    · exact ⟨r, stored, own.symm, fun _ => pending⟩
    · exact ⟨s, there, rfl, fun still => still⟩
  refine ⟨fun id s there => ?_, fun id => ?_, fun other id => ?_,
    fun id s there still id' s' there' one => ?_, fun id s there => ?_⟩
  · rw [rounds] at there
    rcases Table.get?_insert_eq_some_iff.mp there with ⟨rfl, rfl⟩ | ⟨-, there⟩
    · exact same
    · exact h.keyed id s there
  · rw [rounds, count, Table.keys_insert_of_get? stored, h.numbered]
  · rw [rounds, openRounds]
    exact h.open_iff_put found own other id
  · rw [rounds] at there there'
    obtain ⟨t, stored, reserve_eq, before⟩ := earlier id s there
    obtain ⟨t', stored', reserve_eq', -⟩ := earlier id' s' there'
    exact h.latest id t stored (before still) id' t' stored'
      (reserve_eq'.trans (one.trans reserve_eq.symm))
  · rw [rounds] at there
    rcases Table.get?_insert_eq_some_iff.mp there with ⟨-, rfl⟩ | ⟨-, there⟩
    · exact sound
    · exact h.sound id s there

end Oracle

end BitcoinReserve
