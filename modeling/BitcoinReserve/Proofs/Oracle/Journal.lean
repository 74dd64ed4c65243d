import BitcoinReserve.Proofs.Oracle.Acts

/-!
# What the acts tell

The acts of an oracle in order are its journal. The journal tells what the oracle holds: an entry of
a round is the last attestation of its attester to that round, a balance is the last that was found
or set, and whatever a round counts came after the acts that closed earlier rounds of its reserve.
-/
namespace BitcoinReserve.Oracle

namespace Act

def reserve : Act → Text
  | recorded _ reserve _ | decided _ reserve _ _ | expired _ reserve _ | reset reserve _
  | overridden reserve _ _ => reserve

/-- The attestation that the act submits, with its round. -/
def submission? : Act → Option (Nat × Attestation)
  | recorded round _ a | decided round _ a _ => some (round, a)
  | _ => none

/-- Whether the act leaves its reserve without an open round. -/
def closes : Act → Bool
  | recorded .. => false
  | _ => true

/-- The balance that the act finds or sets. -/
def balance? : Act → Option Balance
  | decided round _ a amount => some ⟨amount, a.submittedAt, some round⟩
  | overridden _ amount now => some ⟨amount, now, none⟩
  | _ => none

/-- What the act submits to a round in the name of an attester. -/
def stated? (round : Nat) (attester : Text) (act : Act) : Option Attestation :=
  (act.submission?.filter fun s => s.1 = round ∧ s.2.attester = attester).map Prod.snd

end Act

/-- The last attestation of an attester to a round. -/
def lastEntry (journal : List Act) (round : Nat) (attester : Text) : Option Attestation :=
  (journal.filterMap (Act.stated? round attester)).getLast?

/-- The balance that was found or set last for a reserve. -/
def lastBalance (journal : List Act) (reserve : Text) : Option Balance :=
  ((journal.filter (·.reserve = reserve)).filterMap Act.balance?).getLast?

/-- A round of the reserve got its attestations after the old acts, and no act since then closed a
round of the reserve. -/
structure Since (round : Nat) (reserve : Text) (old recent : List Act) : Prop where
  unopened : ∀ act ∈ old, ∀ a, act.submission? ≠ some (round, a)
  unclosed : ∀ act ∈ recent, act.reserve = reserve → act.closes = false

structure Told (journal : List Act) (o : Oracle) : Prop where
  entries : ∀ id r, o.rounds.get? id = some r →
    ∀ name, r.attestations.get? name = lastEntry journal id name
  numbered : ∀ act ∈ journal, ∀ id a, act.submission? = some (id, a) → id ≤ o.roundCount
  balances : ∀ reserve, o.balances.get? reserve = lastBalance journal reserve
  pending : ∀ id r, o.rounds.get? id = some r → r.status = .pending →
    ∃ old recent, journal = old ++ recent ∧ Since id r.reserve old recent
  finalized : ∀ id r, o.rounds.get? id = some r → r.status = .finalized →
    ∃ old recent a amount later, journal = old ++ recent ++ .decided id r.reserve a amount :: later ∧
      Since id r.reserve old recent ∧ (∀ act ∈ later, ∀ b, act.submission? ≠ some (id, b)) ∧
      r.finalizedAmount = some amount ∧ r.closedAt = some a.submittedAt

/-- What the journal tells of a finalized round: who attested what in it, and which attestation
decided it for which amount. -/
structure Settled (p : Parameters) (journal : List Act) (id : Nat) (r : Round) : Prop where
  enough : p.consensusThreshold ≤ r.size
  distinct : (r.attestations.values.map Attestation.attester).Nodup
  entry : ∀ a ∈ r.attestations.values,
    lastEntry journal id a.attester = some a ∧ a.submittedAt ≤ r.deadline
  decision : ∃ old recent a amount later,
    journal = old ++ recent ++ .decided id r.reserve a amount :: later ∧
      Since id r.reserve old recent ∧ (∀ act ∈ later, ∀ b, act.submission? ≠ some (id, b)) ∧
      r.finalizedAmount = some amount ∧ 0 ≤ amount ∧ r.size < 2 * r.amounts.count amount ∧
      r.closedAt = some a.submittedAt ∧ a.submittedAt ≤ r.deadline

variable {p : Parameters} {o o' o₁ : Oracle} {reserve : Text} {r r' s : Round} {now : Int} {id : Nat}
  {a : Attestation} {act : Act} {journal : List Act} {name : Text}

theorem lastEntry_concat (journal : List Act) (act : Act) (id : Nat) (name : Text) :
    lastEntry (journal ++ [act]) id name =
      (act.stated? id name).or (lastEntry journal id name) := by
  unfold lastEntry
  rw [List.filterMap_append, List.getLast?_append]
  cases entry : act.stated? id name <;> simp [entry]

theorem lastBalance_concat (journal : List Act) (act : Act) (reserve : Text) :
    lastBalance (journal ++ [act]) reserve =
      if act.reserve = reserve then act.balance?.or (lastBalance journal reserve)
      else lastBalance journal reserve := by
  unfold lastBalance
  rw [List.filter_append, List.filterMap_append, List.getLast?_append]
  by_cases here : act.reserve = reserve
  · cases balance : act.balance? <;> simp [here, balance]
  · simp [here]

theorem stated?_of_ne {round : Nat} (other : ∀ a, act.submission? ≠ some (round, a)) :
    act.stated? round name = none := by
  unfold Act.stated?
  cases submitted : act.submission? with
  | none => rfl
  | some s =>
    obtain ⟨id, a⟩ := s
    have : id ≠ round := by
      rintro rfl
      exact other a submitted
    simp [this]

theorem told_empty : Told [] .empty where
  entries _ _ found := nomatch found
  numbered _ mem := nomatch mem
  balances _ := rfl
  pending _ _ found := nomatch found
  finalized _ _ found := nomatch found

theorem lastEntry_eq_none (unnamed : ∀ act ∈ journal, ∀ a, act.submission? ≠ some (id, a))
    (name : Text) : lastEntry journal id name = none := by
  unfold lastEntry
  rw [List.getLast?_eq_none_iff, List.filterMap_eq_nil_iff]
  exact fun act mem => stated?_of_ne (unnamed act mem)

/-- A round that is opened has no attestations yet, and the journal has none for it. -/
theorem Told.enters (h : Told journal o) (enters : o.Enters p reserve now r o₁) :
    Told journal o₁ := by
  cases enters with
  | joined => exact h
  | opened closed =>
    have unnamed : ∀ act ∈ journal, ∀ a, act.submission? ≠ some (o.roundCount + 1, a) := by
      intro act mem a submitted
      have := h.numbered act mem _ a submitted
      omega
    refine ⟨fun id r found name => ?_, fun act mem id a submitted => ?_, h.balances,
      fun id r found still => ?_, fun id r found decided => ?_⟩
    · rcases Table.get?_insert_eq_some_iff.mp found with ⟨rfl, rfl⟩ | ⟨-, found⟩
      · exact (lastEntry_eq_none unnamed name).symm
      · exact h.entries id r found name
    · exact Nat.le_succ_of_le (h.numbered act mem id a submitted)
    · rcases Table.get?_insert_eq_some_iff.mp found with ⟨rfl, rfl⟩ | ⟨-, found⟩
      · exact ⟨journal, [], (List.append_nil _).symm, unnamed,
          fun _ mem => absurd mem List.not_mem_nil⟩
      · exact h.pending id r found still
    · rcases Table.get?_insert_eq_some_iff.mp found with ⟨rfl, rfl⟩ | ⟨-, found⟩
      · cases decided
      · exact h.finalized id r found decided

/-- How a round comes out of an act: as it was, or as the act writes it. -/
inductive Marked (o : Oracle) (act : Act) (id : Nat) (s : Round) : Prop
  | kept (found : o.rounds.get? id = some s) (silent : ∀ a, act.submission? ≠ some (id, a))
      (unclosed : s.status = .pending → act.reserve = s.reserve → act.closes = false)
  | written {r : Round} (found : o.rounds.get? id = some r) (pending : r.status = .pending)
      (same : s.reserve = r.reserve)
      (entries : ∀ name, s.attestations.get? name =
        (act.stated? id name).or (r.attestations.get? name))
      (still : s.status = .pending → act.closes = false)
      (decided : s.status = .finalized → ∃ a amount, act = .decided id r.reserve a amount ∧
        s.finalizedAmount = some amount ∧ s.closedAt = some a.submittedAt)

/-- What a journal tells, it tells with one act more. -/
theorem Told.concat (h : Told journal o) (count : o'.roundCount = o.roundCount)
    (numbered : ∀ id a, act.submission? = some (id, a) → id ≤ o.roundCount)
    (balances : ∀ other, o'.balances.get? other =
      if act.reserve = other then act.balance?.or (o.balances.get? other)
      else o.balances.get? other)
    (marked : ∀ id s, o'.rounds.get? id = some s → Marked o act id s) :
    Told (journal ++ [act]) o' where
  entries id s found name := by
    rw [lastEntry_concat]
    cases marked id s found with
    | kept found silent => rw [stated?_of_ne silent, h.entries id s found, Option.none_or]
    | written found _ _ entries => rw [entries, h.entries id _ found]
  numbered act' mem id a submitted := by
    rw [count]
    rcases List.mem_append.mp mem with earlier | last
    · exact h.numbered act' earlier id a submitted
    · cases List.mem_singleton.mp last
      exact numbered id a submitted
  balances other := by rw [lastBalance_concat, balances, h.balances]
  pending id s found still := by
    have before : ∃ r, o.rounds.get? id = some r ∧ r.status = .pending ∧ s.reserve = r.reserve ∧
        (act.reserve = s.reserve → act.closes = false) := by
      cases marked id s found with
      | kept found _ unclosed => exact ⟨s, found, still, rfl, unclosed still⟩
      | @written r found pending same _ unclosed =>
        exact ⟨r, found, pending, same, fun _ => unclosed still⟩
    obtain ⟨r, found, pending, same, unclosed⟩ := before
    obtain ⟨old, recent, split, unopened, earlier⟩ := h.pending id r found pending
    refine ⟨old, recent ++ [act], by rw [split, List.append_assoc], unopened, ?_⟩
    intro act' mem there
    rcases List.mem_append.mp mem with before | last
    · exact earlier act' before (there.trans same)
    · cases List.mem_singleton.mp last
      exact unclosed there
  finalized id s found finalized := by
    cases marked id s found with
    | kept found silent =>
      obtain ⟨old, recent, a, amount, later, split, since, unnamed, amount_eq, closed_eq⟩ :=
        h.finalized id s found finalized
      refine ⟨old, recent, a, amount, later ++ [act], by rw [split]; simp, since, ?_, amount_eq,
        closed_eq⟩
      intro act' mem b
      rcases List.mem_append.mp mem with earlier | last
      · exact unnamed act' earlier b
      · cases List.mem_singleton.mp last
        exact silent b
    | @written r found pending same _ _ decided =>
      obtain ⟨a, amount, rfl, amount_eq, closed_eq⟩ := decided finalized
      obtain ⟨old, recent, split, since⟩ := h.pending id r found pending
      rw [same]
      exact ⟨old, recent, a, amount, [], by rw [split], since,
        (fun _ mem => absurd mem List.not_mem_nil), amount_eq, closed_eq⟩

/-- An open round is written by an act that tells of it. -/
theorem Told.write (h : Told journal o) (coherent : o.Coherent p)
    (found : o.openRound? reserve = some r) (count : o'.roundCount = o.roundCount)
    (rounds : o'.rounds = o.rounds.insert r.id r') (own : act.reserve = reserve)
    (same : r'.reserve = r.reserve)
    (only : ∀ id a, act.submission? = some (id, a) → id = r.id)
    (entries : ∀ name, r'.attestations.get? name =
      (act.stated? r.id name).or (r.attestations.get? name))
    (balances : ∀ other, o'.balances.get? other =
      if reserve = other then act.balance?.or (o.balances.get? other) else o.balances.get? other)
    (still : r'.status = .pending → act.closes = false)
    (decided : r'.status = .finalized → ∃ a amount, act = .decided r.id r.reserve a amount ∧
      r'.finalizedAmount = some amount ∧ r'.closedAt = some a.submittedAt) :
    Told (journal ++ [act]) o' := by
  subst own
  obtain ⟨stored, pending, here⟩ := coherent.openRound?_eq_some_iff.mp found
  refine h.concat count (fun id a submitted => ?_) balances fun id s there => ?_
  · rw [only id a submitted]
    exact coherent.le_count stored
  · rw [rounds] at there
    rcases Table.get?_insert_eq_some_iff.mp there with ⟨rfl, rfl⟩ | ⟨off_id, there⟩
    · exact .written stored pending same entries still decided
    · refine .kept there (fun a submitted => off_id (only id a submitted).symm) ?_
      intro open_ own
      exact absurd (coherent.open_unique stored there pending open_ (here.trans own)) off_id

/-- An act that finds no open round leaves the rounds as they were. -/
theorem Told.idle (h : Told journal o) (coherent : o.Coherent p)
    (closed : o.openRound? act.reserve = none) (count : o'.roundCount = o.roundCount)
    (rounds : o'.rounds = o.rounds) (silent : act.submission? = none)
    (balances : ∀ other, o'.balances.get? other =
      if act.reserve = other then act.balance?.or (o.balances.get? other)
      else o.balances.get? other) :
    Told (journal ++ [act]) o' := by
  refine h.concat count (by simp [silent]) balances fun id s there => ?_
  rw [rounds] at there
  refine .kept there (by simp [silent]) fun open_ own => ?_
  obtain rfl := coherent.keyed id s there
  have opened : o.openRound? act.reserve = some s :=
    coherent.openRound?_eq_some_iff.mpr ⟨there, open_, own.symm⟩
  cases closed.symm.trans opened

/-- A round is closed without a decision, by an act that submits nothing. -/
theorem Told.close (h : Told journal o) (coherent : o.Coherent p)
    (found : o.openRound? reserve = some r) (status : RoundStatus) (ended : status ≠ .pending)
    (void : status ≠ .finalized) (count : o'.roundCount = o.roundCount)
    (rounds : o'.rounds = o.rounds.insert r.id (r.close status now)) (own : act.reserve = reserve)
    (silent : act.submission? = none)
    (balances : ∀ other, o'.balances.get? other =
      if reserve = other then act.balance?.or (o.balances.get? other) else o.balances.get? other) :
    Told (journal ++ [act]) o' := by
  refine h.write coherent found count rounds own rfl (by simp [silent]) (fun name => ?_) balances
    (fun pending => absurd pending ended) (fun decided => absurd decided void)
  rw [stated?_of_ne (by simp [silent]), Option.none_or]
  rfl

theorem Told.closeOpen (h : Told journal o) (coherent : o.Coherent p) (status : RoundStatus)
    (ended : status ≠ .pending) (void : status ≠ .finalized)
    (count : o'.roundCount = (o.closeOpen act.reserve status now).roundCount)
    (rounds : o'.rounds = (o.closeOpen act.reserve status now).rounds)
    (silent : act.submission? = none)
    (balances : ∀ other, o'.balances.get? other =
      if act.reserve = other then act.balance?.or (o.balances.get? other)
      else o.balances.get? other) :
    Told (journal ++ [act]) o' := by
  unfold Oracle.closeOpen at count rounds
  split at count
  · rename_i r found
    rw [found] at rounds
    exact h.close coherent found status ended void count rounds rfl silent balances
  · rename_i closed
    rw [closed] at rounds
    exact h.idle coherent closed count rounds silent balances

theorem stated?_recorded (id : Nat) (reserve name : Text) (a : Attestation) :
    (Act.recorded id reserve a).stated? id name = if a.attester = name then some a else none := by
  by_cases here : a.attester = name <;> simp [Act.stated?, Act.submission?, here, Option.filter]

theorem stated?_decided (id : Nat) (reserve name : Text) (a : Attestation) (amount : Int) :
    (Act.decided id reserve a amount).stated? id name =
      if a.attester = name then some a else none := by
  by_cases here : a.attester = name <;> simp [Act.stated?, Act.submission?, here, Option.filter]

theorem get?_record (r : Round) (a : Attestation) (name : Text) :
    (r.record a).attestations.get? name =
      (if a.attester = name then some a else none).or (r.attestations.get? name) := by
  simp only [Round.record, Table.get?_insert]
  split <;> rfl

/-- An act writes the balance that it finds or sets and no other. -/
theorem Step.balances_eq (step : o.Step p act o') (coherent : o.Coherent p) :
    o'.balances = match act.balance? with
      | some b => o.balances.insert act.reserve b
      | none => o.balances := by
  cases step with
  | recorded enters => exact enters.balances_eq
  | decided enters =>
    obtain ⟨-, -, own⟩ := (enters.coherent coherent).openRound?_eq_some_iff.mp enters.isOpen
    rw [← enters.balances_eq, ← own]
    rfl
  | expired => rfl
  | reset reserve now => exact balances_closeOpen ..
  | overridden =>
    simp only [setBalance, balances_closeOpen]
    rfl

theorem Step.told (step : o.Step p act o') (coherent : o.Coherent p) (h : Told journal o) :
    Told (journal ++ [act]) o' := by
  cases step with
  | @recorded reserve a r o₁ enters nonneg undecided =>
    have coherent := enters.coherent coherent
    obtain ⟨stored, pending, own⟩ := coherent.openRound?_eq_some_iff.mp enters.isOpen
    refine (h.enters enters).write coherent enters.isOpen rfl rfl rfl rfl ?_ (fun name => ?_)
      (fun other => ?_) (fun _ => rfl)
      (fun decided => absurd (pending.symm.trans decided) (by decide))
    · rintro id b ⟨⟩
      rfl
    · rw [stated?_recorded, get?_record]
    · simp [putRound, Act.balance?]
  | @decided reserve a r o₁ amount enters nonneg decides =>
    have coherent := enters.coherent coherent
    obtain ⟨stored, pending, own⟩ := coherent.openRound?_eq_some_iff.mp enters.isOpen
    refine (h.enters enters).write coherent enters.isOpen rfl (rounds_decided ..) rfl rfl ?_
      (fun name => ?_) (fun other => ?_) (fun pending => by cases pending)
      (fun _ => ⟨a, amount, by rw [own], rfl, rfl⟩)
    · rintro id b ⟨⟩
      rfl
    · rw [stated?_decided]
      exact get?_record r a name
    · rw [own]
      exact Table.get?_insert ..
  | @expired reserve r now found late =>
    refine h.close coherent found .expired (by decide) (by decide) rfl rfl rfl rfl fun other => ?_
    simp [Oracle.close, putRound, Act.balance?]
  | reset reserve now =>
    refine h.closeOpen coherent .reset (by decide) (by decide) rfl rfl rfl fun other => ?_
    simp [Act.balance?]
  | @overridden reserve amount now entry nonneg =>
    refine h.closeOpen coherent .overridden (by decide) (by decide) rfl rfl rfl fun other => ?_
    simp only [setBalance, balances_closeOpen]
    exact Table.get?_insert ..

/-- An oracle that starts empty is coherent after any acts, and its journal tells what it holds. -/
theorem told_of_trail (trail : Trail (Step p) .empty journal o) :
    o.Coherent p ∧ Told journal o := by
  refine trail.induction_last (P := fun journal o => o.Coherent p ∧ Told journal o) ?_ ?_
  · exact ⟨coherent_empty p, told_empty⟩
  · intro journal o act o' before step
    exact ⟨step.coherent before.1, step.told before.1 before.2⟩

theorem Told.settled (h : Told journal o) (coherent : o.Coherent p)
    (found : o.rounds.get? id = some r) (finalized : r.status = .finalized) :
    Settled p journal id r := by
  have sound := coherent.sound id r found
  obtain ⟨amount, closed, amount_eq, closed_eq, timely, decision⟩ := sound.decided finalized
  obtain ⟨enough, held, most⟩ := Round.decision?_eq_some decision
  refine ⟨enough, ?_, fun a mem => ?_, ?_⟩
  · rw [sound.attesters_eq]
    exact r.attestations.nodup
  · obtain ⟨name, stored⟩ := Table.mem_values_iff.mp mem
    obtain ⟨rfl, -, timely⟩ := sound.entry name a stored
    exact ⟨(h.entries id r found a.attester).symm.trans stored, timely⟩
  · obtain ⟨old, recent, a, amount', later, split, since, later_silent, amount_eq', closed_eq'⟩ :=
      h.finalized id r found finalized
    cases amount_eq.symm.trans amount_eq'
    cases closed_eq.symm.trans closed_eq'
    exact ⟨old, recent, a, amount, later, split, since, later_silent, amount_eq,
      sound.amount_nonneg held, most, closed_eq, timely⟩

/-- Whatever happens to a coherent oracle, it stays coherent and keeps its rounds. -/
theorem keeps_of_trail (trail : Trail (Step p) o journal o') (coherent : o.Coherent p) :
    o'.Coherent p ∧ o.Keeps o' := by
  refine trail.induction_last (P := fun _ t => t.Coherent p ∧ o.Keeps t)
    ⟨coherent, .of_eq rfl⟩ ?_
  intro _ t act u before step
  exact ⟨step.coherent before.1, before.2.trans (step.keeps before.1)⟩

end BitcoinReserve.Oracle
