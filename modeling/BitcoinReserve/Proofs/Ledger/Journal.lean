import BitcoinReserve.Proofs.Ledger.Balance

/-!
# The journal of the token

Balances and supply are written beside the journal, yet the journal alone tells them: putting each
amount to its target and taking it from its source, from nothing, gives every balance and the
supply, and leaves nobody with less than nothing on the way.
-/
namespace BitcoinReserve.Token

namespace Action

/-- The holder that an action takes tokens from. -/
def source? : Action → Option Text
  | mint _ => none
  | burn holder => some holder
  | transfer source _ => some source

/-- The holder that an action gives tokens to. -/
def target? : Action → Option Text
  | mint holder => some holder
  | burn _ => none
  | transfer _ target => some target

end Action

/-- What one entry changes, in order: the target gains the amount, and the source loses it. -/
def Entry.postings (e : Entry) : List (Text × Int) :=
  e.action.target?.toList.map (·, e.amount) ++ e.action.source?.toList.map (·, -e.amount)

def postings (journal : List Entry) : List (Text × Int) := journal.flatMap Entry.postings

def post (b : Table Text Int) (posting : Text × Int) : Table Text Int :=
  b.insert posting.1 (b.getD posting.1 0 + posting.2)

/-- The balances after some postings, from empty ones. -/
def replay (ps : List (Text × Int)) : Table Text Int := ps.foldl post .empty

/-- No prefix of the postings leaves a negative balance. -/
def Solvent (ps : List (Text × Int)) : Prop :=
  ∀ part, part <+: ps → ∀ holder, 0 ≤ (replay part).getD holder 0

/-- What the postings give a holder and take from it. -/
def gain (ps : List (Text × Int)) (holder : Text) : Int :=
  ((ps.filter (·.1 = holder)).map Prod.snd).sum

/-- What the postings give and take. -/
def growth (ps : List (Text × Int)) : Int := (ps.map Prod.snd).sum

section Replaying

variable {ps : List (Text × Int)}

theorem gain_append (ps qs : List (Text × Int)) (holder : Text) :
    gain (ps ++ qs) holder = gain ps holder + gain qs holder := by
  simp [gain]

theorem gain_singleton (p : Text × Int) (holder : Text) :
    gain [p] holder = if p.1 = holder then p.2 else 0 := by
  by_cases h : p.1 = holder
  · simp [gain, h]
  · simp [gain, h]

theorem growth_append (ps qs : List (Text × Int)) : growth (ps ++ qs) = growth ps + growth qs := by
  simp [growth]

theorem replay_concat (ps : List (Text × Int)) (p : Text × Int) :
    replay (ps ++ [p]) = post (replay ps) p := by
  simp [replay]

theorem getD_post (b : Table Text Int) (p : Text × Int) (holder : Text) :
    (post b p).getD holder 0 = b.getD holder 0 + gain [p] holder := by
  unfold post Table.getD
  rw [Table.get?_insert, gain_singleton]
  split
  · rename_i same
    rw [same]
    rfl
  · simp

theorem sum_post (b : Table Text Int) (p : Text × Int) :
    (post b p).sum id = b.sum id + p.2 := by
  have before : b.getD p.1 0 = b.amountAt id p.1 := by
    simp [Table.getD, Table.amountAt]
  rw [post, Table.sum_insert, before, id]
  omega

theorem getD_replay (ps : List (Text × Int)) (holder : Text) :
    (replay ps).getD holder 0 = gain ps holder := by
  induction ps using List.reverseRecOn with
  | nil => rfl
  | append_singleton ps p ih => rw [replay_concat, getD_post, ih, gain_append]

theorem sum_replay (ps : List (Text × Int)) : (replay ps).sum id = growth ps := by
  induction ps using List.reverseRecOn with
  | nil => rfl
  | append_singleton ps p ih =>
    rw [replay_concat, sum_post, ih, growth_append]
    simp [growth]

theorem Solvent.nil : Solvent [] := by
  intro part initial holder
  rw [List.prefix_nil.mp initial]
  rfl

theorem Solvent.gain_nonneg (h : Solvent ps) (holder : Text) : 0 ≤ gain ps holder := by
  have last := h ps List.prefix_rfl holder
  rwa [getD_replay] at last

/-- One more posting keeps the balances from being negative when it takes no more than there is. -/
theorem Solvent.concat {name : Text} {amount : Int} (h : Solvent ps)
    (covered : 0 ≤ gain ps name + amount) : Solvent (ps ++ [(name, amount)]) := by
  intro part initial holder
  rcases List.prefix_concat_iff.mp initial with rfl | earlier
  · have before := h.gain_nonneg holder
    rw [getD_replay, gain_append, gain_singleton]
    split
    · rename_i same
      rw [← same]
      exact covered
    · omega
  · exact h part earlier holder

end Replaying

structure Call where
  action : Action
  amount : Int

/-- The entry that a call makes where there are that many entries before. -/
def Call.entry (c : Call) (sequence : Nat) : Entry := ⟨c.action, c.amount, sequence⟩

/-- The token after a call, if the call is accepted. -/
def call? (t : Token) (c : Call) : Option Token :=
  match c.action with
  | .mint holder => (t.mint holder c.amount).toOption
  | .burn holder => (t.burn holder c.amount).toOption
  | .transfer source target => t.transfer? source target c.amount

/-- The token after some calls. A refused call leaves it as it was. -/
def run (t : Token) (calls : List Call) : Token := calls.foldl (fun t c => (t.call? c).getD t) t

theorem run_cons (t : Token) (c : Call) (rest : List Call) :
    t.run (c :: rest) = ((t.call? c).getD t).run rest := rfl

/-- The calls that are accepted, in order. -/
def accepted (t : Token) : List Call → List Call
  | [] => []
  | c :: rest =>
    match t.call? c with
    | some next => c :: next.accepted rest
    | none => t.accepted rest

variable {t t' : Token} {c : Call} {calls : List Call}

/-- What an accepted call has asked for and writes. -/
structure Writes (t : Token) (c : Call) (t' : Token) : Prop where
  amount_pos : 0 < c.amount
  covered : ∀ source ∈ c.action.source?, c.amount ≤ t.balance source
  balance_eq (holder : Text) :
    t'.balance holder = t.balance holder + gain (c.entry t.journal.length).postings holder
  supply_eq : t'.totalSupply = t.totalSupply + growth (c.entry t.journal.length).postings
  journal_eq : t'.journal = t.journal ++ [c.entry t.journal.length]

theorem balance_of_insert {holder : Text} {amount : Int}
    (balances : t'.balances = t.balances.insert holder (t.balance holder + amount)) (other : Text) :
    t'.balance other = t.balance other + gain [(holder, amount)] other := by
  unfold balance
  rw [balances, ← getD_post]
  rfl

theorem writes_of_mint {holder : Text} {amount : Int} (h : t.mint holder amount = .ok t') :
    t.Writes ⟨.mint holder, amount⟩ t' := by
  have journal : t'.journal = t.journal ++ [⟨.mint holder, amount, t.journal.length⟩] := by
    simp only [mint, Check.bind_eq_ok_iff, Check.pure_eq_ok_iff] at h
    obtain ⟨-, -, rfl⟩ := h
    rfl
  obtain ⟨positive, supply, balances⟩ := mint_eq_ok h
  exact {
    amount_pos := positive
    covered := by simp [Action.source?]
    balance_eq := balance_of_insert balances
    supply_eq := by
      rw [supply]
      simp [growth, Call.entry, Entry.postings, Action.target?, Action.source?]
    journal_eq := journal }

theorem writes_of_burn {holder : Text} {amount : Int} (h : t.burn holder amount = .ok t') :
    t.Writes ⟨.burn holder, amount⟩ t' := by
  have journal : t'.journal = t.journal ++ [⟨.burn holder, amount, t.journal.length⟩] := by
    simp only [burn, Check.bind_eq_ok_iff, Check.pure_eq_ok_iff] at h
    obtain ⟨-, -, -, -, rfl⟩ := h
    rfl
  obtain ⟨positive, covered, supply, balances⟩ := burn_eq_ok h
  rw [sub_eq_add_neg] at supply balances
  exact {
    amount_pos := positive
    covered := by simpa [Action.source?] using covered
    balance_eq := balance_of_insert balances
    supply_eq := by
      rw [supply]
      simp [growth, Call.entry, Entry.postings, Action.target?, Action.source?]
    journal_eq := journal }

/-- A transfer reads the target's balance after the debit, so that one to the source itself moves
nothing, like its two postings. -/
theorem writes_of_transfer? {source target : Text} {amount : Int}
    (h : t.transfer? source target amount = some t') :
    t.Writes ⟨.transfer source target, amount⟩ t' := by
  have journal : t'.journal =
      t.journal ++ [⟨.transfer source target, amount, t.journal.length⟩] := by
    unfold transfer? at h
    split at h
    · cases h
      rfl
    · cases h
  obtain ⟨positive, covered, debited, taken, debit, given, credit⟩ := transfer?_eq_some h
  rw [sub_eq_add_neg] at debit
  exact {
    amount_pos := positive
    covered := by simpa [Action.source?] using covered
    balance_eq := by
      intro other
      have postings : gain [(target, amount), (source, -amount)] other =
          gain [(target, amount)] other + gain [(source, -amount)] other :=
        gain_append [(target, amount)] [(source, -amount)] other
      rw [balance_of_insert credit, balance_of_insert debit]
      change _ = t.balance other + gain [(target, amount), (source, -amount)] other
      omega
    supply_eq := by
      rw [given, taken]
      simp [growth, Call.entry, Entry.postings, Action.target?, Action.source?]
    journal_eq := journal }

theorem writes_of_call? (h : t.call? c = some t') : t.Writes c t' := by
  obtain ⟨action, amount⟩ := c
  cases action with
  | mint holder => exact writes_of_mint (Check.toOption_eq_some_iff.mp h)
  | burn holder => exact writes_of_burn (Check.toOption_eq_some_iff.mp h)
  | transfer source target => exact writes_of_transfer? h

/-- A call is accepted when its amount is positive and its source, if it has one, holds it. -/
theorem isSome_call?_iff (t : Token) (c : Call) :
    (t.call? c).isSome ↔ 0 < c.amount ∧ ∀ source ∈ c.action.source?, c.amount ≤ t.balance source := by
  constructor
  · intro called
    obtain ⟨next, called⟩ := Option.isSome_iff_exists.mp called
    have writes := writes_of_call? called
    exact ⟨writes.amount_pos, writes.covered⟩
  · obtain ⟨action, amount⟩ := c
    rintro ⟨positive, covered⟩
    change 0 < amount at positive
    cases action with
    | mint holder =>
      simp [call?, mint, ensure, positive, bind, Except.bind, pure, Except.pure, Except.toOption]
    | burn holder =>
      have held : amount ≤ t.balance holder := covered holder rfl
      simp [call?, burn, ensure, positive, held, bind, Except.bind, pure, Except.pure,
        Except.toOption]
    | transfer source target =>
      have held : amount ≤ t.balance source := covered source rfl
      simp [call?, transfer?, positive, held]

theorem Balanced.call? (balanced : t.Balanced) (h : t.call? c = some t') : t'.Balanced := by
  obtain ⟨action, amount⟩ := c
  cases action with
  | mint holder => exact balanced.mint (Check.toOption_eq_some_iff.mp h)
  | burn holder => exact balanced.burn (Check.toOption_eq_some_iff.mp h)
  | transfer source target => exact balanced.transfer h

/-- The journal tells the token: its postings give each balance and the supply, none of them takes
what is not there, and each entry found its source with the amount. -/
structure Told (t : Token) : Prop where
  balance_eq (holder : Text) : t.balance holder = gain (postings t.journal) holder
  supply_eq : t.totalSupply = growth (postings t.journal)
  solvent : Solvent (postings t.journal)
  covered : ∀ earlier e later, t.journal = earlier ++ e :: later →
    0 < e.amount ∧ ∀ source ∈ e.action.source?, e.amount ≤ gain (postings earlier) source

theorem Told.empty : empty.Told where
  balance_eq _ := rfl
  supply_eq := rfl
  solvent := Solvent.nil
  covered := by simp [Token.empty]

theorem postings_concat (journal : List Entry) (e : Entry) :
    postings (journal ++ [e]) = postings journal ++ e.postings := by
  simp [postings]

/-- The postings of one entry leave nobody with less than nothing when the source has the amount. -/
theorem Solvent.entry {ps : List (Text × Int)} {e : Entry} (h : Solvent ps) (positive : 0 < e.amount)
    (covered : ∀ source ∈ e.action.source?, e.amount ≤ gain ps source) :
    Solvent (ps ++ e.postings) := by
  obtain ⟨action, amount, sequence⟩ := e
  change 0 < amount at positive
  cases action with
  | mint holder =>
    have held := h.gain_nonneg holder
    have left : 0 ≤ gain ps holder + amount := by omega
    exact h.concat left
  | burn holder =>
    have held : amount ≤ gain ps holder := covered holder rfl
    have left : 0 ≤ gain ps holder + -amount := by omega
    exact h.concat left
  | transfer source target =>
    have held := h.gain_nonneg target
    have has : amount ≤ gain ps source := covered source rfl
    have credited : Solvent (ps ++ [(target, amount)]) := h.concat (by omega)
    have left : 0 ≤ gain (ps ++ [(target, amount)]) source + -amount := by
      rw [gain_append, gain_singleton]
      split <;> omega
    have debited := credited.concat left
    rwa [List.append_assoc] at debited

theorem Told.call? (told : t.Told) (h : t.call? c = some t') : t'.Told := by
  have writes := writes_of_call? h
  have covered : ∀ source ∈ c.action.source?, c.amount ≤ gain (postings t.journal) source := by
    intro source taken
    have held := writes.covered source taken
    rwa [told.balance_eq] at held
  exact {
    balance_eq := by
      intro holder
      rw [writes.balance_eq, writes.journal_eq, told.balance_eq, postings_concat, gain_append]
    supply_eq := by
      rw [writes.supply_eq, writes.journal_eq, told.supply_eq, postings_concat, growth_append]
    solvent := by
      rw [writes.journal_eq, postings_concat]
      exact told.solvent.entry writes.amount_pos covered
    covered := by
      intro earlier e later parts
      rw [writes.journal_eq] at parts
      rcases List.eq_nil_or_concat' later with rfl | ⟨before, last, rfl⟩
      · obtain ⟨rfl, same⟩ := List.append_inj' parts rfl
        cases same
        exact ⟨writes.amount_pos, covered⟩
      · rw [← List.cons_append, ← List.append_assoc] at parts
        obtain ⟨same, -⟩ := List.append_inj' parts rfl
        exact told.covered earlier e before same }

/-- What an accepted call keeps holds after all calls. -/
theorem run_induction {P : Token → Prop} (step : ∀ t c t', P t → t.call? c = some t' → P t')
    (start : P t) (calls : List Call) : P (t.run calls) := by
  induction calls generalizing t with
  | nil => exact start
  | cons c rest ih =>
    rw [run_cons]
    cases called : t.call? c with
    | none => exact ih start
    | some next => exact ih (step t c next start called)

theorem journal_run (t : Token) (calls : List Call) :
    (t.run calls).journal =
      t.journal ++ (t.accepted calls).mapIdx fun i c => c.entry (t.journal.length + i) := by
  induction calls generalizing t with
  | nil => simp [run, accepted]
  | cons c rest ih =>
    rw [run_cons, accepted]
    cases called : t.call? c with
    | none => exact ih t
    | some next =>
      rw [Option.getD_some, ih next, (writes_of_call? called).journal_eq]
      simp [List.mapIdx_cons, Nat.add_assoc, Nat.add_comm 1]

/-- Replaying the journal of an empty token gives every balance and the supply. No balance is
negative on the way, whether an entry is first put to its target or first taken from its source. -/
theorem run_journal (calls : List Call) :
    let t := empty.run calls
    (∀ holder, (replay (postings t.journal)).getD holder 0 = t.balance holder) ∧
    (replay (postings t.journal)).sum id = t.totalSupply ∧
    (∀ part, part <+: postings t.journal → ∀ holder, 0 ≤ (replay part).getD holder 0) ∧
    (∀ earlier e later, t.journal = earlier ++ e :: later → 0 < e.amount ∧
      ∀ source ∈ e.action.source?, e.amount ≤ (replay (postings earlier)).getD source 0) ∧
    t.journal = (empty.accepted calls).mapIdx (fun i c => ⟨c.action, c.amount, i⟩) ∧
    (∀ c, (t.call? c).isSome ↔
      0 < c.amount ∧ ∀ source ∈ c.action.source?, c.amount ≤ t.balance source) ∧
    t.totalSupply = t.balances.sum id := by
  intro t
  have told : t.Told := run_induction (fun _ _ _ before h => before.call? h) .empty calls
  have balanced : t.Balanced :=
    run_induction (fun _ _ _ before h => before.call? h) ⟨rfl, fun _ => le_rfl⟩ calls
  have journal := journal_run empty calls
  refine ⟨?_, ?_, told.solvent, ?_, ?_, isSome_call?_iff t, balanced.supply_eq⟩
  · intro holder
    rw [getD_replay, told.balance_eq]
  · rw [sum_replay, told.supply_eq]
  · simpa only [getD_replay] using told.covered
  · rw [journal]
    simp [empty, Call.entry]

/-- A transfer to oneself is an entry, and a call that is refused is none. -/
theorem run_journal_to_oneself :
    let calls : List Call := [⟨.mint "a", 5⟩, ⟨.transfer "a" "a", 5⟩, ⟨.burn "a", 9⟩,
      ⟨.transfer "a" "b", 0⟩, ⟨.transfer "a" "b", 4⟩]
    let t := empty.run calls
    let earlier : List Entry := [⟨.mint "a", 5, 0⟩]
    let later : List Entry := [⟨.transfer "a" "b", 4, 2⟩]
    let part : List (Text × Int) := [("a", 5), ("a", 5)]
    t.journal = earlier ++ ⟨.transfer "a" "a", 5, 1⟩ :: later ∧
      5 ≤ (replay (postings earlier)).getD "a" 0 ∧
      part <+: postings t.journal ∧ 0 ≤ (replay part).getD "a" 0 := by
  intro calls t earlier later part
  obtain ⟨-, -, solvent, covered, -⟩ := run_journal calls
  have journal : t.journal = earlier ++ ⟨.transfer "a" "a", 5, 1⟩ :: later := by decide +kernel
  have initial : part <+: postings t.journal := by decide +kernel
  exact ⟨journal, (covered _ _ _ journal).2 "a" rfl, initial, solvent part initial "a"⟩

end BitcoinReserve.Token
