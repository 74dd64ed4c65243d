import BitcoinReserve.Proofs.Ledger.Readings

/-!
# The parts and the moves of a bank

An operation touches a few parts of a bank and leaves the others as they were, whether it succeeds or
is refused. One that neither opens accounts, makes or burns tokens nor touches redemptions changes a
bank by moves: the ledger is amended, or something beside the ledger and the redemptions changes.
-/
namespace BitcoinReserve

namespace Bank

/-- One change that opens no account, makes or burns no tokens and touches no redemption. -/
inductive Move (s : Bank) : Bank → Prop
  | amend {l : Ledger} (amended : s.ledger.Amend s.params.network l) :
      Move s { s with ledger := l }
  | aside (authority : Authority) (relay : Relay) (oracle : Oracle) (proposals : ProposalBook)
      (reports : ReportLog) (timers : Table Text Int) (walletProofs : KeySet Bytes) :
      Move s { s with authority, relay, oracle, proposals, reports, timers, walletProofs }

abbrev Moves : Bank → Bank → Prop := Relation.ReflTransGen Move

variable {s t : Bank}

theorem Moves.params_eq (moves : s.Moves t) : t.params = s.params := by
  induction moves with
  | refl => rfl
  | tail _ move ih =>
    cases move with
    | amend => exact ih
    | aside => exact ih

theorem Moves.redemptions_eq (moves : s.Moves t) : t.redemptions = s.redemptions := by
  induction moves with
  | refl => rfl
  | tail _ move ih =>
    cases move with
    | amend => exact ih
    | aside => exact ih

theorem Moves.amends (moves : s.Moves t) : Ledger.Amends s.params.network s.ledger t.ledger := by
  induction moves with
  | refl => exact .refl
  | tail earlier move ih =>
    have params := Moves.params_eq earlier
    cases move with
    | amend amended =>
      rw [params] at amended
      exact ih.tail amended
    | aside => exact ih

/-- The parts of a bank that change apart from each other. -/
inductive Part where
  | authority
  | relay
  | oracle
  | redemptions
  | proposals
  | reports
  | timers
  | walletProofs
  /-- Which accounts there are. -/
  | accounts
  | account (field : Account.Field)
  /-- What is minted against the reserves, together with the token. -/
  | minted
  /-- Tokens that change hands. -/
  | holdings
  /-- Tokens that are made or burnt beside the ledger. -/
  | token
  deriving DecidableEq, Repr

/-- One change of one part. -/
inductive Touch (s : Bank) : Part → Bank → Prop
  | authority (authority : Authority) : Touch s .authority { s with authority }
  | relay (relay : Relay) : Touch s .relay { s with relay }
  | oracle (oracle : Oracle) : Touch s .oracle { s with oracle }
  | redemptions (redemptions : RedemptionBook) : Touch s .redemptions { s with redemptions }
  | proposals (proposals : ProposalBook) : Touch s .proposals { s with proposals }
  | reports (reports : ReportLog) : Touch s .reports { s with reports }
  | timers (timers : Table Text Int) : Touch s .timers { s with timers }
  | walletProofs (walletProofs : KeySet Bytes) : Touch s .walletProofs { s with walletProofs }
  | opened {caller reserve : Text} {cap : Int} {now : Option Int} {a : Account} {l : Ledger}
      (opened : s.ledger.register s.authority caller reserve cap now = .ok (a, l)) :
      Touch s .accounts { s with ledger := l }
  | edited {field : Account.Field} {l : Ledger}
      (edited : s.ledger.Edit s.params.network field l) :
      Touch s (.account field) { s with ledger := l }
  | minted {caller reserve holder : Text} {amount total : Int} {now : Option Int} {l : Ledger}
      (minted : s.ledger.mint s.authority s.params caller reserve holder amount now =
        .ok (total, l)) :
      Touch s .minted { s with ledger := l }
  | burnt {caller reserve holder : Text} {amount total : Int} {l : Ledger}
      (burnt : s.ledger.redeem s.authority caller reserve holder amount = .ok (total, l)) :
      Touch s .minted { s with ledger := l }
  | transferred {source target : Text} {amount : Int} {token : Token}
      (moved : s.ledger.token.transfer? source target amount = some token) :
      Touch s .holdings { s with ledger := { s.ledger with token } }
  | token (token : Token) : Touch s .token { s with ledger := { s.ledger with token } }

/-- Changes of these parts and no others, one after another. -/
abbrev Touched (parts : List Part) : Bank → Bank → Prop :=
  Relation.ReflTransGen fun s t => ∃ part ∈ parts, s.Touch part t

variable {part : Part} {parts more : List Part}

theorem Touched.of (touch : s.Touch part t) (mem : part ∈ parts) : s.Touched parts t :=
  .single ⟨part, mem, touch⟩

theorem Touched.mono (touched : s.Touched parts t) (sub : parts ⊆ more) : s.Touched more t :=
  Relation.ReflTransGen.mono (fun _ _ ⟨part, mem, touch⟩ => ⟨part, sub mem, touch⟩) _ _ touched

/-- What no change of a part changes is as it was. -/
theorem Touched.keeps {β : Type} {f : Bank → β} (touched : s.Touched parts t)
    (each : ∀ part ∈ parts, ∀ s t : Bank, s.Touch part t → f t = f s) : f t = f s := by
  induction touched with
  | refl => rfl
  | tail _ last ih =>
    obtain ⟨part, mem, touch⟩ := last
    rw [each part mem _ _ touch, ih]

theorem Touched.params_eq (touched : s.Touched parts t) : t.params = s.params :=
  touched.keeps fun _ _ _ _ touch => by cases touch <;> rfl

theorem Touched.authority_eq (touched : s.Touched parts t) (untouched : .authority ∉ parts) :
    t.authority = s.authority := by
  refine touched.keeps fun part mem s t touch => ?_
  cases touch with
  | authority => exact absurd mem untouched
  | _ => rfl

theorem Touched.redemptions_eq (touched : s.Touched parts t) (untouched : .redemptions ∉ parts) :
    t.redemptions = s.redemptions := by
  refine touched.keeps fun part mem s t touch => ?_
  cases touch with
  | redemptions => exact absurd mem untouched
  | _ => rfl

theorem Touched.oracle_eq (touched : s.Touched parts t) (untouched : .oracle ∉ parts) :
    t.oracle = s.oracle := by
  refine touched.keeps fun part mem s t touch => ?_
  cases touch with
  | oracle => exact absurd mem untouched
  | _ => rfl

theorem Touched.timers_eq (touched : s.Touched parts t) (untouched : .timers ∉ parts) :
    t.timers = s.timers := by
  refine touched.keeps fun part mem s t touch => ?_
  cases touch with
  | timers => exact absurd mem untouched
  | _ => rfl

theorem Touched.reports_eq (touched : s.Touched parts t) (untouched : .reports ∉ parts) :
    t.reports = s.reports := by
  refine touched.keeps fun part mem s t touch => ?_
  cases touch with
  | reports => exact absurd mem untouched
  | _ => rfl

theorem Touched.walletProofs_eq (touched : s.Touched parts t) (untouched : .walletProofs ∉ parts) :
    t.walletProofs = s.walletProofs := by
  refine touched.keeps fun part mem s t touch => ?_
  cases touch with
  | walletProofs => exact absurd mem untouched
  | _ => rfl

theorem Touched.proposals_eq (touched : s.Touched parts t) (untouched : .proposals ∉ parts) :
    t.proposals = s.proposals := by
  refine touched.keeps fun part mem s t touch => ?_
  cases touch with
  | proposals => exact absurd mem untouched
  | _ => rfl

/-- What is read off one field is as it was where that field is not touched. -/
theorem Touched.read_eq {β : Type} {f : Account → β} {d : β} {field : Account.Field}
    (touched : s.Touched parts t) (reads : field.Read f d) (untouched : .account field ∉ parts)
    (reserve : Text) : t.ledger.read f d reserve = s.ledger.read f d reserve := by
  refine touched.keeps (f := fun s => s.ledger.read f d reserve) fun part mem s t touch => ?_
  cases touch with
  | opened opened => exact Ledger.read_register reads opened
  | edited edited =>
    exact edited.read_eq reads fun same => untouched (same ▸ mem)
  | minted minted =>
    obtain ⟨-, -, a, token, found, -, -, -, -, -, -, rfl⟩ := Ledger.mint_eq_ok minted
    exact Ledger.read_insert_of_eq found rfl (reads.minted _ _)
  | burnt burnt =>
    obtain ⟨-, -, a, token, found, -, -, -, -, rfl⟩ := Ledger.redeem_eq_ok burnt
    exact Ledger.read_insert_of_eq found rfl (reads.minted _ _)
  | authority | relay | oracle | redemptions | proposals | reports | timers | walletProofs
  | transferred | token => rfl

/-- Every account is kept, whatever is touched. -/
theorem Touched.capsRise (touched : s.Touched parts t) : s.ledger.CapsRise t.ledger := by
  have written {l l' : Ledger} (write : l.Write s.params.network l') : l.CapsRise l' :=
    write.capsRise
  induction touched with
  | refl => exact .refl _
  | tail _ last ih =>
    obtain ⟨part, -, touch⟩ := last
    refine ih.trans ?_
    cases touch with
    | opened opened => exact written (.register opened)
    | edited edited => exact Ledger.Write.capsRise (.amend edited.amend)
    | minted minted => exact written (.mint minted)
    | burnt burnt => exact written (.redeem burnt)
    | authority | relay | oracle | redemptions | proposals | reports | timers | walletProofs
    | transferred | token => exact .refl _

/-- Only opening an account and raising a cap change which accounts there are with which caps. -/
theorem Touched.caps_eq (touched : s.Touched parts t) (unopened : .accounts ∉ parts)
    (unraised : .account .cap ∉ parts) (reserve : Text) :
    (t.ledger.accounts.get? reserve).map Account.mintingCap =
      (s.ledger.accounts.get? reserve).map Account.mintingCap := by
  refine touched.keeps (f := fun s => (s.ledger.accounts.get? reserve).map Account.mintingCap)
    fun part mem s t touch => ?_
  cases touch with
  | opened => exact absurd mem unopened
  | @edited field l edited =>
    obtain ⟨found, -, only, -⟩ := edited
    refine Ledger.map_get?_insert_of_eq found rfl ?_
    rw [only]
    refine Account.mintingCap_take ?_ _ _
    rintro rfl
    exact unraised mem
  | minted minted =>
    obtain ⟨-, -, a, token, found, -, -, -, -, -, -, rfl⟩ := Ledger.mint_eq_ok minted
    exact Ledger.map_get?_insert_of_eq found rfl rfl
  | burnt burnt =>
    obtain ⟨-, -, a, token, found, -, -, -, -, rfl⟩ := Ledger.redeem_eq_ok burnt
    exact Ledger.map_get?_insert_of_eq found rfl rfl
  | authority | relay | oracle | redemptions | proposals | reports | timers | walletProofs
  | transferred | token => rfl

theorem Touched.minted_eq (touched : s.Touched parts t) (untouched : .minted ∉ parts)
    (reserve : Text) : t.ledger.minted reserve = s.ledger.minted reserve := by
  refine touched.keeps (f := fun s => s.ledger.minted reserve) fun part mem s t touch => ?_
  cases touch with
  | opened opened => exact Ledger.minted_of_register reserve opened
  | edited edited => exact edited.amend.minted_eq reserve
  | minted | burnt => exact absurd mem untouched
  | authority | relay | oracle | redemptions | proposals | reports | timers | walletProofs
  | transferred | token => rfl

/-- A change of the part opens no account, makes or burns no tokens and touches no redemption. -/
def Part.quiet : Part → Bool
  | .redemptions | .accounts | .minted | .token => false
  | _ => true

theorem Touch.move (touch : s.Touch part t) (quiet : part.quiet = true) : s.Move t := by
  cases touch with
  | redemptions | opened | minted | burnt | token => cases quiet
  | edited edited => exact .amend edited.amend
  | transferred moved => exact .amend (.transfer moved)
  | authority | relay | oracle | proposals | reports | timers | walletProofs => exact .aside ..

theorem Touched.moves (touched : s.Touched parts t) (quiet : ∀ part ∈ parts, part.quiet = true) :
    s.Moves t :=
  Relation.ReflTransGen.mono (fun _ _ ⟨part, mem, touch⟩ => touch.move (quiet part mem)) _ _ touched

end Bank

namespace Action

open Bank

variable {α β : Type} {s : Bank} {parts more : List Part}

/-- The state that an action leaves, done or refused. -/
def after (x : Action α) (s : Bank) : Bank :=
  match x s with
  | .ok _ t => t
  | .error _ t => t

/-- The result of an action, done or refused. -/
def ending (x : Action α) (s : Bank) : Except Refusal α :=
  match x s with
  | .ok a _ => .ok a
  | .error r _ => .error r

/-- The action changes these parts and no others. -/
def Touches (x : Action α) (parts : List Part) (s : Bank) : Prop := s.Touched parts (x.after s)

theorem Touches.mono {x : Action α} (h : x.Touches parts s) (sub : parts ⊆ more) :
    x.Touches more s :=
  Touched.mono h sub

theorem Touches.pure (a : α) : (Pure.pure a : Action α).Touches parts s := .refl

theorem Touches.throw (r : Refusal) : (throw r : Action α).Touches parts s := .refl

theorem Touches.decide (f : Bank → Except Refusal α) : (decide f).Touches parts s := by
  unfold Touches after Action.decide
  cases f s with
  | ok a => exact .refl
  | error r => exact .refl

theorem Touches.modify {part : Part} {f : Bank → Bank} (mem : part ∈ parts)
    (h : s.Touch part (f s)) : (modify f : Action PUnit).Touches parts s :=
  .of h mem

theorem Touches.set {part : Part} {t : Bank} (mem : part ∈ parts) (h : s.Touch part t) :
    (set t : Action PUnit).Touches parts s :=
  .of h mem

theorem Touches.bind {x : Action α} {f : α → Action β} (first : x.Touches parts s)
    (next : ∀ a t, x s = .ok a t → (f a).Touches parts t) : (x >>= f).Touches parts s := by
  revert first next
  unfold Touches after
  simp only [Bind.bind, EStateM.bind]
  cases x s with
  | ok a t => exact fun first next => first.trans (next a t rfl)
  | error r t => exact fun first _ => first

theorem Touches.get_bind {f : Bank → Action β} (next : (f s).Touches parts s) :
    (MonadState.get >>= f).Touches parts s :=
  next

theorem Touches.decide_bind {g : Bank → Except Refusal α} {f : α → Action β}
    (next : ∀ a, g s = .ok a → (f a).Touches parts s) :
    (Action.decide g >>= f).Touches parts s := by
  refine .bind (.decide g) fun a t h => ?_
  obtain ⟨rfl, found⟩ := decide_eq_ok_iff.mp h
  exact next a found

theorem Touches.onLedger {part : Part} {f : Bank → Except Refusal (α × Ledger)}
    (mem : part ∈ parts)
    (h : ∀ a l, f s = .ok (a, l) → s.Touch part { s with ledger := l }) :
    (onLedger f).Touches parts s := by
  unfold Touches after Action.onLedger
  cases found : f s with
  | ok p => exact .of (h p.1 p.2 found) mem
  | error r => exact .refl

theorem Touches.onLedger_ {field : Account.Field} {f : Bank → Except Refusal Ledger}
    (mem : .account field ∈ parts)
    (h : ∀ l, f s = .ok l → s.ledger.Edit s.params.network field l) :
    (onLedger_ f).Touches parts s := by
  refine .onLedger mem fun a l found => ?_
  obtain ⟨l', done, same⟩ := Check.map_eq_ok_iff.mp found
  cases same
  exact .edited (h l done)

theorem Touches.onOracle (mem : .oracle ∈ parts) (f : Oracle → Oracle) :
    (onOracle f).Touches parts s :=
  .modify mem (.oracle _)

theorem Touches.onRedemptions (mem : .redemptions ∈ parts) (f : RedemptionBook → RedemptionBook) :
    (onRedemptions f).Touches parts s :=
  .modify mem (.redemptions _)

theorem Touches.outcome {x : Action α} (h : x.Touches parts s) : (outcome x).Touches parts s := by
  revert h
  unfold Touches after Action.outcome
  cases x s with
  | ok a t => exact id
  | error r t => exact id

theorem decide_bind_of_ok {g : Bank → Except Refusal α} {f : α → Action β} {a : α}
    (decided : g s = .ok a) : (Action.decide g >>= f) s = f a s := by
  simp only [Bind.bind, EStateM.bind, Action.decide, decided]

/-- An action whose refusal is caught goes on with its result. -/
theorem outcome_bind (x : Action α) (f : Except Refusal α → Action β) (s : Bank) :
    (outcome x >>= f) s = f (x.ending s) (x.after s) := by
  simp only [Bind.bind, EStateM.bind, outcome, ending, after]
  cases x s with
  | ok a t => rfl
  | error r t => rfl

theorem after_outcome_bind (x : Action α) (f : Except Refusal α → Action β) (s : Bank) :
    (outcome x >>= f).after s = (f (x.ending s)).after (x.after s) := by
  rw [after, outcome_bind]
  rfl

theorem after_bind_pure (x : Action α) (f : α → β) (s : Bank) :
    (x >>= fun a => Pure.pure (f a)).after s = x.after s := by
  simp only [Bind.bind, EStateM.bind, after]
  cases x s with
  | ok a t => rfl
  | error r t => rfl

/-- What holds of the state in which an action decides and of every state that it goes on to. -/
theorem after_decide_bind {g : Bank → Except Refusal α} {f : α → Action β} {P : Bank → Prop}
    (here : P s) (next : ∀ a, g s = .ok a → P ((f a).after s)) :
    P ((Action.decide g >>= f).after s) := by
  revert next
  unfold after
  simp only [Bind.bind, EStateM.bind, Action.decide]
  cases g s with
  | ok a => exact fun next => next a rfl
  | error r => exact fun _ => here

/-- The action is refused without a trace, or ends with a result as described. -/
def Ends (x : Action α) (s : Bank) (P : EStateM.Result Refusal Bank α → Prop) : Prop :=
  (∃ r, x s = .error r s) ∨ P (x s)

variable {P : EStateM.Result Refusal Bank β → Prop}

theorem Ends.mono {x : Action α} {P Q : EStateM.Result Refusal Bank α → Prop} (h : x.Ends s P)
    (sub : ∀ result, P result → Q result) : x.Ends s Q :=
  h.imp id (sub (x s))

theorem Ends.get_bind {f : Bank → Action β} (next : (f s).Ends s P) :
    (MonadState.get >>= f).Ends s P :=
  next

theorem Ends.decide_bind {g : Bank → Except Refusal α} {f : α → Action β}
    (next : ∀ a, g s = .ok a → (f a).Ends s P) : (Action.decide g >>= f).Ends s P := by
  revert next
  unfold Ends
  simp only [Bind.bind, EStateM.bind, Action.decide]
  cases g s with
  | ok a => exact fun next => next a rfl
  | error r => exact fun _ => .inl ⟨r, rfl⟩

theorem Ends.onLedger_bind {g : Bank → Except Refusal (α × Ledger)} {f : α → Action β}
    (next : ∀ a l, g s = .ok (a, l) → P (f a { s with ledger := l })) :
    (Action.onLedger g >>= f).Ends s P := by
  revert next
  unfold Ends
  simp only [Bind.bind, EStateM.bind, Action.onLedger]
  cases g s with
  | ok p => exact fun next => .inr (next p.1 p.2 rfl)
  | error r => exact fun _ => .inl ⟨r, rfl⟩

theorem Ends.onLedger_unit {g : Bank → Except Refusal Ledger}
    {P : EStateM.Result Refusal Bank Unit → Prop}
    (done : ∀ l, g s = .ok l → P (.ok () { s with ledger := l })) :
    (Action.onLedger_ g).Ends s P := by
  revert done
  unfold Ends
  simp only [Action.onLedger_, Action.onLedger]
  cases g s with
  | ok l => exact fun done => .inr (done l rfl)
  | error r => exact fun _ => .inl ⟨r, rfl⟩

theorem Ends.onLedger_unit_bind {g : Bank → Except Refusal Ledger} {f : Unit → Action β}
    (next : ∀ l, g s = .ok l → P (f () { s with ledger := l })) :
    (Action.onLedger_ g >>= f).Ends s P := by
  refine .onLedger_bind fun _ l found => ?_
  obtain ⟨l', done, same⟩ := Check.map_eq_ok_iff.mp found
  cases same
  exact next l done

/-- The action ends with a result as described, done or refused. -/
def Yields (x : Action α) (s : Bank) (P : EStateM.Result Refusal Bank α → Prop) : Prop := P (x s)

theorem Yields.exists_result {x : Action β} (ends : x.Yields s P) :
    ∃ result, x s = result ∧ P result :=
  ⟨x s, rfl, ends⟩

theorem Yields.get_bind {f : Bank → Action β} (next : (f s).Yields s P) :
    (MonadState.get >>= f).Yields s P :=
  next

theorem Yields.onOracle_bind {g : Oracle → Oracle} {f : Unit → Action β}
    (next : (f ()).Yields { s with oracle := g s.oracle } P) :
    (Action.onOracle g >>= f).Yields s P :=
  next

theorem Yields.modify_bind {g : Bank → Bank} {f : PUnit → Action β}
    (next : (f ⟨⟩).Yields (g s) P) : (modify g >>= f).Yields s P :=
  next

theorem Yields.onLedger_unit_cases {g : Bank → Except Refusal Ledger} {f : Unit → Action β}
    (refused : ∀ r, g s = .error r → P (.error r s))
    (next : ∀ l, g s = .ok l → (f ()).Yields { s with ledger := l } P) :
    (Action.onLedger_ g >>= f).Yields s P := by
  revert refused next
  unfold Yields
  simp only [Bind.bind, EStateM.bind, Action.onLedger_, Action.onLedger]
  cases g s with
  | ok l => exact fun _ next => next l rfl
  | error r => exact fun refused _ => refused r rfl

theorem Yields.onLedger_unit_bind {g : Bank → Except Refusal Ledger} {f : Unit → Action β}
    {l : Ledger} (done : g s = .ok l) (next : (f ()).Yields { s with ledger := l } P) :
    (Action.onLedger_ g >>= f).Yields s P := by
  refine .onLedger_unit_cases (fun r refused => ?_) fun l' done' => ?_
  · cases done.symm.trans refused
  · cases done.symm.trans done'
    exact next

theorem Yields.decide_bind {g : Bank → Except Refusal α} {f : α → Action β}
    (refused : ∀ r, g s = .error r → P (.error r s))
    (next : ∀ a, g s = .ok a → (f a).Yields s P) : (Action.decide g >>= f).Yields s P := by
  revert refused next
  unfold Yields
  simp only [Bind.bind, EStateM.bind, Action.decide]
  cases g s with
  | ok a => exact fun _ next => next a rfl
  | error r => exact fun refused _ => refused r rfl

/-- A decision that is known goes on. -/
theorem Yields.decide_of_ok {g : Bank → Except Refusal α} {f : α → Action β} {a : α}
    (decided : g s = .ok a) (next : (f a).Yields s P) : (Action.decide g >>= f).Yields s P := by
  refine .decide_bind (fun r refused => ?_) fun a' decided' => ?_
  · cases decided.symm.trans refused
  · cases decided.symm.trans decided'
    exact next

end Action

end BitcoinReserve
