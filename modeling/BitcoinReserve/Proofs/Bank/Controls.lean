import BitcoinReserve.Proofs.Bank.Wallets
import BitcoinReserve.Proofs.Bitcoin.Confirmation
import BitcoinReserve.Proofs.Bitcoin.Payloads

/-!
# Wallets registered on proof of control

A wallet is registered on the proof of a transaction that carries a challenge. All that is asked for
is asked before anything is written, and the transaction is remembered together with the wallet. So
however a bank is run, each transaction has proved control of one wallet, and a registration that
is refused has used up none.
-/
namespace BitcoinReserve

theorem Ledger.attachWallet_of_free {l : Ledger} {auth : Authority} {p : Parameters}
    {caller reserve wallet : Text} {d : Destination} {a : Account}
    (allowed : caller = reserve ∨ auth.allows caller .registrar = true)
    (decodes : Address.decode p.network wallet = .ok d)
    (found : l.accounts.get? reserve = some a) (free : l.walletOwners.get? wallet = none) :
    l.attachWallet auth p caller reserve wallet =
      .ok { l.put reserve { a with wallets := KeySet.add a.wallets wallet } with
        walletOwners := l.walletOwners.insert wallet reserve } := by
  have may : auth.requireOrOwn caller reserve .registrar = .ok () :=
    Check.requireOrOwn_eq_ok_iff.mpr allowed
  have account : l.account reserve = .ok a := Check.account_eq_ok_iff.mpr found
  rw [attachWallet, may, decodes, account, free]
  rfl

theorem Address.valid_iff {network : Network} {address : Text} :
    valid network address = true ↔ ∃ d, decode network address = .ok d := by
  rw [valid]
  cases decode network address with
  | error f => simp [Except.toBool]
  | ok d => simp [Except.toBool]

namespace Verifier

/-- Control of a wallet is proved by a transaction that is accepted and carries the challenge. -/
theorem verifyControl_eq_ok_iff {v : Verifier} {wallet : Text} {challenge hash : Bytes}
    {tx : Transaction} {e : Evidence} {factor : Option Int} :
    v.verifyControl wallet challenge tx e factor = .ok hash ↔
      (challenge.length = 32 ∧ challenge ≠ Bytes.zeros 32) ∧
        (∃ d, Address.decode v.network wallet = .ok d) ∧ v.verify tx e factor = .ok hash ∧
        OutputVector.carries tx.outputVector challenge = true := by
  rw [verifyControl, Check.reject_eq_ok_iff, Check.reject_eq_ok_iff, ← Address.valid_iff, not_or,
    not_ne_iff, Bool.not_eq_true, Bool.not_eq_false']
  refine and_congr_right fun _ => and_congr_right fun _ => ?_
  cases v.verify tx e factor with
  | error f => simp
  | ok found =>
    cases OutputVector.carries tx.outputVector challenge with
    | true => simp
    | false => simp

end Verifier

namespace Bank

open BitcoinReserve.Action

section Attaching

variable (s : Bank) (caller reserve wallet : Text) (challenge : Bytes) (tx : Transaction)
  (e : Evidence)

/-- A caller may register a wallet for a reserve by a transaction: it is accepted at the difficulty
that the parameters ask for and what the relay says now, it returns data that begins with the
challenge, and it has not proved control of a wallet before. -/
structure Attachable : Prop where
  allowed : caller = reserve ∨ s.authority.allows caller .registrar = true
  known : ∃ a, s.ledger.accounts.get? reserve = some a
  challenge_length : challenge.length = 32
  challenge_ne : challenge ≠ Bytes.zeros 32
  decodes : ∃ d, Address.decode s.params.network wallet = .ok d
  accepted : s.verifier.verify tx e (some s.params.difficultyFactor) = .ok tx.hash
  carried : ∃ outputs, OutputVector.decode tx.outputVector = .ok outputs ∧ ∃ output ∈ outputs,
    ∃ data, Script.Returns data output.script ∧ data.take 32 = challenge
  unused : tx.hash ∉ s.walletProofs.keys
  free : s.ledger.walletOwners.get? wallet = none

/-- The hash of the proving transaction and the ledger with the wallet. -/
def judgeControl : Except Refusal (Bytes × Ledger) := do
  s.authority.requireOrOwn caller reserve .registrar
  let _ ← s.ledger.account reserve
  let hash ←
    (s.verifier.verifyControl wallet challenge tx e (some s.params.difficultyFactor)).mapError
      Refusal.control
  ensure (s.walletProofs.contains hash = false) (.transactionUsed hash)
  let l ← s.ledger.attachWallet s.authority s.params caller reserve wallet
  return (hash, l)

/-- A registration writes nothing before it is judged, and then the wallet and the proof. -/
theorem attachProven_eq :
    attachProven caller reserve wallet challenge tx e s =
      match s.judgeControl caller reserve wallet challenge tx e with
      | .error refusal => .error refusal s
      | .ok (hash, l) =>
        .ok hash { s with ledger := l, walletProofs := KeySet.add s.walletProofs hash } := by
  change (attachProven caller reserve wallet challenge tx e).Yields s (· = _)
  unfold attachProven judgeControl
  refine .decide_bind (fun refusal denied => ?_) fun _ granted => ?_
  · rw [denied]
    rfl
  rw [granted]
  refine .decide_bind (fun refusal missing => ?_) fun a found => ?_
  · rw [missing]
    rfl
  rw [found]
  refine .decide_bind (fun refusal refuted => ?_) fun hash proved => ?_
  · rw [refuted]
    rfl
  rw [proved]
  refine .get_bind (.decide_bind (fun refusal used => ?_) fun _ unused => ?_)
  · simp only [used, bind, Except.bind]
  · refine .onLedger_unit_cases (fun refusal taken => ?_) fun l attached => ?_
    · simp only [unused, taken, bind, Except.bind]
    · simp only [unused, attached, bind, Except.bind]
      rfl

end Attaching

variable {s : Bank} {caller reserve wallet : Text} {challenge hash : Bytes} {tx : Transaction}
  {e : Evidence} {l : Ledger}

theorem carries_iff_of_verify {v : Verifier} {factor : Option Int}
    (accepted : v.verify tx e factor = .ok hash) :
    OutputVector.carries tx.outputVector challenge = true ↔ challenge.length = 32 ∧
      ∃ outputs, OutputVector.decode tx.outputVector = .ok outputs ∧ ∃ output ∈ outputs, ∃ data,
        Script.Returns data output.script ∧ data.take 32 = challenge := by
  obtain ⟨outputs, read⟩ := Verifier.exists_outputs_of_verify accepted
  rw [OutputVector.carries_of_decode read]
  simp [OutputVector.Answers, read]

/-- A registration is judged to be proved only if the wallet may be registered. -/
theorem attachable_of_judge
    (judged : s.judgeControl caller reserve wallet challenge tx e = .ok (hash, l)) :
    hash = tx.hash ∧ s.Attachable caller reserve wallet challenge tx e ∧
      l.walletOwners = s.ledger.walletOwners.insert wallet reserve := by
  simp only [judgeControl, Check.bind_eq_ok_iff, Check.requireOrOwn_eq_ok_iff,
    Check.account_eq_ok_iff, Check.mapError_eq_ok_iff, ensure_eq_ok_iff, Check.pure_eq_ok_iff,
    exists_const, Prod.mk.injEq, Verifier.verifyControl_eq_ok_iff] at judged
  obtain ⟨allowed, a, found, proof, ⟨⟨length, nonzero⟩, decodes, accepted, carried⟩, unused,
    _, attached, rfl, rfl⟩ := judged
  obtain ⟨rfl, -⟩ := Verifier.confirms_of_verify accepted
  obtain ⟨-, d, a, -, -, free, rfl⟩ := Ledger.attachWallet_eq_ok attached
  refine ⟨rfl, ?_, rfl⟩
  exact {
    allowed := allowed
    known := ⟨_, found⟩
    challenge_length := length
    challenge_ne := nonzero
    decodes := decodes
    accepted := accepted
    carried := ((carries_iff_of_verify accepted).mp carried).2
    unused := Table.contains_eq_false_iff.mp unused
    free := free }

theorem Attachable.exists_judge (h : s.Attachable caller reserve wallet challenge tx e) :
    ∃ l, s.judgeControl caller reserve wallet challenge tx e = .ok (tx.hash, l) := by
  obtain ⟨a, found⟩ := h.known
  obtain ⟨d, decodes⟩ := h.decodes
  have carried : OutputVector.carries tx.outputVector challenge = true :=
    (carries_iff_of_verify h.accepted).mpr ⟨h.challenge_length, h.carried⟩
  have proved : s.verifier.verifyControl wallet challenge tx e (some s.params.difficultyFactor) =
      .ok tx.hash :=
    Verifier.verifyControl_eq_ok_iff.mpr
      ⟨⟨h.challenge_length, h.challenge_ne⟩, h.decodes, h.accepted, carried⟩
  have unused : s.walletProofs.contains tx.hash = false := Table.contains_eq_false_iff.mpr h.unused
  have account : s.ledger.account reserve = .ok a := Check.account_eq_ok_iff.mpr found
  let l : Ledger := {
    s.ledger.put reserve { a with wallets := KeySet.add a.wallets wallet } with
    walletOwners := s.ledger.walletOwners.insert wallet reserve }
  have attached : s.ledger.attachWallet s.authority s.params caller reserve wallet = .ok l :=
    Ledger.attachWallet_of_free h.allowed decodes found h.free
  refine ⟨l, ?_⟩
  have granted : s.authority.requireOrOwn caller reserve .registrar = .ok () :=
    Check.requireOrOwn_eq_ok_iff.mpr h.allowed
  have confirmed : ensure (s.walletProofs.contains tx.hash = false) (.transactionUsed tx.hash) =
      .ok () :=
    ensure_eq_ok_iff.mpr unused
  unfold judgeControl
  rw [granted, account, proved]
  simp only [Except.mapError, bind, Except.bind, confirmed, attached, pure, Except.pure]

variable (s caller reserve wallet challenge tx e) in
/-- A registration is refused and leaves no trace, or it is as asked for and the wallet and the
proof are written. -/
theorem step_attachProven_cases :
    let step := s.step (.attachProven caller reserve wallet challenge tx e)
    (∃ r, step = (.error (.refused r), s) ∧ ¬ s.Attachable caller reserve wallet challenge tx e) ∨
      s.Attachable caller reserve wallet challenge tx e ∧ ∃ l : Ledger,
        l.walletOwners = s.ledger.walletOwners.insert wallet reserve ∧
        step = (.ok (.hash tx.hash),
          { s with ledger := l, walletProofs := KeySet.add s.walletProofs tx.hash }) := by
  have performs : perform (.attachProven caller reserve wallet challenge tx e) s =
      orFail (attachProven caller reserve wallet challenge tx e) .hash s := rfl
  intro step
  have ends : step = _ := step_orFail performs
  rw [attachProven_eq] at ends
  cases judged : s.judgeControl caller reserve wallet challenge tx e with
  | error refusal =>
    rw [judged] at ends
    refine .inl ⟨refusal, ends, fun attachable => ?_⟩
    obtain ⟨l, granted⟩ := attachable.exists_judge
    rw [judged] at granted
    cases granted
  | ok p =>
    rw [judged] at ends
    obtain ⟨hash, l⟩ := p
    obtain ⟨rfl, attachable, owners⟩ := attachable_of_judge judged
    exact .inr ⟨attachable, l, owners, ends⟩

namespace Event

/-- The transaction that an event accepts as the proof of control of a wallet. -/
def proof? (e : Event) : Option Bytes :=
  match e.operation, e.ending with
  | .attachProven .., .ok (.hash hash) => some hash
  | _, _ => none

theorem ending_of_proof? {e : Event} {hash : Bytes} (proves : e.proof? = some hash) :
    e.ending = .ok (.hash hash) := by
  unfold proof? at proves
  split at proves
  · rename_i found
    rw [found, Option.some.inj proves]
  · cases proves

theorem proof?_eq_none {op : Operation} (h : .walletProofs ∉ op.parts) :
    proof? ⟨s, op⟩ = none := by
  cases op with
  | attachProven => exact absurd (by simp [Operation.parts]) h
  | _ => rfl

end Event

/-- The transactions that prove control in a run, in order. -/
def proofs (s : Bank) (ops : List Operation) : List Bytes :=
  (s.events ops).filterMap Event.proof?

/-- The transactions that count as used are as before an operation, together with the one that it
accepts as a proof. -/
theorem step_walletProofs (op : Operation) (s : Bank) :
    (s.step op).2.walletProofs.keys = s.walletProofs.keys ++ (Event.proof? ⟨s, op⟩).toList := by
  by_cases touched : .walletProofs ∈ op.parts
  · cases op with
    | attachProven caller reserve wallet challenge tx e =>
      rcases step_attachProven_cases s caller reserve wallet challenge tx e with
        ⟨r, refused, -⟩ | ⟨attachable, l, -, done⟩
      · simp [Event.proof?, Event.ending, refused]
      · have missing : s.walletProofs.get? tx.hash = none :=
          Table.get?_eq_none_iff.mpr attachable.unused
        simp only [Event.proof?, Event.ending, done]
        exact Table.keys_insert_of_get?_none missing
    | _ => simp [Operation.parts] at touched
  · rw [(step_touched op s).walletProofs_eq touched, Event.proof?_eq_none touched]
    simp

theorem run_walletProofs (s : Bank) (ops : List Operation) :
    (s.run ops).walletProofs.keys = s.walletProofs.keys ++ s.proofs ops := by
  induction ops using List.reverseRecOn with
  | nil => simp [proofs, events, run]
  | append_singleton ops op ih =>
    have next : s.proofs (ops ++ [op]) = s.proofs ops ++ (Event.proof? ⟨s.run ops, op⟩).toList :=
      filterMap_events_concat Event.proof? s ops op
    rw [run_concat, step_walletProofs, ih, next, List.append_assoc]

/-- The transactions that count as used have each proved control of one wallet. A wallet is
registered on proof exactly when the caller may register it, and an event that fails changes
nothing. -/
theorem run_controls (authority : Authority) (relay : Relay) (params : Parameters)
    (ops : List Operation) :
    let s := new authority relay params
    (s.run ops).walletProofs.keys = s.proofs ops ∧ (s.proofs ops).Nodup ∧
    ∀ e ∈ s.events ops, ∀ caller reserve wallet challenge tx evidence,
      e.operation = .attachProven caller reserve wallet challenge tx evidence →
      (∀ hash, e.ending = .ok (.hash hash) ↔
        hash = tx.hash ∧ e.found.Attachable caller reserve wallet challenge tx evidence) ∧
      (∀ answer, e.ending = .ok answer →
        answer = .hash tx.hash ∧ (e.found.step e.operation).2.ledger.walletOwners =
          e.found.ledger.walletOwners.insert wallet reserve) ∧
      ∀ failure, e.ending = .error failure → (e.found.step e.operation).2 = e.found := by
  intro s
  have used : (s.run ops).walletProofs.keys = s.proofs ops := run_walletProofs s ops
  refine ⟨used, ?_, ?_⟩
  · rw [← used]
    exact (s.run ops).walletProofs.nodup
  · intro e _ caller reserve wallet challenge tx evidence same
    have ends := step_attachProven_cases e.found caller reserve wallet challenge tx evidence
    rw [← same] at ends
    simp only [Event.ending]
    rcases ends with ⟨r, refused, unfit⟩ | ⟨attachable, l, owners, done⟩
    · rw [refused]
      simp [unfit]
    · rw [done]
      simp [attachable, owners, eq_comm]

/-- A wallet that is registered on proof and given up is not registered on the same proof again. -/
theorem run_controls_again :
    let zeros := Bytes.zeros
    let wallet : Text := "bcrt1qqyqszqgpqyqszqgpqyqszqgpqyqszqgpvxat9t"
    let challenge := List.replicate 32 7
    let tx : Transaction := ⟨zeros 4, [1] ++ zeros 36 ++ [0] ++ zeros 4,
      [1, 0xe8, 3] ++ zeros 6 ++ [34, 0x6a, 32] ++ challenge, zeros 4⟩
    let evidence : Evidence := ⟨[], 0,
      zeros 36 ++ tx.hash ++ zeros 4 ++ [0xff, 0xff, 0x7f, 0x20, 1, 0, 0, 0], sha256 tx.serialize, []⟩
    let attach : Operation := .attachProven "reserve" "reserve" wallet challenge tx evidence
    let s := new .everyone ⟨1, 1⟩ .testing
    let opened := s.run [.register "registrar" "reserve" 1000 none]
    let ops := [.register "registrar" "reserve" 1000 none, attach, .detach "reserve" "reserve" wallet,
      attach]
    s.proofs ops = [tx.hash] ∧ (s.run ops).walletProofs.keys = [tx.hash] ∧
      (s.run ops).ledger.walletOwners.keys = [] ∧
      opened.Attachable "reserve" "reserve" wallet challenge tx evidence := by
  intro zeros wallet challenge tx evidence attach s opened ops
  obtain ⟨used, -, events⟩ := run_controls .everyone ⟨1, 1⟩ .testing ops
  have proofs : s.proofs ops = [tx.hash] := by decide +kernel
  have given : (s.run ops).ledger.walletOwners.keys = [] := by decide +kernel
  have found : (⟨opened, attach⟩ : Event) ∈ s.events ops := by
    simp [ops, Bank.events, opened, Bank.run]
  have proves : Event.proof? ⟨opened, attach⟩ = some tx.hash := by decide +kernel
  have done : Event.ending ⟨opened, attach⟩ = .ok (.hash tx.hash) := Event.ending_of_proof? proves
  obtain ⟨ends, -⟩ := events _ found "reserve" "reserve" wallet challenge tx evidence rfl
  exact ⟨proofs, used.trans proofs, given, ((ends tx.hash).mp done).2⟩

end Bank

end BitcoinReserve
