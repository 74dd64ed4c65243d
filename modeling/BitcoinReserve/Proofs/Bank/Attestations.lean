import BitcoinReserve.Proofs.Bank.Closings
import BitcoinReserve.Proofs.Bank.Submissions
import BitcoinReserve.Proofs.Oracle.Journal

/-!
# Attestations in a run

Every change that an operation makes to the oracle is an act that can be read off the operation and
its answer, so that a run has a journal, and the journal tells what the oracle holds.
-/
namespace BitcoinReserve

/-- What a submission did to the oracle, by its outcome. -/
def Oracle.Act.ofOutcome? (reserve : Text) (a : Attestation) :
    Except Refusal Submission → Option Oracle.Act
  | .ok ⟨round, _, _, none⟩ => some (.recorded round reserve a)
  | .ok ⟨round, _, _, some amount⟩ => some (.decided round reserve a amount)
  | .error (.roundExpired round _) => some (.expired round reserve a.submittedAt)
  | .error _ => none

/-- The outcome of a submission, by the answer or the failure of its operation. -/
def Answer.outcome? : Except Failure Answer → Option (Except Refusal Submission)
  | .ok (.submission s) => some (.ok s)
  | .error (.refused r) => some (.error r)
  | _ => none

namespace Bank

open BitcoinReserve.Action

/-- What an item of a batch did to the oracle. -/
def BatchItem.act? (item : BatchItem) (caller : Text) (amount : Int) (proofHash : Bytes)
    (now : Int) : Option Oracle.Act :=
  Oracle.Act.ofOutcome? item.reserve ⟨caller, amount, proofHash, now⟩ item.result

/-- What an event does to the oracle, read off the operation and its ending. -/
def Event.acts (e : Event) : List Oracle.Act :=
  match e.operation, e.ending with
  | .attest caller reserve amount proofHash now, ending =>
    ((Answer.outcome? ending).bind
      (Oracle.Act.ofOutcome? reserve ⟨caller, amount, proofHash, now⟩)).toList
  | .attestSigned a now, ending =>
    ((Answer.outcome? ending).bind
      (Oracle.Act.ofOutcome? a.reserve ⟨a.key, a.amount, a.proofHash, now⟩)).toList
  | .attestBatch caller _ amounts proofHash now, .ok (.batch items) =>
    (amounts.zip items).flatMap fun p => (p.2.act? caller p.1 proofHash now).toList
  | .overrideBalance _ reserve amount _ now, .ok _ => [.overridden reserve amount now]
  | .resetRound _ reserve now, .ok _ => [.reset reserve now]
  | _, _ => []

/-- What a run does to the oracle, in order. -/
def journal (s : Bank) (ops : List Operation) : List Oracle.Act :=
  (s.events ops).flatMap Event.acts

variable {s t : Bank} {reserve : Text} {a : Attestation}

theorem journal_concat (s : Bank) (ops : List Operation) (op : Operation) :
    s.journal (ops ++ [op]) = s.journal ops ++ Event.acts ⟨s.run ops, op⟩ := by
  unfold journal
  rw [events_concat, List.flatMap_append, List.flatMap_singleton]

theorem Submits.trail {x : Action Submission} (h : x.Yields s (s.Submits reserve a)) :
    Trail (Oracle.Step s.params) s.oracle (Oracle.Act.ofOutcome? reserve a (x.ending s)).toList
      (x.after s).oracle := by
  obtain ⟨result, ended, submits⟩ := h.exists_result
  rw [Action.ending, after, ended]
  cases submits with
  | negative => exact .nil _
  | unknown => exact .nil _
  | expired found late => exact .single (.expired found late)
  | recorded _ step => exact .single step
  | decided _ step => exact .single step

theorem Attests.trail {x : Action Submission} (h : x.Yields s (s.Attests reserve a)) :
    Trail (Oracle.Step s.params) s.oracle (Oracle.Act.ofOutcome? reserve a (x.ending s)).toList
      (x.after s).oracle := by
  cases h with
  | denied _ refused =>
    unfold Action.ending after
    rw [refused]
    exact .nil _
  | allowed _ submits => exact Submits.trail submits

/-- What each item of a batch keeps and leaves behind makes the trail of the batch. -/
theorem trail_attestEach {σ ι : Type} {step : σ → ι → σ → Prop} (P : Bank → Prop) (view : Bank → σ)
    (labels : BatchItem → Int → List ι) {caller : Text} {proofHash : Bytes} {now : Int}
    (each : ∀ s reserve amount, P s →
      let x := submit caller reserve amount proofHash now
      P (x.after s) ∧ Trail step (view s) (labels ⟨reserve, x.ending s⟩ amount) (view (x.after s)))
    (pairs : List (Text × Int)) (h : P s) :
    ∃ items t, attestEach caller proofHash now pairs s = .ok items t ∧
      Trail step (view s) (((pairs.map Prod.snd).zip items).flatMap fun p => labels p.2 p.1)
        (view t) := by
  induction pairs generalizing s with
  | nil => exact ⟨[], s, rfl, .nil _⟩
  | cons pair rest ih =>
    obtain ⟨reserve, amount⟩ := pair
    obtain ⟨next, first⟩ := each s reserve amount h
    obtain ⟨items, t, done, later⟩ := ih next
    refine ⟨⟨reserve, (submit caller reserve amount proofHash now).ending s⟩ :: items, t, ?_, ?_⟩
    · rw [attestEach, outcome_bind]
      simp only [Bind.bind, EStateM.bind, done]
      rfl
    · exact first.append later

theorem submit_coherent (caller reserve : Text) (amount : Int) (proofHash : Bytes) (now : Int)
    (coherent : s.oracle.Coherent s.params) :
    let t := (submit caller reserve amount proofHash now).after s
    t.params = s.params ∧ t.oracle.Coherent t.params := by
  intro t
  have params : t.params = s.params :=
    Touched.params_eq (touches_submit caller reserve amount proofHash now)
  have trail := Submits.trail (submits caller reserve amount proofHash now coherent)
  rw [params]
  exact ⟨rfl, (Oracle.keeps_of_trail trail coherent).1⟩

/-- The acts of a batch are those of its items. -/
theorem attestEach_trail (caller : Text) (proofHash : Bytes) (now : Int)
    (pairs : List (Text × Int)) (coherent : s.oracle.Coherent s.params) :
    ∃ items t, attestEach caller proofHash now pairs s = .ok items t ∧
      Trail (Oracle.Step s.params) s.oracle
        (((pairs.map Prod.snd).zip items).flatMap fun p =>
          (p.2.act? caller p.1 proofHash now).toList) t.oracle := by
  refine trail_attestEach (fun t => t.params = s.params ∧ t.oracle.Coherent t.params) Bank.oracle
    (fun item amount => (item.act? caller amount proofHash now).toList)
    (fun u reserve amount before => ?_) pairs ⟨rfl, coherent⟩
  obtain ⟨same, coherent⟩ := before
  obtain ⟨params, next⟩ := submit_coherent caller reserve amount proofHash now coherent
  rw [← same]
  exact ⟨⟨params, next⟩, Submits.trail (submits caller reserve amount proofHash now coherent)⟩

/-- A batch that is not refused as a whole goes through its items. -/
theorem attestBatch_ends (caller : Text) (reserves : List Text) (amounts : List Int)
    (proofHash : Bytes) (now : Int) (s : Bank) :
    (attestBatch caller reserves amounts proofHash now).Ends s fun result =>
      s.authority.allows caller .attester = true ∧
        (reserves.zip amounts).map Prod.snd = amounts ∧
        result = attestEach caller proofHash now (reserves.zip amounts) s := by
  unfold attestBatch
  refine .decide_bind fun _ holds => .decide_bind fun _ lengths => .inr ⟨?_, ?_, rfl⟩
  · exact Check.require_eq_ok_iff.mp holds
  · exact List.map_snd_zip (ensure_eq_ok_iff.mp lengths).ge

/-- An override is noted for its reserve after the earlier ones. -/
theorem overrideBalance_notes (caller reserve : Text) (amount : Int) (justification : Text)
    (now : Int) (s : Bank) :
    (overrideBalance caller reserve amount justification now).Ends s fun result => ∃ entry o l,
      (entry.reserve = reserve ∧ o.overrides = s.oracle.overrides ++ [entry]) ∧
        s.oracle.Step s.params (.overridden reserve amount now) o ∧
        s.ledger.setBacking reserve amount (some now) = .ok l ∧
        result = .ok entry { s with oracle := o, ledger := l } := by
  unfold overrideBalance
  refine .decide_bind fun _ _ => .decide_bind fun _ nonneg => .decide_bind fun _ _ => ?_
  refine .decide_bind fun b registered => .get_bind ?_
  extract_lets prior entry
  have nonneg : 0 ≤ amount := ensure_eq_ok_iff.mp nonneg
  rw [Check.account_eq_ok_iff] at registered
  obtain ⟨l, backed⟩ := setBacking_eq_ok nonneg registered (some now)
  have step : s.oracle.Step s.params (.overridden reserve amount now) _ := .overridden entry nonneg
  rw [← Oracle.overrides_closeOpen s.oracle reserve .overridden now] at step
  refine .inr ⟨entry, _, l, ⟨rfl, ?_⟩, step, backed, ?_⟩
  · exact congrArg (· ++ [entry]) (Oracle.overrides_closeOpen ..)
  · simp only [Bind.bind, EStateM.bind, onOracle, modify, modifyGet, MonadStateOf.modifyGet,
      EStateM.modifyGet, onLedger_, onLedger, backed, Except.map]
    rfl

theorem overrideBalance_ends (caller reserve : Text) (amount : Int) (justification : Text)
    (now : Int) (s : Bank) :
    (overrideBalance caller reserve amount justification now).Ends s fun result => ∃ entry o l,
      s.oracle.Step s.params (.overridden reserve amount now) o ∧
        s.ledger.setBacking reserve amount (some now) = .ok l ∧
        result = .ok entry { s with oracle := o, ledger := l } := by
  refine (overrideBalance_notes caller reserve amount justification now s).mono ?_
  rintro _ ⟨entry, o, l, -, ended⟩
  exact ⟨entry, o, l, ended⟩

theorem step_overrideBalance (caller reserve : Text) (amount : Int) (justification : Text)
    (now : Int) (s : Bank) :
    (∃ r, s.step (.overrideBalance caller reserve amount justification now) =
        (.error (.refused r), s)) ∨
      ∃ entry o l, s.oracle.Step s.params (.overridden reserve amount now) o ∧
        s.ledger.setBacking reserve amount (some now) = .ok l ∧
        s.step (.overrideBalance caller reserve amount justification now) =
          (.ok (.override entry), { s with oracle := o, ledger := l }) := by
  have performs : perform (.overrideBalance caller reserve amount justification now) s =
      orFail (overrideBalance caller reserve amount justification now) .override s := rfl
  rcases step_ends (overrideBalance_ends caller reserve amount justification now s) performs with
    refused | ⟨_, ⟨entry, o, l, overridden, backed, rfl⟩, done⟩
  · exact .inl refused
  · exact .inr ⟨entry, o, l, overridden, backed, done⟩

theorem resetRound_ends (caller reserve : Text) (now : Int) (s : Bank) :
    (resetRound caller reserve now).Ends s fun result => ∃ found o,
      s.oracle.Step s.params (.reset reserve now) o ∧
        result = .ok found { s with oracle := o } := by
  have step : s.oracle.Step s.params (.reset reserve now) (s.oracle.closeOpen reserve .reset now) :=
    .reset reserve now
  unfold Oracle.closeOpen at step
  unfold resetRound
  refine .decide_bind fun _ _ => .get_bind ?_
  split
  · rename_i closed
    rw [closed] at step
    exact .inr ⟨false, s.oracle, step, rfl⟩
  · rename_i r opened
    rw [opened] at step
    exact .inr ⟨true, _, step, rfl⟩

theorem step_resetRound (caller reserve : Text) (now : Int) (s : Bank) :
    (∃ r, s.step (.resetRound caller reserve now) = (.error (.refused r), s)) ∨
      ∃ found o, s.oracle.Step s.params (.reset reserve now) o ∧
        s.step (.resetRound caller reserve now) = (.ok (.flag found), { s with oracle := o }) := by
  have performs : perform (.resetRound caller reserve now) s =
      orFail (resetRound caller reserve now) .flag s := rfl
  rcases step_ends (resetRound_ends caller reserve now s) performs with
    refused | ⟨_, ⟨found, o, reset, rfl⟩, done⟩
  · exact .inl refused
  · exact .inr ⟨found, o, reset, done⟩

/-- What an event does to the oracle is what its acts tell, and only attesters submit. -/
structure Event.Tells (e : Event) (o : Oracle) : Prop where
  trail : Trail (Oracle.Step e.found.params) e.found.oracle e.acts o
  permitted : ∀ act ∈ e.acts, ∀ id a, act.submission? = some (id, a) →
    e.found.authority.allows a.attester .attester = true

theorem Event.Tells.silent {op : Operation} (acts : Event.acts ⟨s, op⟩ = [])
    (same : t.oracle = s.oracle) : Event.Tells ⟨s, op⟩ t.oracle := by
  constructor
  · rw [acts, same]
    exact .nil _
  · rw [acts]
    exact fun _ mem => nomatch mem

theorem attestation_of_outcome {outcome : Except Refusal Submission} {act : Oracle.Act} {id : Nat}
    {b : Attestation} (told : Oracle.Act.ofOutcome? reserve a outcome = some act)
    (submitted : act.submission? = some (id, b)) : b = a := by
  unfold Oracle.Act.ofOutcome? at told
  split at told
  all_goals cases told
  all_goals cases submitted
  all_goals rfl

theorem Attests.tells {x : Action Submission} {op : Operation} (h : x.Yields s (s.Attests reserve a))
    (acts : Event.acts ⟨s, op⟩ = (Oracle.Act.ofOutcome? reserve a (x.ending s)).toList) :
    Event.Tells ⟨s, op⟩ (x.after s).oracle := by
  constructor
  · rw [acts]
    exact Attests.trail h
  · rw [acts]
    intro act mem id b submitted
    rw [Option.mem_toList] at mem
    cases h with
    | denied _ refused =>
      rw [Action.ending, refused] at mem
      cases mem
    | allowed holds =>
      rw [attestation_of_outcome mem submitted]
      exact holds

theorem outcome?_eq (outcome : Except Refusal Submission) :
    Answer.outcome? ((outcome.map .submission).mapError .refused) = some outcome := by
  cases outcome with
  | ok s => rfl
  | error r => rfl

theorem tells_attest (caller reserve : Text) (amount : Int) (proofHash : Bytes) (now : Int)
    (coherent : s.oracle.Coherent s.params) :
    Event.Tells ⟨s, .attest caller reserve amount proofHash now⟩
      (s.step (.attest caller reserve amount proofHash now)).2.oracle := by
  have performs : perform (.attest caller reserve amount proofHash now) s =
      orFail (attest caller reserve amount proofHash now) .submission s := rfl
  have step := step_eq_ending performs
  rw [step]
  refine Attests.tells (attests caller reserve amount proofHash now coherent) ?_
  simp only [Event.acts, Event.ending, step, outcome?_eq, Option.bind_some]

theorem tells_attestSigned (attestation : SignedAttestation) (now : Int)
    (coherent : s.oracle.Coherent s.params) :
    Event.Tells ⟨s, .attestSigned attestation now⟩
      (s.step (.attestSigned attestation now)).2.oracle := by
  cases judged : attestation.verify with
  | error fault =>
    have unjudged := step_attestSigned_unjudged (s := s) judged now
    rw [unjudged]
    refine .silent ?_ rfl
    simp [Event.acts, Event.ending, unjudged, Answer.outcome?]
  | ok genuine =>
    have step := step_eq_ending (perform_attestSigned (s := s) judged now)
    rw [step]
    have acts : Event.acts ⟨s, .attestSigned attestation now⟩ =
        (Oracle.Act.ofOutcome? attestation.reserve
          ⟨attestation.key, attestation.amount, attestation.proofHash, now⟩
          ((attestSigned attestation genuine now).ending s)).toList := by
      simp only [Event.acts, Event.ending, step, outcome?_eq, Option.bind_some]
    cases genuine with
    | true => exact Attests.tells (attests _ _ _ _ now coherent) acts
    | false => exact .silent acts rfl

theorem tells_attestBatch (caller : Text) (reserves : List Text) (amounts : List Int)
    (proofHash : Bytes) (now : Int) (coherent : s.oracle.Coherent s.params) :
    Event.Tells ⟨s, .attestBatch caller reserves amounts proofHash now⟩
      (s.step (.attestBatch caller reserves amounts proofHash now)).2.oracle := by
  have performs : perform (.attestBatch caller reserves amounts proofHash now) s =
      orFail (attestBatch caller reserves amounts proofHash now) .batch s := rfl
  rcases step_ends (attestBatch_ends caller reserves amounts proofHash now s) performs with
    ⟨r, refused⟩ | ⟨_, ⟨holds, whole, rfl⟩, step⟩
  · rw [refused]
    refine .silent ?_ rfl
    simp only [Event.acts, Event.ending, refused]
  · obtain ⟨items, t, done, trail⟩ :=
      attestEach_trail caller proofHash now (reserves.zip amounts) coherent
    rw [whole] at trail
    rw [done] at step
    have acts : Event.acts ⟨s, .attestBatch caller reserves amounts proofHash now⟩ =
        (amounts.zip items).flatMap fun p => (p.2.act? caller p.1 proofHash now).toList := by
      simp only [Event.acts, Event.ending, step]
    rw [step]
    constructor
    · rw [acts]
      exact trail
    · rw [acts]
      intro act mem id a submitted
      obtain ⟨item, -, mem⟩ := List.mem_flatMap.mp mem
      rw [Option.mem_toList] at mem
      rw [attestation_of_outcome mem submitted]
      exact holds

/-- An operation that makes one act that submits nothing. -/
theorem Event.Tells.act {op : Operation} {act : Oracle.Act}
    (step : s.oracle.Step s.params act t.oracle) (acts : Event.acts ⟨s, op⟩ = [act])
    (silent : act.submission? = none) : Event.Tells ⟨s, op⟩ t.oracle := by
  constructor
  · rw [acts]
    exact .single step
  · rw [acts]
    intro act' mem id a submitted
    cases List.mem_singleton.mp mem
    exact nomatch silent.symm.trans submitted

theorem tells_overrideBalance (caller reserve : Text) (amount : Int) (justification : Text)
    (now : Int) (s : Bank) :
    Event.Tells ⟨s, .overrideBalance caller reserve amount justification now⟩
      (s.step (.overrideBalance caller reserve amount justification now)).2.oracle := by
  rcases step_overrideBalance caller reserve amount justification now s with
    ⟨r, refused⟩ | ⟨entry, o, l, overridden, -, step⟩
  · rw [refused]
    exact .silent (by simp only [Event.acts, Event.ending, refused]) rfl
  · rw [step]
    exact .act overridden (by simp only [Event.acts, Event.ending, step]) rfl

theorem tells_resetRound (caller reserve : Text) (now : Int) (s : Bank) :
    Event.Tells ⟨s, .resetRound caller reserve now⟩
      (s.step (.resetRound caller reserve now)).2.oracle := by
  rcases step_resetRound caller reserve now s with ⟨r, refused⟩ | ⟨found, o, reset, step⟩
  · rw [refused]
    exact .silent (by simp only [Event.acts, Event.ending, refused]) rfl
  · rw [step]
    exact .act reset (by simp only [Event.acts, Event.ending, step]) rfl

theorem step_tells (op : Operation) (coherent : s.oracle.Coherent s.params) :
    Event.Tells ⟨s, op⟩ (s.step op).2.oracle := by
  cases op with
  | attest => exact tells_attest _ _ _ _ _ coherent
  | attestSigned => exact tells_attestSigned _ _ coherent
  | attestBatch => exact tells_attestBatch _ _ _ _ _ coherent
  | overrideBalance => exact tells_overrideBalance ..
  | resetRound => exact tells_resetRound ..
  | _ => exact .silent rfl ((step_touched _ s).oracle_eq (by simp [Operation.parts]))

/-- What a run does to the oracle is what its journal tells, and only attesters submit. -/
theorem run_tells (ops : List Operation) (coherent : s.oracle.Coherent s.params) :
    Trail (Oracle.Step s.params) s.oracle (s.journal ops) (s.run ops).oracle ∧
      ∀ e ∈ s.events ops, ∀ act ∈ e.acts, ∀ id a, act.submission? = some (id, a) →
        e.found.authority.allows a.attester .attester = true := by
  induction ops using List.reverseRecOn with
  | nil => exact ⟨.nil _, fun _ mem => nomatch mem⟩
  | append_singleton ops op ih =>
    obtain ⟨trail, permitted⟩ := ih
    have before := (Oracle.keeps_of_trail trail coherent).1
    rw [← run_params s ops] at before
    have last := step_tells op before
    have step := last.trail
    simp only [run_params] at step
    rw [journal_concat, run_concat, events_concat]
    refine ⟨trail.append step, fun e mem => ?_⟩
    rcases List.mem_append.mp mem with earlier | here
    · exact permitted e earlier
    · cases List.mem_singleton.mp here
      exact last.permitted

/-- Whatever is done to a coherent bank, it stays coherent and keeps its rounds. -/
theorem run_keeps (ops : List Operation) (coherent : s.oracle.Coherent s.params) :
    (s.run ops).oracle.Coherent (s.run ops).params ∧ s.oracle.Keeps (s.run ops).oracle := by
  rw [run_params]
  exact Oracle.keeps_of_trail (run_tells ops coherent).1 coherent

/-- In a run of a new bank only attesters attest. A finalized round holds enough attestations of
different attesters, of which a strict majority decided it, and a closed round stays as it is. -/
theorem run_rounds (authority : Authority) (relay : Relay) (params : Parameters)
    (ops more : List Operation) :
    let s := new authority relay params
    (∀ e ∈ s.events ops, ∀ act ∈ e.acts, ∀ id a, act.submission? = some (id, a) →
        e.found.authority.allows a.attester .attester = true) ∧
      (∀ id r, (s.run ops).oracle.rounds.get? id = some r → r.status = .finalized →
        Oracle.Settled params (s.journal ops) id r) ∧
      (∀ id r, (s.run ops).oracle.rounds.get? id = some r → r.status ≠ .pending →
        (s.run (ops ++ more)).oracle.rounds.get? id = some r) ∧
      ∀ reserve, (s.run ops).oracle.balances.get? reserve =
        Oracle.lastBalance (s.journal ops) reserve := by
  intro s
  obtain ⟨trail, permitted⟩ := run_tells (s := s) ops (Oracle.coherent_empty params)
  obtain ⟨coherent, told⟩ := Oracle.told_of_trail trail
  refine ⟨permitted, fun id r found finalized => ?_, fun id r found closed => ?_, told.balances⟩
  · exact told.settled coherent found finalized
  · obtain ⟨coherent, -⟩ := run_keeps (s := s) ops (Oracle.coherent_empty params)
    obtain ⟨r', found', -, kept⟩ := (run_keeps more coherent).2 id r found
    rw [run_append, found', kept closed]

/-- The second attestation of the first attester replaces its first. -/
example : ((new .everyone ⟨1, 1⟩ .testing).run
    [.register "registrar" "reserve" 1000 (some 0), .attest "first" "reserve" 5 [] 1,
      .attest "second" "reserve" 7 [] 2, .attest "first" "reserve" 7 [] 3,
      .attest "third" "reserve" 7 [] 4]).oracle.balances.get? "reserve" = some ⟨7, 4, some 1⟩ := by
  decide +kernel

end Bank

end BitcoinReserve
