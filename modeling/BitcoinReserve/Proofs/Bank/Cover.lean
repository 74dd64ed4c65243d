import BitcoinReserve.Proofs.Bank.Privileges
import BitcoinReserve.Proofs.Bank.Spacing

/-!
# Cover

What is minted against a reserve is covered while its backing is no lower. Only a write of the backing
can end that: minting asks for cover, and everything else leaves the backing and takes at most from
what is minted.
-/
namespace BitcoinReserve

/-- A value is put in one place. -/
def Sets {β : Type} (f : Text → β) (reserve : Text) (g : Text → β) : Prop :=
  ∃ b, g = Function.update f reserve b

theorem Trail.eq_of_unset {β : Type} {f g : Text → β} {reserves : List Text} {reserve : Text}
    (trail : Trail Sets f reserves g) (unset : reserve ∉ reserves) : g reserve = f reserve := by
  induction trail with
  | nil => rfl
  | cons first _ ih =>
    obtain ⟨b, rfl⟩ := first
    rw [List.mem_cons, not_or] at unset
    rw [ih unset.2, Function.update_of_ne unset.1]

namespace Ledger

variable {l l' : Ledger} {reserve : Text} {a : Account}

/-- No more is minted against the reserve than backs it. -/
def Covered (l : Ledger) (reserve : Text) : Prop :=
  ∀ a, l.accounts.get? reserve = some a → a.minted ≤ a.backing

theorem covered_iff : l.Covered reserve ↔ l.minted reserve ≤ (l.backed reserve).1 := by
  unfold Covered minted backed
  cases found : l.accounts.get? reserve with
  | none => simp [Table.amountAt, read, found]
  | some a => simp [Table.amountAt_of_get? _ found, read_of_get? found]

instance (l : Ledger) (reserve : Text) : Decidable (l.Covered reserve) :=
  decidable_of_iff _ covered_iff.symm

theorem sets_of_setBacking {backing : Int} {now : Option Int}
    (h : l.setBacking reserve backing now = .ok l') : Sets l.backed reserve l'.backed := by
  refine ⟨(backing, now), funext fun other => ?_⟩
  rw [backed_of_setBacking h, Function.update_apply]
  simp only [eq_comm]

/-- Minting leaves the reserve covered and within its cap. -/
theorem covered_of_mint {auth : Authority} {p : Parameters} {caller holder : Text}
    {amount total : Int} {now : Option Int}
    (h : l.mint auth p caller reserve holder amount now = .ok (total, l')) :
    ∃ a, l'.accounts.get? reserve = some a ∧ a.minted ≤ a.backing ∧ a.minted ≤ a.mintingCap := by
  obtain ⟨-, -, a, token, -, -, -, -, capped, backed, -, rfl⟩ := mint_eq_ok h
  exact ⟨_, Table.get?_insert_self .., backed, capped⟩

theorem Covered.mono (h : l.Covered reserve) (minted : l'.minted reserve ≤ l.minted reserve)
    (backed : l'.backed reserve = l.backed reserve) : l'.Covered reserve := by
  rw [covered_iff] at h ⊢
  rw [backed]
  exact minted.trans h

end Ledger

/-- The reserve whose backing an act writes. -/
def Oracle.Act.backs? : Oracle.Act → Option Text
  | .decided _ reserve _ _ => some reserve
  | .overridden reserve _ _ => some reserve
  | _ => none

namespace Bank

open BitcoinReserve.Action

variable {s t : Bank} {op : Operation} {reserve : Text} {a : Attestation}

/-- The reserves whose backing an event writes, in order: those whose backing is set, is synced, or
is found or overridden by an act of the oracle. -/
def Event.backs (e : Event) : List Text :=
  match e.operation, e.ending with
  | .setBacking reserve _ _, .ok _ => [reserve]
  | .sync _ reserve _, .ok _ => [reserve]
  | .syncIfPossible _ reserve _, .ok (.flag true) => [reserve]
  | .syncBatch .., .ok (.syncReport report) => report.succeeded
  | _, _ => e.acts.filterMap Oracle.Act.backs?

theorem Submits.sets {x : Action Submission} (h : x.Yields s (s.Submits reserve a)) :
    Trail Sets s.ledger.backed
      ((Oracle.Act.ofOutcome? reserve a (x.ending s)).toList.filterMap Oracle.Act.backs?)
      (x.after s).ledger.backed := by
  obtain ⟨result, ended, submits⟩ := h.exists_result
  rw [Action.ending, after, ended]
  cases submits with
  | negative => exact .nil _
  | unknown => exact .nil _
  | expired => exact .nil _
  | recorded => exact .nil _
  | decided _ _ backed => exact .single (Ledger.sets_of_setBacking backed)

theorem Attests.sets {x : Action Submission} (h : x.Yields s (s.Attests reserve a)) :
    Trail Sets s.ledger.backed
      ((Oracle.Act.ofOutcome? reserve a (x.ending s)).toList.filterMap Oracle.Act.backs?)
      (x.after s).ledger.backed := by
  cases h with
  | denied _ refused =>
    unfold Action.ending after
    rw [refused]
    exact .nil _
  | allowed _ submits => exact Submits.sets submits

theorem attestEach_sets (caller : Text) (proofHash : Bytes) (now : Int)
    (pairs : List (Text × Int)) (coherent : s.oracle.Coherent s.params) :
    ∃ items t, attestEach caller proofHash now pairs s = .ok items t ∧
      Trail Sets s.ledger.backed
        (((pairs.map Prod.snd).zip items).flatMap fun p =>
          (p.2.act? caller p.1 proofHash now).toList.filterMap Oracle.Act.backs?)
        t.ledger.backed := by
  refine trail_attestEach (fun t => t.oracle.Coherent t.params) (fun t => t.ledger.backed)
    (fun item amount => (item.act? caller amount proofHash now).toList.filterMap Oracle.Act.backs?)
    (fun u reserve amount before => ?_) pairs coherent
  have next := submit_coherent caller reserve amount proofHash now before
  exact ⟨next.2, Submits.sets (submits caller reserve amount proofHash now before)⟩

theorem Syncs.sets {x : Sync} (done : s.Syncs x t) :
    Sets s.ledger.backed x.reserve t.ledger.backed := by
  cases done with
  | copied copies =>
    rw [backed_stamp]
    exact Ledger.sets_of_setBacking copies.backed

/-- The backings that an event writes are those of its reserves, one after another. -/
def Event.Writes (e : Event) (t : Bank) : Prop :=
  Trail Sets e.found.ledger.backed e.backs t.ledger.backed

theorem Event.Writes.idle (unwritten : Event.backs ⟨s, op⟩ = [])
    (same : t.ledger.backed = s.ledger.backed) : Event.Writes ⟨s, op⟩ t := by
  unfold Event.Writes
  rw [unwritten, same]
  exact .nil _

theorem writes_setBacking (reserve : Text) (backing : Int) (now : Option Int) (s : Bank) :
    Event.Writes ⟨s, .setBacking reserve backing now⟩
      (s.step (.setBacking reserve backing now)).2 := by
  have performs : perform (.setBacking reserve backing now) =
      orFail (onLedger_ fun s => s.ledger.setBacking reserve backing now) fun _ => .nothing := rfl
  rcases step_onLedger_ performs s with ⟨r, step⟩ | ⟨l, backed, step⟩
  · simp only [Event.Writes, Event.backs, Event.ending, Event.acts, step]
    exact .nil _
  · simp only [Event.Writes, Event.backs, Event.ending, step]
    exact .single (Ledger.sets_of_setBacking backed)

theorem writes_attest (caller reserve : Text) (amount : Int) (proofHash : Bytes) (now : Int)
    (coherent : s.oracle.Coherent s.params) :
    Event.Writes ⟨s, .attest caller reserve amount proofHash now⟩
      (s.step (.attest caller reserve amount proofHash now)).2 := by
  have performs : perform (.attest caller reserve amount proofHash now) s =
      orFail (attest caller reserve amount proofHash now) .submission s := rfl
  have step := step_eq_ending performs
  simp only [Event.Writes, Event.backs, Event.acts, Event.ending, step, outcome?_eq,
    Option.bind_some]
  exact Attests.sets (attests caller reserve amount proofHash now coherent)

theorem writes_attestSigned (attestation : SignedAttestation) (now : Int)
    (coherent : s.oracle.Coherent s.params) :
    Event.Writes ⟨s, .attestSigned attestation now⟩
      (s.step (.attestSigned attestation now)).2 := by
  cases judged : attestation.verify with
  | error fault =>
    have step := step_attestSigned_unjudged (s := s) judged now
    simp only [Event.Writes, Event.backs, Event.acts, Event.ending, step, Answer.outcome?]
    exact .nil _
  | ok genuine =>
    have step := step_eq_ending (perform_attestSigned (s := s) judged now)
    simp only [Event.Writes, Event.backs, Event.acts, Event.ending, step, outcome?_eq,
      Option.bind_some]
    cases genuine with
    | true => exact Attests.sets (attests _ _ _ _ now coherent)
    | false => exact .nil _

theorem writes_attestBatch (caller : Text) (reserves : List Text) (amounts : List Int)
    (proofHash : Bytes) (now : Int) (coherent : s.oracle.Coherent s.params) :
    Event.Writes ⟨s, .attestBatch caller reserves amounts proofHash now⟩
      (s.step (.attestBatch caller reserves amounts proofHash now)).2 := by
  have performs : perform (.attestBatch caller reserves amounts proofHash now) s =
      orFail (attestBatch caller reserves amounts proofHash now) .batch s := rfl
  rcases step_ends (attestBatch_ends caller reserves amounts proofHash now s) performs with
    ⟨r, step⟩ | ⟨_, ⟨-, whole, rfl⟩, step⟩
  · simp only [Event.Writes, Event.backs, Event.acts, Event.ending, step]
    exact .nil _
  · obtain ⟨items, t, done, trail⟩ :=
      attestEach_sets caller proofHash now (reserves.zip amounts) coherent
    rw [whole] at trail
    rw [done] at step
    simp only [Event.Writes, Event.backs, Event.acts, Event.ending, step, List.filterMap_flatMap]
    exact trail

theorem writes_overrideBalance (caller reserve : Text) (amount : Int) (justification : Text)
    (now : Int) (s : Bank) :
    Event.Writes ⟨s, .overrideBalance caller reserve amount justification now⟩
      (s.step (.overrideBalance caller reserve amount justification now)).2 := by
  rcases step_overrideBalance caller reserve amount justification now s with
    ⟨r, step⟩ | ⟨entry, o, l, -, backed, step⟩
  · simp only [Event.Writes, Event.backs, Event.acts, Event.ending, step]
    exact .nil _
  · simp only [Event.Writes, Event.backs, Event.acts, Event.ending, step]
    exact .single (Ledger.sets_of_setBacking backed)

theorem writes_resetRound (caller reserve : Text) (now : Int) (s : Bank) :
    Event.Writes ⟨s, .resetRound caller reserve now⟩
      (s.step (.resetRound caller reserve now)).2 := by
  rcases step_resetRound caller reserve now s with ⟨r, step⟩ | ⟨found, o, -, step⟩
  · simp only [Event.Writes, Event.backs, Event.acts, Event.ending, step]
    exact .nil _
  · simp only [Event.Writes, Event.backs, Event.acts, Event.ending, step]
    exact .nil _

theorem backs_of_syncs (kind : op.syncs = true) :
    Event.backs ⟨s, op⟩ = (Event.syncs ⟨s, op⟩).map Sync.reserve := by
  unfold Event.backs Event.syncs Event.acts
  cases op with
  | sync =>
    cases Event.ending ⟨s, _⟩ with
    | error => rfl
    | ok => rfl
  | syncIfPossible =>
    cases Event.ending ⟨s, _⟩ with
    | error => rfl
    | ok answer =>
      cases answer with
      | flag b => cases b <;> rfl
      | _ => rfl
  | syncBatch =>
    cases Event.ending ⟨s, _⟩ with
    | error => rfl
    | ok answer =>
      cases answer with
      | syncReport report => simp only [List.map_map, Function.comp_def, List.map_id']
      | _ => rfl
  | _ => cases kind

theorem writes_of_syncs (kind : op.syncs = true) : Event.Writes ⟨s, op⟩ (s.step op).2 := by
  unfold Event.Writes
  rw [backs_of_syncs kind]
  exact (trail_of_syncs kind).map (fun s => s.ledger.backed) Sync.reserve fun _ _ _ done =>
    done.sets

/-- A step writes the backings that its event tells, and no others. -/
theorem step_writes_backings (op : Operation) (coherent : s.oracle.Coherent s.params) :
    Event.Writes ⟨s, op⟩ (s.step op).2 := by
  cases op with
  | setBacking => exact writes_setBacking ..
  | attest => exact writes_attest _ _ _ _ _ coherent
  | attestSigned => exact writes_attestSigned _ _ coherent
  | attestBatch => exact writes_attestBatch _ _ _ _ _ coherent
  | overrideBalance => exact writes_overrideBalance ..
  | resetRound => exact writes_resetRound ..
  | sync | syncIfPossible | syncBatch => exact writes_of_syncs rfl
  | _ =>
    refine .idle rfl (funext fun reserve => ?_)
    exact (step_touched _ s).read_eq Account.Field.read_backing (by simp [Operation.parts]) reserve

/-- A mint is refused without a trace, or leaves its reserve covered and within its cap. -/
theorem covered_of_step_mint (caller reserve holder : Text) (amount : Int) (now : Option Int)
    (s : Bank) :
    (∃ r, s.step (.mint caller reserve holder amount now) = (.error (.refused r), s)) ∨
      ∃ a, (s.step (.mint caller reserve holder amount now)).2.ledger.accounts.get? reserve =
        some a ∧ a.minted ≤ a.backing ∧ a.minted ≤ a.mintingCap := by
  rcases step_mint caller reserve holder amount now s with refused | ⟨total, l, minted, done⟩
  · exact .inl refused
  · rw [done]
    exact .inr (Ledger.covered_of_mint minted)

/-- A reserve stays covered while its backing is not written. -/
theorem step_covered (coherent : s.oracle.Coherent s.params)
    (unwritten : reserve ∉ Event.backs ⟨s, op⟩) (covered : s.ledger.Covered reserve) :
    (s.step op).2.ledger.Covered reserve := by
  have kept := (step_writes_backings op coherent).eq_of_unset unwritten
  by_cases minting : ∃ caller other holder amount now, op = .mint caller other holder amount now
  · obtain ⟨caller, other, holder, amount, now, rfl⟩ := minting
    rcases step_mint caller other holder amount now s with ⟨r, refused⟩ | ⟨total, l, minted, done⟩
    · rw [refused]
      exact covered
    · rw [done] at kept ⊢
      by_cases here : other = reserve
      · subst here
        obtain ⟨a, found, backed, -⟩ := Ledger.covered_of_mint minted
        intro b found'
        cases found.symm.trans found'
        exact backed
      · refine covered.mono ?_ kept
        rw [Ledger.minted_of_mint reserve minted, if_neg here, Int.add_zero]
  · refine covered.mono (minted_le_of_step (fun caller other holder amount now same => ?_) _) kept
    exact minting ⟨caller, other, holder, amount, now, same⟩

/-- The event takes from what is minted against the reserve. -/
def Event.Redeems (e : Event) (reserve : Text) : Prop :=
  (e.found.step e.operation).2.ledger.minted reserve < e.found.ledger.minted reserve

/-- A reserve that lacks cover lacks it until its backing is written or its tokens are redeemed. -/
theorem uncovered_of_run (ops : List Operation) (coherent : s.oracle.Coherent s.params)
    (uncovered : ¬ s.ledger.Covered reserve)
    (waiting : ∀ e ∈ s.events ops, reserve ∉ e.backs ∧ ¬ e.Redeems reserve) :
    ¬ (s.run ops).ledger.Covered reserve := by
  induction ops using List.reverseRecOn with
  | nil => exact uncovered
  | append_singleton ops op ih =>
    rw [events_concat, List.forall_mem_append, List.forall_mem_singleton] at waiting
    obtain ⟨earlier, unwritten, unredeemed⟩ := waiting
    have before := ih earlier
    have coherent := (run_keeps ops coherent).1
    have kept := (step_writes_backings op coherent).eq_of_unset unwritten
    rw [run_concat]
    intro covered
    apply before
    exact covered.mono (not_lt.mp unredeemed) kept.symm

/-- A mint leaves its reserve covered, and only a write of the backing takes the cover away. A
reserve without cover refuses to mint until its backing is written or tokens of it are redeemed. -/
theorem run_cover (authority : Authority) (relay : Relay) (params : Parameters)
    (ops : List Operation) (reserve : Text) :
    let s := (new authority relay params).run ops
    (∀ op, reserve ∉ Event.backs ⟨s, op⟩ →
      (s.step op).2.ledger.backed reserve = s.ledger.backed reserve ∧
      (s.ledger.Covered reserve → (s.step op).2.ledger.Covered reserve)) ∧
    (∀ caller holder amount now answer,
      (s.step (.mint caller reserve holder amount now)).1 = .ok answer →
      ∃ a, (s.step (.mint caller reserve holder amount now)).2.ledger.accounts.get? reserve =
        some a ∧ a.minted ≤ a.backing ∧ a.minted ≤ a.mintingCap) ∧
    (¬ s.ledger.Covered reserve → ∀ more,
      (∀ e ∈ s.events more, reserve ∉ e.backs ∧ ¬ e.Redeems reserve) →
      ∀ caller holder amount now, ∃ r,
        (s.run more).step (.mint caller reserve holder amount now) =
          (.error (.refused r), s.run more)) := by
  intro s
  have coherent : s.oracle.Coherent s.params :=
    (run_keeps (s := new authority relay params) ops (Oracle.coherent_empty params)).1
  refine ⟨fun op unwritten => ⟨?_, step_covered coherent unwritten⟩, ?_, ?_⟩
  · exact (step_writes_backings op coherent).eq_of_unset unwritten
  · intro caller holder amount now answer done
    rcases covered_of_step_mint caller reserve holder amount now s with ⟨r, refused⟩ | covered
    · rw [refused] at done
      cases done
    · exact covered
  · intro uncovered more waiting caller holder amount now
    have still := uncovered_of_run more coherent uncovered waiting
    rcases step_mint caller reserve holder amount now (s.run more) with
      refused | ⟨total, l, minted, -⟩
    · exact refused
    · obtain ⟨-, positive, a, token, found, -, -, rfl, -, backed, -⟩ := Ledger.mint_eq_ok minted
      refine absurd (fun b found' => ?_) still
      cases found.symm.trans found'
      omega

/-- A reserve with a backing of 7 mints 5 and could mint 2 more. -/
def minting : List Operation := attesting ++ [.mint "minter" "reserve" "holder" 5 (some 4)]

/-- An arbiter lowers the backing below what is minted. -/
def lowering : List Operation := minting ++ [.overrideBalance "arbiter" "reserve" 3 "audit" 5]

/-- Minting keeps the reserve covered up to its backing; then the backing is lowered, and no operation
on the cap helps. -/
theorem run_cover_lowering :
    let s := (new .everyone ⟨1, 1⟩ .testing).run minting
    let t := (new .everyone ⟨1, 1⟩ .testing).run lowering
    (s.ledger.Covered "reserve" ∧
      (s.step (.raiseCap "registrar" "reserve" 2000)).2.ledger.Covered "reserve" ∧
      ∃ a, (s.step (.mint "minter" "reserve" "holder" 2 (some 4))).2.ledger.accounts.get?
        "reserve" = some a ∧ a.minted ≤ a.backing ∧ a.minted ≤ a.mintingCap) ∧
      ¬ t.ledger.Covered "reserve" ∧
      ∃ r, (t.run [.raiseCap "registrar" "reserve" 2000]).step
          (.mint "minter" "reserve" "holder" 1 (some 6)) =
        (.error (.refused r), t.run [.raiseCap "registrar" "reserve" 2000]) := by
  intro s t
  have covered : s.ledger.Covered "reserve" := by decide +kernel
  have uncovered : ¬ t.ledger.Covered "reserve" := by decide +kernel
  have kept : ¬ Event.Redeems ⟨t, .raiseCap "registrar" "reserve" 2000⟩ "reserve" := by
    unfold Event.Redeems
    decide +kernel
  have minted : (s.step (.mint "minter" "reserve" "holder" 2 (some 4))).1.toBool = true := by
    decide +kernel
  obtain ⟨writes, mints, -⟩ := run_cover .everyone ⟨1, 1⟩ .testing minting "reserve"
  obtain ⟨-, -, refuses⟩ := run_cover .everyone ⟨1, 1⟩ .testing lowering "reserve"
  refine ⟨⟨covered, (writes _ List.not_mem_nil).2 covered, ?_⟩, uncovered, ?_⟩
  · cases answered : (s.step (.mint "minter" "reserve" "holder" 2 (some 4))).1 with
    | ok answer => exact mints _ _ _ _ answer answered
    | error failure =>
      rw [answered] at minted
      cases minted
  · refine refuses uncovered [.raiseCap "registrar" "reserve" 2000] (fun e mem => ?_) _ _ _ _
    cases List.mem_singleton.mp mem
    exact ⟨List.not_mem_nil, kept⟩

end Bank

end BitcoinReserve
