import BitcoinReserve.Proofs.Bank.Attestations

/-!
# Batches

A batch does what its items do one after another, and reports of each how it ended. A refused item
does not stop the others.
-/
namespace BitcoinReserve.Bank

open BitcoinReserve.Action

/-- The item ended as an operation of its own. -/
def BatchItem.ending (item : BatchItem) : Except Failure Answer :=
  (item.result.map .submission).mapError .refused

def SyncItem.ending (item : SyncItem) : Except Failure Answer :=
  (item.result.map .number).mapError .refused

variable {s : Bank} {caller : Text} {role : Role}

section Items

variable {ι α β : Type}

/-- Actions one after another, each to its result or its refusal, are a run of their operations. The
property of the state is what the operations need to do as the actions do. -/
theorem each_eq_run (each : List ι → Action (List β)) (x : ι → Action α)
    (item : ι → Except Refusal α → β) (op : ι → Operation) (answer : α → Answer) (P : Bank → Prop)
    (nil : each [] = pure [])
    (cons : ∀ i rest, each (i :: rest) = do
      let result ← outcome (x i)
      let items ← each rest
      return item i result :: items)
    (steps : ∀ i s, P s → s.step (op i) =
      ((((x i).ending s).map answer).mapError .refused, (x i).after s))
    (keeps : ∀ i s, P s → P ((x i).after s)) (l : List ι) (h : P s) :
    ∃ results : List (ι × Except Refusal α), results.map Prod.fst = l ∧
      each l s = .ok (results.map fun r => item r.1 r.2) (s.run (l.map op)) ∧
      (s.events (l.map op)).map Event.ending =
        results.map fun r => (r.2.map answer).mapError .refused := by
  induction l generalizing s with
  | nil => exact ⟨[], rfl, congrFun nil s, rfl⟩
  | cons i rest ih =>
    obtain ⟨results, keys, done, endings⟩ := ih (keeps i s h)
    have first := steps i s h
    have run : s.run ((i :: rest).map op) = ((x i).after s).run (rest.map op) :=
      congrArg (fun p => p.2.run (rest.map op)) first
    refine ⟨(i, (x i).ending s) :: results, ?_, ?_, ?_⟩
    · rw [List.map_cons, keys]
    · rw [cons, outcome_bind, run]
      simp only [Bind.bind, EStateM.bind, done]
      rfl
    · simp only [List.map_cons, events, first, endings, Event.ending]

end Items

section Roles

variable {α : Type} {x : Action α} {answer : α → Answer} {op : Operation}

/-- An operation that asks for a role the caller has. -/
theorem step_of_allows (holds : s.authority.allows caller role = true)
    (performs : perform op s = orFail (Action.require caller role >>= fun _ => x) answer s) :
    s.step op = (((x.ending s).map answer).mapError .refused, x.after s) := by
  have granted : s.authority.require caller role = .ok () := Check.require_eq_ok_iff.mpr holds
  have asked : (Action.require caller role >>= fun _ => x) s = x s := decide_bind_of_ok granted
  rw [step_eq_ending performs, Action.ending, Action.after, asked]
  rfl

/-- An operation that asks for a role the caller has and succeeds then. -/
theorem step_ok_of_allows {a : α} {t : Bank} (holds : s.authority.allows caller role = true)
    (performs : perform op s = orFail (Action.require caller role >>= fun _ => x) answer s)
    (done : x s = .ok a t) : s.step op = (.ok (answer a), t) := by
  rw [step_of_allows holds performs, Action.ending, Action.after, done]
  rfl

end Roles

theorem attestEach_eq_run (holds : s.authority.allows caller .attester = true) (proofHash : Bytes)
    (now : Int) (pairs : List (Text × Int)) :
    let ops := pairs.map fun p => .attest caller p.1 p.2 proofHash now
    ∃ items, attestEach caller proofHash now pairs s = .ok items (s.run ops) ∧
      items.map BatchItem.reserve = pairs.map Prod.fst ∧
      items.map BatchItem.ending = (s.events ops).map Event.ending := by
  intro ops
  have keeps (p : Text × Int) (s : Bank) (holds : s.authority.allows caller .attester = true) :
      ((submit caller p.1 p.2 proofHash now).after s).authority.allows caller .attester = true := by
    have touched := touches_submit (s := s) caller p.1 p.2 proofHash now
    rw [touched.authority_eq (by simp), holds]
  obtain ⟨results, keys, done, endings⟩ := each_eq_run
    (attestEach caller proofHash now) (fun p => submit caller p.1 p.2 proofHash now)
    (fun p => BatchItem.mk p.1) (fun p => .attest caller p.1 p.2 proofHash now) .submission
    (fun s => s.authority.allows caller .attester = true) rfl (fun _ _ => rfl)
    (fun _ _ holds => step_of_allows holds rfl) keeps pairs holds
  refine ⟨_, done, ?_, ?_⟩
  · rw [← keys, List.map_map, List.map_map]
    rfl
  · rw [endings, List.map_map]
    rfl

theorem syncEach_eq_run (holds : s.authority.allows caller .syncer = true) (now : Int)
    (reserves : List Text) :
    let ops := reserves.map fun reserve => .sync caller reserve now
    ∃ items, syncEach now reserves s = .ok items (s.run ops) ∧
      items.map SyncItem.reserve = reserves ∧
      items.map SyncItem.ending = (s.events ops).map Event.ending := by
  intro ops
  have keeps (reserve : Text) (s : Bank) (holds : s.authority.allows caller .syncer = true) :
      ((copyBalance reserve now).after s).authority.allows caller .syncer = true := by
    have touched := touches_copyBalance (s := s) reserve now
    rw [touched.authority_eq (by simp), holds]
  obtain ⟨results, keys, done, endings⟩ := each_eq_run
    (syncEach now) (fun reserve => copyBalance reserve now) SyncItem.mk
    (fun reserve => .sync caller reserve now) .number
    (fun s => s.authority.allows caller .syncer = true) rfl (fun _ _ => rfl)
    (fun _ _ holds => step_of_allows holds rfl) keeps reserves holds
  refine ⟨_, done, ?_, ?_⟩
  · rw [← keys, List.map_map]
    rfl
  · rw [endings, List.map_map]
    rfl

/-- A batch does what its items do, one after another, and tells of each what the operation for it
answers or why it is refused. -/
theorem step_batches (s : Bank) (caller : Text) (now : Int) :
    (∀ reserves amounts proofHash, s.authority.allows caller .attester = true →
      reserves.length = amounts.length →
      let ops := (reserves.zip amounts).map fun p => .attest caller p.1 p.2 proofHash now
      ∃ items, s.step (.attestBatch caller reserves amounts proofHash now) =
          (.ok (.batch items), s.run ops) ∧
        items.map BatchItem.reserve = reserves ∧
        items.map BatchItem.ending = (s.events ops).map Event.ending) ∧
    ∀ reserves budget, s.authority.allows caller .syncer = true →
      let limit := (max 0 (budget.getD s.params.maxBatchOperations)).toNat
      let ops := (reserves.take limit).map fun reserve => .sync caller reserve now
      ∃ report, s.step (.syncBatch caller reserves now budget) =
          (.ok (.syncReport report), s.run ops) ∧
        report.items.map SyncItem.ending = (s.events ops).map Event.ending ∧
        report.items.map SyncItem.reserve ++ report.skipped = reserves ∧
        (report.budgetExhausted = true ↔ report.skipped ≠ []) ∧
        (report.budgetExhausted = true ↔ limit < reserves.length) := by
  refine ⟨fun reserves amounts proofHash holds lengths => ?_, fun reserves budget holds => ?_⟩
  · intro ops
    obtain ⟨items, done, keys, endings⟩ :=
      attestEach_eq_run holds proofHash now (reserves.zip amounts)
    have equal : ensure (reserves.length = amounts.length)
        (.lengthsDiffer reserves.length amounts.length) = .ok () := ensure_eq_ok_iff.mpr lengths
    refine ⟨items, step_ok_of_allows holds rfl ?_, ?_, endings⟩
    · exact (decide_bind_of_ok equal).trans done
    · rw [keys, List.map_fst_zip lengths.le]
  · intro limit ops
    have limit_eq : (budget.getD s.params.maxBatchOperations).toNat = limit := by
      simp only [limit]
      omega
    obtain ⟨items, done, keys, endings⟩ := syncEach_eq_run holds now (reserves.take limit)
    have exhausted : (SyncReport.mk items (reserves.drop limit)).budgetExhausted = true ↔
        reserves.drop limit ≠ [] := by
      simp [SyncReport.budgetExhausted]
    refine ⟨⟨items, reserves.drop limit⟩, step_ok_of_allows holds rfl ?_, endings, ?_, exhausted,
      ?_⟩
    · simp only [Bind.bind, EStateM.bind, MonadState.get, getThe, MonadStateOf.get, EStateM.get,
        limit_eq, done]
      rfl
    · rw [keys, List.take_append_drop]
    · rw [exhausted, Ne, List.drop_eq_nil_iff, Nat.not_le]

/-- A batch with a repeated reserve, an unknown one and a negative amount, and a sync without a
budget. -/
theorem step_batches_mixed :
    let s := (new .everyone ⟨1, 1⟩ .testing).run [.register "registrar" "reserve" 1000 (some 0)]
    let reserves := ["reserve", "reserve", "unknown", "reserve"]
    (∃ items, s.step (.attestBatch "attester" reserves [5, 7, 7, -1] [] 4) =
        (.ok (.batch items), s.run [.attest "attester" "reserve" 5 [] 4,
          .attest "attester" "reserve" 7 [] 4, .attest "attester" "unknown" 7 [] 4,
          .attest "attester" "reserve" (-1) [] 4]) ∧
      items.map BatchItem.reserve = reserves ∧
      items.map (·.ending.toBool) = [true, true, false, false]) ∧
    ∃ report, s.step (.syncBatch "syncer" reserves 4 (some (-1))) = (.ok (.syncReport report), s) ∧
      report.skipped = reserves ∧ report.budgetExhausted = true := by
  intro s reserves
  obtain ⟨attest, -⟩ := step_batches s "attester" 4
  obtain ⟨items, attested, keys, endings⟩ := attest reserves [5, 7, 7, -1] [] rfl rfl
  obtain ⟨-, sync⟩ := step_batches s "syncer" 4
  obtain ⟨report, synced, unended, whole, -, exhausted⟩ := sync reserves (some (-1)) rfl
  refine ⟨⟨items, attested, keys, ?_⟩, report, synced, ?_, exhausted.mpr (by decide)⟩
  · have told : items.map (·.ending.toBool) = (items.map BatchItem.ending).map Except.toBool := by
      rw [List.map_map]
      rfl
    rw [told, endings]
    decide +kernel
  · have nothing : report.items = [] := List.map_eq_nil_iff.mp unended
    rw [nothing] at whole
    exact whole

end BitcoinReserve.Bank
