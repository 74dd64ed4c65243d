import BitcoinReserve.Proofs.Bitcoin.Work

/-!
# Chains put together

A chain followed by another one is a chain exactly when both are and the second continues the first,
and then the work adds up. So evidence stays good when more headers come behind it, and when fewer
confirmations are asked for.
-/
namespace BitcoinReserve

namespace Header

/-- Some headers, each of them complete. -/
def Whole (headers : Bytes) : Prop := headers ≠ [] ∧ headers.length % size = 0

/-- The first of the further headers names the last one before them. -/
def Continues (headers further : Bytes) : Prop :=
  previousHash (further.take size) = hash (headers.drop (headers.length - size))

theorem whole_iff {headers : Bytes} :
    Whole headers ↔ ∃ first rest,
      headers = (first :: rest).flatten ∧ ∀ header ∈ first :: rest, header.length = size := by
  have sound : Whole headers ↔ Verifier.headersFault? headers = none := by
    simp only [Verifier.headersFault?, ite_eq_right_iff, reduceCtorEq, imp_false, not_or,
      not_ne_iff]
    exact Iff.rfl
  rw [sound]
  exact Verifier.headersFault?_eq_none_iff

theorem continues_iff {first first' : Bytes} {rest rest' : List Bytes}
    (lengths : ∀ header ∈ first :: rest, header.length = size)
    (lengths' : ∀ header ∈ first' :: rest', header.length = size) :
    Continues (first :: rest).flatten (first' :: rest').flatten ↔
      ∀ last ∈ (first :: rest).getLast?, ∀ next ∈ (first' :: rest').head?, Precedes last next := by
  have head : (first' :: rest').flatten.take size = first' :=
    List.take_left' (lengths' first' List.mem_cons_self)
  obtain ⟨last, ends⟩ : ∃ last, (first :: rest).getLast? = some last :=
    ⟨_, List.getLast?_eq_some_getLast (List.cons_ne_nil first rest)⟩
  rw [Continues, head, drop_of_getLast? ends lengths, ends]
  simp only [Option.mem_def, Option.some.injEq, forall_eq', List.head?_cons]
  rfl

end Header

namespace Verifier

variable {v : Verifier} {tx : Transaction} {e : Evidence} {factor : Int} {first first' : Bytes}
  {rest rest' : List Bytes}

theorem chain_append_eq_ok_iff {headers further : Bytes} {work : Int} (whole : Header.Whole headers)
    (whole' : Header.Whole further) :
    v.chain (headers ++ further) = .ok work ↔
      ∃ shown more, v.chain headers = .ok shown ∧ v.chain further = .ok more ∧
        Header.Continues headers further ∧ shown + more = work := by
  obtain ⟨first, rest, rfl, lengths⟩ := Header.whole_iff.mp whole
  obtain ⟨first', rest', rfl, lengths'⟩ := Header.whole_iff.mp whole'
  have both : ∀ header ∈ first :: (rest ++ first' :: rest'), header.length = 80 := by
    rw [← List.cons_append, List.forall_mem_append]
    exact ⟨lengths, lengths'⟩
  rw [← List.flatten_append, List.cons_append, chain_eq_ok_iff both, ← List.cons_append,
    List.isChain_append, List.forall_mem_append, List.map_append, List.sum_append,
    ← Header.continues_iff lengths lengths']
  simp only [chain_eq_ok_iff lengths, chain_eq_ok_iff lengths']
  constructor
  · rintro ⟨⟨linked, linked', next⟩, ⟨worked, worked'⟩, total⟩
    exact ⟨_, _, ⟨linked, worked, rfl⟩, ⟨linked', worked', rfl⟩, next, total⟩
  · rintro ⟨_, _, ⟨linked, worked, rfl⟩, ⟨linked', worked', rfl⟩, next, total⟩
    exact ⟨⟨linked, linked', next⟩, ⟨worked, worked'⟩, total⟩

/-- A chain without headers is refused. -/
theorem whole_of_chain {headers : Bytes} {work : Int} (accepted : v.chain headers = .ok work) :
    Header.Whole headers := by
  rw [Header.whole_iff]
  unfold chain at accepted
  split at accepted
  · cases accepted
  · rename_i sound
    exact headersFault?_eq_none_iff.mp sound

/-- What is confirmed often enough is confirmed as often as one asks for less. -/
theorem Confirms.weaken (confirms : v.Confirms tx e factor first rest) {fewer : Int}
    (positive : 1 ≤ fewer) (less : fewer ≤ factor) : v.Confirms tx e fewer first rest := by
  have nonneg := Header.difficulty_nonneg v.network first
  exact confirms.rescale positive
    ((Int.mul_le_mul_of_nonneg_left less nonneg).trans confirms.difficulty_mul_le)

/-- More headers behind those of the evidence confirm the same transaction. -/
theorem Confirms.append (confirms : v.Confirms tx e factor first rest)
    (lengths : ∀ header ∈ first' :: rest', header.length = Header.size) {work : Int}
    (chain : v.chain (first' :: rest').flatten = .ok work)
    (next : Header.Continues e.headers (first' :: rest').flatten) :
    v.Confirms tx { e with headers := e.headers ++ (first' :: rest').flatten } factor first
      (rest ++ first' :: rest') := by
  obtain ⟨linked, worked, -⟩ := (chain_eq_ok_iff lengths).mp chain
  rw [confirms.headers_eq, Header.continues_iff confirms.header_length lengths] at next
  have nonneg := Header.sum_difficulty_nonneg v.network (first' :: rest')
  rw [Header.difficulty_eq] at nonneg
  exact { confirms with
    headers_eq := by rw [confirms.headers_eq, ← List.flatten_append, List.cons_append]
    header_length := by
      rw [← List.cons_append, List.forall_mem_append]
      exact ⟨confirms.header_length, lengths⟩
    linked := by
      rw [← List.cons_append, List.isChain_append]
      exact ⟨confirms.linked, linked, next⟩
    worked := by
      rw [← List.cons_append, List.forall_mem_append]
      exact ⟨confirms.worked, worked⟩
    work_le := by
      rw [← List.cons_append, List.map_append, List.sum_append]
      exact confirms.work_le.trans (Int.le_add_of_nonneg_right nonneg) }

theorem verify_fewer {factor fewer : Option Int} {hash : Bytes}
    (accepted : v.verify tx e factor = .ok hash) (positive : 1 ≤ fewer.getD v.factor)
    (less : fewer.getD v.factor ≤ factor.getD v.factor) : v.verify tx e fewer = .ok hash := by
  obtain ⟨rfl, first, rest, confirms⟩ := confirms_of_verify accepted
  exact (confirms.weaken positive less).verify_eq

theorem verify_append {factor : Option Int} {hash further : Bytes} {more : Int}
    (accepted : v.verify tx e factor = .ok hash) (chain : v.chain further = .ok more)
    (next : Header.Continues e.headers further) :
    v.verify tx { e with headers := e.headers ++ further } factor = .ok hash := by
  obtain ⟨rfl, first, rest, confirms⟩ := confirms_of_verify accepted
  obtain ⟨first', rest', rfl, lengths⟩ := Header.whole_iff.mp (whole_of_chain chain)
  exact (confirms.append lengths chain next).verify_eq

/-- Two chains make one exactly when each is valid and the second continues the first. Accepted
evidence stays accepted with more headers behind it and at a smaller factor. -/
theorem confirmed_by_continuation (v : Verifier) :
    (∀ headers further work, Header.Whole headers → Header.Whole further →
      (v.chain (headers ++ further) = .ok work ↔
        ∃ shown more, v.chain headers = .ok shown ∧ v.chain further = .ok more ∧
          Header.Continues headers further ∧ shown + more = work)) ∧
    ∀ tx e factor hash, v.verify tx e factor = .ok hash →
      ∀ fewer, 1 ≤ fewer.getD v.factor → fewer.getD v.factor ≤ factor.getD v.factor →
        v.verify tx e fewer = .ok hash ∧
        ∀ further more, v.chain further = .ok more → Header.Continues e.headers further →
          v.verify tx { e with headers := e.headers ++ further } fewer = .ok hash := by
  constructor
  · intro headers further work whole whole'
    exact chain_append_eq_ok_iff whole whole'
  · intro tx e factor hash accepted fewer positive less
    have weaker := verify_fewer accepted positive less
    exact ⟨weaker, fun further more chain next => verify_append weaker chain next⟩

/-- A header of the easiest target that names the previous block and the root. -/
def easyHeader (previous root : Bytes) (nonce : UInt8) : Bytes :=
  Bytes.zeros 4 ++ previous ++ root ++ Bytes.zeros 4 ++ [0xff, 0xff, 0x7f, 0x20, nonce, 0, 0, 0]

/-- One header is not enough for two confirmations, and a second one that continues it is. -/
theorem confirmed_by_continuation_two :
    let v : Verifier := ⟨⟨1, 0⟩, 2, .regtest, by decide⟩
    let e := lonelyEvidence [0xff, 0xff, 0x7f, 0x20, 1, 0, 0, 0]
    let second := easyHeader (hash256 e.headers) (Bytes.zeros 32) 0
    let third := easyHeader (hash256 second) (Bytes.zeros 32) 1
    let longer := { e with headers := e.headers ++ second }
    Header.Whole e.headers ∧ Header.Whole second ∧ v.chain longer.headers = .ok 2 ∧
      v.verify idleTransaction longer none = .ok idleTransaction.hash ∧
      v.verify idleTransaction longer (some 1) = .ok idleTransaction.hash ∧
      v.chain third = .ok 1 ∧ Header.Continues longer.headers third ∧
      v.verify idleTransaction { longer with headers := longer.headers ++ third } (some 1) =
        .ok idleTransaction.hash := by
  intro v e second third longer
  obtain ⟨compose, confirm⟩ := confirmed_by_continuation v
  have whole : Header.Whole e.headers := ⟨by decide +kernel, by decide +kernel⟩
  have whole' : Header.Whole second := ⟨by decide +kernel, by decide +kernel⟩
  have parts : v.chain e.headers = .ok 1 ∧ v.chain second = .ok 1 ∧
      Header.previousHash (second.take Header.size) =
        Header.hash (e.headers.drop (e.headers.length - Header.size)) := by
    decide +kernel
  have chain : v.chain longer.headers = .ok 2 :=
    (compose e.headers second 2 whole whole').mpr ⟨1, 1, parts.1, parts.2.1, parts.2.2, rfl⟩
  have accepted : v.verify idleTransaction longer none = .ok idleTransaction.hash := by
    decide +kernel
  have further : v.chain third = .ok 1 ∧
      Header.previousHash (third.take Header.size) =
        Header.hash (longer.headers.drop (longer.headers.length - Header.size)) := by
    decide +kernel
  obtain ⟨fewer, more⟩ := confirm idleTransaction longer none idleTransaction.hash accepted (some 1)
    (by decide) (by decide)
  exact ⟨whole, whole', chain, accepted, fewer, further.1, further.2,
    more third 1 further.1 further.2⟩

end Verifier

end BitcoinReserve
