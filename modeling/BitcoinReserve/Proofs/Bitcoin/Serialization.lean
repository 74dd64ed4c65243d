import BitcoinReserve.Proofs.Bitcoin.Confirmation

/-!
# The bytes of a transaction

A transaction is written as its four parts one after another, with nothing between them. A vector
still tells where it ends: whatever follows it, the readers take the same bytes and the same items
off the front. So the bytes determine the parts, and the hash does where it does not collide.
-/
namespace BitcoinReserve

section Fronts

variable {α ε : Type} {item : Bytes → Except ε (α × Bytes)} {Writes : α → Bytes → Prop}

/-- Two writings at the front of one string are the same, where a reader accepts exactly them. -/
theorem eq_of_fronts
    (each : ∀ {bs a rest}, item bs = .ok (a, rest) ↔ ∃ front, Writes a front ∧ bs = front ++ rest)
    {a b : α} {front front' rest rest' : Bytes} (writes : Writes a front)
    (writes' : Writes b front') (same : front ++ rest = front' ++ rest') :
    a = b ∧ front = front' ∧ rest = rest' := by
  have read : item (front ++ rest) = .ok (a, rest) := each.mpr ⟨front, writes, rfl⟩
  have read' : item (front ++ rest) = .ok (b, rest') := each.mpr ⟨front', writes', same⟩
  cases read.symm.trans read'
  exact ⟨rfl, List.append_cancel_right same, rfl⟩

/-- Where items tell their ends, a vector of them does: its count is read first, in whatever width
it is written, and then as many items. -/
theorem EncodesVector.eq_of_fronts
    (each : ∀ {bs a rest}, item bs = .ok (a, rest) ↔ ∃ front, Writes a front ∧ bs = front ++ rest)
    {items items' : List α} {vector vector' rest rest' : Bytes}
    (encodes : EncodesVector Writes items vector) (encodes' : EncodesVector Writes items' vector')
    (same : vector ++ rest = vector' ++ rest') :
    items = items' ∧ vector = vector' ∧ rest = rest' := by
  obtain ⟨size, fronts, counted, written, rfl⟩ := encodes
  obtain ⟨size', fronts', counted', written', rfl⟩ := encodes'
  rw [List.append_assoc, List.append_assoc] at same
  obtain ⟨count, rfl, later⟩ :=
    BitcoinReserve.eq_of_fronts CompactSize.read_eq_ok_iff counted counted' same
  have read : readMany item items.length (fronts.flatten ++ rest) = .ok (items, rest) :=
    (readMany_eq_ok_iff each).mpr ⟨rfl, fronts, written, rfl⟩
  have read' : readMany item items.length (fronts.flatten ++ rest) = .ok (items', rest') :=
    (readMany_eq_ok_iff each).mpr ⟨count.symm, fronts', written', later⟩
  cases read.symm.trans read'
  exact ⟨rfl, congrArg (size ++ ·) (List.append_cancel_right later), rfl⟩

end Fronts

namespace Transaction

/-- What a verifier asks of the parts of a transaction before it hashes them. -/
structure Sound (tx : Transaction) : Prop where
  version_length : tx.version.length = 4
  inputs : InputVector.valid tx.inputVector = true
  outputs : OutputVector.valid tx.outputVector = true
  locktime_length : tx.locktime.length = 4

variable {tx tx' : Transaction}

/-- The bytes of a sound transaction are not the front of those of another one. -/
theorem eq_of_serialize_append {rest rest' : Bytes} (sound : tx.Sound) (sound' : tx'.Sound)
    (same : tx.serialize ++ rest = tx'.serialize ++ rest') : tx = tx' ∧ rest = rest' := by
  obtain ⟨inputs, -, encodes⟩ := InputVector.valid_iff.mp sound.inputs
  obtain ⟨inputs', -, encodes'⟩ := InputVector.valid_iff.mp sound'.inputs
  obtain ⟨outputs, -, pays⟩ := OutputVector.valid_iff.mp sound.outputs
  obtain ⟨outputs', -, pays'⟩ := OutputVector.valid_iff.mp sound'.outputs
  have version_length : tx.version.length = tx'.version.length := by
    rw [sound.version_length, sound'.version_length]
  have locktime_length : tx.locktime.length = tx'.locktime.length := by
    rw [sound.locktime_length, sound'.locktime_length]
  simp only [serialize, List.append_assoc] at same
  obtain ⟨version, same⟩ := List.append_inj same version_length
  obtain ⟨-, inputVector, same⟩ := encodes.eq_of_fronts InputVector.readItem_eq_ok_iff encodes' same
  obtain ⟨-, outputVector, same⟩ := pays.eq_of_fronts OutputVector.readItem_eq_ok_iff pays' same
  obtain ⟨locktime, rest⟩ := List.append_inj same locktime_length
  cases tx
  cases tx'
  cases version
  cases inputVector
  cases outputVector
  cases locktime
  exact ⟨rfl, rest⟩

theorem eq_of_serialize_eq (sound : tx.Sound) (sound' : tx'.Sound)
    (same : tx.serialize = tx'.serialize) : tx = tx' :=
  (eq_of_serialize_append sound sound' (congrArg (· ++ []) same)).1

theorem sound_of_verify {v : Verifier} {e : Evidence} {factor : Option Int} {hash : Bytes}
    (accepted : v.verify tx e factor = .ok hash) : tx.Sound := by
  obtain ⟨-, first, rest, confirms⟩ := Verifier.confirms_of_verify accepted
  exact {
    version_length := confirms.version_length
    inputs := InputVector.valid_iff.mpr confirms.inputs
    outputs := OutputVector.valid_iff.mpr confirms.outputs
    locktime_length := confirms.locktime_length }

/-- The bytes of a sound transaction determine its parts, also where more follows. Two transactions
that are accepted under one hash, by whatever evidence, are the same unless their bytes collide. -/
theorem serialize_pins (tx tx' : Transaction) :
    (tx.Sound → tx'.Sound →
      (tx.serialize = tx'.serialize → tx = tx') ∧
        ∀ rest rest', tx.serialize ++ rest = tx'.serialize ++ rest' → tx = tx' ∧ rest = rest') ∧
      ∀ (v v' : Verifier) (e e' : Evidence) (factor factor' : Option Int) (hash : Bytes),
        v.verify tx e factor = .ok hash → v'.verify tx' e' factor' = .ok hash →
        (hash256 tx.serialize = hash256 tx'.serialize → tx.serialize = tx'.serialize) →
        tx.Sound ∧ tx'.Sound ∧ tx = tx' := by
  refine ⟨fun sound sound' => ⟨eq_of_serialize_eq sound sound', fun rest rest' same => ?_⟩, ?_⟩
  · exact eq_of_serialize_append sound sound' same
  · intro v v' e e' factor factor' hash accepted accepted' collisionless
    have sound := sound_of_verify accepted
    have sound' := sound_of_verify accepted'
    obtain ⟨here, -⟩ := Verifier.confirms_of_verify accepted
    obtain ⟨there, -⟩ := Verifier.confirms_of_verify accepted'
    exact ⟨sound, sound', eq_of_serialize_eq sound sound' (collisionless (here.symm.trans there))⟩

/-- A transaction confirmed by one header, and the same outputs after a count in three bytes: no
evidence confirms them under the same hash. -/
theorem serialize_pins_recounted :
    let zeros := Bytes.zeros
    let tx : Transaction :=
      ⟨zeros 4, [1] ++ zeros 36 ++ [0] ++ zeros 4, [1] ++ zeros 8 ++ [0], zeros 4⟩
    let tx' : Transaction := { tx with outputVector := [0xfd, 1, 0] ++ zeros 8 ++ [0] }
    let e : Evidence := ⟨[], 0,
      zeros 36 ++ tx.hash ++ zeros 4 ++ [0xff, 0xff, 0x7f, 0x20, 1, 0, 0, 0],
      sha256 tx.serialize, []⟩
    let v : Verifier := ⟨⟨1, 1⟩, 1, .regtest, by decide⟩
    v.verify tx e none = .ok tx.hash ∧ tx.Sound ∧ tx'.Sound ∧
      OutputVector.decode tx.outputVector = OutputVector.decode tx'.outputVector ∧
      tx.serialize ≠ tx'.serialize ∧ ∀ (v' : Verifier) (e' : Evidence) (factor : Option Int),
        v'.verify tx' e' factor ≠ .ok tx.hash := by
  intro zeros tx tx' e v
  have accepted : v.verify tx e none = .ok tx.hash := by decide +kernel
  have sound : tx.Sound := ⟨by decide, by decide, by decide, by decide⟩
  have sound' : tx'.Sound := ⟨by decide, by decide, by decide, by decide⟩
  have other : tx ≠ tx' := by decide
  have hashes : hash256 tx.serialize ≠ hash256 tx'.serialize := by decide +kernel
  refine ⟨accepted, sound, sound', by decide, fun same => ?_, fun v' e' factor accepted' => ?_⟩
  · exact other (((serialize_pins tx tx').1 sound sound').1 same)
  · exact other ((serialize_pins tx tx').2 v v' e e' none factor tx.hash accepted accepted'
      fun collides => absurd collides hashes).2.2

end Transaction

end BitcoinReserve
