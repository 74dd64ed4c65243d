import BitcoinReserve.Proofs.Bitcoin.Recovery

/-!
# Returned data

The scripts that return data with one push of stated length, and the challenges that are found in
the outputs of a vector.
-/
namespace BitcoinReserve

namespace Script

/-- The scripts that return the data: without a push if there is none, or by one push whose length
is the opcode itself, or follows it in one byte or in two. -/
inductive Returns (data : Bytes) : Bytes → Prop
  | bare (nothing : data = []) : Returns data [0x6a]
  | direct (nonempty : 1 ≤ data.length) (few : data.length ≤ 75) :
      Returns data (0x6a :: UInt8.ofNat data.length :: data)
  | byte (few : data.length ≤ 255) :
      Returns data (0x6a :: 0x4c :: UInt8.ofNat data.length :: data)
  | twoBytes (few : data.length ≤ 65535) :
      Returns data (0x6a :: 0x4d :: (Bytes.ofNatLE 2 data.length ++ data))

variable {script data : Bytes}

/-- Data is read where its length is the stated one. -/
theorem exactly_eq_some_iff {rest : Bytes} {n : Nat} :
    (if rest.length = n then some rest else none) = some data ↔ rest = data ∧ data.length = n := by
  constructor
  · intro found
    split at found
    · cases found
      exact ⟨rfl, ‹_›⟩
    · cases found
  · rintro ⟨rfl, length⟩
    exact if_pos length

/-- The byte that states a length is told by the length, and tells it. -/
theorem ofNat_length {n : UInt8} (length : data.length = n.toNat) :
    UInt8.ofNat data.length = n := by
  rw [length, UInt8.ofNat_toNat]

theorem toNat_ofNat_length (few : data.length ≤ 255) :
    (UInt8.ofNat data.length).toNat = data.length :=
  UInt8.toNat_ofNat_of_lt' (Nat.lt_succ_of_le few)

theorem returns_of_payload? (found : payload? script = some data) : Returns data script := by
  unfold payload? at found
  split at found
  · cases found
    exact .bare rfl
  · rename_i push rest
    dsimp only at found
    split at found
    · rename_i range
      obtain ⟨rfl, length⟩ := exactly_eq_some_iff.mp found
      have positive : 0 < push.toNat := UInt8.lt_iff_toNat_lt.mp range.1
      have small : push.toNat < 76 := UInt8.lt_iff_toNat_lt.mp range.2
      rw [← ofNat_length length]
      exact .direct (by omega) (by omega)
    · split at found
      · rename_i n rest _
        obtain ⟨rfl, length⟩ := exactly_eq_some_iff.mp found
        have small : n.toNat < 256 := UInt8.toNat_lt n
        rw [← ofNat_length length]
        exact .byte (by omega)
      · rename_i low high rest _
        obtain ⟨rfl, length⟩ := exactly_eq_some_iff.mp found
        have small : Bytes.toNatLE [low, high] < Bytes.span 2 := Bytes.toNatLE_lt [low, high]
        have span : Bytes.span 2 = 65536 := by decide
        have stated : Bytes.ofNatLE 2 rest.length = [low, high] := by
          rw [length]
          exact Bytes.ofNatLE_toNatLE [low, high]
        have written : low :: high :: rest = Bytes.ofNatLE 2 rest.length ++ rest := by
          rw [stated]
          rfl
        rw [written]
        exact .twoBytes (by omega)
      · cases found
  · cases found

theorem payload?_of_returns (returns : Returns data script) : payload? script = some data := by
  cases returns with
  | bare nothing => rw [nothing, payload?]
  | direct nonempty few =>
    have stated := toNat_ofNat_length (few.trans (by decide))
    have range : 0 < UInt8.ofNat data.length ∧ UInt8.ofNat data.length < 0x4c := by
      rw [UInt8.lt_iff_toNat_lt, UInt8.lt_iff_toNat_lt, stated]
      exact ⟨nonempty, Nat.lt_succ_of_le few⟩
    simp only [payload?, if_pos range, stated, if_true]
  | byte few =>
    have range : ¬ ((0 : UInt8) < 0x4c ∧ (0x4c : UInt8) < 0x4c) := by decide
    simp only [payload?, if_neg range, toNat_ofNat_length few, if_true]
  | twoBytes few =>
    have range : ¬ ((0 : UInt8) < 0x4d ∧ (0x4d : UInt8) < 0x4c) := by decide
    have stated : Bytes.toNatLE (Bytes.ofNatLE 2 data.length) = data.length :=
      Bytes.toNatLE_ofNatLE_of_lt (Nat.lt_succ_of_le few)
    obtain ⟨low, high, written⟩ : ∃ low high, Bytes.ofNatLE 2 data.length = [low, high] :=
      ⟨_, _, rfl⟩
    rw [written] at stated ⊢
    simp only [payload?, List.cons_append, List.nil_append, if_neg range, stated, if_true]

theorem payload?_eq_some_iff : payload? script = some data ↔ Returns data script :=
  ⟨returns_of_payload?, payload?_of_returns⟩

end Script

namespace OutputVector

variable {outputs : List TxOutput} {vector challenge : Bytes}

/-- One of the scripts returns data that begins with the challenge. -/
def Answers (challenge : Bytes) (scripts : List Bytes) : Prop :=
  ∃ script ∈ scripts, ∃ data, Script.Returns data script ∧ data.take 32 = challenge

theorem carries_of_decode (read : decode vector = .ok outputs) :
    carries vector challenge = true ↔
      challenge.length = 32 ∧ Answers challenge (outputs.map TxOutput.script) := by
  by_cases length : challenge.length = 32
  · rw [and_iff_right length]
    cases outputs with
    | nil => simp [carries, valid, read, Answers]
    | cons output outputs =>
      have sound : valid vector = true := by simp only [valid, read]
      simp only [carries, length, sound, read, ne_eq, not_true_eq_false, Bool.not_true,
        Bool.false_eq_true, or_self, if_false, List.any_eq_true, Answers, List.mem_map,
        exists_exists_and_eq_and, ← Script.payload?_eq_some_iff]
      refine exists_congr fun output => and_congr_right fun _ => ?_
      cases Script.payload? output.script with
      | none => simp
      | some data => simp
  · simp [carries, length]

/-- A challenge is found where it has 32 bytes and the bytes are a vector of at least one output,
one of which returns it. -/
theorem carries_iff :
    carries vector challenge = true ↔ challenge.length = 32 ∧
      ∃ outputs, outputs ≠ [] ∧ EncodesVector Writes outputs vector ∧
        Answers challenge (outputs.map TxOutput.script) := by
  simp only [← decode_eq_ok_iff]
  constructor
  · intro found
    obtain ⟨outputs, nonempty, written⟩ :
        ∃ outputs, outputs ≠ [] ∧ EncodesVector Writes outputs vector := by
      rw [← valid_iff]
      by_contra unsound
      simp [carries, unsound] at found
    have read := decode_eq_ok_iff.mpr written
    obtain ⟨length, answers⟩ := (carries_of_decode read).mp found
    exact ⟨length, outputs, nonempty, read, answers⟩
  · rintro ⟨length, outputs, -, read, answers⟩
    exact (carries_of_decode read).mpr ⟨length, answers⟩

/-- The challenges that are found depend on nothing but the scripts that there are. -/
theorem carries_congr {outputs' : List TxOutput} {vector' : Bytes}
    (read : decode vector = .ok outputs) (read' : decode vector' = .ok outputs')
    (same : ∀ script, script ∈ outputs.map TxOutput.script ↔ script ∈ outputs'.map TxOutput.script)
    (challenge : Bytes) : carries vector challenge = carries vector' challenge := by
  rw [Bool.eq_iff_iff, carries_of_decode read, carries_of_decode read']
  simp only [Answers, same]

/-- A challenge is found in a vector exactly if it has 32 bytes and an output returns data that
begins with it, so that only the scripts of the outputs decide. -/
theorem carried_by_scripts :
    (∀ script data, Script.payload? script = some data ↔ Script.Returns data script) ∧
    (∀ vector challenge, carries vector challenge = true ↔ challenge.length = 32 ∧
      ∃ outputs, outputs ≠ [] ∧ EncodesVector Writes outputs vector ∧
        ∃ output ∈ outputs, ∃ data, Script.Returns data output.script ∧
          data.take 32 = challenge) ∧
    ∀ outputs outputs' : List TxOutput,
      outputs.length < 2 ^ 64 → (∀ o ∈ outputs, o.Fits) →
      outputs'.length < 2 ^ 64 → (∀ o ∈ outputs', o.Fits) →
      (∀ script, script ∈ outputs.map TxOutput.script ↔ script ∈ outputs'.map TxOutput.script) →
      ∃ vector vector', encode? outputs = some vector ∧ encode? outputs' = some vector' ∧
        ∀ challenge, carries vector challenge = carries vector' challenge := by
  refine ⟨fun script data => Script.payload?_eq_some_iff, fun vector challenge => ?_, ?_⟩
  · simp only [carries_iff, Answers, List.mem_map, exists_exists_and_eq_and]
  · intro outputs outputs' few fit few' fit' same
    obtain ⟨vector, written, read⟩ := exists_decode_encode? few fit
    obtain ⟨vector', written', read'⟩ := exists_decode_encode? few' fit'
    exact ⟨vector, vector', written, written', carries_congr read read' same⟩

/-- The challenge in the second of two outputs is also found in the first of three. -/
theorem carried_by_scripts_reordered :
    let challenge : Bytes := List.replicate 32 7
    let script : Bytes := 0x6a :: 32 :: challenge
    let outputs : List TxOutput := [⟨5, [0x51]⟩, ⟨0, script⟩]
    let outputs' : List TxOutput := [⟨1, script⟩, ⟨2, [0x51]⟩, ⟨3, [0x51]⟩]
    (∀ o ∈ outputs, o.Fits) ∧ (∀ o ∈ outputs', o.Fits) ∧ Script.Returns challenge script ∧
      ∃ vector vector', encode? outputs = some vector ∧ encode? outputs' = some vector' ∧
        carries vector challenge = true ∧ carries vector' challenge = true := by
  intro challenge script outputs outputs'
  have fits (value : Int) (script : Bytes) (nonneg : 0 ≤ value) (below : value < 2 ^ 64)
      (short : script.length < 2 ^ 64) : (TxOutput.mk value script).Fits :=
    ⟨nonneg, below, short⟩
  have fit : ∀ o ∈ outputs, o.Fits :=
    List.forall_mem_cons.mpr ⟨fits 5 _ (by decide) (by decide) (by decide),
      List.forall_mem_singleton.mpr (fits 0 _ (by decide) (by decide) (by decide))⟩
  have fit' : ∀ o ∈ outputs', o.Fits :=
    List.forall_mem_cons.mpr ⟨fits 1 _ (by decide) (by decide) (by decide),
      List.forall_mem_cons.mpr ⟨fits 2 _ (by decide) (by decide) (by decide),
        List.forall_mem_singleton.mpr (fits 3 _ (by decide) (by decide) (by decide))⟩⟩
  have same : ∀ s, s ∈ outputs.map TxOutput.script ↔ s ∈ outputs'.map TxOutput.script := by
    intro s
    simp only [outputs, outputs', List.map_cons, List.map_nil, List.mem_cons, List.not_mem_nil,
      or_false, or_self]
    exact or_comm
  obtain ⟨payloads, -, rewritten⟩ := carried_by_scripts
  obtain ⟨vector, vector', written, written', agree⟩ :=
    rewritten outputs outputs' (by decide) fit (by decide) fit' same
  have returns : Script.Returns challenge script := (payloads script challenge).mp (by decide)
  have found : carries vector challenge = true := by
    have all : (encode? outputs).all (carries · challenge) = true := by decide +kernel
    rwa [written, Option.all_some] at all
  exact ⟨fit, fit', returns, vector, vector', written, written', found,
    (agree challenge).symm.trans found⟩

end OutputVector

end BitcoinReserve
