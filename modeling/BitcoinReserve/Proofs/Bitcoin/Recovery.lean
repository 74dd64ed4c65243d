import BitcoinReserve.Proofs.Bitcoin.Grammar

/-!
# Vectors there and back

A vector that is written is read as the items that it was written for, exactly when there are fewer
than 2 ^ 64 of them and each has the widths of its parts. Lengths and counts are written in one,
three, five or nine bytes, and the reader takes each of these forms off the front of what follows.
-/
namespace BitcoinReserve

namespace CompactSize

theorem lt_of_encodes {n : Nat} {bytes : Bytes} (encodes : Encodes n bytes) : n < 2 ^ 64 := by
  have bound {width : Nat} {digits : Bytes} (length : digits.length = width) (few : width ≤ 8) :
      Bytes.toNatLE digits < 2 ^ 64 := by
    have below : Bytes.toNatLE digits < Bytes.span digits.length := Bytes.toNatLE_lt digits
    have most : Bytes.span digits.length ≤ Bytes.span 8 :=
      Nat.pow_le_pow_right (by decide) (length.trans_le few)
    exact below.trans_le most
  rcases encodes_iff.mp encodes with
    ⟨small, -⟩ | ⟨digits, rfl, ⟨length, -⟩ | ⟨length, -⟩ | ⟨length, -⟩⟩
  · exact small.trans (by decide)
  · exact bound length (by decide)
  · exact bound length (by decide)
  · exact bound length (by decide)

/-- The writer announces the width that it writes. -/
theorem encodes_encode {n : Nat} (fits : n < 2 ^ 64) : Encodes n (encode n) := by
  have value {width : Nat} (fits : n < Bytes.span width) :
      n = Bytes.toNatLE (Bytes.ofNatLE width n) := (Bytes.toNatLE_ofNatLE_of_lt fits).symm
  rw [encodes_iff, encode]
  split
  · rename_i small
    exact .inl ⟨small, rfl⟩
  · split
    · rename_i two
      have fits : n < Bytes.span 2 := Nat.lt_succ_of_le two
      exact .inr ⟨_, value fits, .inl ⟨Bytes.length_ofNatLE 2 n, rfl⟩⟩
    · split
      · rename_i four
        have fits : n < Bytes.span 4 := Nat.lt_succ_of_le four
        exact .inr ⟨_, value fits, .inr (.inl ⟨Bytes.length_ofNatLE 4 n, rfl⟩)⟩
      · have fits : n < Bytes.span 8 := fits
        exact .inr ⟨_, value fits, .inr (.inr ⟨Bytes.length_ofNatLE 8 n, rfl⟩)⟩

example : encode 0xfc = [0xfc] ∧ encode 0xfd = [0xfd, 0xfd, 0] := by decide

end CompactSize

section Items

variable {α : Type} {Writes : α → Bytes → Prop} {encodeItem? : α → Option Bytes} {Fits : α → Prop}
  {items : List α} {vector : Bytes}

theorem exists_mapM_written
    (each : ∀ a, Fits a → ∃ item, encodeItem? a = some item ∧ Writes a item)
    (fit : ∀ a ∈ items, Fits a) :
    ∃ encoded, items.mapM encodeItem? = some encoded ∧ List.Forall₂ Writes items encoded := by
  induction items with
  | nil => exact ⟨[], rfl, .nil⟩
  | cons a items ih =>
    obtain ⟨first, others⟩ := List.forall_mem_cons.mp fit
    obtain ⟨item, encodes, writes⟩ := each a first
    obtain ⟨encoded, rest, written⟩ := ih others
    refine ⟨item :: encoded, ?_, .cons writes written⟩
    rw [List.mapM_cons, encodes, rest]
    rfl

/-- What is written for items that fit, after their number, is a vector of them. -/
theorem exists_encodesVector
    (each : ∀ a, Fits a → ∃ item, encodeItem? a = some item ∧ Writes a item)
    (few : items.length < 2 ^ 64) (fit : ∀ a ∈ items, Fits a) :
    ∃ encoded, items.mapM encodeItem? = some encoded ∧
      EncodesVector Writes items (CompactSize.encode items.length ++ encoded.flatten) := by
  obtain ⟨encoded, written, writes⟩ := exists_mapM_written each fit
  exact ⟨encoded, written, _, encoded, CompactSize.encodes_encode few, writes, rfl⟩

/-- A vector, however it is written, holds items that fit. -/
theorem EncodesVector.fits (each : ∀ a front, Writes a front → Fits a)
    (encodes : EncodesVector Writes items vector) :
    items.length < 2 ^ 64 ∧ ∀ a ∈ items, Fits a := by
  obtain ⟨size, fronts, counted, written, rfl⟩ := encodes
  refine ⟨CompactSize.lt_of_encodes counted, ?_⟩
  clear counted
  induction written with
  | nil => exact fun a mem => absurd mem List.not_mem_nil
  | cons writes written ih => exact List.forall_mem_cons.mpr ⟨each _ _ writes, ih⟩

end Items

/-- The parts of an output have the widths in which they are written. -/
structure TxOutput.Fits (o : TxOutput) : Prop where
  value_nonneg : 0 ≤ o.value
  value_lt : o.value < 2 ^ 64
  script_length : o.script.length < 2 ^ 64

/-- The parts of an input have the widths in which they are written. -/
structure TxInput.Fits (i : TxInput) : Prop where
  hash_length : i.previousHash.length = 32
  index_nonneg : 0 ≤ i.previousIndex
  index_lt : i.previousIndex < 2 ^ 32
  script_length : i.script.length < 2 ^ 64
  sequence_nonneg : 0 ≤ i.sequence
  sequence_lt : i.sequence < 2 ^ 32

namespace Bytes

theorem span_eq (width : Nat) : span width = 2 ^ (8 * width) := (Nat.pow_mul 2 8 width).symm

theorem cast_toNatLE_lt (width : Nat) {bytes : Bytes} (length : bytes.length = width) :
    (toNatLE bytes : Int) < 2 ^ (8 * width) := by
  have below := toNatLE_lt bytes
  rw [length, span_eq] at below
  exact_mod_cast below

theorem exists_ofIntLE? (width : Nat) {n : Int} (nonneg : 0 ≤ n) (fits : n < 2 ^ (8 * width)) :
    ∃ bytes, ofIntLE? width n = some bytes ∧ bytes.length = width ∧ n = toNatLE bytes := by
  obtain ⟨n, rfl⟩ := Int.eq_ofNat_of_zero_le nonneg
  have below : n < span width := by
    rw [span_eq]
    exact_mod_cast fits
  have written : ofIntLE? width n = some (ofNatLE width n) := if_pos below
  exact ⟨_, written, ofIntLE?_eq_some_iff.mp written⟩

end Bytes

namespace OutputVector

theorem fits_of_writes {o : TxOutput} {front : Bytes} (writes : Writes o front) : o.Fits := by
  cases writes with
  | @item value size script value_length counted =>
    exact {
      value_nonneg := Int.natCast_nonneg _
      value_lt := Bytes.cast_toNatLE_lt 8 value_length
      script_length := CompactSize.lt_of_encodes counted }

theorem exists_item {o : TxOutput} (fits : o.Fits) :
    ∃ item, encodeItem? o = some item ∧ Writes o item := by
  obtain ⟨value, script⟩ := o
  obtain ⟨bytes, written, length, rfl⟩ := Bytes.exists_ofIntLE? 8 fits.value_nonneg fits.value_lt
  refine ⟨bytes ++ CompactSize.encode script.length ++ script, ?_, ?_⟩
  · simp only [encodeItem?, written]
    rfl
  · exact .item length (CompactSize.encodes_encode fits.script_length)

theorem fits_of_decode {outputs : List TxOutput} {vector : Bytes}
    (read : decode vector = .ok outputs) : outputs.length < 2 ^ 64 ∧ ∀ o ∈ outputs, o.Fits :=
  (decode_eq_ok_iff.mp read).fits fun _ _ => fits_of_writes

theorem exists_decode_encode? {outputs : List TxOutput} (few : outputs.length < 2 ^ 64)
    (fit : ∀ o ∈ outputs, o.Fits) :
    ∃ vector, encode? outputs = some vector ∧ decode vector = .ok outputs := by
  obtain ⟨encoded, written, encodes⟩ := exists_encodesVector (fun _ => exists_item) few fit
  refine ⟨_, ?_, decode_eq_ok_iff.mpr encodes⟩
  simp only [encode?, written]
  rfl

end OutputVector

namespace InputVector

theorem fits_of_writes {i : TxInput} {front : Bytes} (writes : Writes i front) : i.Fits := by
  cases writes with
  | @item hash index size script sequence hash_length index_length counted sequence_length =>
    exact {
      hash_length := hash_length
      index_nonneg := Int.natCast_nonneg _
      index_lt := Bytes.cast_toNatLE_lt 4 index_length
      script_length := CompactSize.lt_of_encodes counted
      sequence_nonneg := Int.natCast_nonneg _
      sequence_lt := Bytes.cast_toNatLE_lt 4 sequence_length }

theorem exists_item {i : TxInput} (fits : i.Fits) :
    ∃ item, encodeItem? i = some item ∧ Writes i item := by
  obtain ⟨hash, index, script, sequence⟩ := i
  obtain ⟨low, index_written, index_length, rfl⟩ :=
    Bytes.exists_ofIntLE? 4 fits.index_nonneg fits.index_lt
  obtain ⟨last, sequence_written, sequence_length, rfl⟩ :=
    Bytes.exists_ofIntLE? 4 fits.sequence_nonneg fits.sequence_lt
  refine ⟨hash ++ low ++ CompactSize.encode script.length ++ script ++ last, ?_, ?_⟩
  · simp only [encodeItem?, index_written, sequence_written]
    rfl
  · exact .item fits.hash_length index_length (CompactSize.encodes_encode fits.script_length)
      sequence_length

theorem fits_of_decode {inputs : List TxInput} {vector : Bytes}
    (read : decode vector = .ok inputs) : inputs.length < 2 ^ 64 ∧ ∀ i ∈ inputs, i.Fits :=
  (decode_eq_ok_iff.mp read).fits fun _ _ => fits_of_writes

theorem exists_decode_encode? {inputs : List TxInput} (few : inputs.length < 2 ^ 64)
    (fit : ∀ i ∈ inputs, i.Fits) :
    ∃ vector, encode? inputs = some vector ∧ decode vector = .ok inputs := by
  obtain ⟨encoded, written, encodes⟩ := exists_encodesVector (fun _ => exists_item) few fit
  refine ⟨_, ?_, decode_eq_ok_iff.mpr encodes⟩
  simp only [encode?, written]
  rfl

end InputVector

/-- The vectors of outputs and of inputs are written and read back, the empty ones with them,
exactly when there are fewer than 2 ^ 64 items and every part of them has the width of its place. -/
theorem vectors_recovered_iff (outputs : List TxOutput) (inputs : List TxInput) :
    ((∃ vector, OutputVector.encode? outputs = some vector ∧
        OutputVector.decode vector = .ok outputs) ↔
      outputs.length < 2 ^ 64 ∧ ∀ o ∈ outputs, o.Fits) ∧
    ((∃ vector, InputVector.encode? inputs = some vector ∧
        InputVector.decode vector = .ok inputs) ↔
      inputs.length < 2 ^ 64 ∧ ∀ i ∈ inputs, i.Fits) := by
  constructor
  · constructor
    · rintro ⟨vector, -, read⟩
      exact OutputVector.fits_of_decode read
    · rintro ⟨few, fit⟩
      exact OutputVector.exists_decode_encode? few fit
  · constructor
    · rintro ⟨vector, -, read⟩
      exact InputVector.fits_of_decode read
    · rintro ⟨few, fit⟩
      exact InputVector.exists_decode_encode? few fit

end BitcoinReserve
