import BitcoinReserve.Proofs.Bitcoin.Vectors
import BitcoinReserve.Proofs.Bytes

/-!
# The grammar of transaction vectors

The readers of both vectors accept exactly their grammar, in which a count or a length may be written
wider than it needs, and answer everything else with one kind of notice. What the writers make of the
items is the shortest of the strings that are read as them.
-/
namespace BitcoinReserve

/-- No longer than another string, and the same if it is as long. -/
def NoLonger (short long : Bytes) : Prop :=
  short.length ≤ long.length ∧ (short.length = long.length → short = long)

namespace NoLonger

theorem refl (bytes : Bytes) : NoLonger bytes bytes := ⟨Nat.le_refl _, fun _ => rfl⟩

theorem of_lt {short long : Bytes} (less : short.length < long.length) : NoLonger short long :=
  ⟨Nat.le_of_lt less, fun same => absurd same (Nat.ne_of_lt less)⟩

theorem append {short long short' long' : Bytes} (front : NoLonger short long)
    (back : NoLonger short' long') : NoLonger (short ++ short') (long ++ long') := by
  obtain ⟨front_le, front_eq⟩ := front
  obtain ⟨back_le, back_eq⟩ := back
  simp only [NoLonger, List.length_append]
  refine ⟨Nat.add_le_add front_le back_le, fun same => ?_⟩
  rw [front_eq (by omega), back_eq (by omega)]

end NoLonger

namespace CompactSize

/-- The four forms of a number. -/
theorem encodes_iff {n : Nat} {bytes : Bytes} :
    Encodes n bytes ↔ n < 0xfd ∧ bytes = [UInt8.ofNat n] ∨
      ∃ digits, n = Bytes.toNatLE digits ∧ (digits.length = 2 ∧ bytes = 0xfd :: digits ∨
        digits.length = 4 ∧ bytes = 0xfe :: digits ∨
        digits.length = 8 ∧ bytes = 0xff :: digits) := by
  constructor
  · intro encodes
    cases encodes with
    | @short first small => exact .inl ⟨UInt8.lt_iff_toNat_lt.mp small, by rw [UInt8.ofNat_toNat]⟩
    | @long first digits large length =>
      refine .inr ⟨digits, rfl, ?_⟩
      rw [width, if_neg large] at length
      by_cases two : first = 0xfd
      · rw [if_pos two] at length
        exact .inl ⟨length, by rw [two]⟩
      by_cases four : first = 0xfe
      · rw [if_neg two, if_pos four] at length
        exact .inr (.inl ⟨length, by rw [four]⟩)
      · rw [if_neg two, if_neg four] at length
        have eight : first = 0xff := by
          rw [UInt8.lt_iff_toNat_lt] at large
          rw [← UInt8.toNat_inj] at two four ⊢
          have bound := first.toNat_lt
          simp only [UInt8.reduceToNat] at large two four ⊢
          omega
        exact .inr (.inr ⟨length, by rw [eight]⟩)
  · rintro (⟨small, rfl⟩ | ⟨digits, rfl, ⟨length, rfl⟩ | ⟨length, rfl⟩ | ⟨length, rfl⟩⟩)
    · have value : (UInt8.ofNat n).toNat = n := by
        rw [UInt8.toNat_ofNat']
        omega
      have encodes : Encodes (UInt8.ofNat n).toNat [UInt8.ofNat n] := by
        refine .short (UInt8.lt_iff_toNat_lt.mpr ?_)
        rw [value]
        exact small
      rwa [value] at encodes
    · exact .long (by decide) length
    · exact .long (by decide) length
    · exact .long (by decide) length

/-- The writer takes the shortest form. -/
theorem noLonger_of_encodes {n : Nat} {bytes : Bytes} (encodes : Encodes n bytes) :
    NoLonger (encode n) bytes := by
  have same {width : Nat} {first : UInt8} {digits : Bytes} (length : digits.length = width) :
      NoLonger (first :: Bytes.ofNatLE width (Bytes.toNatLE digits)) (first :: digits) := by
    rw [← length, Bytes.ofNatLE_toNatLE]
    exact .refl _
  have less {first : UInt8} {short digits : Bytes} (length : short.length < digits.length + 1) :
      NoLonger short (first :: digits) := .of_lt length
  have bound {width : Nat} {digits : Bytes} (length : digits.length = width) :
      Bytes.toNatLE digits < Bytes.span width := length ▸ Bytes.toNatLE_lt digits
  rcases encodes_iff.mp encodes with
    ⟨small, rfl⟩ | ⟨digits, rfl, ⟨length, rfl⟩ | ⟨length, rfl⟩ | ⟨length, rfl⟩⟩
  · rw [encode, if_pos small]
    exact .refl _
  · have fits : Bytes.toNatLE digits ≤ 0xffff := Nat.le_of_lt_succ (bound length)
    rw [encode, if_pos fits]
    split
    · exact less (by rw [Bytes.length_ofNatLE]; omega)
    · exact same length
  · have fits : Bytes.toNatLE digits ≤ 0xffffffff := Nat.le_of_lt_succ (bound length)
    rw [encode, if_pos fits]
    split
    · exact less (by rw [Bytes.length_ofNatLE]; omega)
    · split
      · exact less (by rw [List.length_cons, Bytes.length_ofNatLE]; omega)
      · exact same length
  · rw [encode]
    split
    · exact less (by rw [Bytes.length_ofNatLE]; omega)
    · split
      · exact less (by rw [List.length_cons, Bytes.length_ofNatLE]; omega)
      · split
        · exact less (by rw [List.length_cons, Bytes.length_ofNatLE]; omega)
        · exact same length

end CompactSize

section Vectors

variable {α ε : Type} {Writes : α → Bytes → Prop} {encodeItem? : α → Option Bytes}

/-- Where each item has its shortest form, the items one after another have theirs. -/
theorem exists_mapM_noLonger
    (each : ∀ a front, Writes a front → ∃ item, encodeItem? a = some item ∧ NoLonger item front)
    {items : List α} {fronts : List Bytes} (written : List.Forall₂ Writes items fronts) :
    ∃ encoded, items.mapM encodeItem? = some encoded ∧
      NoLonger encoded.flatten fronts.flatten := by
  induction written with
  | nil => exact ⟨[], rfl, .refl []⟩
  | cons writes written ih =>
    obtain ⟨item, first, item_noLonger⟩ := each _ _ writes
    obtain ⟨encoded, others, noLonger⟩ := ih
    refine ⟨item :: encoded, ?_, ?_⟩
    · rw [List.mapM_cons, first, others]
      rfl
    · rw [List.flatten_cons, List.flatten_cons]
      exact item_noLonger.append noLonger

/-- A reader with the notice of its faults and a writer agree with a grammar about a vector. -/
structure Grammar (Writes : α → Bytes → Prop) (decode : Bytes → Except ε (List α))
    (notice : ε → Notice) (kind : Kind) (valid : Bytes → Bool)
    (encode? : List α → Option Bytes) (vector : Bytes) : Prop where
  reads : ∀ items, decode vector = .ok items ↔ EncodesVector Writes items vector
  refuses : (∀ items, ¬ EncodesVector Writes items vector) →
    ∃ fault, decode vector = .error fault ∧ (notice fault).kind = kind
  valid_iff : valid vector = true ↔ ∃ items, items ≠ [] ∧ EncodesVector Writes items vector
  shortest : ∀ items, EncodesVector Writes items vector →
    ∃ short, encode? items = some short ∧ short.length ≤ vector.length ∧
      (short.length = vector.length → short = vector)

theorem exists_fault_of_reads {decode : Bytes → Except ε (List α)} {vector : Bytes}
    (reads : ∀ items, decode vector = .ok items ↔ EncodesVector Writes items vector)
    (refuted : ∀ items, ¬ EncodesVector Writes items vector) :
    ∃ fault, decode vector = .error fault := by
  cases found : decode vector with
  | error fault => exact ⟨fault, rfl⟩
  | ok items => exact absurd ((reads items).mp found) (refuted items)

theorem EncodesVector.exists_noLonger {items : List α} {vector : Bytes}
    (encodes : EncodesVector Writes items vector)
    (each : ∀ a front, Writes a front → ∃ item, encodeItem? a = some item ∧ NoLonger item front) :
    ∃ encoded, items.mapM encodeItem? = some encoded ∧
      NoLonger (CompactSize.encode items.length ++ encoded.flatten) vector := by
  obtain ⟨size, fronts, counted, written, rfl⟩ := encodes
  obtain ⟨encoded, written, noLonger⟩ := exists_mapM_noLonger each written
  exact ⟨encoded, written, (CompactSize.noLonger_of_encodes counted).append noLonger⟩

end Vectors

theorem OutputVector.exists_item_noLonger {output : TxOutput} {front : Bytes}
    (writes : Writes output front) :
    ∃ item, encodeItem? output = some item ∧ NoLonger item front := by
  cases writes with
  | @item value size script value_length counted =>
    have written : Bytes.ofIntLE? 8 (Bytes.toNatLE value) = some value :=
      Bytes.ofIntLE?_eq_some_iff.mpr ⟨value_length, rfl⟩
    refine ⟨value ++ CompactSize.encode script.length ++ script, ?_, ?_⟩
    · simp only [encodeItem?, written]
      rfl
    · exact ((NoLonger.refl value).append (CompactSize.noLonger_of_encodes counted)).append
        (.refl script)

theorem InputVector.exists_item_noLonger {input : TxInput} {front : Bytes}
    (writes : Writes input front) :
    ∃ item, encodeItem? input = some item ∧ NoLonger item front := by
  cases writes with
  | @item hash index size script sequence _ index_length counted sequence_length =>
    have index_written : Bytes.ofIntLE? 4 (Bytes.toNatLE index) = some index :=
      Bytes.ofIntLE?_eq_some_iff.mpr ⟨index_length, rfl⟩
    have sequence_written : Bytes.ofIntLE? 4 (Bytes.toNatLE sequence) = some sequence :=
      Bytes.ofIntLE?_eq_some_iff.mpr ⟨sequence_length, rfl⟩
    refine ⟨hash ++ index ++ CompactSize.encode script.length ++ script ++ sequence, ?_, ?_⟩
    · simp only [encodeItem?, index_written, sequence_written]
      rfl
    · have size_noLonger := CompactSize.noLonger_of_encodes counted
      exact (((NoLonger.refl (hash ++ index)).append size_noLonger).append (.refl script)).append
        (.refl sequence)

/-- Both readers accept exactly their grammar, refuse the rest with their own kind, and what the
writers make of the items is the shortest form. -/
theorem grammar_of_vectors (vector : Bytes) :
    (∀ n bytes, CompactSize.Encodes n bytes ↔ n < 0xfd ∧ bytes = [UInt8.ofNat n] ∨
      ∃ digits, n = Bytes.toNatLE digits ∧ (digits.length = 2 ∧ bytes = 0xfd :: digits ∨
        digits.length = 4 ∧ bytes = 0xfe :: digits ∨
        digits.length = 8 ∧ bytes = 0xff :: digits)) ∧
    Grammar OutputVector.Writes OutputVector.decode OutputVector.Fault.notice .badOutputVector
      OutputVector.valid OutputVector.encode? vector ∧
    Grammar InputVector.Writes InputVector.decode InputVector.Fault.notice .badInputVector
      InputVector.valid InputVector.encode? vector := by
  refine ⟨fun n bytes => CompactSize.encodes_iff, ?_, ?_⟩
  · refine ⟨fun outputs => OutputVector.decode_eq_ok_iff, fun refuted => ?_, OutputVector.valid_iff,
      fun outputs encodes => ?_⟩
    · obtain ⟨fault, refused⟩ :=
        exists_fault_of_reads (fun outputs => OutputVector.decode_eq_ok_iff) refuted
      exact ⟨fault, refused, rfl⟩
    · obtain ⟨encoded, written, noLonger⟩ :=
        encodes.exists_noLonger fun _ _ => OutputVector.exists_item_noLonger
      refine ⟨CompactSize.encode outputs.length ++ encoded.flatten, ?_, noLonger⟩
      simp only [OutputVector.encode?, written]
      rfl
  · refine ⟨fun inputs => InputVector.decode_eq_ok_iff, fun refuted => ?_, InputVector.valid_iff,
      fun inputs encodes => ?_⟩
    · obtain ⟨fault, refused⟩ :=
        exists_fault_of_reads (fun inputs => InputVector.decode_eq_ok_iff) refuted
      exact ⟨fault, refused, rfl⟩
    · obtain ⟨encoded, written, noLonger⟩ :=
        encodes.exists_noLonger fun _ _ => InputVector.exists_item_noLonger
      refine ⟨CompactSize.encode inputs.length ++ encoded.flatten, ?_, noLonger⟩
      simp only [InputVector.encode?, written]
      rfl

end BitcoinReserve
