import BitcoinReserve.Bitcoin.Transaction
import Mathlib.Data.List.Forall2

/-!
# The bytes of transaction vectors

How compact sizes, inputs, outputs and whole vectors are written. The readers accept exactly what is
written so and give back what it stands for.
-/
namespace BitcoinReserve

/-- A number in one byte, or in the bytes that a larger first byte announces. -/
inductive CompactSize.Encodes : Nat → Bytes → Prop
  | short {first : UInt8} (small : first < 0xfd) : Encodes first.toNat [first]
  | long {first : UInt8} {bytes : Bytes} (large : ¬ first < 0xfd)
      (length : bytes.length = width first) : Encodes (Bytes.toNatLE bytes) (first :: bytes)

theorem CompactSize.read_eq_ok_iff {n : Nat} {bs rest : Bytes} :
    read bs = .ok (n, rest) ↔ ∃ front, Encodes n front ∧ bs = front ++ rest := by
  constructor
  · intro h
    cases bs with
    | nil => cases h
    | cons first bs =>
      by_cases small : first < 0xfd
      · rw [read, if_pos small] at h
        cases h
        exact ⟨[first], .short small, rfl⟩
      · rw [read, if_neg small, Bytes.holds_eq] at h
        by_cases enough : width first ≤ bs.length
        · rw [if_pos (decide_eq_true enough)] at h
          cases h
          refine ⟨first :: bs.take (width first), .long small (List.length_take_of_le enough), ?_⟩
          rw [List.cons_append, List.take_append_drop]
        · rw [if_neg (by simpa using enough)] at h
          cases h
  · rintro ⟨front, encodes, rfl⟩
    cases encodes with
    | short small => rw [List.singleton_append, read, if_pos small]
    | @long first bytes large length =>
      have enough : width first ≤ (bytes ++ rest).length := by
        rw [List.length_append]
        omega
      rw [List.cons_append, read, if_neg large, Bytes.holds_eq, if_pos (decide_eq_true enough),
        List.take_left' length, List.drop_left' length]

theorem CompactSize.read_append {n : Nat} {front : Bytes} (encodes : Encodes n front)
    (rest : Bytes) : read (front ++ rest) = .ok (n, rest) :=
  read_eq_ok_iff.mpr ⟨front, encodes, rfl⟩

/-- Items one after another are read, where one item is read from what is written for it. -/
theorem readMany_eq_ok_iff {α ε : Type} {item : Bytes → Except ε (α × Bytes)}
    {Writes : α → Bytes → Prop}
    (each : ∀ {bs a rest}, item bs = .ok (a, rest) ↔ ∃ front, Writes a front ∧ bs = front ++ rest)
    {count : Nat} {bs rest : Bytes} {as : List α} :
    readMany item count bs = .ok (as, rest) ↔
      as.length = count ∧ ∃ fronts, List.Forall₂ Writes as fronts ∧ bs = fronts.flatten ++ rest := by
  induction count generalizing bs as with
  | zero =>
    constructor
    · intro h
      cases h
      exact ⟨rfl, [], .nil, rfl⟩
    · rintro ⟨length, fronts, written, rfl⟩
      obtain rfl := List.length_eq_zero_iff.mp length
      cases written
      rfl
  | succ count ih =>
    constructor
    · intro h
      unfold readMany at h
      split at h
      · cases h
      · rename_i a bs' first
        split at h
        · cases h
        · rename_i as' rest' others
          cases h
          obtain ⟨front, writes, rfl⟩ := each.mp first
          obtain ⟨length, fronts, written, rfl⟩ := ih.mp others
          refine ⟨congrArg (· + 1) length, front :: fronts, .cons writes written, ?_⟩
          rw [List.flatten_cons, List.append_assoc]
    · rintro ⟨length, fronts, written, rfl⟩
      cases written with
      | nil => cases length
      | @cons a front as fronts writes written =>
        have first : item (front ++ (fronts.flatten ++ rest)) = .ok (a, fronts.flatten ++ rest) :=
          each.mpr ⟨front, writes, rfl⟩
        have others : readMany item count (fronts.flatten ++ rest) = .ok (as, rest) :=
          ih.mpr ⟨Nat.succ.inj length, fronts, written, rfl⟩
        rw [List.flatten_cons, List.append_assoc, readMany, first]
        simp only [others]

/-- A vector is the number of its items and then the items. -/
def EncodesVector {α : Type} (Writes : α → Bytes → Prop) (items : List α) (vector : Bytes) : Prop :=
  ∃ size fronts, CompactSize.Encodes items.length size ∧ List.Forall₂ Writes items fronts ∧
    vector = size ++ fronts.flatten

/-- A count and that many items that leave nothing over are a vector. -/
theorem encodesVector_iff {α ε : Type} {item : Bytes → Except ε (α × Bytes)}
    {Writes : α → Bytes → Prop}
    (each : ∀ {bs a rest}, item bs = .ok (a, rest) ↔ ∃ front, Writes a front ∧ bs = front ++ rest)
    {items : List α} {vector : Bytes} :
    EncodesVector Writes items vector ↔ ∃ count rest, CompactSize.read vector = .ok (count, rest) ∧
      readMany item count rest = .ok (items, []) := by
  constructor
  · rintro ⟨size, fronts, counted, written, rfl⟩
    refine ⟨items.length, fronts.flatten, ?_, ?_⟩
    · exact CompactSize.read_append counted fronts.flatten
    · exact (readMany_eq_ok_iff each).mpr ⟨rfl, fronts, written, (List.append_nil _).symm⟩
  · rintro ⟨count, rest, counted, read⟩
    obtain ⟨size, encodes, rfl⟩ := CompactSize.read_eq_ok_iff.mp counted
    obtain ⟨rfl, fronts, written, rfl⟩ := (readMany_eq_ok_iff each).mp read
    exact ⟨size, fronts, encodes, written, by rw [List.append_nil]⟩

namespace InputVector

/-- An input is an outpoint, a script after its length and a sequence number. -/
inductive Writes : TxInput → Bytes → Prop
  | item {hash index size script sequence : Bytes} (hash_length : hash.length = 32)
      (index_length : index.length = 4) (counted : CompactSize.Encodes script.length size)
      (sequence_length : sequence.length = 4) :
      Writes ⟨hash, Bytes.toNatLE index, script, Bytes.toNatLE sequence⟩
        (hash ++ index ++ size ++ script ++ sequence)

theorem writes_of_readItem {bs : Bytes} {input : TxInput} {rest : Bytes}
    (h : readItem bs = .ok (input, rest)) : ∃ front, Writes input front ∧ bs = front ++ rest := by
  simp only [readItem, Bytes.holds_eq] at h
  split at h
  · cases h
  rename_i outpoint
  split at h
  · cases h
  rename_i n tail counted
  split at h
  · cases h
  rename_i filled
  cases h
  simp only [Bool.not_eq_true, Bool.not_eq_false', decide_eq_true_eq] at outpoint filled
  obtain ⟨size, encodes, split⟩ := CompactSize.read_eq_ok_iff.mp counted
  have script : (tail.take n).length = n := List.length_take_of_le (by omega)
  refine ⟨bs.take 32 ++ (bs.drop 32).take 4 ++ size ++ tail.take n ++ (tail.drop n).take 4,
    .item ?_ ?_ ?_ ?_, ?_⟩
  · rw [List.length_take]
    omega
  · rw [List.length_take, List.length_drop]
    omega
  · rw [script]
    exact encodes
  · rw [List.length_take, List.length_drop]
    omega
  · have later : size ++ tail = (bs.drop 32).drop 4 := by
      rw [← split, List.drop_drop]
    have outer : bs = bs.take 32 ++ ((bs.drop 32).take 4 ++ (size ++ tail)) := by
      rw [later, List.take_append_drop, List.take_append_drop]
    have inner : tail = tail.take n ++ ((tail.drop n).take 4 ++ tail.drop (n + 4)) := by
      rw [← List.drop_drop, List.take_append_drop, List.take_append_drop]
    calc bs = bs.take 32 ++ ((bs.drop 32).take 4 ++ (size ++ tail)) := outer
      _ = _ := by
        conv_lhs => rw [inner]
        simp only [List.append_assoc]

theorem readItem_append {input : TxInput} {front : Bytes} (writes : Writes input front)
    (rest : Bytes) : readItem (front ++ rest) = .ok (input, rest) := by
  cases writes with
  | @item hash index size script sequence hash_length index_length counted sequence_length =>
    have bytes : hash ++ index ++ size ++ script ++ sequence ++ rest =
        hash ++ (index ++ (size ++ (script ++ (sequence ++ rest)))) := by
      simp only [List.append_assoc]
    have outpoint : 36 ≤ (hash ++ (index ++ (size ++ (script ++ (sequence ++ rest))))).length := by
      simp only [List.length_append]
      omega
    have filled : script.length + 4 ≤ (script ++ (sequence ++ rest)).length := by
      simp only [List.length_append]
      omega
    have after : (hash ++ (index ++ (size ++ (script ++ (sequence ++ rest))))).drop 36 =
        size ++ (script ++ (sequence ++ rest)) := by
      rw [← List.append_assoc, List.drop_left']
      rw [List.length_append]
      omega
    have read := CompactSize.read_append counted (script ++ (sequence ++ rest))
    have passed : (script ++ (sequence ++ rest)).drop (script.length + 4) = rest := by
      rw [← List.drop_drop, List.drop_left, List.drop_left' sequence_length]
    rw [bytes, readItem, Bytes.holds_eq, decide_eq_true outpoint, after, read]
    simp only [Bool.not_true, Bool.false_eq_true, if_false, Bytes.holds_eq, decide_eq_true filled,
      passed, List.take_left' hash_length, List.drop_left' hash_length,
      List.take_left' index_length, List.take_left, List.drop_left,
      List.take_left' sequence_length]

theorem readItem_eq_ok_iff {bs : Bytes} {input : TxInput} {rest : Bytes} :
    readItem bs = .ok (input, rest) ↔ ∃ front, Writes input front ∧ bs = front ++ rest := by
  constructor
  · exact writes_of_readItem
  · rintro ⟨front, writes, rfl⟩
    exact readItem_append writes rest

theorem decode_eq_ok_iff {vector : Bytes} {inputs : List TxInput} :
    decode vector = .ok inputs ↔ EncodesVector Writes inputs vector := by
  rw [encodesVector_iff readItem_eq_ok_iff]
  unfold decode
  cases CompactSize.read vector with
  | error f => simp
  | ok p =>
    obtain ⟨count, rest⟩ := p
    cases read : readMany readItem count rest with
    | error f => simp [read]
    | ok q =>
      obtain ⟨found, left⟩ := q
      cases left with
      | nil => simp [read]
      | cons b left => simp [read]

theorem valid_iff {vector : Bytes} :
    valid vector = true ↔ ∃ inputs, inputs ≠ [] ∧ EncodesVector Writes inputs vector := by
  unfold valid
  cases found : decode vector with
  | error f => simp [← decode_eq_ok_iff, found]
  | ok inputs =>
    cases inputs with
    | nil => simp [← decode_eq_ok_iff, found]
    | cons input inputs => simp [← decode_eq_ok_iff, found]

end InputVector

namespace OutputVector

/-- An output is a value and a script after its length. -/
inductive Writes : TxOutput → Bytes → Prop
  | item {value size script : Bytes} (value_length : value.length = 8)
      (counted : CompactSize.Encodes script.length size) :
      Writes ⟨Bytes.toNatLE value, script⟩ (value ++ size ++ script)

theorem writes_of_readItem {bs : Bytes} {output : TxOutput} {rest : Bytes}
    (h : readItem bs = .ok (output, rest)) : ∃ front, Writes output front ∧ bs = front ++ rest := by
  simp only [readItem, Bytes.holds_eq] at h
  split at h
  · cases h
  rename_i value
  split at h
  · cases h
  rename_i n tail counted
  split at h
  · cases h
  rename_i filled
  cases h
  simp only [Bool.not_eq_true, Bool.not_eq_false', decide_eq_true_eq] at value filled
  obtain ⟨size, encodes, split⟩ := CompactSize.read_eq_ok_iff.mp counted
  have script : (tail.take n).length = n := List.length_take_of_le filled
  refine ⟨bs.take 8 ++ size ++ tail.take n, .item (List.length_take_of_le value) ?_, ?_⟩
  · rw [script]
    exact encodes
  · rw [List.append_assoc, List.append_assoc, List.take_append_drop, ← split,
      List.take_append_drop]

theorem readItem_append {output : TxOutput} {front : Bytes} (writes : Writes output front)
    (rest : Bytes) : readItem (front ++ rest) = .ok (output, rest) := by
  cases writes with
  | @item value size script value_length counted =>
    have bytes : value ++ size ++ script ++ rest = value ++ (size ++ (script ++ rest)) := by
      simp only [List.append_assoc]
    have valued : 8 ≤ (value ++ (size ++ (script ++ rest))).length := by
      rw [List.length_append]
      omega
    have filled : script.length ≤ (script ++ rest).length := by
      rw [List.length_append]
      omega
    have read := CompactSize.read_append counted (script ++ rest)
    rw [bytes, readItem, Bytes.holds_eq, decide_eq_true valued, List.drop_left' value_length, read]
    simp only [Bool.not_true, Bool.false_eq_true, if_false, Bytes.holds_eq, decide_eq_true filled,
      List.take_left' value_length, List.take_left, List.drop_left]

theorem readItem_eq_ok_iff {bs : Bytes} {output : TxOutput} {rest : Bytes} :
    readItem bs = .ok (output, rest) ↔ ∃ front, Writes output front ∧ bs = front ++ rest := by
  constructor
  · exact writes_of_readItem
  · rintro ⟨front, writes, rfl⟩
    exact readItem_append writes rest

theorem decode_eq_ok_iff {vector : Bytes} {outputs : List TxOutput} :
    decode vector = .ok outputs ↔ EncodesVector Writes outputs vector := by
  rw [encodesVector_iff readItem_eq_ok_iff]
  unfold decode
  cases CompactSize.read vector with
  | error f => simp
  | ok p =>
    obtain ⟨count, rest⟩ := p
    cases read : readMany readItem count rest with
    | error f => simp [read]
    | ok q =>
      obtain ⟨found, left⟩ := q
      cases left with
      | nil => simp [read]
      | cons b left => simp [read]

theorem valid_iff {vector : Bytes} :
    valid vector = true ↔ ∃ outputs, outputs ≠ [] ∧ EncodesVector Writes outputs vector := by
  unfold valid
  cases found : decode vector with
  | error f => simp [← decode_eq_ok_iff, found]
  | ok outputs =>
    cases outputs with
    | nil => simp [← decode_eq_ok_iff, found]
    | cons output outputs => simp [← decode_eq_ok_iff, found]

end OutputVector

end BitcoinReserve
