import BitcoinReserve.Proofs.Bitcoin.Recovery

/-!
# Compact sizes at any offset

A number is read at an offset as it is at the front of what stands there: the first byte says how
many digits follow, and nothing else of the string matters. Below zero an offset counts from the
end, where the digits may run out and the string begins again.
-/
namespace BitcoinReserve

theorem Bytes.length_between (bs : Bytes) (start stop : Int) :
    (between bs start stop).length = min (place bs stop) bs.length - place bs start := by
  rw [between, List.length_drop, List.length_take]

theorem Bytes.between_of_nat (bs : Bytes) (start width : Nat) :
    between bs start (start + width) = (bs.drop start).take width := by
  have whole : ((start : Int) + width).toNat = start + width := by omega
  rw [between, place, place, if_neg (by omega), if_neg (by omega), whole, Int.toNat_natCast,
    List.drop_take, Nat.add_sub_cancel_left]

namespace CompactSize

/-- The byte at a signed offset, which counts from the end when it is below zero. -/
def byteAt? (data : Bytes) : Int → Option UInt8
  | .ofNat offset => data[offset]?
  | .negSucc back => data.reverse[back]?

/-- The number that a first byte and the digits after it stand for. -/
def value (first : UInt8) (digits : Bytes) : Nat :=
  if first < 0xfd then first.toNat else Bytes.toNatLE digits

/-- The digits that a first byte at an offset calls for. -/
def digitsAt (data : Bytes) (offset : Int) (first : UInt8) : Bytes :=
  Bytes.between data (offset + 1) (offset + 1 + width first)

variable {data data' digits : Bytes} {offset offset' : Int} {first : UInt8} {n size : Nat}

theorem width_cases (first : UInt8) :
    width first = 0 ∨ width first = 2 ∨ width first = 4 ∨ width first = 8 := by
  unfold width
  split
  · exact .inl rfl
  · split
    · exact .inr (.inl rfl)
    · split
      · exact .inr (.inr (.inl rfl))
      · exact .inr (.inr (.inr rfl))

theorem width_of_small (small : first < 0xfd) : width first = 0 := if_pos small

theorem byteAt?_eq_none_iff :
    byteAt? data offset = none ↔ data.length ≤ offset ∨ offset < -data.length := by
  cases offset with
  | ofNat offset =>
    rw [byteAt?, List.getElem?_eq_none_iff, Int.ofNat_eq_natCast]
    omega
  | negSucc back =>
    rw [byteAt?, List.getElem?_eq_none_iff, List.length_reverse]
    omega

theorem bounds_of_byteAt? (found : byteAt? data offset = some first) :
    offset < data.length ∧ -data.length ≤ offset := by
  have inside : ¬ byteAt? data offset = none := by simp [found]
  rw [byteAt?_eq_none_iff] at inside
  omega

theorem readFrom_of_missing (missing : byteAt? data offset = none) :
    readFrom data offset = .error (if offset < 0 then .beforeStart else .size .pastEnd) := by
  cases offset with
  | ofNat offset =>
    have nothing : data.drop offset = [] :=
      List.drop_eq_nil_of_le (List.getElem?_eq_none_iff.mp missing)
    rw [readFrom, readAt, nothing, read]
    rfl
  | negSucc back =>
    rw [byteAt?] at missing
    rw [if_pos (Int.negSucc_lt_zero back)]
    simp only [readFrom, missing]

theorem readAt_of_found {offset : Nat} (found : data[offset]? = some first) :
    readAt data offset =
      if data.length < offset + 1 + width first then .error (.truncated (width first))
      else .ok (value first ((data.drop (offset + 1)).take (width first)), 1 + width first) := by
  obtain ⟨below, rfl⟩ := List.getElem?_eq_some_iff.mp found
  rw [readAt, List.drop_eq_getElem_cons below, read, value]
  by_cases small : data[offset] < 0xfd
  · rw [if_pos small, if_pos small, width_of_small small, if_neg (by omega)]
    simp only [List.length_cons, List.length_drop, Except.ok.injEq, Prod.mk.injEq, true_and]
    omega
  · rw [if_neg small, if_neg small, Bytes.holds_eq, List.length_drop]
    by_cases enough : width data[offset] ≤ data.length - (offset + 1)
    · rw [if_pos (decide_eq_true enough), if_neg (by omega)]
      simp only [List.length_cons, List.length_drop, Except.ok.injEq, Prod.mk.injEq, true_and]
      omega
    · rw [if_neg (by simpa using enough), if_pos (by omega)]

/-- What is read depends on the first byte, the digits that it calls for and whether there is room
for them. -/
theorem readFrom_of_found (found : byteAt? data offset = some first) :
    readFrom data offset =
      if data.length < offset + 1 + width first then .error (.size (.truncated (width first)))
      else .ok (value first (digitsAt data offset first), 1 + width first) := by
  have bounds := bounds_of_byteAt? found
  cases offset with
  | ofNat offset =>
    have digits : digitsAt data (offset : Int) first =
        (data.drop (offset + 1)).take (width first) :=
      Bytes.between_of_nat data (offset + 1) (width first)
    have room : (data.length : Int) < (offset : Int) + 1 + width first ↔
        data.length < offset + 1 + width first := by omega
    rw [readFrom, readAt_of_found found, Int.ofNat_eq_natCast, digits]
    simp only [room]
    split
    · rfl
    · rfl
  | negSucc back =>
    have start : -(back : Int) = Int.negSucc back + 1 := by omega
    rw [byteAt?] at found
    simp only [readFrom, found, start, value, digitsAt]
    by_cases small : first < 0xfd
    · have room : ¬ (data.length : Int) < Int.negSucc back + 1 + (width first : Nat) := by
        rw [width_of_small small]
        omega
      rw [if_pos small, if_pos small, if_neg room, width_of_small small]
    · rw [if_neg small, if_neg small]

/-- The digits are all there, unless the string ends and begins again among them. Then there are
fewer than half of them. -/
theorem length_digitsAt (found : byteAt? data offset = some first)
    (room : offset + 1 + width first ≤ data.length) :
    (digitsAt data offset first).length = width first ∨
      offset < 0 ∧ 2 * (digitsAt data offset first).length < width first := by
  have bounds := bounds_of_byteAt? found
  rw [digitsAt, Bytes.length_between, Bytes.place, Bytes.place]
  split
  · split
    · omega
    · omega
  · split
    · omega
    · omega

theorem encodes_value (length : digits.length = width first) :
    Encodes (value first digits) (first :: digits) := by
  unfold value
  split
  · rename_i small
    rw [width_of_small small] at length
    rw [List.eq_nil_of_length_eq_zero length]
    exact .short small
  · rename_i large
    exact .long large length

/-- A number below 2 ^ 64 in one, three, five or nine bytes. They are the shortest form of the
number, or that form is shorter. -/
structure Sized (n size : Nat) (code : Bytes) : Prop where
  size_cases : size = 1 ∨ size = 3 ∨ size = 5 ∨ size = 9
  lt : n < 2 ^ 64
  length_le : (encode n).length ≤ size
  code_eq : (encode n).length = size → code = encode n

theorem size_cases_of_width (first : UInt8) :
    1 + width first = 1 ∨ 1 + width first = 3 ∨ 1 + width first = 5 ∨ 1 + width first = 9 := by
  have widths := width_cases first
  omega

theorem sized_of_length (length : digits.length = width first) :
    Sized (value first digits) (1 + width first) (first :: digits) := by
  have encodes := encodes_value length
  obtain ⟨shorter, same⟩ := noLonger_of_encodes encodes
  have count : (first :: digits).length = 1 + width first := by
    rw [List.length_cons, length, Nat.add_comm]
  rw [count] at shorter same
  exact ⟨size_cases_of_width first, lt_of_encodes encodes, shorter, fun full => (same full).symm⟩

theorem length_encode_le (n : Nat) :
    (encode n).length ≤ if n < 0x10000 then 3 else if n < 0x100000000 then 5 else 9 := by
  rw [encode]
  split_ifs
  all_goals
    simp only [List.length_cons, Bytes.length_ofNatLE]
    omega

/-- With more than half of its digits missing a number has a shorter form. -/
theorem length_encode_lt (few : 2 * digits.length < width first) :
    (encode (Bytes.toNatLE digits)).length < 1 + width first := by
  have below : Bytes.toNatLE digits < Bytes.span digits.length := Bytes.toNatLE_lt digits
  have most {k : Nat} (short : digits.length ≤ k) : Bytes.toNatLE digits < Bytes.span k :=
    below.trans_le (Nat.pow_le_pow_right (by decide) short)
  have longest := length_encode_le (Bytes.toNatLE digits)
  rcases width_cases first with zero | two | four | eight
  · omega
  · have fits : Bytes.toNatLE digits < 1 := most (k := 0) (by omega)
    rw [encode, if_pos (by omega), Bytes.length_ofNatLE]
    omega
  · have fits : Bytes.toNatLE digits < 256 := most (k := 1) (by omega)
    rw [if_pos (by omega)] at longest
    omega
  · have fits : Bytes.toNatLE digits < 16777216 := most (k := 3) (by omega)
    split_ifs at longest
    all_goals omega

theorem sized_of_few (few : 2 * digits.length < width first) :
    Sized (value first digits) (1 + width first) (first :: digits) := by
  have large : ¬ first < 0xfd := by
    intro small
    rw [width_of_small small] at few
    omega
  have below : Bytes.toNatLE digits < Bytes.span digits.length := Bytes.toNatLE_lt digits
  have most : Bytes.span digits.length ≤ Bytes.span 8 := by
    have widths := width_cases first
    exact Nat.pow_le_pow_right (by decide) (by omega)
  have shorter := length_encode_lt few
  rw [value, if_neg large]
  exact ⟨size_cases_of_width first, below.trans_le most, shorter.le, fun same => by omega⟩

/-- A number is read where its first byte stands and there is room for the digits. -/
theorem readFrom_eq_ok_iff :
    readFrom data offset = .ok (n, size) ↔ ∃ first, byteAt? data offset = some first ∧
      size = 1 + width first ∧ offset + size ≤ data.length ∧
      n = value first (digitsAt data offset first) := by
  cases found : byteAt? data offset with
  | none => simp [readFrom_of_missing found]
  | some first =>
    rw [readFrom_of_found found]
    split
    · rename_i lacking
      simp only [reduceCtorEq, Option.some.injEq, exists_eq_left', false_iff, not_and]
      omega
    · rename_i room
      simp only [Except.ok.injEq, Prod.mk.injEq, Option.some.injEq, exists_eq_left']
      constructor
      · rintro ⟨rfl, rfl⟩
        exact ⟨rfl, by omega, rfl⟩
      · rintro ⟨rfl, -, rfl⟩
        exact ⟨rfl, rfl⟩

theorem readFrom_eq_error_iff {fault : OffsetFault} :
    readFrom data offset = .error fault ↔
      (byteAt? data offset = none ∧ fault = if offset < 0 then .beforeStart else .size .pastEnd) ∨
        ∃ first, byteAt? data offset = some first ∧ data.length < offset + 1 + width first ∧
          fault = .size (.truncated (width first)) := by
  cases found : byteAt? data offset with
  | none => simp [readFrom_of_missing found, eq_comm]
  | some first =>
    rw [readFrom_of_found found]
    split
    · rename_i lacking
      simp [lacking, eq_comm]
    · rename_i room
      simp [room]

theorem sized_of_readFrom (found : byteAt? data offset = some first)
    (room : offset + 1 + width first ≤ data.length) :
    Sized (value first (digitsAt data offset first)) (1 + width first)
      (first :: digitsAt data offset first) := by
  rcases length_digitsAt found room with length | ⟨-, few⟩
  · exact sized_of_length length
  · exact sized_of_few few

theorem code_eq_take {offset : Nat} (found : data[offset]? = some first) :
    first :: digitsAt data offset first = (data.drop offset).take (1 + width first) := by
  obtain ⟨below, rfl⟩ := List.getElem?_eq_some_iff.mp found
  rw [List.drop_eq_getElem_cons below, Nat.add_comm, List.take_succ_cons]
  exact congrArg (data[offset] :: ·) (Bytes.between_of_nat data (offset + 1) _)

/-- A code is read wherever it stands. -/
theorem readFrom_of_encodes {code : Bytes} (encodes : Encodes n code) {offset : Nat}
    (stands : (data.drop offset).take code.length = code) :
    readFrom data offset = .ok (n, code.length) := by
  have split : data.drop offset = code ++ (data.drop offset).drop code.length := by
    conv_lhs => rw [← List.take_append_drop code.length (data.drop offset), stands]
  change (readAt data offset).mapError OffsetFault.size = _
  rw [readAt, split, read_append encodes]
  simp [Except.mapError]

theorem readFrom_append (fits : n < 2 ^ 64) (front back : Bytes) :
    readFrom (front ++ encode n ++ back) front.length = .ok (n, (encode n).length) := by
  refine readFrom_of_encodes (encodes_encode fits) ?_
  rw [List.append_assoc, List.drop_left, List.take_left]

/-- At an offset from zero on, a number that is read is that of the code which stands there. -/
theorem code_of_readFrom {offset : Nat} (read : readFrom data offset = .ok (n, size)) :
    Sized n size ((data.drop offset).take size) ∧ offset + size ≤ data.length ∧
      Encodes n ((data.drop offset).take size) := by
  obtain ⟨first, found, rfl, room, rfl⟩ := readFrom_eq_ok_iff.mp read
  have here : data[offset]? = some first := found
  have whole : (digitsAt data offset first).length = width first := by
    rcases length_digitsAt found (by omega) with whole | ⟨below, -⟩
    · exact whole
    · omega
  rw [← code_eq_take here]
  exact ⟨sized_of_length whole, by omega, encodes_value whole⟩

theorem length_take_of_room {offset : Nat} (room : offset + size ≤ data.length) :
    ((data.drop offset).take size).length = size := by
  rw [List.length_take, List.length_drop]
  omega

/-- Nothing is read exactly where there are fewer bytes than the first one calls for. -/
theorem exists_fault_iff {offset : Nat} :
    (∃ fault, readFrom data offset = .error fault) ↔
      ∀ first, data[offset]? = some first → data.length < offset + 1 + width first := by
  cases found : byteAt? data offset with
  | none =>
    have nothing : data[offset]? = none := found
    simp [readFrom_of_missing found, nothing]
  | some first =>
    have here : data[offset]? = some first := found
    rw [readFrom_of_found found]
    split
    · rename_i lacking
      simp only [Except.error.injEq, exists_eq', here, Option.some.injEq, forall_eq', true_iff]
      omega
    · rename_i room
      simp only [reduceCtorEq, exists_false, here, Option.some.injEq, forall_eq', false_iff]
      omega

theorem kind_of_fault {offset : Nat} {fault : OffsetFault}
    (failed : readFrom data offset = .error fault) :
    ∃ f : Fault, fault = .size f ∧ f.notice.kind = .badVarInt := by
  rcases readFrom_eq_error_iff.mp failed with ⟨-, rfl⟩ | ⟨first, -, -, rfl⟩
  · exact ⟨.pastEnd, if_neg (by omega), rfl⟩
  · exact ⟨.truncated (width first), rfl, rfl⟩

theorem readFrom_eq_error_iff_of_neg (below : offset < 0) {fault : OffsetFault} :
    readFrom data offset = .error fault ↔
      (offset < -data.length ∧ fault = .beforeStart) ∨
        ∃ first, byteAt? data offset = some first ∧ data.length < offset + 1 + width first ∧
          fault = .size (.truncated (width first)) := by
  have outside : byteAt? data offset = none ↔ offset < -data.length := by
    rw [byteAt?_eq_none_iff]
    omega
  rw [readFrom_eq_error_iff, if_pos below, outside]

/-- A number that is written is read back at any offset. The only fault is that there are fewer
bytes than the first one calls for or, below zero, that there is no first byte. -/
theorem read_at_offset :
    (∀ n : Nat, n < 2 ^ 64 → encodeInt n = .ok (encode n) ∧ ∀ front back : Bytes,
      readFrom (front ++ encode n ++ back) front.length = .ok (n, (encode n).length)) ∧
    (∀ (data : Bytes) (offset n size : Nat), readFrom data offset = .ok (n, size) →
      Sized n size ((data.drop offset).take size) ∧ offset + size ≤ data.length ∧
        ∀ (data' : Bytes) (offset' : Nat),
          (data'.drop offset').take size = (data.drop offset).take size →
          readFrom data' offset' = .ok (n, size)) ∧
    (∀ (data : Bytes) (offset : Nat),
      ((∃ fault, readFrom data offset = .error fault) ↔
        ∀ first, data[offset]? = some first → data.length < offset + 1 + width first) ∧
      ∀ fault, readFrom data offset = .error fault →
        ∃ f : Fault, fault = .size f ∧ f.notice.kind = .badVarInt) ∧
    ∀ (data : Bytes) (offset : Int), offset < 0 →
      (∀ n size, readFrom data offset = .ok (n, size) → ∃ first, byteAt? data offset = some first ∧
        Sized n size (first :: digitsAt data offset first) ∧ offset + size ≤ data.length ∧
        ∀ (data' : Bytes) (offset' : Int), byteAt? data' offset' = some first →
          digitsAt data' offset' first = digitsAt data offset first →
          offset' + size ≤ data'.length → readFrom data' offset' = .ok (n, size)) ∧
      ∀ fault, readFrom data offset = .error fault ↔
        (offset < -data.length ∧ fault = .beforeStart) ∨
          ∃ first, byteAt? data offset = some first ∧ data.length < offset + 1 + width first ∧
            fault = .size (.truncated (width first)) := by
  refine ⟨fun n fits => ⟨if_pos fits, readFrom_append fits⟩, ?_, ?_, ?_⟩
  · intro data offset n size read
    obtain ⟨sized, room, encodes⟩ := code_of_readFrom read
    have length := length_take_of_room room
    refine ⟨sized, room, fun data' offset' same => ?_⟩
    rw [← same] at encodes length
    have stands : (data'.drop offset').take ((data'.drop offset').take size).length =
        (data'.drop offset').take size := by rw [length]
    have again := readFrom_of_encodes encodes stands
    rwa [length] at again
  · intro data offset
    exact ⟨exists_fault_iff, fun fault => kind_of_fault⟩
  · intro data offset below
    refine ⟨fun n size read => ?_, fun fault => readFrom_eq_error_iff_of_neg below⟩
    obtain ⟨first, found, rfl, room, rfl⟩ := readFrom_eq_ok_iff.mp read
    have sized := sized_of_readFrom found (by omega)
    refine ⟨first, found, sized, room, fun data' offset' found' same room' => ?_⟩
    exact readFrom_eq_ok_iff.mpr ⟨first, found', rfl, room', by rw [same]⟩

/-- Below zero nothing may be found, and digits that are not there may be taken from the front. -/
theorem read_before_start :
    (readFrom [] (-1) = .error .beforeStart ∧ ∀ f, readFrom [] (-1) ≠ .error (.size f)) ∧
      readFrom [0x34, 0x12, 0xfd] (-1) = .ok (0x1234, 3) := by
  refine ⟨⟨rfl, fun f => ?_⟩, rfl⟩
  have failed : readFrom [] (-1) = .error .beforeStart := rfl
  rw [failed]
  simp

end CompactSize

end BitcoinReserve
