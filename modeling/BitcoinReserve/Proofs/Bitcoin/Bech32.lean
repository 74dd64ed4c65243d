import BitcoinReserve.Bitcoin.Bech32
import BitcoinReserve.Proofs.Bitcoin.Base58

/-!
# Reading and writing Bech32

A text that is read as a version and a program is, in lower case, the text that is written for them:
six symbols alone make a checksum hold, and padding with zeros leaves no choice either. The checksum
register is linear in exclusive or, and six symbols that are shifted into an empty register stand in
it one beside another. So the checksum that is written holds, and what is written is read back.
-/
namespace BitcoinReserve.Bech32

theorem charSymbol?_eq_some {c : Char} {s : Symbol} (h : charSymbol? c = some s) :
    symbolChar s = c := by
  obtain ⟨i, found, rfl⟩ := Option.map_eq_some_iff.mp h
  obtain ⟨bound, same⟩ := getD_of_idxOf? 'q' found
  have small : i < 2 ^ 5 := bound
  rw [symbolChar, BitVec.toNat_ofNat, Nat.mod_eq_of_lt small, same]

/-- The separator stands between the two parts. -/
theorem eq_of_split? {text part data : List Char} (h : split? text = some (part, data)) :
    text = part ++ '1' :: data := by
  have whole : text.reverse.takeWhile (· ≠ '1') ++ text.reverse.dropWhile (· ≠ '1') = text.reverse :=
    List.takeWhile_append_dropWhile
  have separator := List.head?_dropWhile_not (· ≠ '1') text.reverse
  unfold split? at h
  cases rest : text.reverse.dropWhile (· ≠ '1') with
  | nil =>
    rw [rest] at h
    cases h
  | cons c before =>
    rw [rest] at h whole separator
    obtain ⟨rfl, rfl⟩ := Prod.mk.inj (Option.some.inj h)
    have one : c = '1' := by simpa using separator
    have turned := congrArg List.reverse whole
    rw [one, List.reverse_reverse] at turned
    simpa using turned.symm

/-- Text is split at a separator that none follows. -/
theorem split?_append {part data : List Char} (last : '1' ∉ data) :
    split? (part ++ '1' :: data) = some (part, data) := by
  have other : ∀ c ∈ data.reverse, (c ≠ '1') = True := by
    intro c mem
    rw [List.mem_reverse] at mem
    exact eq_true fun one => last (one ▸ mem)
  have turned : (part ++ '1' :: data).reverse = data.reverse ++ '1' :: part.reverse := by simp
  have front : (data.reverse ++ '1' :: part.reverse).takeWhile (· ≠ '1') = data.reverse := by
    rw [List.takeWhile_append_of_pos fun c mem => by simpa using other c mem]
    simp
  have back : (data.reverse ++ '1' :: part.reverse).dropWhile (· ≠ '1') = '1' :: part.reverse := by
    rw [List.dropWhile_append_of_pos fun c mem => by simpa using other c mem]
    simp
  simp only [split?, turned, front, back, List.reverse_reverse]

theorem charSymbol?_symbolChar (s : Symbol) : charSymbol? (symbolChar s) = some s := by
  have all : ∀ s : Symbol, charSymbol? (symbolChar s) = some s := by decide
  exact all s

theorem isUpper_symbolChar (s : Symbol) : Text.isUpper (symbolChar s) = false := by
  have all : ∀ s : Symbol, Text.isUpper (symbolChar s) = false := by decide
  exact all s

section checksum

theorem feedback_xor (a b : BitVec 5) : feedback (a ^^^ b) = feedback a ^^^ feedback b := by
  have term (x y : Bool) (generator : BitVec 30) :
      (if (x ^^ y) = true then generator else 0) =
        (if x = true then generator else 0) ^^^ (if y = true then generator else 0) := by
    cases x <;> cases y <;> simp
  simp only [feedback, BitVec.getLsbD_xor, term]
  ac_rfl

/-- The register is linear. -/
theorem shiftIn_xor (r q : BitVec 30) (s t : Symbol) :
    shiftIn (r ^^^ q) (s ^^^ t) = shiftIn r s ^^^ shiftIn q t := by
  simp only [shiftIn, BitVec.shiftLeft_xor_distrib, BitVec.ushiftRight_xor_distrib,
    BitVec.setWidth_xor, feedback_xor]
  ac_rfl

theorem foldl_shiftIn_xor (r q : BitVec 30) (symbols : List Symbol) :
    symbols.foldl shiftIn (r ^^^ q) =
      (List.replicate symbols.length 0).foldl shiftIn r ^^^ symbols.foldl shiftIn q := by
  induction symbols generalizing r q with
  | nil => rfl
  | cons s symbols ih =>
    have first : shiftIn (r ^^^ q) s = shiftIn r 0 ^^^ shiftIn q s := by
      rw [← shiftIn_xor]
      simp
    rw [List.foldl_cons, first, ih, List.length_cons, List.replicate_succ, List.foldl_cons,
      List.foldl_cons]

/-- A register whose highest five bits are clear only moves. -/
theorem getLsbD_shiftIn {q : BitVec 30} (clear : ∀ i, 25 ≤ i → q.getLsbD i = false) (s : Symbol)
    {i : Nat} (bound : i < 30) :
    (shiftIn q s).getLsbD i = if i < 5 then s.getLsbD i else q.getLsbD (i - 5) := by
  have top : (q >>> 25).setWidth 5 = 0 := by
    apply BitVec.eq_of_getLsbD_eq
    intro j _
    simp [clear (25 + j) (by omega)]
  have quiet : feedback 0 = 0 := by decide
  rw [shiftIn, top, quiet]
  by_cases low : i < 5
  · simp [low, bound]
  · have above : s.getLsbD i = false := BitVec.getLsbD_of_ge s i (by omega)
    have moved : i - 5 < 30 := by omega
    simp [low, bound, above, BitVec.getLsbD_eq_getElem moved]

/-- Up to six symbols stand in an empty register one beside another, the last one lowest. -/
theorem getLsbD_foldl_shiftIn {symbols : List Symbol} (few : symbols.length ≤ 6) (i : Nat) :
    (symbols.foldl shiftIn 0).getLsbD i = (symbols.reverse.getD (i / 5) 0).getLsbD (i % 5) := by
  induction symbols using List.reverseRecOn generalizing i with
  | nil => simp
  | append_singleton symbols s ih =>
    rw [List.length_append, List.length_singleton] at few
    have before := ih (by omega)
    have clear : ∀ j, 25 ≤ j → (symbols.foldl shiftIn 0).getLsbD j = false := by
      intro j high
      have beyond : symbols.reverse.getD (j / 5) 0 = 0 := by
        apply List.getD_eq_default
        rw [List.length_reverse]
        omega
      rw [before, beyond]
      exact BitVec.getLsbD_zero
    rw [List.foldl_concat, List.reverse_concat]
    by_cases bound : i < 30
    · rw [getLsbD_shiftIn clear s bound]
      by_cases low : i < 5
      · rw [if_pos low, Nat.div_eq_of_lt low, Nat.mod_eq_of_lt low, List.getD_cons_zero]
      · have place : i / 5 = (i - 5) / 5 + 1 := by omega
        have bit : i % 5 = (i - 5) % 5 := by omega
        rw [if_neg low, before, place, bit, List.getD_cons_succ]
    · have beyond : (s :: symbols.reverse).getD (i / 5) 0 = 0 := by
        apply List.getD_eq_default
        rw [List.length_cons, List.length_reverse]
        omega
      rw [beyond, BitVec.getLsbD_of_ge _ _ (by omega)]
      exact BitVec.getLsbD_zero.symm

theorem symbols_of_foldl_shiftIn {symbols : List Symbol} (six : symbols.length = 6) :
    [25, 20, 15, 10, 5, 0].map
      (fun i => ((symbols.foldl shiftIn 0) >>> i).setWidth 5) = symbols := by
  have cut (k : Nat) : ((symbols.foldl shiftIn 0) >>> (5 * k)).setWidth 5 =
      symbols.reverse.getD k 0 := by
    apply BitVec.eq_of_getLsbD_eq
    intro j small
    have place : (5 * k + j) / 5 = k := by omega
    have bit : (5 * k + j) % 5 = j := by omega
    rw [BitVec.getLsbD_setWidth, BitVec.getLsbD_ushiftRight, getLsbD_foldl_shiftIn six.le, place,
      bit]
    simp [small]
  have places : [25, 20, 15, 10, 5, 0] = [5, 4, 3, 2, 1, 0].map (5 * ·) := rfl
  rw [places, List.map_map]
  refine (List.map_congr_left fun k _ => cut k).trans ?_
  match symbols, six with
  | [a, b, c, d, e, f], _ => rfl

/-- What six symbols stand for is what an empty register holds after them. -/
theorem foldl_shiftIn_symbols (r : BitVec 30) :
    ([25, 20, 15, 10, 5, 0].map fun i => (r >>> i).setWidth 5).foldl shiftIn 0 = r := by
  apply BitVec.eq_of_getLsbD_eq
  intro i bound
  rw [getLsbD_foldl_shiftIn (by simp)]
  have symbol : ([25, 20, 15, 10, 5, 0].map fun i => (r >>> i).setWidth 5).reverse.getD (i / 5) 0 =
      ((r >>> (5 * (i / 5))).setWidth 5 : Symbol) := by
    have few : i / 5 < 6 := by omega
    generalize i / 5 = k at few
    match k, few with
    | 0, _ | 1, _ | 2, _ | 3, _ | 4, _ | 5, _ => rfl
  have place : 5 * (i / 5) + i % 5 = i := Nat.div_add_mod i 5
  have low : i % 5 < 5 := Nat.mod_lt i (by decide)
  rw [symbol, BitVec.getLsbD_setWidth, BitVec.getLsbD_ushiftRight, place]
  simp [low]

/-- Six symbols at the end change the residue as they would an empty register. -/
theorem residue_append (front : List Symbol) {sum : List Symbol} (six : sum.length = 6) :
    residue (front ++ sum) =
      residue (front ++ List.replicate 6 0) ^^^ sum.foldl shiftIn 0 := by
  have linear := foldl_shiftIn_xor (residue front) 0 sum
  have same : residue front ^^^ 0 = residue front := BitVec.xor_zero
  rw [same, six] at linear
  simpa only [residue, List.foldl_append] using linear

theorem length_checksum (part : List Char) (version : Symbol) (data : List Symbol) :
    (checksum part version data).length = 6 := by
  simp [checksum]

/-- The symbols of a checksum that holds are the ones that are computed. -/
theorem checksum_eq {part : List Char} {version : Symbol} {data sum : List Symbol}
    (six : sum.length = 6) (holds : residue (expand part ++ (data ++ sum)) = constant version) :
    checksum part version data = sum := by
  rw [← List.append_assoc, residue_append _ six] at holds
  have register : residue (expand part ++ data ++ List.replicate 6 0) ^^^ constant version =
      sum.foldl shiftIn 0 := by
    rw [← holds, ← BitVec.xor_assoc, BitVec.xor_self, BitVec.zero_xor]
  unfold checksum
  simp only [register]
  exact symbols_of_foldl_shiftIn six

/-- The checksum that is computed holds. -/
theorem residue_checksum (part : List Char) (version : Symbol) (data : List Symbol) :
    residue (expand part ++ (data ++ checksum part version data)) = constant version := by
  rw [← List.append_assoc, residue_append _ (length_checksum part version data)]
  unfold checksum
  simp only [foldl_shiftIn_symbols]
  rw [← BitVec.xor_assoc, BitVec.xor_self, BitVec.zero_xor]

end checksum

section bits

/-- The bits of the bytes and those left over are all the bits. -/
theorem byteBits_groupBytes (bits : List Bool) :
    byteBits (groupBytes bits).1 ++ (groupBytes bits).2 = bits := by
  have byte : ∀ a b c d e f g h : Bool, [7, 6, 5, 4, 3, 2, 1, 0].map
      (UInt8.ofNat (ofBits [a, b, c, d, e, f, g, h])).toNat.testBit = [a, b, c, d, e, f, g, h] := by
    decide
  induction bits using groupBytes.induct with
  | case1 a b c d e f g h rest bs left grouped ih =>
    simp only [groupBytes, byteBits, List.flatMap_cons, byte, List.append_assoc]
    rw [← byteBits, ih]
    rfl
  | case2 left short =>
    rw [groupBytes]
    · rfl
    · exact short

theorem length_symbolBits (symbols : List Symbol) :
    (symbolBits symbols).length = 5 * symbols.length := by
  simp [symbolBits, List.length_flatMap, Nat.mul_comm]

theorem groupSymbols_symbolBits (symbols : List Symbol) :
    groupSymbols (symbolBits symbols) = symbols := by
  have symbol : ∀ s : Symbol, BitVec.ofNat 5 (ofBits ([4, 3, 2, 1, 0].map s.getLsbD)) = s := by
    decide
  induction symbols with
  | nil => rfl
  | cons s symbols ih =>
    have bits : symbolBits (s :: symbols) = s.getLsbD 4 :: s.getLsbD 3 :: s.getLsbD 2 ::
        s.getLsbD 1 :: s.getLsbD 0 :: symbolBits symbols := rfl
    have first := symbol s
    simp only [List.map_cons, List.map_nil] at first
    rw [bits, groupSymbols, first, ih]

/-- Zeros that fill up the last group make no difference. -/
theorem groupSymbols_append {bits left : List Bool} (few : left.length < 5)
    (zeros : ∀ b ∈ left, b = false) (whole : (bits ++ left).length % 5 = 0) :
    groupSymbols (bits ++ left) = groupSymbols bits := by
  have filling : left = List.replicate left.length false :=
    List.eq_replicate_iff.mpr ⟨rfl, zeros⟩
  rw [List.length_append] at whole
  induction bits using groupSymbols.induct with
  | case1 =>
    have nothing : left = [] := List.length_eq_zero_iff.mp (by simp at whole; omega)
    rw [nothing, List.append_nil]
  | case2 a b c d e rest ih =>
    simp only [List.cons_append, groupSymbols]
    rw [ih (by simp only [List.length_cons] at whole; omega)]
  | case3 short nonempty more =>
    have positive : 0 < short.length := List.length_pos_of_ne_nil nonempty
    have filled (n : Nat) (length : short.length + n = 5) :
        short ++ left = short ++ List.replicate n false := by
      have count : left.length = n := by omega
      rw [filling, count]
    match short with
    | [] => exact absurd rfl nonempty
    | [a] => rw [filled 4 rfl]; rfl
    | [a, b] => rw [filled 3 rfl]; rfl
    | [a, b, c] => rw [filled 2 rfl]; rfl
    | [a, b, c, d] => rw [filled 1 rfl]; rfl
    | a :: b :: c :: d :: e :: rest => exact absurd rfl (more a b c d e rest)

/-- The symbols hold the bits, and zeros that fill up the last one. -/
theorem symbolBits_groupSymbols (bits : List Bool) :
    ∃ left, symbolBits (groupSymbols bits) = bits ++ left ∧ left.length < 5 ∧
      ∀ b ∈ left, b = false := by
  have symbol : ∀ a b c d e : Bool,
      [4, 3, 2, 1, 0].map (BitVec.ofNat 5 (ofBits [a, b, c, d, e])).getLsbD = [a, b, c, d, e] := by
    decide
  induction bits using groupSymbols.induct with
  | case1 => exact ⟨[], rfl, by decide, by simp⟩
  | case2 a b c d e rest ih =>
    obtain ⟨left, whole, few, zeros⟩ := ih
    refine ⟨left, ?_, few, zeros⟩
    rw [groupSymbols, symbolBits, List.flatMap_cons, symbol, ← symbolBits, whole]
    rfl
  | case3 short nonempty more =>
    refine ⟨List.replicate (5 - short.length) false, ?_, ?_, ?_⟩
    · match short with
      | [] => exact absurd rfl nonempty
      | [a] => exact symbol a false false false false
      | [a, b] => exact symbol a b false false false
      | [a, b, c] => exact symbol a b c false false
      | [a, b, c, d] => exact symbol a b c d false
      | a :: b :: c :: d :: e :: rest => exact absurd rfl (more a b c d e rest)
    · have positive : 0 < short.length := List.length_pos_of_ne_nil nonempty
      rw [List.length_replicate]
      omega
    · exact fun b mem => (List.mem_replicate.mp mem).2

theorem length_groupSymbols (bits : List Bool) :
    5 * (groupSymbols bits).length < bits.length + 5 ∧
      bits.length ≤ 5 * (groupSymbols bits).length := by
  obtain ⟨left, whole, few, -⟩ := symbolBits_groupSymbols bits
  have lengths := congrArg List.length whole
  rw [length_symbolBits, List.length_append] at lengths
  omega

theorem length_byteBits (bs : Bytes) : (byteBits bs).length = 8 * bs.length := by
  simp [byteBits, List.length_flatMap, Nat.mul_comm]

/-- Bytes are read from their bits, and fewer than eight bits behind them are left over. -/
theorem groupBytes_append (bs : Bytes) {left : List Bool} (few : left.length < 8) :
    groupBytes (byteBits bs ++ left) = (bs, left) := by
  have byte : ∀ b : UInt8,
      UInt8.ofNat (ofBits ([7, 6, 5, 4, 3, 2, 1, 0].map b.toNat.testBit)) = b := by
    decide +kernel
  induction bs with
  | nil =>
    have bits : byteBits [] ++ left = left := rfl
    rw [bits, groupBytes]
    rintro a b c d e f g h rest rfl
    simp only [List.length_cons] at few
    omega
  | cons b bs ih =>
    have bits : byteBits (b :: bs) = b.toNat.testBit 7 :: b.toNat.testBit 6 :: b.toNat.testBit 5 ::
        b.toNat.testBit 4 :: b.toNat.testBit 3 :: b.toNat.testBit 2 :: b.toNat.testBit 1 ::
        b.toNat.testBit 0 :: byteBits bs := rfl
    have first := byte b
    simp only [List.map_cons, List.map_nil] at first
    simp only [bits, List.cons_append, groupBytes, first, ih]

end bits

/-- What is read between the parts is written back, with the checksum behind it. -/
theorem eq_of_symbols? {part : String} {text : Text} {version : Symbol} {data : List Symbol}
    (h : symbols? part text = some (version, data)) :
    ∃ cs, text.chars? = some cs ∧ cs.map Text.lower = part.toList ++ '1' ::
      ((version :: data) ++ checksum part.toList version (version :: data)).map symbolChar := by
  simp only [symbols?, Option.bind_eq_bind, Option.bind_eq_some_iff] at h
  obtain ⟨cs, chars, h⟩ := h
  refine ⟨cs, chars, ?_⟩
  split at h
  · cases h
  simp only [Option.bind_eq_some_iff] at h
  obtain ⟨⟨found, letters⟩, cut, symbols, read, h⟩ := h
  obtain ⟨-, written⟩ := map_of_mapM (P := fun _ => True)
    (fun c s here => ⟨trivial, charSymbol?_eq_some here⟩) read
  split at h
  · cases h
  · rename_i front first rest taken
    simp only [Option.ite_none_right_eq_some, Option.some.injEq, Prod.mk.injEq] at h
    obtain ⟨⟨rfl, holds⟩, rfl, rfl⟩ := h
    have longer : 0 < (symbols.take (symbols.length - 6)).length := by
      rw [taken]
      exact Nat.succ_pos _
    have six : (symbols.drop (symbols.length - 6)).length = 6 := by
      rw [List.length_take] at longer
      rw [List.length_drop]
      omega
    have whole := List.take_append_drop (symbols.length - 6) symbols
    rw [taken] at whole
    rw [← whole] at holds
    rw [checksum_eq six holds, whole, written, eq_of_split? cut]

/-- A text that is read as a version and a program is, in lower case, what is written for them. -/
theorem encode_of_decode? {part : String} {text : Text} {number : Nat} {program : Bytes}
    (h : decode? part text = some (number, program)) :
    ∃ cs version, text.chars? = some cs ∧ version.toNat = number ∧
      encode part version program = .ofChars (cs.map Text.lower) := by
  simp only [decode?, Option.bind_eq_bind, Option.bind_eq_some_iff] at h
  obtain ⟨⟨version, data⟩, read, h⟩ := h
  simp only [Option.ite_none_right_eq_some, Option.some.injEq, Prod.mk.injEq] at h
  obtain ⟨⟨few, zeros, -⟩, rfl, rfl⟩ := h
  obtain ⟨cs, chars, same⟩ := eq_of_symbols? read
  have bits := byteBits_groupBytes (symbolBits data)
  have regrouped : groupSymbols (byteBits (groupBytes (symbolBits data)).1) = data := by
    rw [← groupSymbols_append few (by simpa using zeros), bits, groupSymbols_symbolBits]
    rw [bits, length_symbolBits, Nat.mul_mod_right]
  exact ⟨cs, version, chars, rfl, by rw [encode, regrouped, same]⟩

/-- What is written in lower case between the parts is read back. -/
theorem symbols?_encode {part : String} (lower : part.toList.any Text.isUpper = false)
    (version : Symbol) (program : Bytes) :
    symbols? part (encode part version program) =
      some (version, groupSymbols (byteBits program)) := by
  let data := version :: groupSymbols (byteBits program)
  let symbols := data ++ checksum part.toList version data
  let cs := part.toList ++ '1' :: symbols.map symbolChar
  have small : ∀ c ∈ cs, Text.isUpper c = false := by
    intro c mem
    rcases List.mem_append.mp mem with here | mem
    · exact Bool.eq_false_of_not_eq_true (List.any_eq_false.mp lower c here)
    · rcases List.mem_cons.mp mem with rfl | mem
      · decide
      · obtain ⟨s, -, rfl⟩ := List.mem_map.mp mem
        exact isUpper_symbolChar s
  have unmixed : ¬ (cs.any Char.isLower && cs.any Text.isUpper) = true := by
    simp only [Bool.and_eq_true, List.any_eq_true, not_and, not_exists]
    exact fun _ c mem upper => by simp [small c mem] at upper
  have lowered : cs.map Text.lower = cs :=
    (List.map_congr_left fun c mem => Text.lower_of_isUpper (small c mem)).trans (List.map_id cs)
  have last : '1' ∉ symbols.map symbolChar := by
    intro mem
    obtain ⟨s, -, one⟩ := List.mem_map.mp mem
    have separator : charSymbol? '1' = none := by decide
    have read := charSymbol?_symbolChar s
    rw [one, separator] at read
    cases read
  have read : (symbols.map symbolChar).mapM charSymbol? = some symbols :=
    mapM_map fun s _ => charSymbol?_symbolChar s
  have front : symbols.take (symbols.length - 6) = data := by
    have count : symbols.length - 6 = data.length := by
      rw [List.length_append, length_checksum, Nat.add_sub_cancel]
    rw [count]
    exact List.take_left
  have chars : (encode part version program).chars? = some cs := Text.chars?_ofChars cs
  have holds : residue (expand part.toList ++ symbols) = constant version :=
    residue_checksum part.toList version data
  simp only [symbols?, chars, Option.bind_eq_bind, Option.bind_some, if_neg unmixed, lowered,
    cs, split?_append last, read, front]
  simp only [data, holds, and_self, if_true]

/-- What is written for a version and a program that fit is read back. -/
theorem decode?_encode {part : String} (lower : part.toList.any Text.isUpper = false)
    {version : Symbol} {program : Bytes} (least : 2 ≤ program.length)
    (most : program.length ≤ 40) (known : version.toNat ≤ 16)
    (fits : version = 0 → program.length = 20 ∨ program.length = 32) :
    decode? part (encode part version program) = some (version.toNat, program) := by
  obtain ⟨left, whole, few, zeros⟩ := symbolBits_groupSymbols (byteBits program)
  have regrouped := groupBytes_append program (few.trans (by decide : 5 < 8))
  have clear : left.all (· = false) = true := by simpa using zeros
  simp only [decode?, symbols?_encode lower, Option.bind_eq_bind, Option.bind_some, whole,
    regrouped]
  exact if_pos ⟨few, clear, least, most, known, fits⟩

/-- What is read of a text is read of its lower case. -/
theorem eq_of_decode? {part : String} {text text' : Text} {cs cs' : List Char}
    {r r' : Nat × Bytes} (chars : text.chars? = some cs) (chars' : text'.chars? = some cs')
    (same : cs.map Text.lower = cs'.map Text.lower) (read : decode? part text = some r)
    (read' : decode? part text' = some r') : r = r' := by
  have plain {text : Text} {cs : List Char} {r : Nat × Bytes} (chars : text.chars? = some cs)
      (read : decode? part text = some r) : ¬ (cs.any Char.isLower && cs.any Text.isUpper) = true := by
    intro mixed
    simp only [decode?, symbols?, chars, Option.bind_eq_bind, Option.bind_some, if_pos mixed,
      Option.bind_none, reduceCtorEq] at read
  simp only [decode?, symbols?, chars, Option.bind_eq_bind, Option.bind_some,
    if_neg (plain chars read)] at read
  simp only [decode?, symbols?, chars', Option.bind_eq_bind, Option.bind_some,
    if_neg (plain chars' read'), ← same] at read'
  exact Option.some.inj (read.symm.trans read')

end BitcoinReserve.Bech32
