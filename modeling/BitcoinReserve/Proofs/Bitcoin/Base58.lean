import BitcoinReserve.Bitcoin.Base58
import Mathlib

/-!
# Reading and writing Base58Check

A text that is read as bytes is the only text for these bytes: each digit has one character, a number
has one row of digits without leading zeros, and the leading ones count the leading zero bytes. For
the same reasons the text that is written for any bytes is read as these bytes.
-/
namespace BitcoinReserve

/-- The place of a character in an alphabet leads back to the character. -/
theorem getD_of_idxOf? {alphabet : List Char} {c : Char} {i : Nat} (default : Char)
    (found : alphabet.idxOf? c = some i) : i < alphabet.length ∧ alphabet.getD i default = c := by
  obtain ⟨bound, same, -⟩ := List.idxOf?_eq_some_iff.mp found
  refine ⟨bound, ?_⟩
  rw [List.getD_eq_getElem _ _ bound, same]

/-- What is read character by character is written as it was read. -/
theorem map_of_mapM {α β : Type} {read : α → Option β} {write : β → α} {P : β → Prop}
    (inverse : ∀ a b, read a = some b → P b ∧ write b = a) {as : List α} {bs : List β}
    (h : as.mapM read = some bs) : (∀ b ∈ bs, P b) ∧ bs.map write = as := by
  induction as generalizing bs with
  | nil =>
    cases h
    simp
  | cons a as ih =>
    simp only [List.mapM_cons, Option.bind_eq_bind, Option.pure_def, Option.bind_eq_some_iff,
      Option.some.injEq] at h
    obtain ⟨b, first, rest, others, rfl⟩ := h
    obtain ⟨here, same⟩ := inverse a b first
    obtain ⟨all, written⟩ := ih others
    exact ⟨List.forall_mem_cons.mpr ⟨here, all⟩, by rw [List.map_cons, same, written]⟩

/-- What is written character by character is read back. -/
theorem mapM_map {α β : Type} {read : α → Option β} {write : β → α} {bs : List β}
    (inverse : ∀ b ∈ bs, read (write b) = some b) : (bs.map write).mapM read = some bs := by
  induction bs with
  | nil => rfl
  | cons b bs ih =>
    rw [List.forall_mem_cons] at inverse
    simp [inverse.1, ih inverse.2]

section leading

variable {α : Type} [DecidableEq α] {a : α} {rest : List α} (k : Nat) (first : rest.head? ≠ some a)

include first

theorem takeWhile_replicate_append :
    (List.replicate k a ++ rest).takeWhile (· = a) = List.replicate k a := by
  rw [List.takeWhile_append_of_pos fun b mem => by simpa using (List.mem_replicate.mp mem).2]
  cases rest with
  | nil => exact List.append_nil _
  | cons b rest =>
    have other : b ≠ a := fun same => first (by rw [same]; rfl)
    rw [List.takeWhile_cons_of_neg (by simpa using other), List.append_nil]

theorem dropWhile_replicate_append : (List.replicate k a ++ rest).dropWhile (· = a) = rest := by
  have whole := List.takeWhile_append_dropWhile (p := (· = a)) (l := List.replicate k a ++ rest)
  rw [takeWhile_replicate_append k first] at whole
  exact List.append_cancel_left whole

end leading

namespace Base58

theorem ofDigits_eq (base : Nat) (ds : List Nat) :
    ofDigits base ds = Nat.ofDigits base ds.reverse := by
  rw [ofDigits, Nat.ofDigits_eq_foldr, List.foldr_reverse]
  simp [Nat.add_comm]

theorem ofDigits_append_zeros (base k : Nat) (ds : List Nat) :
    ofDigits base (List.replicate k 0 ++ ds) = ofDigits base ds := by
  induction k with
  | zero => rfl
  | succ k ih => simpa [ofDigits, List.replicate_succ] using ih

section digits

variable {base n : Nat} (large : 1 < base)

include large

theorem digits_eq {fuel : Nat} (enough : n ≤ fuel) :
    digits base fuel n = (Nat.digits base n).reverse := by
  induction fuel generalizing n with
  | zero =>
    obtain rfl := Nat.le_zero.mp enough
    simp [digits]
  | succ fuel ih =>
    by_cases zero : n = 0
    · simp [digits, zero]
    · have less : n / base < n := Nat.div_lt_self (Nat.pos_of_ne_zero zero) large
      rw [digits, if_neg zero, ih (by omega), Nat.digits_def' large (Nat.pos_of_ne_zero zero),
        List.reverse_cons]

theorem ofDigits_digits : ofDigits base (digits base n n) = n := by
  rw [ofDigits_eq, digits_eq large le_rfl, List.reverse_reverse, Nat.ofDigits_digits]

theorem lt_of_mem_digits {d : Nat} (mem : d ∈ digits base n n) : d < base := by
  rw [digits_eq large le_rfl, List.mem_reverse] at mem
  exact Nat.digits_lt_base large mem

theorem head?_digits : (digits base n n).head? ≠ some 0 := by
  rw [digits_eq large le_rfl, List.head?_reverse]
  by_cases zero : n = 0
  · simp [zero]
  · have last := Nat.getLast_digit_ne_zero base zero
    rw [List.getLast?_eq_some_getLast (Nat.digits_ne_nil_iff_ne_zero.mpr zero)]
    exact fun same => last (Option.some.inj same)

/-- A number has one row of digits that does not begin with a zero. -/
theorem digits_ofDigits {ds : List Nat} (small : ∀ d ∈ ds, d < base) (first : ds.head? ≠ some 0) :
    digits base (ofDigits base ds) (ofDigits base ds) = ds := by
  rw [digits_eq large le_rfl, ofDigits_eq, Nat.digits_ofDigits base large, List.reverse_reverse]
  · exact fun d mem => small d (List.mem_reverse.mp mem)
  · intro nonempty last
    rw [List.getLast_reverse] at last
    have positive : ds ≠ [] := fun empty => nonempty (by rw [empty, List.reverse_nil])
    exact first (by rw [List.head?_eq_some_head positive, last])

/-- The digits below the power of a base stand behind those of the quotient. -/
theorem digits_eq_append {k : Nat} (positive : 0 < n / base ^ k) :
    ∃ low, digits base n n = digits base (n / base ^ k) (n / base ^ k) ++ low := by
  induction k with
  | zero => exact ⟨[], by simp⟩
  | succ k ih =>
    rw [pow_succ, ← Nat.div_div_eq_div_mul] at positive ⊢
    have above : 0 < n / base ^ k := Nat.pos_of_ne_zero fun zero => by simp [zero] at positive
    obtain ⟨low, split⟩ := ih above
    refine ⟨n / base ^ k % base :: low, ?_⟩
    have last : digits base (n / base ^ k) (n / base ^ k) =
        digits base (n / base ^ k / base) (n / base ^ k / base) ++ [n / base ^ k % base] := by
      rw [digits_eq large le_rfl, digits_eq large le_rfl, Nat.digits_def' large above,
        List.reverse_cons]
    rw [split, last, List.append_assoc, List.singleton_append]

theorem digits_of_lt (positive : 0 < n) (small : n < base) : digits base n n = [n] := by
  rw [digits_eq large le_rfl, Nat.digits_of_lt base n positive.ne' small, List.reverse_singleton]

end digits

theorem toNatBE_eq (bs : Bytes) : Bytes.toNatBE bs = ofDigits 256 (bs.map UInt8.toNat) := by
  have low (cs : Bytes) : Bytes.toNatLE cs = Nat.ofDigits 256 (cs.map UInt8.toNat) := by
    induction cs with
    | nil => rfl
    | cons c cs ih => simp [Bytes.toNatLE, ih, Nat.ofDigits_cons]
  rw [Bytes.toNatBE, low, ofDigits_eq, List.map_reverse]

theorem charDigit?_eq_some {c : Char} {d : Nat} (h : charDigit? c = some d) :
    d < 58 ∧ digitChar d = c :=
  getD_of_idxOf? _ h

/-- The bytes of a number, without leading zeros. -/
theorem toNat_bytes (n : Nat) :
    ((digits 256 n n).map UInt8.ofNat).map UInt8.toNat = digits 256 n n := by
  rw [List.map_map]
  refine (List.map_congr_left fun d mem => ?_).trans (List.map_id _)
  exact UInt8.toNat_ofNat_of_lt (lt_of_mem_digits (by decide) mem)

theorem toNatBE_zeros_append (k : Nat) (bs : Bytes) :
    Bytes.toNatBE (List.replicate k 0 ++ bs) = Bytes.toNatBE bs := by
  rw [toNatBE_eq, toNatBE_eq, List.map_append, List.map_replicate, UInt8.toNat_zero,
    ofDigits_append_zeros]

theorem toNatBE_bytes (n : Nat) : Bytes.toNatBE ((digits 256 n n).map UInt8.ofNat) = n := by
  rw [toNatBE_eq, toNat_bytes, ofDigits_digits (by decide)]

theorem head?_bytes (n : Nat) : ((digits 256 n n).map UInt8.ofNat).head? ≠ some 0 := by
  have leading : (((digits 256 n n).map UInt8.ofNat).map UInt8.toNat).head? ≠ some 0 := by
    rw [toNat_bytes]
    exact head?_digits (by decide)
  intro zero
  rw [List.head?_map, zero] at leading
  exact leading rfl

/-- The bytes behind the leading zeros are those of the number. -/
theorem bytes_toNatBE {bs : Bytes} (first : bs.head? ≠ some 0) :
    (digits 256 (Bytes.toNatBE bs) (Bytes.toNatBE bs)).map UInt8.ofNat = bs := by
  have leading : (bs.map UInt8.toNat).head? ≠ some 0 := by
    rw [List.head?_map]
    intro zero
    obtain ⟨b, begins, value⟩ := Option.map_eq_some_iff.mp zero
    rw [begins, UInt8.toNat_inj.mp (value.trans UInt8.toNat_zero.symm)] at first
    exact first rfl
  have small : ∀ d ∈ bs.map UInt8.toNat, d < 256 := by
    intro d mem
    obtain ⟨b, -, rfl⟩ := List.mem_map.mp mem
    exact b.toNat_lt
  rw [toNatBE_eq, digits_ofDigits (by decide) small leading, List.map_map]
  exact (List.map_congr_left fun b _ => UInt8.ofNat_toNat).trans (List.map_id bs)

theorem exists_leading_zeros (bs : Bytes) :
    ∃ k rest, bs = List.replicate k 0 ++ rest ∧ rest.head? ≠ some 0 := by
  induction bs with
  | nil => exact ⟨0, [], rfl, by simp⟩
  | cons b bs ih =>
    by_cases zero : b = 0
    · obtain ⟨k, rest, split, first⟩ := ih
      exact ⟨k + 1, rest, by rw [zero, split, List.replicate_succ, List.cons_append], first⟩
    · exact ⟨0, b :: bs, rfl, by simpa using zero⟩

/-- The characters of a number, without leading ones. -/
def numeral (n : Nat) : List Char := (digits 58 n n).map digitChar

theorem encode_zeros_append (k : Nat) {bs : Bytes} (first : bs.head? ≠ some 0) :
    encode (List.replicate k 0 ++ bs) = List.replicate k '1' ++ numeral (Bytes.toNatBE bs) := by
  rw [encode, takeWhile_replicate_append k first, toNatBE_zeros_append, List.map_replicate]
  rfl

/-- A text that is read as bytes is the text that is written for them. -/
theorem encode_of_decode? {cs : List Char} {bs : Bytes} (h : decode? cs = some bs) :
    encode bs = cs := by
  simp only [decode?, Option.bind_eq_bind, Option.bind_eq_some_iff, Option.pure_def,
    Option.some.injEq] at h
  obtain ⟨ds, read, rfl⟩ := h
  obtain ⟨small, written⟩ := map_of_mapM (fun c d => charDigit?_eq_some) read
  have first : ds.head? ≠ some 0 := by
    intro zero
    have one : (cs.dropWhile (· = '1')).head? = some '1' := by
      rw [← written, List.head?_map, zero]
      rfl
    have other := List.head?_dropWhile_not (· = '1') cs
    simp [one] at other
  have ones : cs.takeWhile (· = '1') = List.replicate (cs.takeWhile (· = '1')).length '1' :=
    List.eq_replicate_iff.mpr ⟨rfl, fun c mem => by simpa using List.mem_takeWhile_imp mem⟩
  generalize (cs.takeWhile (· = '1')).length = k at ones
  rw [ones, List.map_replicate, encode_zeros_append k (head?_bytes _), toNatBE_bytes, numeral,
    digits_ofDigits (by decide) small first, written, ← ones, List.takeWhile_append_dropWhile]

theorem charDigit?_digitChar {d : Nat} (small : d < 58) : charDigit? (digitChar d) = some d := by
  have all : ∀ d : Fin 58, charDigit? (digitChar d) = some d.val := by decide
  exact all ⟨d, small⟩

theorem head?_numeral (n : Nat) : (numeral n).head? ≠ some '1' := by
  rw [numeral, List.head?_map]
  intro one
  obtain ⟨d, begins, char⟩ := Option.map_eq_some_iff.mp one
  have small : d < 58 := lt_of_mem_digits (by decide) (List.mem_of_head? begins)
  have zero : some d = some 0 := by
    rw [← charDigit?_digitChar small, char]
    rfl
  exact head?_digits (by decide) (begins.trans zero)

/-- Any bytes are read from the text that is written for them. -/
theorem decode?_encode (bs : Bytes) : decode? (encode bs) = some bs := by
  obtain ⟨k, rest, rfl, first⟩ := exists_leading_zeros bs
  have read : (numeral (Bytes.toNatBE rest)).mapM charDigit? =
      some (digits 58 (Bytes.toNatBE rest) (Bytes.toNatBE rest)) :=
    mapM_map fun d mem => charDigit?_digitChar (lt_of_mem_digits (by decide) mem)
  rw [encode_zeros_append k first, decode?, dropWhile_replicate_append k (head?_numeral _), read]
  simp only [Option.bind_eq_bind, Option.bind_some, Option.pure_def, Option.some.injEq]
  rw [takeWhile_replicate_append k (head?_numeral _), List.map_replicate,
    ofDigits_digits (by decide), bytes_toNatBE first]

/-- A text with a checksum is, up to the blanks at its end, the text that is written for its
payload. -/
theorem encodeCheck_of_decodeCheck? {text : Text} {payload : Bytes}
    (h : decodeCheck? text = some payload) :
    ∃ cs, text.chars? = some cs ∧ encodeCheck payload = .ofChars (Text.trimRight cs) := by
  simp only [decodeCheck?, Option.bind_eq_bind, Option.bind_eq_some_iff,
    Option.ite_none_right_eq_some, Option.some.injEq] at h
  obtain ⟨cs, chars, bs, read, sound, rfl⟩ := h
  refine ⟨cs, chars, ?_⟩
  rw [encodeCheck, ← sound, List.take_append_drop, encode_of_decode? read]

/-- What is read of a text is read without the blanks at its end. -/
theorem decodeCheck?_eq {text text' : Text} {cs cs' : List Char} (chars : text.chars? = some cs)
    (chars' : text'.chars? = some cs') (same : Text.trimRight cs = Text.trimRight cs') :
    decodeCheck? text = decodeCheck? text' := by
  simp only [decodeCheck?, chars, chars', Option.bind_eq_bind, Option.bind_some, same]

theorem mem_alphabet_of_mem_encode {bs : Bytes} {c : Char} (mem : c ∈ encode bs) :
    c ∈ alphabet := by
  rcases List.mem_append.mp mem with one | digit
  · obtain ⟨-, -, rfl⟩ := List.mem_map.mp one
    decide
  · obtain ⟨d, listed, rfl⟩ := List.mem_map.mp digit
    have small : d < alphabet.length := lt_of_mem_digits (by decide) listed
    rw [digitChar, List.getD_eq_getElem _ _ small]
    exact List.getElem_mem small

theorem isBlank_of_mem_alphabet {c : Char} (mem : c ∈ alphabet) : Text.isBlank c = false := by
  have ascii : alphabet.all (fun c => decide (32 < c.toNat) && decide (c.toNat < 127)) = true := by
    decide
  simp only [List.all_eq_true, Bool.and_eq_true, decide_eq_true_eq] at ascii
  obtain ⟨low, high⟩ := ascii c mem
  simp only [Text.isBlank, Bool.or_eq_false_iff, Bool.and_eq_false_iff, decide_eq_false_iff_not]
  omega

/-- Nothing that is written ends in a blank. -/
theorem trimRight_encode (bs : Bytes) : Text.trimRight (encode bs) = encode bs := by
  have kept : (encode bs).reverse.dropWhile Text.isBlank = (encode bs).reverse := by
    cases turned : (encode bs).reverse with
    | nil => rfl
    | cons c cs =>
      have mem : c ∈ encode bs := by
        rw [← List.mem_reverse, turned]
        exact List.mem_cons_self
      have seen := isBlank_of_mem_alphabet (mem_alphabet_of_mem_encode mem)
      exact List.dropWhile_cons_of_neg (by simp [seen])
  rw [Text.trimRight, kept, List.reverse_reverse]

theorem length_checksum (payload : Bytes) : (checksum payload).length = 4 := by
  rw [checksum, List.length_take, length_hash256]
  rfl

theorem decodeCheck?_encodeCheck (payload : Bytes) :
    decodeCheck? (encodeCheck payload) = some payload := by
  have front : (payload ++ checksum payload).length - 4 = payload.length := by
    rw [List.length_append, length_checksum, Nat.add_sub_cancel]
  simp only [decodeCheck?, encodeCheck, Text.chars?_ofChars, Option.bind_eq_bind, Option.bind_some,
    trimRight_encode, decode?_encode, front, List.take_left', List.drop_left', if_true]

/-- The first digit of a number says what its numeral begins with. -/
theorem numeral_eq_cons {n k : Nat} (positive : 0 < n / 58 ^ k) (small : n / 58 ^ k < 58) :
    ∃ rest, numeral n = digitChar (n / 58 ^ k) :: rest := by
  obtain ⟨low, split⟩ := digits_eq_append (by decide) positive
  refine ⟨low.map digitChar, ?_⟩
  rw [numeral, split, digits_of_lt (by decide) positive small, List.map_append]
  rfl

theorem toNatBE_lt (bs : Bytes) : Bytes.toNatBE bs < 256 ^ bs.length := by
  have bound := Bytes.toNatLE_lt bs.reverse
  rw [List.length_reverse] at bound
  exact bound

theorem toNatBE_cons (b : UInt8) (bs : Bytes) :
    Bytes.toNatBE (b :: bs) = b.toNat * 256 ^ bs.length + Bytes.toNatBE bs := by
  rw [toNatBE_eq, toNatBE_eq, ofDigits_eq, ofDigits_eq, List.map_cons, List.reverse_cons,
    Nat.ofDigits_append, Nat.ofDigits_singleton, List.length_reverse, List.length_map]
  ring

theorem length_numeral_le_iff {n k : Nat} : (numeral n).length ≤ k ↔ n < 58 ^ k := by
  rw [numeral, List.length_map, digits_eq (by decide) le_rfl, List.length_reverse]
  exact Nat.digits_length_le_iff (by decide) n

/-- Each byte takes one character at least and two at most. -/
theorem length_encode (bs : Bytes) :
    bs.length ≤ (encode bs).length ∧ (encode bs).length ≤ 2 * bs.length := by
  obtain ⟨k, rest, rfl, first⟩ := exists_leading_zeros bs
  rw [encode_zeros_append k first, List.length_append, List.length_append, List.length_replicate,
    List.length_replicate]
  have upper : (numeral (Bytes.toNatBE rest)).length ≤ 2 * rest.length := by
    rw [length_numeral_le_iff, pow_mul]
    refine (toNatBE_lt rest).trans_le ?_
    exact Nat.pow_le_pow_left (by decide) _
  have lower : rest.length ≤ (numeral (Bytes.toNatBE rest)).length := by
    cases rest with
    | nil => exact Nat.zero_le _
    | cons b bs =>
      have positive : 1 ≤ b.toNat := by
        rw [Nat.one_le_iff_ne_zero]
        intro zero
        rw [UInt8.toNat_inj.mp (zero.trans UInt8.toNat_zero.symm)] at first
        exact first rfl
      by_contra short
      have few : (numeral (Bytes.toNatBE (b :: bs))).length ≤ bs.length := by
        rw [List.length_cons] at short
        omega
      rw [length_numeral_le_iff, toNatBE_cons] at few
      have less : 58 ^ bs.length ≤ 256 ^ bs.length := Nat.pow_le_pow_left (by decide) _
      have whole : 1 * 256 ^ bs.length ≤ b.toNat * 256 ^ bs.length :=
        Nat.mul_le_mul_right _ positive
      omega
  omega

end Base58

end BitcoinReserve
