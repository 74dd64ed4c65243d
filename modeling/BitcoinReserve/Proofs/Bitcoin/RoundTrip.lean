import BitcoinReserve.Proofs.Bitcoin.Spelling

/-!
# Addresses there and back

The address of a destination names this destination again. Which reader reads it is decided before
any checksum, by how long it is and how it begins: a Base58Check address begins with the leading digit
of a number whose first byte is the version, so only few characters are possible for each version.
-/
namespace BitcoinReserve

/-- The destination has a form of its own, and its hash the length of that form. -/
def Destination.Standard (d : Destination) : Prop :=
  match d.scriptType with
  | .p2pkh | .p2sh | .p2wpkh => d.hash.length = 20
  | .p2wsh | .p2tr => d.hash.length = 32
  | .opReturn | .nonstandard => False

namespace Base58

/-- The versions between two bounds leave few digits to begin with. -/
theorem encode_eq_cons {v : UInt8} {bs : Bytes} {n : Nat} (length : bs.length = n)
    (positive : v ≠ 0) (k low high : Nat) (first : 0 < low) (last : high < 58)
    (above : low * 58 ^ k ≤ v.toNat * 256 ^ n)
    (below : (v.toNat + 1) * 256 ^ n ≤ (high + 1) * 58 ^ k) :
    ∃ d rest, low ≤ d ∧ d ≤ high ∧ encode (v :: bs) = digitChar d :: rest := by
  have plain : encode (v :: bs) = numeral (Bytes.toNatBE (v :: bs)) :=
    encode_zeros_append 0 (by simpa using positive)
  have value := toNatBE_cons v bs
  have bound := toNatBE_lt bs
  rw [length] at value bound
  have power : 0 < 58 ^ k := Nat.pow_pos (by decide)
  have least : low ≤ Bytes.toNatBE (v :: bs) / 58 ^ k := by
    rw [Nat.le_div_iff_mul_le power]
    omega
  have most : Bytes.toNatBE (v :: bs) / 58 ^ k < high + 1 := by
    rw [Nat.div_lt_iff_lt_mul power]
    rw [Nat.add_mul] at below
    omega
  obtain ⟨rest, begins⟩ := numeral_eq_cons (first.trans_le least) (by omega)
  exact ⟨_, rest, least, Nat.le_of_lt_succ most, plain.trans begins⟩

theorem encode_zero_cons (bs : Bytes) : ∃ rest, encode (0 :: bs) = '1' :: rest := by
  obtain ⟨k, rest, rfl, first⟩ := exists_leading_zeros bs
  have more : (0 : UInt8) :: (List.replicate k 0 ++ rest) = List.replicate (k + 1) 0 ++ rest := rfl
  rw [more, encode_zeros_append _ first, List.replicate_succ]
  exact ⟨_, rfl⟩

end Base58

namespace Network

variable (network : Network) {bs : Bytes}

/-- What is written for a key hash begins with a lead of the network. -/
theorem lead_of_keyHash (length : bs.length = 24) :
    ∃ c rest, Base58.encode (network.keyHashVersion :: bs) = c :: rest ∧
      c ∈ network.legacyLeads := by
  have test : ∃ c rest, Base58.encode (0x6f :: bs) = c :: rest ∧ c ∈ ['m', 'n', '2'] := by
    obtain ⟨d, rest, least, most, begins⟩ := Base58.encode_eq_cons (v := 0x6f) length
      (by decide) 33 44 45 (by decide) (by decide) (by decide) (by decide)
    refine ⟨_, rest, begins, ?_⟩
    obtain rfl | rfl : d = 44 ∨ d = 45 := by omega
    · decide
    · decide
  cases network with
  | mainnet =>
    obtain ⟨rest, begins⟩ := Base58.encode_zero_cons bs
    exact ⟨'1', rest, begins, by decide⟩
  | testnet => exact test
  | regtest => exact test

/-- What is written for a script hash begins with a lead of the network. -/
theorem lead_of_scriptHash (length : bs.length = 24) :
    ∃ c rest, Base58.encode (network.scriptHashVersion :: bs) = c :: rest ∧
      c ∈ network.legacyLeads := by
  have test : ∃ c rest, Base58.encode (0xc4 :: bs) = c :: rest ∧ c ∈ ['m', 'n', '2'] := by
    obtain ⟨d, rest, least, most, begins⟩ := Base58.encode_eq_cons (v := 0xc4) length
      (by decide) 34 1 1 (by decide) (by decide) (by decide) (by decide)
    refine ⟨_, rest, begins, ?_⟩
    obtain rfl : d = 1 := by omega
    decide
  cases network with
  | mainnet =>
    obtain ⟨d, rest, least, most, begins⟩ := Base58.encode_eq_cons (v := 0x05) length
      (by decide) 33 2 2 (by decide) (by decide) (by decide) (by decide)
    refine ⟨_, rest, begins, ?_⟩
    obtain rfl : d = 2 := by omega
    decide
  | testnet => exact test
  | regtest => exact test

theorem isUpper_witnessPart : network.witnessPart.toList.any Text.isUpper = false := by
  cases network with
  | mainnet => decide
  | testnet => decide
  | regtest => decide

end Network

namespace Address

variable {network : Network} {address : Text} {d : Destination}

theorem opensWitness_iff {cs : List Char} :
    opensWitness network (.ofChars cs) = true ↔
      (cs.take (network.witnessPart.toList.length + 1)).map Char.toLower =
        network.witnessPart.toList ++ ['1'] := by
  have front (n : Nat) : (Text.ofChars cs).take n = .ofChars (cs.take n) :=
    congrArg Text.mk List.map_take.symm
  simp only [opensWitness, front, Text.chars?_ofChars, Option.map_some, Option.some.injEq,
    decide_eq_true_eq, List.length_append, List.length_singleton]

theorem opensWitness_of_lead {c : Char} {rest : List Char} (lead : c ∈ network.legacyLeads) :
    opensWitness network (.ofChars (c :: rest)) = false := by
  have other : network.witnessPart.toList.head? ≠ some c.toLower := by
    cases network with
    | mainnet =>
      obtain rfl | rfl : c = '1' ∨ c = '3' := by simpa [Network.legacyLeads] using lead
      · decide
      · decide
    | testnet | regtest =>
      obtain rfl | rfl | rfl : c = 'm' ∨ c = 'n' ∨ c = '2' := by
        simpa [Network.legacyLeads] using lead
      · decide
      · decide
      · decide
  obtain ⟨b, begins, -⟩ := network.head?_witnessPart
  rw [← Bool.not_eq_true, opensWitness_iff]
  intro opens
  have head := congrArg List.head? opens
  rw [List.take_succ_cons, List.map_cons, List.head?_cons, List.head?_append, begins] at head
  rw [begins] at other
  exact other head.symm

theorem opensWitness_encode (version : Bech32.Symbol) (program : Bytes) :
    opensWitness network (Bech32.encode network.witnessPart version program) = true := by
  rw [Bech32.encode, opensWitness_iff]
  cases network with
  | mainnet => rfl
  | testnet => rfl
  | regtest => rfl

/-- A text that fits and begins with a lead of the network is read as Base58Check. -/
theorem decode_encodeCheck {version : UInt8} {hash : Bytes} (length : hash.length = 20)
    (lead : ∃ c rest, Base58.encode (version :: (hash ++ Base58.checksum (version :: hash))) =
      c :: rest ∧ c ∈ network.legacyLeads) :
    decode network (Base58.encodeCheck (version :: hash)) =
      if version = network.keyHashVersion then .ok ⟨.p2pkh, hash⟩
      else if version = network.scriptHashVersion then .ok ⟨.p2sh, hash⟩
      else .error (.unknownVersion version) := by
  obtain ⟨c, rest, begins, lead⟩ := lead
  have text : Base58.encodeCheck (version :: hash) = .ofChars (c :: rest) :=
    congrArg Text.ofChars begins
  have bounds := Base58.length_encode (version :: (hash ++ Base58.checksum (version :: hash)))
  rw [begins, List.length_cons, List.length_append, length, Base58.length_checksum] at bounds
  have fits : ¬ ((Text.ofChars (c :: rest)).length < 14 ∨ 74 < (Text.ofChars (c :: rest)).length) := by
    have count : (Text.ofChars (c :: rest)).length = (c :: rest).length := List.length_map _
    omega
  have leads : (Text.ofChars (c :: rest)).take 1 ∈
      network.legacyLeads.map fun c => Text.ofChars [c] :=
    List.mem_map.mpr ⟨c, lead, rfl⟩
  rw [text, decode, if_neg fits, opensWitness_of_lead lead, if_neg Bool.false_ne_true, if_pos leads,
    ← text, decodeLegacy, Base58.decodeCheck?_encodeCheck]
  simp only [List.length_cons, length, ne_eq, not_true_eq_false, if_false]

/-- A witness program of 20 or 32 bytes is read as such. -/
theorem decode_encode_witness (version : Bech32.Symbol) {program : Bytes}
    (length : program.length = 20 ∨ program.length = 32) (known : version.toNat ≤ 16) :
    decode network (Bech32.encode network.witnessPart version program) =
      if version.toNat = 0 ∧ program.length = 20 then .ok ⟨.p2wpkh, program⟩
      else if version.toNat = 0 ∧ program.length = 32 then .ok ⟨.p2wsh, program⟩
      else if version.toNat = 1 ∧ program.length = 32 then .ok ⟨.p2tr, program⟩
      else .error (.unsupportedProgram version.toNat program.length) := by
  have count : (Bech32.encode network.witnessPart version program).length =
      network.witnessPart.toList.length + 8 +
        (Bech32.groupSymbols (Bech32.byteBits program)).length := by
    simp only [Bech32.encode, Text.length, Text.points_ofChars, List.length_map, List.length_append,
      List.length_cons, Bech32.length_checksum]
    omega
  have groups := Bech32.length_groupSymbols (Bech32.byteBits program)
  rw [Bech32.length_byteBits] at groups
  have part : network.witnessPart.toList.length ≤ 4 := by
    cases network with
    | mainnet => decide
    | testnet => decide
    | regtest => decide
  have fits : ¬ ((Bech32.encode network.witnessPart version program).length < 14 ∨
      74 < (Bech32.encode network.witnessPart version program).length) := by
    omega
  have read : Bech32.decode? network.witnessPart
      (Bech32.encode network.witnessPart version program) = some (version.toNat, program) :=
    Bech32.decode?_encode network.isUpper_witnessPart (by omega) (by omega) known fun _ => length
  rw [decode, if_neg fits, opensWitness_encode, if_pos rfl, decodeWitness, read]

theorem standard_of_decode (h : decode network address = .ok d) : d.Standard := by
  cases reads_of_decode h with
  | witness _ reads =>
    unfold decodeWitness at reads
    split at reads
    · cases reads
    · split_ifs at reads with first second third
      · cases reads
        exact first.2
      · cases reads
        exact second.2
      · cases reads
        exact third.2
  | legacy _ _ reads =>
    unfold decodeLegacy at reads
    split at reads
    · cases reads
    · split at reads
      · split_ifs at reads with length key script
        · cases reads
          exact Nat.succ.inj (not_not.mp length)
        · cases reads
          exact Nat.succ.inj (not_not.mp length)
      · cases reads

/-- On every network, the address that is written for a destination names that destination exactly
when it has a form of its own and a hash of the length of that form. -/
theorem decode_encode_iff (network : Network) (d : Destination) :
    decode network (encode network d) = .ok d ↔ d.Standard := by
  refine ⟨standard_of_decode, fun standard => ?_⟩
  obtain ⟨type, hash⟩ := d
  cases type with
  | p2pkh =>
    have length : hash.length = 20 := standard
    have checked : (hash ++ Base58.checksum (network.keyHashVersion :: hash)).length = 24 := by
      rw [List.length_append, length, Base58.length_checksum]
    have lead := network.lead_of_keyHash checked
    rw [encode, decode_encodeCheck length lead, if_pos rfl]
  | p2sh =>
    have length : hash.length = 20 := standard
    have checked : (hash ++ Base58.checksum (network.scriptHashVersion :: hash)).length = 24 := by
      rw [List.length_append, length, Base58.length_checksum]
    have lead := network.lead_of_scriptHash checked
    have other : network.scriptHashVersion ≠ network.keyHashVersion := by
      cases network with
      | mainnet => decide
      | testnet => decide
      | regtest => decide
    rw [encode, decode_encodeCheck length lead, if_neg other, if_pos rfl]
  | p2wpkh =>
    have length : hash.length = 20 := standard
    exact (decode_encode_witness 0 (.inl length) (by decide)).trans (if_pos ⟨rfl, length⟩)
  | p2wsh =>
    have length : hash.length = 32 := standard
    rw [encode, decode_encode_witness 0 (.inr length) (by decide)]
    simp [length]
  | p2tr =>
    have length : hash.length = 32 := standard
    rw [encode, decode_encode_witness 1 (.inr length) (by decide)]
    simp [length]
  | opReturn | nonstandard => exact standard.elim

end Address

end BitcoinReserve
