import BitcoinReserve.Bitcoin.Address
import BitcoinReserve.Proofs.Bitcoin.Bech32
import BitcoinReserve.Proofs.Outcome
import BitcoinReserve.Proofs.Text.Utf8

/-!
# Spellings of addresses

Several texts may name one destination: a witness address in lower and in upper case, any other
address with blanks behind it. Apart from that a destination has one text, the one written for it.
-/
namespace BitcoinReserve

theorem Text.trimRight_isPrefix (cs : List Char) : trimRight cs <+: cs := by
  rw [trimRight, ← List.reverse_suffix, List.reverse_reverse]
  exact List.dropWhile_suffix _

theorem Network.head?_witnessPart (n : Network) :
    ∃ c, n.witnessPart.toList.head? = some c ∧ c ∉ n.legacyLeads := by
  cases n with
  | mainnet => exact ⟨'b', rfl, by decide⟩
  | testnet => exact ⟨'t', rfl, by decide⟩
  | regtest => exact ⟨'b', rfl, by decide⟩

namespace Address

variable {network : Network} {address address' : Text} {d d' : Destination}

/-- The text of an address without its freedom: a witness address in lower case, any other without
the blanks at its end. -/
def spelling (network : Network) (address : Text) : Text :=
  match address.chars? with
  | none => address
  | some cs => .ofChars (if opensWitness network address then cs.map Text.lower else Text.trimRight cs)

theorem decodeWitness_eq_ok (h : decodeWitness network address = .ok d) :
    ∃ number, Bech32.decode? network.witnessPart address = some (number, d.hash) ∧
      (number = 0 ∧ (d.scriptType = .p2wpkh ∨ d.scriptType = .p2wsh) ∨
        number = 1 ∧ d.scriptType = .p2tr) := by
  unfold decodeWitness at h
  split at h
  · cases h
  · rename_i number program read
    split_ifs at h with first second third
    · cases h
      exact ⟨number, read, .inl ⟨first.1, .inl rfl⟩⟩
    · cases h
      exact ⟨number, read, .inl ⟨second.1, .inr rfl⟩⟩
    · cases h
      exact ⟨number, read, .inr ⟨third.1, rfl⟩⟩

theorem decodeLegacy_eq_ok (h : decodeLegacy network address = .ok d) :
    ∃ version, Base58.decodeCheck? address = some (version :: d.hash) ∧
      (version = network.keyHashVersion ∧ d.scriptType = .p2pkh ∨
        version = network.scriptHashVersion ∧ d.scriptType = .p2sh) := by
  unfold decodeLegacy at h
  split at h
  · cases h
  · rename_i payload read
    split at h
    · rename_i version hash
      split_ifs at h with length key script
      · cases h
        exact ⟨version, read, .inl ⟨key, rfl⟩⟩
      · cases h
        exact ⟨version, read, .inr ⟨script, rfl⟩⟩
    · cases h

/-- Which reader reads an address, and how the address is spelled then. -/
inductive Reads (network : Network) (address : Text) (d : Destination) : Prop
  | witness {cs : List Char} (chars : address.chars? = some cs)
      (reads : decodeWitness network address = .ok d)
      (spelled : spelling network address = .ofChars (cs.map Text.lower))
  | legacy {cs : List Char} (chars : address.chars? = some cs)
      (lead : address.take 1 ∈ network.legacyLeads.map fun c => Text.ofChars [c])
      (reads : decodeLegacy network address = .ok d)
      (spelled : spelling network address = .ofChars (Text.trimRight cs))

theorem reads_of_decode (h : decode network address = .ok d) : Reads network address d := by
  simp only [decode, Check.reject_eq_ok_iff] at h
  obtain ⟨-, h⟩ := h
  split at h
  · rename_i opens
    obtain ⟨number, read, -⟩ := decodeWitness_eq_ok h
    obtain ⟨cs, -, chars, -⟩ := Bech32.encode_of_decode? read
    exact .witness chars h (by simp [spelling, chars, opens])
  · rename_i closed
    split at h
    · rename_i lead
      obtain ⟨version, read, -⟩ := decodeLegacy_eq_ok h
      obtain ⟨cs, chars, -⟩ := Base58.encodeCheck_of_decodeCheck? read
      exact .legacy chars lead h (by simp [spelling, chars, closed])
    · cases h

/-- What is written for a destination is how its address is spelled. -/
theorem encode_of_decode (h : decode network address = .ok d) :
    encode network d = spelling network address := by
  cases reads_of_decode h with
  | witness chars reads spelled =>
    obtain ⟨number, read, type⟩ := decodeWitness_eq_ok reads
    obtain ⟨cs, version, found, value, written⟩ := Bech32.encode_of_decode? read
    cases chars.symm.trans found
    rw [spelled, ← written, encode]
    rcases type with ⟨zero, type⟩ | ⟨one, type⟩
    · have version_eq : version = 0 := BitVec.eq_of_toNat_eq (value.trans zero)
      rcases type with type | type
      · rw [version_eq, type]
      · rw [version_eq, type]
    · have version_eq : version = 1 := BitVec.eq_of_toNat_eq (value.trans one)
      rw [version_eq, type]
  | legacy chars lead reads spelled =>
    obtain ⟨version, read, type⟩ := decodeLegacy_eq_ok reads
    obtain ⟨cs, found, written⟩ := Base58.encodeCheck_of_decodeCheck? read
    cases chars.symm.trans found
    rw [spelled, ← written, encode]
    rcases type with ⟨rfl, type⟩ | ⟨rfl, type⟩
    · rw [type]
    · rw [type]

/-- A witness address in lower case begins with the human-readable part, and no other address
begins with a character of it. -/
theorem lower_ne_trimRight {cs cs' : List Char} (chars : address.chars? = some cs)
    (reads : decodeWitness network address = .ok d) (chars' : address'.chars? = some cs')
    (lead : address'.take 1 ∈ network.legacyLeads.map fun c => Text.ofChars [c]) :
    cs.map Text.lower ≠ Text.trimRight cs' := by
  intro same
  obtain ⟨number, read, -⟩ := decodeWitness_eq_ok reads
  obtain ⟨_, version, found, -, written⟩ := Bech32.encode_of_decode? read
  cases chars.symm.trans found
  have front : network.witnessPart.toList <+: cs' := by
    have parts := Text.ofChars_injective written
    rw [same] at parts
    exact (List.prefix_append _ _).trans (parts ▸ Text.trimRight_isPrefix cs')
  obtain ⟨c, mem, first⟩ := List.mem_map.mp lead
  have begins : [c] <+: cs' := by
    rw [Text.chars?_eq_some_iff.mp chars'] at first
    have points : [CodePoint.char c] = (cs'.map CodePoint.char).take 1 := congrArg Text.points first
    rw [← List.map_take] at points
    have one : [c] = cs'.take 1 :=
      List.map_injective_iff.mpr (fun _ _ => CodePoint.char.inj) points
    rw [one]
    exact List.take_prefix 1 cs'
  obtain ⟨rest, rfl⟩ := begins
  obtain ⟨tail, whole⟩ := front
  obtain ⟨b, begins, other⟩ := network.head?_witnessPart
  have head := congrArg List.head? whole
  rw [List.head?_append, begins] at head
  cases head
  exact other mem

/-- Two addresses name one destination exactly when they are spelled alike. -/
theorem decode_eq_iff (h : decode network address = .ok d) (h' : decode network address' = .ok d') :
    d = d' ↔ spelling network address = spelling network address' := by
  constructor
  · rintro rfl
    rw [← encode_of_decode h, encode_of_decode h']
  · intro same
    cases reads_of_decode h with
    | witness chars reads spelled =>
      cases reads_of_decode h' with
      | witness chars' reads' spelled' =>
        obtain ⟨number, read, -⟩ := decodeWitness_eq_ok reads
        obtain ⟨number', read', -⟩ := decodeWitness_eq_ok reads'
        have lowers := Text.ofChars_injective (spelled.symm.trans (same.trans spelled'))
        have programs := Bech32.eq_of_decode? chars chars' lowers read read'
        have results : decodeWitness network address = decodeWitness network address' := by
          rw [decodeWitness, decodeWitness, read, read', programs]
        exact Except.ok.inj (reads.symm.trans (results.trans reads'))
      | legacy chars' lead' reads' spelled' =>
        have texts := Text.ofChars_injective (spelled.symm.trans (same.trans spelled'))
        exact absurd texts (lower_ne_trimRight chars reads chars' lead')
    | legacy chars lead reads spelled =>
      cases reads_of_decode h' with
      | witness chars' reads' spelled' =>
        have texts := Text.ofChars_injective (spelled'.symm.trans (same.symm.trans spelled))
        exact absurd texts (lower_ne_trimRight chars' reads' chars lead)
      | legacy chars' lead' reads' spelled' =>
        have texts := Text.ofChars_injective (spelled.symm.trans (same.trans spelled'))
        have results : decodeLegacy network address = decodeLegacy network address' := by
          rw [decodeLegacy, decodeLegacy, Base58.decodeCheck?_eq chars chars' texts]
        exact Except.ok.inj (reads.symm.trans (results.trans reads'))

end Address

end BitcoinReserve
