import BitcoinReserve.Proofs.Bitcoin.Scripts

/-!
# The one text of an address

A destination that is read from a text is written as this text in its normal form: in lower case
when it is a witness program, without the blanks at its end when it is not. Nothing else is lost, so
texts that lead to one script have one normal form.
-/
namespace BitcoinReserve

theorem Bech32.isAscii_symbolChar (s : Symbol) :
    (CodePoint.char (symbolChar s)).isAscii = true := by
  have all : ∀ s : Symbol, (CodePoint.char (symbolChar s)).isAscii = true := by decide
  exact all s

theorem Base58.isAscii_of_mem_alphabet {c : Char} (mem : c ∈ alphabet) :
    (CodePoint.char c).isAscii = true := by
  have all : alphabet.all (fun c => (CodePoint.char c).isAscii) = true := by decide
  exact List.all_eq_true.mp all c mem

theorem Network.isAscii_of_mem_witnessPart {n : Network} {c : Char}
    (mem : c ∈ n.witnessPart.toList) : (CodePoint.char c).isAscii = true := by
  have all : n.witnessPart.toList.all (fun c => (CodePoint.char c).isAscii) = true := by
    cases n with
    | mainnet => decide
    | testnet => decide
    | regtest => decide
  exact List.all_eq_true.mp all c mem

namespace Address

variable {network : Network} {address address' : Text} {d d' : Destination} {cs : List Char}

/-- The characters of an address in normal form, which depends on what it names. -/
def normal (type : ScriptType) (cs : List Char) : List Char :=
  match type with
  | .p2wpkh | .p2wsh | .p2tr => cs.map Text.lower
  | .p2pkh | .p2sh | .opReturn | .nonstandard => Text.trimRight cs

/-- How an address begins and what it names agree on its spelling. -/
theorem spelling_of_decode (decodes : decode network (.ofChars cs) = .ok d) :
    spelling network (.ofChars cs) = .ofChars (normal d.scriptType cs) := by
  cases reads_of_decode decodes with
  | witness chars reads spelled =>
    cases (Text.chars?_ofChars cs).symm.trans chars
    obtain ⟨-, -, ⟨-, type | type⟩ | ⟨-, type⟩⟩ := decodeWitness_eq_ok reads
    · rw [spelled, type, normal]
    · rw [spelled, type, normal]
    · rw [spelled, type, normal]
  | legacy chars lead reads spelled =>
    cases (Text.chars?_ofChars cs).symm.trans chars
    obtain ⟨-, -, ⟨-, type⟩ | ⟨-, type⟩⟩ := decodeLegacy_eq_ok reads
    · rw [spelled, type, normal]
    · rw [spelled, type, normal]

theorem exists_chars_of_decode (decodes : decode network address = .ok d) :
    ∃ cs, address = .ofChars cs := by
  cases reads_of_decode decodes with
  | witness chars => exact ⟨_, Text.chars?_eq_some_iff.mp chars⟩
  | legacy chars => exact ⟨_, Text.chars?_eq_some_iff.mp chars⟩

theorem isAscii_encodeCheck (payload : Bytes) :
    ∀ c ∈ (Base58.encodeCheck payload).points, c.isAscii = true := by
  intro c mem
  obtain ⟨c, digit, rfl⟩ := List.mem_map.mp mem
  exact Base58.isAscii_of_mem_alphabet (Base58.mem_alphabet_of_mem_encode digit)

theorem isAscii_witness (network : Network) (version : Bech32.Symbol) (program : Bytes) :
    ∀ c ∈ (Bech32.encode network.witnessPart version program).points, c.isAscii = true := by
  intro c mem
  obtain ⟨c, written, rfl⟩ := List.mem_map.mp mem
  rcases List.mem_append.mp written with part | rest
  · exact Network.isAscii_of_mem_witnessPart part
  · rcases List.mem_cons.mp rest with rfl | symbol
    · decide
    · obtain ⟨s, -, rfl⟩ := List.mem_map.mp symbol
      exact Bech32.isAscii_symbolChar s

/-- Addresses are written in ASCII. -/
theorem isAscii_encode (network : Network) (d : Destination) :
    ∀ c ∈ (encode network d).points, c.isAscii = true := by
  unfold encode
  cases d.scriptType with
  | p2pkh | p2sh => exact isAscii_encodeCheck _
  | p2wpkh | p2wsh | p2tr | opReturn | nonstandard => exact isAscii_witness network _ _

theorem encode_injective (standard : d.Standard) (standard' : d'.Standard) :
    encode network d = encode network d' ↔ d = d' := by
  refine ⟨fun same => ?_, congrArg _⟩
  have decodes := (decode_encode_iff network d).mpr standard
  rw [same, (decode_encode_iff network d').mpr standard'] at decodes
  exact (Except.ok.inj decodes).symm

/-- A text that names a destination is written for it again, in its normal form, which is ASCII. Two
texts of one network lead to one script exactly when their normal forms are the same. -/
theorem decode_canonical (decodes : decode network address = .ok d) :
    ∃ cs, address = .ofChars cs ∧ encode network d = .ofChars (normal d.scriptType cs) ∧
      (∀ c ∈ (encode network d).points, c.isAscii = true) ∧
      ∀ cs' d', decode network (.ofChars cs') = .ok d' →
        (d.script = d'.script ↔ normal d.scriptType cs = normal d'.scriptType cs') := by
  obtain ⟨cs, rfl⟩ := exists_chars_of_decode decodes
  have written := (encode_of_decode decodes).trans (spelling_of_decode decodes)
  refine ⟨cs, rfl, written, isAscii_encode network d, fun cs' d' decodes' => ?_⟩
  have written' := (encode_of_decode decodes').trans (spelling_of_decode decodes')
  have standard := standard_of_decode decodes
  have standard' := standard_of_decode decodes'
  calc d.script = d'.script
    _ ↔ d = d' := Destination.script_injective standard standard'
    _ ↔ encode network d = encode network d' := (encode_injective standard standard').symm
    _ ↔ Text.ofChars (normal d.scriptType cs) = .ofChars (normal d'.scriptType cs') := by
      rw [written, written']
    _ ↔ normal d.scriptType cs = normal d'.scriptType cs' := Text.ofChars_injective.eq_iff

/-- An address in upper case. -/
theorem decode_canonical_upper :
    let upper := "BCRT1QQYQSZQGPQYQSZQGPQYQSZQGPQYQSZQGPVXAT9T"
    let lower := "bcrt1qqyqszqgpqyqszqgpqyqszqgpqyqszqgpvxat9t"
    let d : Destination := ⟨.p2wpkh, List.replicate 20 1⟩
    decode .regtest upper = .ok d ∧ decode .regtest lower = .ok d ∧
      encode .regtest d = lower ∧
      normal .p2wpkh upper.toList = normal .p2wpkh lower.toList := by
  intro upper lower d
  have decodes : decode .regtest upper = .ok d := by decide +kernel
  have decodes' : decode .regtest (.ofChars lower.toList) = .ok d := by decide +kernel
  obtain ⟨cs, characters, written, -, same⟩ := decode_canonical decodes
  cases Text.ofChars_injective characters
  have forms := (same lower.toList d decodes').mp rfl
  have lowered : normal .p2wpkh lower.toList = lower.toList := by decide +kernel
  exact ⟨decodes, decodes', written.trans (congrArg Text.ofChars (forms.trans lowered)), forms⟩

end Address

end BitcoinReserve
