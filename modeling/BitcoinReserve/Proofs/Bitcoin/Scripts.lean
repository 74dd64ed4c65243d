import BitcoinReserve.Bank.Redeeming
import BitcoinReserve.Proofs.Bitcoin.RoundTrip

/-!
# Scripts of destinations

Whether an output pays a destination is read off some bytes of its script and off its length. This
covers every byte: the only script that pays a destination is the one that is written for it.
-/
namespace BitcoinReserve

namespace Script

/-- The bytes around the hash in a standard script, and how long the hash is. -/
structure Template where
  opening : Bytes
  size : Nat
  closing : Bytes

namespace Template

variable {t : Template} {script hash : Bytes}

def fill (t : Template) (hash : Bytes) : Bytes := t.opening ++ hash ++ t.closing

/-- A script fills the template when it has its length, begins and ends like it, and has the hash in
between. -/
theorem fill_iff :
    hash.length = t.size ∧ script = t.fill hash ↔
      script.length = t.opening.length + t.size + t.closing.length ∧
        script.take t.opening.length = t.opening ∧
        script.drop (t.opening.length + t.size) = t.closing ∧
        (script.drop t.opening.length).take t.size = hash := by
  constructor
  · rintro ⟨length, rfl⟩
    refine ⟨?_, by simp [fill], ?_, by simp [fill, ← length]⟩
    · rw [fill, List.length_append, List.length_append, length]
    · rw [fill, ← length, ← List.length_append, List.drop_left]
  · rintro ⟨length, begins, ends, rfl⟩
    refine ⟨by simp; omega, ?_⟩
    rw [fill, ← ends, ← List.drop_drop, List.append_assoc, List.take_append_drop]
    conv_lhs => rw [← List.take_append_drop t.opening.length script, begins]

/-- Where nothing closes a script, the hash is all that follows its opening. -/
theorem fill_iff_of_open (opened : t.closing = []) :
    hash.length = t.size ∧ script = t.fill hash ↔
      script.length = t.opening.length + t.size ∧ script.take t.opening.length = t.opening ∧
        script.drop t.opening.length = hash := by
  rw [fill_iff, opened, List.length_nil, Nat.add_zero]
  refine and_congr_right fun length => and_congr_right fun _ => ?_
  have rest : (script.drop t.opening.length).length = t.size := by
    rw [List.length_drop, length, Nat.add_sub_cancel_left]
  rw [List.take_of_length_le rest.le, and_iff_right (List.drop_eq_nil_of_le length.le)]

end Template

/-- The template of the scripts of a type. -/
def template? : ScriptType → Option Template
  | .p2pkh => some ⟨[0x76, 0xa9, 20], 20, [0x88, 0xac]⟩
  | .p2sh => some ⟨[0xa9, 20], 20, [0x87]⟩
  | .p2wpkh => some ⟨[0x00, 20], 20, []⟩
  | .p2wsh => some ⟨[0x00, 32], 32, []⟩
  | .p2tr => some ⟨[0x51, 32], 32, []⟩
  | .opReturn | .nonstandard => none

/-- A script is found to be of a type and to commit to a hash exactly when it is the template of the
type filled with the hash. -/
theorem commits_iff {type : ScriptType} {script hash : Bytes} :
    classify script = type ∧ committed? script = some hash ↔
      ∃ t, template? type = some t ∧ hash.length = t.size ∧ script = t.fill hash := by
  constructor
  · rintro ⟨rfl, commits⟩
    unfold committed? at commits
    generalize found : classify script = type at commits
    unfold classify at found
    split_ifs at found with key hashed witnessKey witnessHash taproot returns
    · cases found
      exact ⟨_, rfl, Template.fill_iff.mpr ⟨key.1, key.2.1, key.2.2, Option.some.inj commits⟩⟩
    · cases found
      exact ⟨_, rfl,
        Template.fill_iff.mpr ⟨hashed.1, hashed.2.1, hashed.2.2, Option.some.inj commits⟩⟩
    · cases found
      exact ⟨_, rfl, (Template.fill_iff_of_open rfl).mpr
        ⟨witnessKey.1, witnessKey.2, Option.some.inj commits⟩⟩
    · cases found
      exact ⟨_, rfl, (Template.fill_iff_of_open rfl).mpr
        ⟨witnessHash.1, witnessHash.2, Option.some.inj commits⟩⟩
    · cases found
      exact ⟨_, rfl, (Template.fill_iff_of_open rfl).mpr
        ⟨taproot.1, taproot.2, Option.some.inj commits⟩⟩
    · cases found
      cases commits
    · cases found
      cases commits
  · rintro ⟨t, found, filled⟩
    have type_eq : classify script = type := by
      obtain ⟨length, begins, ends, -⟩ := Template.fill_iff.mp filled
      cases type with
      | p2pkh | p2sh | p2wpkh | p2wsh | p2tr =>
        cases found
        simp only [List.length_cons, List.length_nil] at length begins ends
        simp [classify, length, begins, ends]
      | opReturn | nonstandard => cases found
    refine ⟨type_eq, ?_⟩
    unfold committed?
    rw [type_eq]
    cases type with
    | p2pkh | p2sh =>
      cases found
      obtain ⟨-, -, -, middle⟩ := Template.fill_iff.mp filled
      exact congrArg some middle
    | p2wpkh | p2wsh | p2tr =>
      cases found
      obtain ⟨-, -, rest⟩ := (Template.fill_iff_of_open rfl).mp filled
      exact congrArg some rest
    | opReturn | nonstandard => cases found

end Script

namespace Destination

open Script

variable {d : Destination} {script : Bytes} {outputs outputs' : List TxOutput}

theorem standard_iff :
    d.Standard ↔ ∃ t, template? d.scriptType = some t ∧ d.hash.length = t.size := by
  unfold Standard
  cases d.scriptType with
  | p2pkh | p2sh | p2wpkh | p2wsh | p2tr => simp [template?]
  | opReturn | nonstandard => simp [template?]

/-- The script of a destination is the template of its type filled with its hash. -/
theorem script_of_template {t : Template} (found : template? d.scriptType = some t)
    (length : d.hash.length = t.size) : d.script = .ok (t.fill d.hash) := by
  obtain ⟨type, hash⟩ := d
  cases type with
  | p2pkh | p2sh =>
    cases found
    rfl
  | p2wpkh | p2wsh | p2tr =>
    cases found
    have length : hash.length = _ := length
    simp [script, witnessScript, length, Template.fill]
  | opReturn | nonstandard => cases found

theorem exists_script (standard : d.Standard) : ∃ script, d.script = .ok script := by
  obtain ⟨t, found, length⟩ := standard_iff.mp standard
  exact ⟨_, script_of_template found length⟩

/-- Only the script of a destination pays it, and only if its hash has the length of its type. -/
theorem isPaidBy_iff : d.isPaidBy script = true ↔ d.Standard ∧ d.script = .ok script := by
  simp only [isPaidBy, Bool.and_eq_true, decide_eq_true_eq, commits_iff, standard_iff]
  constructor
  · rintro ⟨t, found, length, rfl⟩
    exact ⟨⟨t, found, length⟩, script_of_template found length⟩
  · rintro ⟨⟨t, found, length⟩, written⟩
    have same := (script_of_template found length).symm.trans written
    exact ⟨t, found, length, (Except.ok.inj same).symm⟩

theorem isPaidBy_iff_eq (standard : d.Standard) (written : d.script = .ok script) {other : Bytes} :
    d.isPaidBy other = true ↔ other = script := by
  rw [isPaidBy_iff, written, and_iff_right standard, Except.ok.injEq, eq_comm]

/-- A script pays one destination, since it is of one type and commits to one hash. -/
theorem eq_of_isPaidBy {d' : Destination} (pays : d.isPaidBy script = true)
    (pays' : d'.isPaidBy script = true) : d = d' := by
  simp only [isPaidBy, Bool.and_eq_true, decide_eq_true_eq] at pays pays'
  obtain ⟨type, hash⟩ := pays
  obtain ⟨type', hash'⟩ := pays'
  obtain ⟨_, _⟩ := d
  obtain ⟨_, _⟩ := d'
  cases type.symm.trans type'
  cases hash.symm.trans hash'
  rfl

theorem script_injective {d' : Destination} (standard : d.Standard) (standard' : d'.Standard) :
    d.script = d'.script ↔ d = d' := by
  refine ⟨fun same => ?_, congrArg _⟩
  obtain ⟨script, written⟩ := exists_script standard
  have written' := same.symm.trans written
  have pays : d.isPaidBy script = true := isPaidBy_iff.mpr ⟨standard, written⟩
  exact eq_of_isPaidBy pays (isPaidBy_iff.mpr ⟨standard', written'⟩)

theorem amountPaid_eq (d : Destination) (outputs : List TxOutput) :
    d.amountPaid outputs = ((outputs.filter fun o => d.isPaidBy o.script).map TxOutput.value).sum := by
  induction outputs with
  | nil => rfl
  | cons o outputs ih =>
    rw [amountPaid, List.foldr_cons, ← amountPaid, ih, List.filter_cons]
    split
    · rw [List.map_cons, List.sum_cons]
    · rfl

theorem amountPaid_append (d : Destination) (outputs outputs' : List TxOutput) :
    d.amountPaid (outputs ++ outputs') = d.amountPaid outputs + d.amountPaid outputs' := by
  simp only [amountPaid_eq, List.filter_append, List.map_append, List.sum_append]

theorem amountPaid_perm (d : Destination) (same : outputs.Perm outputs') :
    d.amountPaid outputs = d.amountPaid outputs' := by
  simp only [amountPaid_eq]
  exact ((same.filter _).map _).sum_eq

/-- What is paid to a destination is what the outputs with its script hold. -/
theorem amountPaid_of_script (standard : d.Standard) (written : d.script = .ok script)
    (outputs : List TxOutput) :
    d.amountPaid outputs =
      ((outputs.filter fun o => o.script = script).map TxOutput.value).sum := by
  rw [amountPaid_eq]
  congr 2
  refine List.filter_congr fun o _ => ?_
  rw [Bool.eq_iff_iff, isPaidBy_iff_eq standard written, decide_eq_true_eq]

end Destination

theorem Bank.amountPaid_of_decode {network : Network} {address : Text} {d : Destination}
    {vector : Bytes} {outputs : List TxOutput} (decodes : Address.decode network address = .ok d)
    (read : OutputVector.decode vector = .ok outputs) :
    amountPaid network address vector = d.amountPaid outputs := by
  simp only [amountPaid, decodes, read]

/-- The hash that an address names has the length of its type, and one script pays it: the one that
is written for it, byte for byte. What a vector of outputs pays to the address is therefore the sum
of the outputs with this script: it adds up over lists, and their order does not matter. -/
theorem paid_by_own_script {network : Network} {address : Text} {d : Destination}
    (decodes : Address.decode network address = .ok d) :
    d.Standard ∧ ∃ script, d.script = .ok script ∧
      (∀ other, d.isPaidBy other = true ↔ other = script) ∧
      (∀ vector outputs, OutputVector.decode vector = .ok outputs →
        Bank.amountPaid network address vector = d.amountPaid outputs) ∧
      ∀ outputs : List TxOutput,
        d.amountPaid outputs =
          ((outputs.filter fun o => o.script = script).map TxOutput.value).sum ∧
        (∀ more, d.amountPaid (outputs ++ more) = d.amountPaid outputs + d.amountPaid more) ∧
        ∀ sorted, outputs.Perm sorted → d.amountPaid outputs = d.amountPaid sorted := by
  have standard := Address.standard_of_decode decodes
  obtain ⟨script, written⟩ := Destination.exists_script standard
  refine ⟨standard, script, written, ?_, ?_, fun outputs => ⟨?_, ?_, ?_⟩⟩
  · exact fun other => Destination.isPaidBy_iff_eq standard written
  · exact fun vector outputs read => Bank.amountPaid_of_decode decodes read
  · exact Destination.amountPaid_of_script standard written outputs
  · exact d.amountPaid_append outputs
  · exact fun sorted same => d.amountPaid_perm same

/-- Two outputs pay the address, and one between them another key hash. -/
theorem paid_by_own_script_twice :
    let address : Text := "bcrt1qpv9skzctpv9skzctpv9skzctpv9skzctn6078e"
    let d : Destination := ⟨.p2wpkh, List.replicate 20 11⟩
    let keyed (n : UInt8) : Bytes := [0, 20] ++ List.replicate 20 n
    let vector : Bytes := [3, 0xe8, 3] ++ Bytes.zeros 6 ++ [22] ++ keyed 11 ++
      [7] ++ Bytes.zeros 7 ++ [22] ++ keyed 12 ++ [5] ++ Bytes.zeros 7 ++ [22] ++ keyed 11
    let outputs : List TxOutput := [⟨1000, keyed 11⟩, ⟨7, keyed 12⟩, ⟨5, keyed 11⟩]
    Address.decode .regtest address = .ok d ∧ OutputVector.decode vector = .ok outputs ∧
      d.script = .ok (keyed 11) ∧ d.isPaidBy (keyed 11) = true ∧
      Bank.amountPaid .regtest address vector = 1005 ∧
      d.amountPaid outputs = d.amountPaid outputs.reverse := by
  intro address d keyed vector outputs
  have decodes : Address.decode .regtest address = .ok d := by decide +kernel
  have read : OutputVector.decode vector = .ok outputs := by decide +kernel
  obtain ⟨-, script, written, pays, vectors, lists⟩ := paid_by_own_script decodes
  obtain ⟨total, -, unordered⟩ := lists outputs
  have same : script = keyed 11 := (Except.ok.inj written).symm
  refine ⟨decodes, read, rfl, (pays _).mpr same.symm, ?_, ?_⟩
  · rw [vectors vector outputs read, total, same]
    decide +kernel
  · exact unordered _ outputs.reverse_perm.symm

end BitcoinReserve
