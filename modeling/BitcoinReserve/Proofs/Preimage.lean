import BitcoinReserve.Proofs.Bytes
import BitcoinReserve.Proofs.Text.Utf8
import BitcoinReserve.SignedAttestation

/-!
# What a signature covers

The bytes that are hashed for a signature are a tag, a name, an amount and a proof hash one after
another. The amount has a fixed width, but neither the name nor the proof hash tells its length: two
attestations have the same bytes where the name of one goes on into the amount and the proof hash of
the other.
-/
namespace BitcoinReserve.SignedAttestation

/-- What an attestation states. -/
structure Content where
  reserve : Text
  amount : Int
  proofHash : Bytes
  deriving DecidableEq, Repr

def content (a : SignedAttestation) : Content := ⟨a.reserve, a.amount, a.proofHash⟩

/-- The name of the first attestation goes on where that of the second ends, and what it goes on
with, its amount and its proof hash read as the amount and the proof hash of the second. -/
def Shifted (a b : SignedAttestation) : Prop :=
  ∃ name extra width width', extra ≠ [] ∧ Text.utf8? a.reserve = some (name ++ extra) ∧
    Text.utf8? b.reserve = some name ∧ Bytes.ofIntBE? 16 a.amount = some width ∧
    Bytes.ofIntBE? 16 b.amount = some width' ∧
    extra ++ width ++ a.proofHash = width' ++ b.proofHash

variable {a b : SignedAttestation} {x y : Bytes}

theorem preimage_eq_ok_iff :
    preimage a.reserve a.amount a.proofHash = .ok x ↔
      ∃ name width, Text.utf8? a.reserve = some name ∧ Bytes.ofIntBE? 16 a.amount = some width ∧
        x = tag ++ name ++ width ++ a.proofHash := by
  unfold preimage
  cases Text.utf8? a.reserve with
  | none => simp
  | some name =>
    cases Bytes.ofIntBE? 16 a.amount with
    | none => simp
    | some width => simp [eq_comm]

theorem Shifted.length_lt (shifted : a.Shifted b) : a.proofHash.length < b.proofHash.length := by
  obtain ⟨name, extra, width, width', longer, -, -, written, written', same⟩ := shifted
  have lengths := congrArg List.length same
  have positive : 0 < extra.length := List.length_pos_of_ne_nil longer
  have fixed := (Bytes.ofIntBE?_eq_some_iff.mp written).1
  have fixed' := (Bytes.ofIntBE?_eq_some_iff.mp written').1
  simp only [List.length_append, fixed, fixed'] at lengths
  omega

/-- The amount that the name goes on into is large, or the name has a null character. -/
theorem Shifted.nul_mem (shifted : a.Shifted b) (small : b.amount < 2 ^ 120) :
    .char '\x00' ∈ a.reserve.points := by
  obtain ⟨name, extra, width, width', longer, encoded, -, written, written', same⟩ := shifted
  have zero : width'.head? = some 0 := Bytes.head?_eq_zero written' small
  have fixed : width'.length = 16 := (Bytes.ofIntBE?_eq_some_iff.mp written').1
  have first : extra.head? = width'.head? := by
    have heads := congrArg List.head? same
    cases extra with
    | nil => exact absurd rfl longer
    | cons c extra =>
      cases width' with
      | nil => cases fixed
      | cons d width' => exact heads
  have mem : 0 ∈ extra := List.mem_of_mem_head? (first.trans zero)
  exact Text.nul_mem_of_utf8? encoded (List.mem_append_right name mem)

theorem Shifted.preimage_eq (shifted : a.Shifted b)
    (ha : preimage a.reserve a.amount a.proofHash = .ok x)
    (hb : preimage b.reserve b.amount b.proofHash = .ok y) : x = y := by
  obtain ⟨name, extra, width, width', -, encoded, encoded', written, written', same⟩ := shifted
  obtain ⟨_, _, named, wide, rfl⟩ := preimage_eq_ok_iff.mp ha
  obtain ⟨_, _, named', wide', rfl⟩ := preimage_eq_ok_iff.mp hb
  cases encoded.symm.trans named
  cases encoded'.symm.trans named'
  cases written.symm.trans wide
  cases written'.symm.trans wide'
  simp only [List.append_assoc] at same ⊢
  rw [same]

/-- Where the name of one attestation begins with that of the other. -/
theorem content_eq_or_shifted {name extra width width' : Bytes}
    (encoded : Text.utf8? a.reserve = some (name ++ extra))
    (encoded' : Text.utf8? b.reserve = some name)
    (written : Bytes.ofIntBE? 16 a.amount = some width)
    (written' : Bytes.ofIntBE? 16 b.amount = some width')
    (same : extra ++ width ++ a.proofHash = width' ++ b.proofHash) :
    a.content = b.content ∨ a.Shifted b := by
  by_cases whole : extra = []
  · subst whole
    left
    rw [List.append_nil] at encoded
    rw [List.nil_append] at same
    obtain ⟨fixed, value⟩ := Bytes.ofIntBE?_eq_some_iff.mp written
    obtain ⟨fixed', value'⟩ := Bytes.ofIntBE?_eq_some_iff.mp written'
    obtain ⟨rfl, proofs⟩ := List.append_inj same (fixed.trans fixed'.symm)
    rw [content, content, Text.eq_of_utf8? encoded encoded', value, value', proofs]
  · exact .inr ⟨name, extra, width, width', whole, encoded, encoded', written, written', same⟩

/-- Two attestations are signed over the same bytes exactly when they state the same or one is the
other shifted. They state the same as soon as their proof hashes have one length, and as soon as
their amounts leave a byte free and their names have no null character. -/
theorem preimage_eq_iff (ha : preimage a.reserve a.amount a.proofHash = .ok x)
    (hb : preimage b.reserve b.amount b.proofHash = .ok y) :
    (x = y ↔ a.content = b.content ∨ a.Shifted b ∨ b.Shifted a) ∧
      (a.proofHash.length = b.proofHash.length → x = y → a.content = b.content) ∧
      (a.amount < 2 ^ 120 → b.amount < 2 ^ 120 → .char '\x00' ∉ a.reserve.points →
        .char '\x00' ∉ b.reserve.points → x = y → a.content = b.content) := by
  have cases_eq : x = y → a.content = b.content ∨ a.Shifted b ∨ b.Shifted a := by
    intro same
    obtain ⟨name, width, encoded, written, rfl⟩ := preimage_eq_ok_iff.mp ha
    obtain ⟨name', width', encoded', written', rfl⟩ := preimage_eq_ok_iff.mp hb
    simp only [List.append_assoc, List.append_cancel_left_eq] at same
    rcases List.append_eq_append_iff.mp same with ⟨extra, rfl, rest⟩ | ⟨extra, rfl, rest⟩
    · rw [← List.append_assoc] at rest
      rcases content_eq_or_shifted encoded' encoded written' written rest.symm with equal | shifted
      · exact .inl equal.symm
      · exact .inr (.inr shifted)
    · rw [← List.append_assoc] at rest
      rcases content_eq_or_shifted encoded encoded' written written' rest.symm with equal | shifted
      · exact .inl equal
      · exact .inr (.inl shifted)
  refine ⟨⟨cases_eq, ?_⟩, fun lengths same => ?_, fun small small' plain plain' same => ?_⟩
  · rintro (equal | shifted | shifted)
    · obtain ⟨names, amounts, proofs⟩ := Content.mk.inj equal
      rw [names, amounts, proofs] at ha
      exact Except.ok.inj (ha.symm.trans hb)
    · exact shifted.preimage_eq ha hb
    · exact (shifted.preimage_eq hb ha).symm
  · rcases cases_eq same with equal | shifted | shifted
    · exact equal
    · exact absurd shifted.length_lt (by omega)
    · exact absurd shifted.length_lt (by omega)
  · rcases cases_eq same with equal | shifted | shifted
    · exact equal
    · exact absurd (shifted.nul_mem small') plain
    · exact absurd (shifted.nul_mem small) plain'

/-- The holder of the key 1 signs an amount of one bank. -/
def stated : SignedAttestation where
  key := "0279be667ef9dcbbac55a06295ce870b07029bfcdb2dce28d959f2815b16f81798"
  reserve := "bank-1"
  amount := 1000
  proofHash := List.replicate 32 0x11
  signature := "3045022100ff8643d11c34440ee4a73fa65ad3a2ad7bdeade240d0ba09004a63f9bda9758202204f" ++
    "dcc297d38191bbb332f4340054f2332e30cbc1b11379cf84a58070d54c5c38"

/-- The same bytes read as a larger amount of another bank. -/
def misread : SignedAttestation :=
  { stated with
    reserve := "bank"
    amount := 60069682356389420834469312032747290624
    proofHash := [0x03, 0xe8] ++ List.replicate 32 0x11 }

theorem preimage_eq_iff_misread :
    ∃ x y, preimage stated.reserve stated.amount stated.proofHash = .ok x ∧
      preimage misread.reserve misread.amount misread.proofHash = .ok y ∧ x = y ∧
      (stated.Shifted misread ∨ misread.Shifted stated) := by
  have name : Text.utf8? stated.reserve = some (Text.utf8 "bank-1") := by decide +kernel
  have name' : Text.utf8? misread.reserve = some (Text.utf8 "bank") := by decide +kernel
  have width : Bytes.ofIntBE? 16 stated.amount = some (Bytes.zeros 14 ++ [0x03, 0xe8]) := by
    decide +kernel
  have width' : Bytes.ofIntBE? 16 misread.amount = some ([0x2d, 0x31] ++ Bytes.zeros 14) := by
    decide +kernel
  have signed := preimage_eq_ok_iff.mpr ⟨_, _, name, width, rfl⟩
  have signed' := preimage_eq_ok_iff.mpr ⟨_, _, name', width', rfl⟩
  have same : tag ++ Text.utf8 "bank-1" ++ (Bytes.zeros 14 ++ [0x03, 0xe8]) ++ stated.proofHash =
      tag ++ Text.utf8 "bank" ++ ([0x2d, 0x31] ++ Bytes.zeros 14) ++ misread.proofHash := by
    decide +kernel
  have other : stated.content ≠ misread.content := by decide +kernel
  obtain ⟨⟨cases, -⟩, -⟩ := preimage_eq_iff signed signed'
  exact ⟨_, _, signed, signed', same, (cases same).resolve_left other⟩

/-- One signature is accepted for both. -/
theorem verify_misread :
    preimage stated.reserve stated.amount stated.proofHash =
        preimage misread.reserve misread.amount misread.proofHash ∧
      stated.reserve ≠ misread.reserve ∧ stated.amount ≠ misread.amount ∧
      stated.verify = .ok true ∧ misread.verify = .ok true := by
  decide +kernel

end BitcoinReserve.SignedAttestation
