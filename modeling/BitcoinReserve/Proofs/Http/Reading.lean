import BitcoinReserve.Http.Server
import BitcoinReserve.Proofs.Outcome
import BitcoinReserve.Proofs.Preimage

/-!
# What bodies are read as

A body that lacks what a handler needs is malformed. A few bodies are not expected at all: numbers
that are infinite, values that are no text where only a text has bytes, names and amounts that have
no bytes to be hashed, and values without members that are asked for them.
-/
namespace BitcoinReserve

namespace Json

/-- Neither a text nor a value with other values in it. -/
def isScalar : Json → Bool
  | null | bool _ | int _ | real _ => true
  | text _ | array _ | object _ => false

def isContainer : Json → Bool
  | array _ | object _ => true
  | _ => false

theorem text?_eq_some_iff {j : Json} {s : Text} : j.text? = some s ↔ j = .text s := by
  cases j <;> simp [text?]

theorem text?_eq_none_of_isScalar {j : Json} (scalar : j.isScalar = true) : j.text? = none := by
  cases j with
  | text => cases scalar
  | _ => rfl

theorem text?_eq_none_of_isContainer {j : Json} (container : j.isContainer = true) :
    j.text? = none := by
  cases j with
  | text => cases container
  | _ => rfl

theorem isScalar_or_isContainer {j : Json} (strange : j.text? = none) :
    j.isScalar = true ∨ j.isContainer = true := by
  cases j with
  | text => cases strange
  | array | object => exact .inr rfl
  | _ => exact .inl rfl

theorem toInt_eq_infinite_iff {j : Json} :
    j.toInt = .error .infinite ↔ ∃ negative, j = .real (.infinity negative) := by
  constructor
  · intro fault
    cases j with
    | real x =>
      cases x with
      | infinity negative => exact ⟨negative, rfl⟩
      | _ => cases fault
    | text s =>
      simp only [toInt] at fault
      split at fault
      · cases fault
      · cases fault
    | _ => cases fault
  · rintro ⟨negative, rfl⟩
    rfl

theorem realText_ne_empty (x : Binary64) : realText x ≠ "" := by
  cases x with
  | finite negative m e =>
    have magnitude : Binary64.magnitudeText m e ≠ "" := by
      unfold Binary64.magnitudeText
      dsimp only
      split_ifs <;> simp [String.append_eq_empty_iff]
    simp [realText, String.append_eq_empty_iff, magnitude]
  | infinity negative => cases negative <;> simp [realText]
  | nan => simp [realText]

/-- A value of substance has words. -/
theorem describe_ne_empty {j : Json} (substantial : j.isSubstantial = true) :
    j.describe ≠ .empty := by
  have words {s : String} (nonempty : s ≠ "") : Text.ofString s ≠ .empty := by
    intro empty
    have points : s.toList.map CodePoint.char = [] := congrArg Text.points empty
    exact nonempty (String.toList_eq_nil_iff.mp (List.map_eq_nil_iff.mp points))
  cases j with
  | null => cases substantial
  | bool b =>
    cases b with
    | false => cases substantial
    | true => exact words (by decide)
  | int n =>
    cases n with
    | ofNat m => exact words Nat.repr_ne_empty
    | negSucc m => exact words (by simp [toString, Int.repr, String.append_eq_empty_iff])
  | real x => exact words (realText_ne_empty x)
  | text s =>
    rintro rfl
    cases substantial
  | array items => exact nofun
  | object members => exact nofun

end Json

namespace Wire

variable {j : Json} {name : String} {fault : Json.NumberFault}

theorem field_ne_number : field j name ≠ .error (.number fault) := by
  unfold field
  split
  · split <;> exact nofun
  · exact nofun

theorem bytes_ne_number {marks : List (List Char)} :
    bytes marks name j ≠ .error (.number fault) := by
  unfold bytes
  split
  · split <;> exact nofun
  · exact nofun

end Wire

theorem Transaction.ofJson_ne_number {j : Json} {fault : Json.NumberFault} :
    Transaction.ofJson j ≠ .error (.number fault) := by
  simp [Transaction.ofJson, Check.bind_eq_error_iff, Wire.field_ne_number, Wire.bytes_ne_number,
    pure, Except.pure]

/-- The index is the only number of evidence, and the branch is read before it. -/
theorem Evidence.ofJson_eq_infinite_iff {j : Json} :
    Evidence.ofJson j = .error (.number .infinite) ↔
      (∃ branch, Evidence.bytesOf j "merkle_proof" = .ok branch) ∧
        ∃ negative, Wire.field j "tx_index_in_block" = .ok (.real (.infinity negative)) := by
  have known (name : String) : Evidence.bytesOf j name ≠ .error (.number .infinite) := by
    simp [Evidence.bytesOf, Check.bind_eq_error_iff, Wire.field_ne_number, Wire.bytes_ne_number]
  simp [Evidence.ofJson, Check.bind_eq_error_iff, known, Wire.field_ne_number, pure, Except.pure,
    Check.mapError_eq_error_iff, Json.toInt_eq_infinite_iff, -Bool.exists_bool]

theorem Bytes.ofIntBE?_eq_none_iff {width : Nat} {n : Int} :
    ofIntBE? width n = none ↔ ¬ (0 ≤ n ∧ n < span width) := by
  cases n with
  | ofNat n => simp [ofIntBE?, ofIntLE?]
  | negSucc n =>
    have negative : ¬ 0 ≤ Int.negSucc n := by simp
    simp [ofIntBE?, ofIntLE?, negative]

/-- Over 32 bytes the only fault is that the multiples cancel out. -/
theorem Ecdsa.verifyHex_eq_error {key signature : Text} {digest : Bytes} {fault : Fault}
    (length : digest.length = 32) (failed : verifyHex key digest signature = .error fault) :
    fault = .pointAtInfinity := by
  unfold verifyHex at failed
  split at failed
  · rename_i p bytes _ _
    have long : ¬ 32 < digest.length := by omega
    have nonempty : digest ≠ [] := by
      rintro rfl
      cases length
    simp only [verify, long, nonempty, if_false] at failed
    split at failed
    · cases failed
    · simp only [Signature.fits] at failed
      split_ifs at failed
      split at failed
      · cases failed
        rfl
      · cases failed
  · cases failed

namespace SignedAttestation

variable {a : SignedAttestation}

/-- The multiples that the check of a signature adds cancel out. -/
def Cancels (a : SignedAttestation) : Prop := a.verify = .error (.signature .pointAtInfinity)

/-- Why a signature cannot be judged. -/
theorem verify_fails_iff :
    (∃ fault, a.verify = .error fault) ↔
      Text.utf8? a.reserve = none ∨ ¬ (0 ≤ a.amount ∧ a.amount < 2 ^ 128) ∨ a.Cancels := by
  have width : ((Bytes.span 16 : Nat) : Int) = 2 ^ 128 := by decide
  rw [← width, ← Bytes.ofIntBE?_eq_none_iff]
  unfold Cancels verify digest preimage
  cases Text.utf8? a.reserve with
  | none => simp [Except.map, bind, Except.bind]
  | some name =>
    cases Bytes.ofIntBE? 16 a.amount with
    | none => simp [Except.map, bind, Except.bind]
    | some amount =>
      simp only [Except.map, bind, Except.bind, reduceCtorEq, false_or,
        Check.mapError_eq_error_iff, Fault.signature.injEq, exists_eq_right]
      constructor
      · rintro ⟨_, fault, failed, rfl⟩
        rw [Ecdsa.verifyHex_eq_error (length_sha256 _) failed] at failed
        exact failed
      · exact fun failed => ⟨_, _, failed, rfl⟩

end SignedAttestation

namespace Http

/-- The body of a request lies too deep to be read. -/
def Request.TooDeep (depth : Nat) (r : Request) : Prop :=
  ∃ text, (r.body.bind Text.utf8?).bind Json.decode? = some text ∧
    Json.read depth text = .error .tooDeep

theorem bodyOf_eq_error_iff {depth : Nat} {r : Request} {x : Response} :
    bodyOf depth r = .error x ↔ r.TooDeep depth ∧ x = .internal := by
  unfold bodyOf Request.TooDeep
  cases (r.body.bind Text.utf8?).bind Json.decode? with
  | none => simp
  | some text =>
    simp only [Option.some.injEq, exists_eq_left']
    generalize Json.read depth text = read
    cases read with
    | ok j => simp
    | error fault => cases fault <;> simp [eq_comm]

theorem Response.malformed_ne_internal (message : Text) : malformed message ≠ internal :=
  nofun

variable {malformed x : Response} {j : Json} {name : String}

theorem member_eq_ok_iff {value : Json} :
    member malformed j name = .ok value ↔ Wire.field j name = .ok value :=
  Check.mapError_eq_ok_iff

theorem member_eq_error_iff :
    member malformed j name = .error x ↔ (∃ fault, Wire.field j name = .error fault) ∧
      malformed = x := by
  simp [member, Check.mapError_eq_error_iff]

theorem integer_eq_ok_iff {n : Int} : integer malformed j = .ok n ↔ j.toInt = .ok n :=
  Check.mapError_eq_ok_iff

theorem integer_eq_error_iff :
    integer malformed j = .error x ↔
      (∃ negative, j = .real (.infinity negative)) ∧ .internal = x ∨
        (∃ fault, j.toInt = .error fault ∧ fault ≠ .infinite) ∧ malformed = x := by
  rw [← Json.toInt_eq_infinite_iff, integer, Check.mapError_eq_error_iff]
  cases j.toInt with
  | ok n => simp
  | error fault => cases fault <;> simp

theorem wired_eq_ok_iff {α : Type} {y : Except Wire.Fault α} {a : α} :
    wired malformed y = .ok a ↔ y = .ok a :=
  Check.mapError_eq_ok_iff

theorem wired_eq_error_iff {α : Type} {y : Except Wire.Fault α} :
    wired malformed y = .error x ↔
      y = .error (.number .infinite) ∧ .internal = x ∨
        (∃ fault, y = .error fault ∧ fault ≠ .number .infinite) ∧ malformed = x := by
  rw [wired, Check.mapError_eq_error_iff]
  cases y with
  | ok a => simp
  | error fault =>
    cases fault with
    | number fault => cases fault <;> simp
    | _ => simp

namespace Attest

/-- What is not expected of a posted attestation. -/
inductive Unforeseen (j : Json) : Prop
  | infinite {key reserve : Json} {negative : Bool}
      (keyed : Wire.field j "attester_pubkey" = .ok key)
      (named : Wire.field j "reserve_id" = .ok reserve)
      (amount : Wire.field j "amount" = .ok (.real (.infinity negative)))
  | reserve {f : Form} (reads : form j = .ok f) (strange : f.reserve.text? = none)
  | key {f : Form} (reads : form j = .ok f) (strange : f.key.text? = none)
  /-- The signature is looked at where the key is good. -/
  | signature {f : Form} {key : Text} {p : Secp256k1.Point} (reads : form j = .ok f)
      (keyed : f.key = .text key) (good : (Hex.decode? key).bind Secp256k1.Point.decode? = some p)
      (strange : f.signature.text? = none)
  | unencodable {f : Form} {reserve : Text} (reads : form j = .ok f)
      (named : f.reserve = .text reserve) (surrogate : Text.utf8? reserve = none)
  | outOfRange {f : Form} (reads : form j = .ok f)
      (range : ¬ (0 ≤ f.amount ∧ f.amount < 2 ^ 128))
  | cancels {f : Form} {a : SignedAttestation} (reads : form j = .ok f)
      (attests : attestation f = .ok a) (cancels : a.Cancels)

theorem form_eq_internal_iff :
    form j = .error .internal ↔
      (∃ key, Wire.field j "attester_pubkey" = .ok key) ∧
        (∃ reserve, Wire.field j "reserve_id" = .ok reserve) ∧
        ∃ negative, Wire.field j "amount" = .ok (.real (.infinity negative)) := by
  have unlike : Attest.malformed ≠ .internal := Response.malformed_ne_internal _
  simp [form, Check.bind_eq_error_iff, member_eq_error_iff, member_eq_ok_iff, integer_eq_error_iff,
    wired_eq_error_iff, Wire.bytes_ne_number, unlike, pure, Except.pure, -Bool.exists_bool]

theorem malformed_or_internal_of_form (failed : form j = .error x) :
    x = Attest.malformed ∨ x = .internal := by
  simp only [form, Check.bind_eq_error_iff, member_eq_error_iff, integer_eq_error_iff,
    wired_eq_error_iff, pure, Except.pure, reduceCtorEq, and_false, exists_false, or_false] at failed
  grind

theorem attestation_eq_error_iff {f : Form} :
    attestation f = .error x ↔ x = .internal ∧
      (f.reserve.text? = none ∨ f.key.text? = none ∨
        (∃ key p, f.key = .text key ∧
          (Hex.decode? key).bind Secp256k1.Point.decode? = some p) ∧ f.signature.text? = none) := by
  obtain ⟨key, reserve, amount, proofHash, signature⟩ := f
  cases reserve with
  | text reserve =>
    cases key with
    | text key =>
      cases signature with
      | text signature => simp [attestation, Json.text?]
      | _ =>
        simp only [attestation, Json.text?, Json.text.injEq, exists_and_left, exists_eq_left']
        cases (Hex.decode? key).bind Secp256k1.Point.decode? with
        | none => simp
        | some p => simp [eq_comm]
    | _ => simp [attestation, Json.text?, eq_comm]
  | _ => simp [attestation, Json.text?, eq_comm]

theorem attestation_eq_ok {f : Form} {a : SignedAttestation} (attests : attestation f = .ok a) :
    f.reserve = .text a.reserve ∧ f.amount = a.amount := by
  obtain ⟨key, reserve, amount, proofHash, signature⟩ := f
  unfold attestation at attests
  split at attests
  · rename_i named _ _
    cases attests
    exact ⟨named, rfl⟩
  · rename_i named _ _
    split at attests
    · cases attests
    · cases attests
      exact ⟨named, rfl⟩
  · cases attests

/-- What is expected of a body has a signature that can be judged. -/
theorem judged_or_unforeseen (j : Json) :
    form j = .error Attest.malformed ∨
      (∃ a genuine, (form j).bind attestation = .ok a ∧ a.verify = .ok genuine) ∨
      Unforeseen j := by
  cases reads : form j with
  | error x =>
    rcases malformed_or_internal_of_form reads with rfl | rfl
    · exact .inl rfl
    · obtain ⟨⟨_, keyed⟩, ⟨_, named⟩, _, amount⟩ := form_eq_internal_iff.mp reads
      exact .inr (.inr (.infinite keyed named amount))
  | ok f =>
    right
    cases attests : attestation f with
    | error x =>
      obtain ⟨-, reserve | key | ⟨⟨_, _, keyed, good⟩, signature⟩⟩ :=
        attestation_eq_error_iff.mp attests
      · exact .inr (.reserve reads reserve)
      · exact .inr (.key reads key)
      · exact .inr (.signature reads keyed good signature)
    | ok a =>
      cases judged : a.verify with
      | ok genuine => exact .inl ⟨a, genuine, attests, judged⟩
      | error fault =>
        obtain ⟨named, amount⟩ := attestation_eq_ok attests
        rcases SignedAttestation.verify_fails_iff.mp ⟨fault, judged⟩ with
          surrogate | range | cancels
        · exact .inr (.unencodable reads named surrogate)
        · exact .inr (.outOfRange reads (amount ▸ range))
        · exact .inr (.cancels reads attests cancels)

/-- What is not expected is not read, or has a signature that cannot be judged. -/
theorem Unforeseen.fails (unforeseen : Unforeseen j) :
    (form j).bind attestation = .error .internal ∨
      ∃ a fault, (form j).bind attestation = .ok a ∧ a.verify = .error fault := by
  have unread {f : Form} (reads : form j = .ok f)
      (strange : f.reserve.text? = none ∨ f.key.text? = none ∨
        (∃ key p, f.key = .text key ∧
          (Hex.decode? key).bind Secp256k1.Point.decode? = some p) ∧ f.signature.text? = none) :
      (form j).bind attestation = .error .internal := by
    rw [reads]
    exact attestation_eq_error_iff.mpr ⟨rfl, strange⟩
  have unjudged {f : Form} (reads : form j = .ok f)
      (bad : ∀ a, attestation f = .ok a → ∃ fault, a.verify = .error fault) :
      (form j).bind attestation = .error .internal ∨
        ∃ a fault, (form j).bind attestation = .ok a ∧ a.verify = .error fault := by
    rw [reads]
    cases attests : attestation f with
    | error x =>
      obtain ⟨rfl, -⟩ := attestation_eq_error_iff.mp attests
      exact .inl attests
    | ok a =>
      obtain ⟨fault, failed⟩ := bad a attests
      exact .inr ⟨a, fault, attests, failed⟩
  cases unforeseen with
  | infinite keyed named amount =>
    have failed := form_eq_internal_iff.mpr ⟨⟨_, keyed⟩, ⟨_, named⟩, _, amount⟩
    rw [failed]
    exact .inl rfl
  | reserve reads strange => exact .inl (unread reads (.inl strange))
  | key reads strange => exact .inl (unread reads (.inr (.inl strange)))
  | signature reads keyed good strange =>
    exact .inl (unread reads (.inr (.inr ⟨⟨_, _, keyed, good⟩, strange⟩)))
  | unencodable reads named surrogate =>
    refine unjudged reads fun a attests => SignedAttestation.verify_fails_iff.mpr (.inl ?_)
    cases named.symm.trans (attestation_eq_ok attests).1
    exact surrogate
  | outOfRange reads range =>
    refine unjudged reads fun a attests => SignedAttestation.verify_fails_iff.mpr (.inr (.inl ?_))
    rw [← (attestation_eq_ok attests).2]
    exact range
  | cancels reads attests cancels =>
    refine unjudged reads fun b attests' => ?_
    cases attests.symm.trans attests'
    exact ⟨_, cancels⟩

end Attest

namespace Fulfill

/-- What is not expected of a posted fulfilment: an infinite amount, or an infinite index after
everything before it is read. -/
inductive Unforeseen (j : Json) : Prop
  | amount {negative : Bool}
      (amount : Wire.field j "satoshi_amount" = .ok (.real (.infinity negative)))
  | index {amount payment proof : Json} {n : Int} {tx : Transaction} {branch : Bytes}
      {negative : Bool} (counted : Wire.field j "satoshi_amount" = .ok amount)
      (number : amount.toInt = .ok n) (paid : Wire.field j "tx_info" = .ok payment)
      (transaction : Transaction.ofJson payment = .ok tx) (proven : Wire.field j "proof" = .ok proof)
      (path : Evidence.bytesOf proof "merkle_proof" = .ok branch)
      (index : Wire.field proof "tx_index_in_block" = .ok (.real (.infinity negative)))

theorem form_eq_internal_iff : form j = .error .internal ↔ Unforeseen j := by
  have unlike : Fulfill.malformed ≠ .internal := Response.malformed_ne_internal _
  simp only [form, Check.bind_eq_error_iff, member_eq_error_iff, member_eq_ok_iff,
    integer_eq_error_iff, integer_eq_ok_iff, wired_eq_error_iff, wired_eq_ok_iff,
    Transaction.ofJson_ne_number, Evidence.ofJson_eq_infinite_iff, unlike, pure, Except.pure,
    and_false, and_true, false_or, or_false, reduceCtorEq, exists_false]
  constructor
  · rintro ⟨_, counted, ⟨_, rfl⟩ |
      ⟨n, number, _, paid, tx, transaction, _, proven, ⟨_, path⟩, _, index⟩⟩
    · exact .amount counted
    · exact .index counted number paid transaction proven path index
  · rintro (amount | ⟨counted, number, paid, transaction, proven, path, index⟩)
    · exact ⟨_, amount, .inl ⟨_, rfl⟩⟩
    · exact ⟨_, counted, .inr
        ⟨_, number, _, paid, _, transaction, _, proven, ⟨_, path⟩, _, index⟩⟩

theorem malformed_or_internal_of_form (failed : form j = .error x) :
    x = Fulfill.malformed ∨ x = .internal := by
  simp only [form, Check.bind_eq_error_iff, member_eq_error_iff, integer_eq_error_iff,
    wired_eq_error_iff, pure, Except.pure, reduceCtorEq, and_false, exists_false, or_false] at failed
  grind

end Fulfill

/-- What is not expected of a body that two members are looked for in: it has no members, or it
mentions both names without being an object. -/
inductive Mistaken (first second : String) : Json → Prop
  | scalar {j : Json} (scalar : j.isScalar = true) : Mistaken first second j
  | array {items : List Json} (one : ∃ item ∈ items, item.text? = some (Text.ofString first))
      (other : ∃ item ∈ items, item.text? = some (Text.ofString second)) :
      Mistaken first second (.array items)
  | text {s : Text} (one : occursIn (Text.ofString first).points s.points = true)
      (other : occursIn (Text.ofString second).points s.points = true) :
      Mistaken first second (.text s)

theorem twoMembers_eq_internal_iff {first second : String} :
    twoMembers j first second = .error .internal ↔ Mistaken first second j := by
  have unlike (message : Text) : Response.malformed message ≠ .internal :=
    Response.malformed_ne_internal message
  constructor
  · intro failed
    unfold twoMembers at failed
    cases j with
    | object members =>
      simp only at failed
      split at failed
      · cases failed
      · exact absurd (Except.error.inj failed) (unlike _)
    | array items =>
      simp only at failed
      split_ifs at failed with mentions
      · simp only [Bool.and_eq_true, List.any_eq_true, decide_eq_true_eq] at mentions
        exact .array mentions.1 mentions.2
      · exact absurd (Except.error.inj failed) (unlike _)
    | text s =>
      simp only at failed
      split_ifs at failed with mentions
      · rw [Bool.and_eq_true] at mentions
        exact .text mentions.1 mentions.2
      · exact absurd (Except.error.inj failed) (unlike _)
    | _ => exact .scalar rfl
  · intro mistaken
    cases mistaken with
    | scalar scalar =>
      cases j with
      | text | array | object => cases scalar
      | _ => rfl
    | array one other => simp [twoMembers, one, other]
    | text one other => simp [twoMembers, one, other]

theorem malformed_or_internal_of_twoMembers {first second : String}
    (failed : twoMembers j first second = .error x) :
    (∃ message, x = .malformed message) ∨ x = .internal := by
  unfold twoMembers at failed
  cases j <;> grind

end Http

end BitcoinReserve
