import BitcoinReserve.Json.Wire
import BitcoinReserve.Proofs.Outcome
import BitcoinReserve.Proofs.Text.Hex

/-!
# Transactions and evidence on the wire

A transaction or evidence is read from an object exactly when each of its byte strings is spelled
there in hexadecimal, with or without a mark, and the index is a number. In particular it is read
back from what is written for it, however that is respelled on the way.
-/
namespace BitcoinReserve

namespace Wire

/-- The value is a text that spells the bytes, with one of the marks in front or none. -/
def Spells (marks : List (List Char)) (value : Json) (bs : Bytes) : Prop :=
  ∃ mark cs, (mark = [] ∨ mark ∈ marks) ∧ Hex.Spells bs cs ∧ value = .text (.ofChars (mark ++ cs))

/-- The member of that name spells the bytes. -/
def Member (marks : List (List Char)) (j : Json) (name : String) (bs : Bytes) : Prop :=
  ∃ value, j.get? name = some value ∧ Spells marks value bs

variable {marks : List (List Char)} {j value : Json} {name : String} {bs : Bytes}
  {mark cs : List Char}

theorem field_eq_ok_iff : field j name = .ok value ↔ j.get? name = some value := by
  cases j with
  | object members =>
    simp only [field]
    cases (Json.object members).get? name with
    | none => simp
    | some found => simp
  | _ => simp [field, Json.get?]

/-- Marks are told from digits and from each other: a zero and a letter that is no digit. -/
def Marked (marks : List (List Char)) : Prop :=
  ∀ mark ∈ marks, mark = ['0', 'x'] ∨ mark = ['0', 'X']

theorem Marked.unread (marked : Marked marks) (mem : mark ∈ marks) (cs : List Char) :
    Hex.decodeChars (mark ++ cs) = none := by
  rcases marked mark mem with rfl | rfl <;> rfl

/-- A mark that opens the text is dropped, if there is one. -/
theorem dropMark_cases (marks : List (List Char)) (cs : List Char) :
    ((∀ mark ∈ marks, ¬ mark <+: cs) ∧ dropMark marks cs = cs) ∨
      ∃ mark ∈ marks, cs = mark ++ dropMark marks cs := by
  unfold dropMark
  cases found : marks.find? fun mark => mark.isPrefixOf cs with
  | none =>
    have unopened := List.find?_eq_none.mp found
    exact .inl ⟨fun mark mem opens => unopened mark mem (List.isPrefixOf_iff_prefix.mpr opens), rfl⟩
  | some mark =>
    have opens := List.find?_some found
    have parts := List.prefix_iff_eq_append.mp (List.isPrefixOf_iff_prefix.mp opens)
    exact .inr ⟨mark, List.mem_of_find?_eq_some found, parts.symm⟩

/-- A spelling loses the mark in front of it and nothing else. -/
theorem dropMark_append (marked : Marked marks) (mem : mark = [] ∨ mark ∈ marks)
    (spells : Hex.Spells bs cs) : dropMark marks (mark ++ cs) = cs := by
  have read := spells.decodeChars
  rcases mem with rfl | mem
  · rcases dropMark_cases marks cs with ⟨-, kept⟩ | ⟨found, known, parts⟩
    · exact kept
    · rw [parts, marked.unread known] at read
      cases read
  · rcases dropMark_cases marks (mark ++ cs) with ⟨unopened, -⟩ | ⟨found, known, parts⟩
    · exact absurd (List.prefix_append mark cs) (unopened mark mem)
    · have width : mark.length = found.length := by
        rcases marked mark mem with rfl | rfl <;> rcases marked found known with rfl | rfl <;> rfl
      exact (List.append_inj parts width).2.symm

theorem bytes_text_eq_ok_iff {t : Text} :
    bytes marks name (.text t) = .ok bs ↔
      ∃ cs, t = .ofChars cs ∧ Hex.decodeChars (dropMark marks cs) = some bs := by
  have read : bytes marks name (.text t) = .ok bs ↔
      (t.chars?.bind fun cs => Hex.decodeChars (dropMark marks cs)) = some bs := by
    simp only [bytes]
    cases t.chars?.bind fun cs => Hex.decodeChars (dropMark marks cs) with
    | none => simp
    | some found => simp
  simp only [read, Option.bind_eq_some_iff, Text.chars?_eq_some_iff]

/-- A value is read as the bytes that it spells. -/
theorem bytes_eq_ok_iff (marked : Marked marks) :
    bytes marks name value = .ok bs ↔ Spells marks value bs := by
  constructor
  · intro read
    cases value with
    | text t =>
      obtain ⟨cs, rfl, decoded⟩ := bytes_text_eq_ok_iff.mp read
      have spells := Hex.decodeChars_eq_some_iff.mp decoded
      rcases dropMark_cases marks cs with ⟨-, kept⟩ | ⟨mark, known, parts⟩
      · exact ⟨[], cs, .inl rfl, kept ▸ spells, rfl⟩
      · exact ⟨mark, dropMark marks cs, .inr known, spells, by rw [← parts]⟩
    | _ => cases read
  · rintro ⟨mark, cs, mem, spells, rfl⟩
    refine bytes_text_eq_ok_iff.mpr ⟨mark ++ cs, rfl, ?_⟩
    rw [dropMark_append marked mem spells, spells.decodeChars]

theorem Spells.written (marks : List (List Char)) (bs : Bytes) :
    Spells marks (.text (Hex.encode bs)) bs :=
  ⟨[], Hex.encodeChars bs, .inl rfl, Hex.spells_encodeChars bs, rfl⟩

/-- The text of a member without mark and blanks, in lower case. -/
def plainMember (marks : List (List Char)) (j : Json) (name : String) : Json :=
  match j.get? name with
  | some (.text t) => .text (.ofChars (Hex.plain (dropMark marks (t.chars?.getD []))))
  | _ => .null

/-- What is written for some bytes is any text that spells them, without mark and blanks and in lower
case. -/
theorem Member.plain_eq (marked : Marked marks) (member : Member marks j name bs) :
    .text (Hex.encode bs) = plainMember marks j name := by
  obtain ⟨value, found, mark, cs, mem, spells, rfl⟩ := member
  rw [plainMember, found]
  simp only [Text.chars?_ofChars, Option.getD_some, dropMark_append marked mem spells,
    spells.plain_eq]
  rfl

end Wire

open Wire

theorem Transaction.marked : Marked hexMarks := by
  simp [Marked, hexMarks]

theorem Evidence.marked : Marked hexMarks := by
  simp [Marked, hexMarks]

/-- Each byte string of the transaction is spelled by a member of the object. -/
structure Transaction.SpelledBy (tx : Transaction) (j : Json) : Prop where
  version : Member hexMarks j "version" tx.version
  inputVector : Member hexMarks j "input_vector" tx.inputVector
  outputVector : Member hexMarks j "output_vector" tx.outputVector
  locktime : Member hexMarks j "locktime" tx.locktime

/-- Each byte string of the evidence is spelled by a member of the object, and one is the index. -/
structure Evidence.SpelledBy (e : Evidence) (j : Json) : Prop where
  merkleBranch : Member hexMarks j "merkle_proof" e.merkleBranch
  txIndex : ∃ index, j.get? "tx_index_in_block" = some index ∧ index.toInt = .ok e.txIndex
  headers : Member hexMarks j "bitcoin_headers" e.headers
  coinbasePreimage : Member hexMarks j "coinbase_preimage" e.coinbasePreimage
  coinbaseBranch : Member hexMarks j "coinbase_proof" e.coinbaseBranch

theorem Transaction.ofJson_eq_ok_iff {j : Json} {tx : Transaction} :
    ofJson j = .ok tx ↔ tx.SpelledBy j := by
  simp only [ofJson, Check.bind_eq_ok_iff, Check.pure_eq_ok_iff, field_eq_ok_iff,
    bytes_eq_ok_iff marked]
  constructor
  · rintro ⟨version, hv, inputs, hi, outputs, ho, locktime, hl, _, sv, _, si, _, so, _, sl, rfl⟩
    exact ⟨⟨version, hv, sv⟩, ⟨inputs, hi, si⟩, ⟨outputs, ho, so⟩, ⟨locktime, hl, sl⟩⟩
  · rintro ⟨⟨version, hv, sv⟩, ⟨inputs, hi, si⟩, ⟨outputs, ho, so⟩, ⟨locktime, hl, sl⟩⟩
    exact ⟨version, hv, inputs, hi, outputs, ho, locktime, hl, _, sv, _, si, _, so, _, sl, rfl⟩

theorem Evidence.bytesOf_eq_ok_iff {j : Json} {name : String} {bs : Bytes} :
    bytesOf j name = .ok bs ↔ Member hexMarks j name bs := by
  simp only [bytesOf, Check.bind_eq_ok_iff, field_eq_ok_iff, bytes_eq_ok_iff marked, Member]

theorem Evidence.ofJson_eq_ok_iff {j : Json} {e : Evidence} :
    ofJson j = .ok e ↔ e.SpelledBy j := by
  simp only [ofJson, Check.bind_eq_ok_iff, Check.pure_eq_ok_iff, Check.mapError_eq_ok_iff,
    bytesOf_eq_ok_iff, field_eq_ok_iff]
  constructor
  · rintro ⟨_, branch, index, hi, _, number, _, headers, _, preimage, _, coinbase, rfl⟩
    exact ⟨branch, ⟨index, hi, number⟩, headers, preimage, coinbase⟩
  · rintro ⟨branch, ⟨index, hi, number⟩, headers, preimage, coinbase⟩
    exact ⟨_, branch, index, hi, _, number, _, headers, _, preimage, _, coinbase, rfl⟩

theorem Transaction.spelledBy_toJson (tx : Transaction) : tx.SpelledBy tx.toJson where
  version := ⟨_, rfl, .written _ _⟩
  inputVector := ⟨_, rfl, .written _ _⟩
  outputVector := ⟨_, rfl, .written _ _⟩
  locktime := ⟨_, rfl, .written _ _⟩

theorem Evidence.spelledBy_toJson (e : Evidence) : e.SpelledBy e.toJson where
  merkleBranch := ⟨_, rfl, .written _ _⟩
  txIndex := ⟨_, rfl, rfl⟩
  headers := ⟨_, rfl, .written _ _⟩
  coinbasePreimage := ⟨_, rfl, .written _ _⟩
  coinbaseBranch := ⟨_, rfl, .written _ _⟩

/-- Transactions and evidence are read back from what is written for them. They are read from just
the objects that spell them, and these are written back in lower case, without marks and blanks. -/
theorem wire_round_trip :
    (∀ tx : Transaction, Transaction.ofJson tx.toJson = .ok tx) ∧
    (∀ e : Evidence, Evidence.ofJson e.toJson = .ok e) ∧
    (∀ (j : Json) (tx : Transaction), Transaction.ofJson j = .ok tx ↔ tx.SpelledBy j) ∧
    (∀ (j : Json) (e : Evidence), Evidence.ofJson j = .ok e ↔ e.SpelledBy j) ∧
    (∀ (j : Json) (tx : Transaction), Transaction.ofJson j = .ok tx →
      tx.toJson = .object
        [("version", plainMember Transaction.hexMarks j "version"),
          ("input_vector", plainMember Transaction.hexMarks j "input_vector"),
          ("output_vector", plainMember Transaction.hexMarks j "output_vector"),
          ("locktime", plainMember Transaction.hexMarks j "locktime")]) ∧
    ∀ (j : Json) (e : Evidence), Evidence.ofJson j = .ok e →
      e.toJson = .object
        [("merkle_proof", plainMember Evidence.hexMarks j "merkle_proof"),
          ("tx_index_in_block", .int e.txIndex),
          ("bitcoin_headers", plainMember Evidence.hexMarks j "bitcoin_headers"),
          ("coinbase_preimage", plainMember Evidence.hexMarks j "coinbase_preimage"),
          ("coinbase_proof", plainMember Evidence.hexMarks j "coinbase_proof")] := by
  refine ⟨?_, ?_, fun j tx => Transaction.ofJson_eq_ok_iff, fun j e => Evidence.ofJson_eq_ok_iff,
    ?_, ?_⟩
  · intro tx
    exact Transaction.ofJson_eq_ok_iff.mpr tx.spelledBy_toJson
  · intro e
    exact Evidence.ofJson_eq_ok_iff.mpr e.spelledBy_toJson
  · intro j tx read
    have spelled := Transaction.ofJson_eq_ok_iff.mp read
    have marked := Transaction.marked
    rw [Transaction.toJson, spelled.version.plain_eq marked, spelled.inputVector.plain_eq marked,
      spelled.outputVector.plain_eq marked, spelled.locktime.plain_eq marked]
  · intro j e read
    have spelled := Evidence.ofJson_eq_ok_iff.mp read
    have marked := Evidence.marked
    rw [Evidence.toJson, spelled.merkleBranch.plain_eq marked, spelled.headers.plain_eq marked,
      spelled.coinbasePreimage.plain_eq marked, spelled.coinbaseBranch.plain_eq marked]

/-- A transaction and evidence whose texts have marks, capital digits and blanks. -/
theorem wire_round_trip_respelled :
    let tx : Transaction := ⟨[1, 0xab], [0xcd], [], [0]⟩
    let j : Json := .object [("locktime", .text "0X00"), ("version", .text "0x 01\tAb "),
      ("input_vector", .text "Cd"), ("output_vector", .text "0x")]
    let e : Evidence := ⟨[0xff], -3, [], [7], [0x0a]⟩
    let k : Json := .object [("merkle_proof", .text "fF"), ("tx_index_in_block", .int (-3)),
      ("bitcoin_headers", .text " "), ("coinbase_preimage", .text "0x07"),
      ("coinbase_proof", .text "0x0A")]
    Transaction.ofJson j = .ok tx ∧ tx.toJson = .object [("version", .text "01ab"),
      ("input_vector", .text "cd"), ("output_vector", .text ""), ("locktime", .text "00")] ∧
    Evidence.ofJson k = .ok e ∧ e.toJson = .object [("merkle_proof", .text "ff"),
      ("tx_index_in_block", .int (-3)), ("bitcoin_headers", .text ""),
      ("coinbase_preimage", .text "07"), ("coinbase_proof", .text "0a")] := by
  intro tx j e k
  obtain ⟨-, -, -, -, transaction, evidence⟩ := wire_round_trip
  have read : Transaction.ofJson j = .ok tx := by rfl
  have found : Evidence.ofJson k = .ok e := by rfl
  exact ⟨read, transaction j tx read, found, evidence k e found⟩

end BitcoinReserve
