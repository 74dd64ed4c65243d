import BitcoinReserve.Proofs.Bank.Closings
import BitcoinReserve.Proofs.Redemption.Identity

/-!
# What a run writes in the book of redemptions

A step leaves the book as it was, takes a number, opens a redemption or closes one. The id of an
opened redemption is new as long as no two strings that are hashed for ids in a run have one hash,
and so the records of a whole run are those that its events opened, each under its own id.
-/
namespace BitcoinReserve

namespace Bank

namespace Event

/-- The redemption that the event opens. -/
def opened? (e : Event) : Option Redemption :=
  match e.operation, e.ending with
  | .redeem .., .ok (.redemption r) => some r
  | _, _ => none

/-- The bytes that the event hashes for an id. -/
def hashed? (e : Event) : Option Bytes :=
  match e.operation, e.ending with
  | .redeem caller reserve _ _ _ now, .ok _ =>
    Text.utf8? (Redemption.seed reserve caller (e.found.redemptions.count + 1) now)
  | _, _ => none

/-- What an event does to the book of redemptions. -/
inductive Books (e : Event) : RedemptionBook → Prop
  | kept (opens : e.opened? = none) : Books e e.found.redemptions
  | unnamed (opens : e.opened? = none) : Books e e.found.redemptions.advance
  | opened {reserve user address wallet : Text} {amount now : Int} {bytes : Bytes}
      (redeemable : e.found.Redeemable reserve amount address wallet)
      (seeded : Text.utf8? (Redemption.seed reserve user (e.found.redemptions.count + 1) now) =
        some bytes)
      (hashes : e.hashed? = some bytes)
      (opens : e.opened? = some (Redemption.new (Hex.encode (sha256 bytes)) reserve user amount
        address wallet now e.found.params.redemptionTimeout)) :
      Books e (e.found.redemptions.advance.add (Redemption.new (Hex.encode (sha256 bytes)) reserve
        user amount address wallet now e.found.params.redemptionTimeout))
  | closed {id : Text} {r closed : Redemption} {used : KeySet Bytes} (opens : e.opened? = none)
      (found : e.found.redemptions.records.get? id = some r) (pending : r.status = .pending)
      (closes : e.found.Closes e.operation r closed used) :
      Books e { e.found.redemptions.settle closed with usedTransactions := used }

end Event

theorem books_redeem (caller reserve : Text) (amount : Int) (address wallet : Text) (now : Int)
    (s : Bank) :
    Event.Books ⟨s, .redeem caller reserve amount address wallet now⟩
      (s.step (.redeem caller reserve amount address wallet now)).2.redemptions := by
  rcases step_redeem caller reserve amount address wallet now s with
    ⟨r, refused⟩ | ⟨total, l, redeemable, burnt, done⟩
  · rw [refused]
    refine .kept ?_
    simp [Event.opened?, Event.ending, refused]
  · cases named : Redemption.idOf?
        (Redemption.seed reserve caller (s.redemptions.count + 1) now) with
    | none =>
      rw [named] at done
      rw [done]
      refine .unnamed ?_
      simp [Event.opened?, Event.ending, done]
    | some id =>
      rw [named] at done
      obtain ⟨bytes, seeded, rfl⟩ := Option.map_eq_some_iff.mp named
      rw [done]
      refine .opened redeemable seeded ?_ ?_
      · simp [Event.hashed?, Event.ending, done, seeded]
      · simp [Event.opened?, Event.ending, done]

/-- An operation of the ledger or of the token alone leaves the book as it was. -/
theorem books_onLedger {op : Operation} {α : Type} {f : Bank → Except Refusal (α × Ledger)}
    {answer : α → Answer} (performs : perform op = orFail (Action.onLedger f) answer) (s : Bank)
    (opens : Event.opened? ⟨s, op⟩ = none) :
    Event.Books ⟨s, op⟩ (s.step op).2.redemptions := by
  rcases step_onLedger performs s with ⟨r, refused⟩ | ⟨a, l, -, done⟩
  · rw [refused]
    exact .kept opens
  · rw [done]
    exact .kept opens

theorem Event.Settles.books {e : Event} {t : Bank} (settles : e.Settles t)
    (opens : e.opened? = none) : e.Books t.redemptions := by
  cases settles with
  | declined => exact .kept opens
  | closed done found pending closes => exact .closed opens found pending closes

theorem step_books (op : Operation) (s : Bank) :
    Event.Books ⟨s, op⟩ (s.step op).2.redemptions := by
  cases op with
  | redeem => exact books_redeem ..
  | fulfill | fulfillIfPossible | fulfillTrusted | flagDefault =>
    exact (step_settles _ rfl s).books rfl
  | mintToken | burnToken | register | mint | burn => exact books_onLedger rfl s rfl
  | _ =>
    rw [(moves_step _ rfl).redemptions_eq]
    exact .kept rfl

/-- The bytes that are hashed for ids in a run. -/
def hashed (s : Bank) (ops : List Operation) : List Bytes :=
  (s.events ops).filterMap Event.hashed?

/-- No two different strings that are hashed for ids in a run have one hash. -/
def Collisionless (s : Bank) (ops : List Operation) : Prop :=
  ∀ p ∈ s.hashed ops, ∀ q ∈ s.hashed ops, sha256 p = sha256 q → p = q

/-- The id of the redemption that is opened is not given yet. -/
def Event.Fresh (e : Event) : Prop :=
  ∀ r, e.opened? = some r → e.found.redemptions.records.get? r.id = none

namespace Event.Books

variable {e : Event} {b : RedemptionBook}

theorem count_eq (books : e.Books b) :
    b.count = e.found.redemptions.count ∨ b.count = e.found.redemptions.count + 1 := by
  cases books with
  | kept => exact .inl rfl
  | unnamed => exact .inr rfl
  | opened => exact .inr rfl
  | closed => exact .inl rfl

theorem count_le (books : e.Books b) : e.found.redemptions.count ≤ b.count := by
  rcases books.count_eq with same | next
  · omega
  · omega

theorem keyed (books : e.Books b) (keyed : e.found.redemptions.Keyed) : b.Keyed := by
  cases books with
  | kept => exact keyed
  | unnamed => exact keyed
  | opened => exact RedemptionBook.keyed_add keyed
  | closed opens found pending closes =>
    exact (RedemptionBook.settles_settle keyed _ found closes.closing).keyed keyed

theorem kept_records (books : e.Books b) (keyed : e.found.redemptions.Keyed) (fresh : e.Fresh) :
    e.found.redemptions.Kept b := by
  cases books with
  | kept => exact .refl _
  | unnamed => exact .refl _
  | opened redeemable seeded hashes opens => exact RedemptionBook.kept_add (fresh _ opens)
  | closed opens found pending closes =>
    exact (RedemptionBook.settles_settle keyed _ found closes.closing).kept

theorem keys_eq (books : e.Books b) (keyed : e.found.redemptions.Keyed) (fresh : e.Fresh) :
    b.records.keys =
      e.found.redemptions.records.keys ++ (e.opened?.map Redemption.id).toList := by
  cases books with
  | kept opens => simp [opens]
  | unnamed opens =>
    rw [opens]
    exact (List.append_nil _).symm
  | opened redeemable seeded hashes opens =>
    rw [opens]
    exact RedemptionBook.keys_add (fresh _ opens)
  | closed opens found pending closes =>
    rw [opens, (RedemptionBook.settles_settle keyed _ found closes.closing).keys_eq]
    exact (List.append_nil _).symm

theorem mem_keys (books : e.Books b) (keyed : e.found.redemptions.Keyed) {id : Text}
    (listed : id ∈ b.records.keys) :
    id ∈ e.found.redemptions.records.keys ∨ ∃ r, e.opened? = some r ∧ r.id = id := by
  cases books with
  | kept => exact .inl listed
  | unnamed => exact .inl listed
  | opened redeemable seeded hashes opens =>
    rcases Table.mem_keys_insert.mp listed with here | old
    · exact .inr ⟨_, opens, here⟩
    · exact .inl old
  | closed opens found pending closes =>
    rw [(RedemptionBook.settles_settle keyed _ found closes.closing).keys_eq] at listed
    exact .inl listed

/-- A redemption that is opened is named by the hash of its seed. -/
theorem of_opened {r : Redemption} (books : e.Books b) (opens : e.opened? = some r) :
    ∃ reserve user address wallet amount now bytes,
      e.found.Redeemable reserve amount address wallet ∧
      Text.utf8? (Redemption.seed reserve user (e.found.redemptions.count + 1) now) = some bytes ∧
      e.hashed? = some bytes ∧
      r = Redemption.new (Hex.encode (sha256 bytes)) reserve user amount address wallet now
        e.found.params.redemptionTimeout ∧
      b = e.found.redemptions.advance.add r := by
  cases books with
  | kept unopened => cases unopened.symm.trans opens
  | unnamed unopened => cases unopened.symm.trans opens
  | closed unopened => cases unopened.symm.trans opens
  | opened redeemable seeded hashes opened =>
    cases opened.symm.trans opens
    exact ⟨_, _, _, _, _, _, _, redeemable, seeded, hashes, rfl, rfl⟩

end Event.Books

end Bank

/-- Every id is the hash of a seed with a number that is taken. -/
def RedemptionBook.Named (b : RedemptionBook) (hashed : List Bytes) : Prop :=
  ∀ id ∈ b.records.keys, ∃ reserve user number now bytes,
    Text.utf8? (Redemption.seed reserve user number now) = some bytes ∧ bytes ∈ hashed ∧
      number ≤ b.count ∧ id = Hex.encode (sha256 bytes)

/-- A seed with the next number makes an id that no record has. -/
theorem RedemptionBook.Named.fresh {b : RedemptionBook} {hashed : List Bytes} {bytes : Bytes}
    {reserve user : Text} {now : Int} (named : b.Named hashed)
    (distinct : ∀ p ∈ hashed, sha256 p = sha256 bytes → p = bytes)
    (seeded : Text.utf8? (Redemption.seed reserve user (b.count + 1) now) = some bytes) :
    b.records.get? (Hex.encode (sha256 bytes)) = none := by
  apply Table.get?_eq_none_iff.mpr
  intro listed
  obtain ⟨reserve', user', number, now', bytes', seeded', mem', taken, same⟩ := named _ listed
  obtain rfl := distinct bytes' mem' (Hex.encode_inj same).symm
  have numbers : b.count + 1 = number := Redemption.number_of_seed (Text.eq_of_utf8? seeded seeded')
  omega

namespace Bank

variable {s : Bank}

theorem hashed_concat (s : Bank) (ops : List Operation) (op : Operation) :
    s.hashed (ops ++ [op]) = s.hashed ops ++ (Event.hashed? ⟨s.run ops, op⟩).toList :=
  filterMap_events_concat Event.hashed? s ops op

theorem mem_hashed_append {ops : List Operation} {p : Bytes} (h : p ∈ s.hashed ops)
    (more : List Operation) : p ∈ s.hashed (ops ++ more) := by
  induction more using List.reverseRecOn with
  | nil => rwa [List.append_nil]
  | append_singleton more op ih =>
    rw [← List.append_assoc, hashed_concat]
    exact List.mem_append_left _ ih

theorem collisionless_of_eq {ops : List Operation} {q : Bytes} (one : ∀ p ∈ s.hashed ops, p = q) :
    s.Collisionless ops := by
  intro p hp p' hp' _
  rw [one p hp, one p' hp']

theorem Collisionless.of_append {ops more : List Operation} (h : s.Collisionless (ops ++ more)) :
    s.Collisionless ops :=
  fun p hp q hq => h p (mem_hashed_append hp more) q (mem_hashed_append hq more)

/-- The book after a run: the records are those that the events opened. -/
structure Booked (s : Bank) (ops : List Operation) : Prop where
  keyed : (s.run ops).redemptions.Keyed
  named : (s.run ops).redemptions.Named (s.hashed ops)
  keys_eq : (s.run ops).redemptions.records.keys =
    ((s.events ops).filterMap Event.opened?).map Redemption.id

theorem booked_new (authority : Authority) (relay : Relay) (params : Parameters) :
    (new authority relay params).Booked [] where
  keyed _ _ found := nomatch found
  named _ listed := nomatch listed
  keys_eq := rfl

theorem books_concat (s : Bank) (ops : List Operation) (op : Operation) :
    Event.Books ⟨s.run ops, op⟩ (s.run (ops ++ [op])).redemptions := by
  rw [run_concat]
  exact step_books op (s.run ops)

/-- The next redemption gets a new id when what is hashed for it collides with nothing before. -/
theorem fresh_of_named {hashed : List Bytes} {op : Operation} (named : s.redemptions.Named hashed)
    (distinct : ∀ q, Event.hashed? ⟨s, op⟩ = some q → ∀ p ∈ hashed, sha256 p = sha256 q → p = q) :
    Event.Fresh ⟨s, op⟩ := by
  intro r opens
  obtain ⟨reserve, user, _, _, _, now, bytes, -, seeded, hashes, rfl, -⟩ :=
    (step_books op s).of_opened opens
  exact named.fresh (distinct bytes hashes) seeded

theorem Booked.fresh {ops : List Operation} {op : Operation} (h : s.Booked ops)
    (collisionless : s.Collisionless (ops ++ [op])) : Event.Fresh ⟨s.run ops, op⟩ := by
  refine fresh_of_named h.named fun q hashes p hp same => ?_
  have mem : q ∈ s.hashed (ops ++ [op]) := by simp [hashed_concat, hashes]
  exact collisionless p (mem_hashed_append hp [op]) q mem same

/-- Ids are hashes of seeds with taken numbers, whether they collide or not. -/
theorem named_concat {ops : List Operation} {op : Operation}
    (keyed : (s.run ops).redemptions.Keyed)
    (named : (s.run ops).redemptions.Named (s.hashed ops)) :
    (s.run (ops ++ [op])).redemptions.Named (s.hashed (ops ++ [op])) := by
  have books := books_concat s ops op
  intro id listed
  rcases books.mem_keys keyed listed with old | ⟨r, opens, rfl⟩
  · obtain ⟨reserve, user, number, now, bytes, seeded, mem, taken, same⟩ := named id old
    exact ⟨reserve, user, number, now, bytes, seeded, mem_hashed_append mem [op],
      taken.trans books.count_le, same⟩
  · obtain ⟨reserve, user, _, _, _, now, bytes, -, seeded, hashes, rfl, added⟩ :=
      books.of_opened opens
    have mem : bytes ∈ s.hashed (ops ++ [op]) := by simp [hashed_concat, hashes]
    have taken : (s.run ops).redemptions.count + 1 ≤ (s.run (ops ++ [op])).redemptions.count := by
      rw [added]
      exact Nat.le_refl _
    exact ⟨reserve, user, _, now, bytes, seeded, mem, taken, rfl⟩

theorem run_named (authority : Authority) (relay : Relay) (params : Parameters)
    (ops : List Operation) :
    ((new authority relay params).run ops).redemptions.Keyed ∧
      ((new authority relay params).run ops).redemptions.Named
        ((new authority relay params).hashed ops) := by
  induction ops using List.reverseRecOn with
  | nil => exact ⟨(booked_new authority relay params).keyed, (booked_new authority relay params).named⟩
  | append_singleton ops op ih =>
    obtain ⟨keyed, named⟩ := ih
    exact ⟨(books_concat _ ops op).keyed keyed, named_concat keyed named⟩

theorem Booked.concat {ops : List Operation} {op : Operation} (h : s.Booked ops)
    (collisionless : s.Collisionless (ops ++ [op])) : s.Booked (ops ++ [op]) where
  keyed := (books_concat s ops op).keyed h.keyed
  named := named_concat h.keyed h.named
  keys_eq := by
    rw [(books_concat s ops op).keys_eq h.keyed (h.fresh collisionless), h.keys_eq,
      filterMap_events_concat, List.map_append, Option.toList_map]

theorem booked_run (authority : Authority) (relay : Relay) (params : Parameters)
    {ops : List Operation} (collisionless : (new authority relay params).Collisionless ops) :
    (new authority relay params).Booked ops := by
  induction ops using List.reverseRecOn with
  | nil => exact booked_new authority relay params
  | append_singleton ops op ih => exact (ih collisionless.of_append).concat collisionless

/-- What the new bank has and what every step keeps that opens redemptions under new ids only, holds
after every run. -/
theorem run_induction (authority : Authority) (relay : Relay) (params : Parameters)
    {P : List Operation → Prop} (start : P [])
    (next : ∀ ops op, P ops → ((new authority relay params).run ops).redemptions.Keyed →
      Event.Fresh ⟨(new authority relay params).run ops, op⟩ →
      Event.Books ⟨(new authority relay params).run ops, op⟩
        ((new authority relay params).run (ops ++ [op])).redemptions → P (ops ++ [op]))
    {ops : List Operation} (collisionless : (new authority relay params).Collisionless ops) :
    P ops := by
  induction ops using List.reverseRecOn with
  | nil => exact start
  | append_singleton ops op ih =>
    have booked := booked_run authority relay params collisionless.of_append
    exact next ops op (ih collisionless.of_append) booked.keyed (booked.fresh collisionless)
      (books_concat _ ops op)

/-- A reserve with a wallet mints for a user, who redeems a part. -/
def redeeming (user : Text) : List Operation :=
  [.register "registrar" "reserve" 5000 none, .setBacking "reserve" 5000 none,
    .attachWallet "registrar" "reserve" "bcrt1qqyqszqgpqyqszqgpqyqszqgpqyqszqgpvxat9t",
    .mint "minter" "reserve" user 3000 none,
    .redeem user "reserve" 1000 "bcrt1qpv9skzctpv9skzctpv9skzctpv9skzctn6078e"
      "bcrt1qqyqszqgpqyqszqgpqyqszqgpqyqszqgpvxat9t" 0]

end Bank

end BitcoinReserve
