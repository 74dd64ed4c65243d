import BitcoinReserve.Proofs.Bank.Closings
import BitcoinReserve.Proofs.Ledger.Balance

/-!
# The accounts of a bank

Over a whole run the counters of the ledger agree, caps never fall, and the accounts stand in the
order in which they were registered.
-/
namespace BitcoinReserve

/-- Whether an operation makes or burns tokens without the ledger. -/
def Operation.direct : Operation → Bool
  | .mintToken .. | .burnToken .. => true
  | _ => false

namespace Ledger

/-- Writes one after another, on a network. -/
abbrev WritesOn (network : Network) : Ledger → Ledger → Prop :=
  Relation.ReflTransGen (Write network)

def Writes (l l' : Ledger) : Prop := ∃ network, WritesOn network l l'

variable {l l' : Ledger}

theorem Balanced.writes (h : l.Balanced) (writes : l.Writes l') : l'.Balanced := by
  obtain ⟨network, writes⟩ := writes
  induction writes with
  | refl => exact h
  | tail _ write ih => exact ih.written write

theorem Writes.capsRise (writes : l.Writes l') : l.CapsRise l' := by
  obtain ⟨network, writes⟩ := writes
  induction writes with
  | refl => exact .refl l
  | tail _ write ih => exact ih.trans write.capsRise

end Ledger

namespace Bank

variable {s t : Bank}

theorem Moves.writes (moves : s.Moves t) :
    Ledger.WritesOn s.params.network s.ledger t.ledger :=
  Relation.ReflTransGen.mono (fun _ _ => Ledger.Write.amend) _ _ moves.amends

/-- What a step writes to the ledger, unless the token is minted or burnt by itself. -/
theorem step_writes (op : Operation) (managed : op.direct = false) (s : Bank) :
    Ledger.WritesOn s.params.network s.ledger (s.step op).2.ledger := by
  cases op with
  | mintToken | burnToken => cases managed
  | register caller reserve cap now =>
    rcases step_register caller reserve cap now s with ⟨r, refused⟩ | ⟨a, l, opened, done⟩
    · rw [refused]
    · rw [done]
      exact .single (.register opened)
  | mint caller reserve holder amount now =>
    rcases step_mint caller reserve holder amount now s with ⟨r, refused⟩ | ⟨total, l, minted, done⟩
    · rw [refused]
    · rw [done]
      exact .single (.mint minted)
  | burn caller reserve holder amount =>
    rcases step_burn caller reserve holder amount s with ⟨r, refused⟩ | ⟨total, l, burnt, done⟩
    · rw [refused]
    · rw [done]
      exact .single (.redeem burnt)
  | redeem caller reserve amount address wallet now =>
    rcases step_redeem_ledger caller reserve amount address wallet now s with same | ⟨total, burnt⟩
    · rw [same]
    · exact .single (.redeem burnt)
  | fulfill | fulfillIfPossible | fulfillTrusted | flagDefault =>
    rw [(step_settles _ rfl s).ledger_eq]
  | _ => exact (moves_step _ rfl).writes

/-- Only a registration that succeeds adds a reserve, and it adds it last. -/
theorem step_reserves (op : Operation) (managed : op.direct = false) (s : Bank) :
    (s.step op).2.ledger.reserves =
      s.ledger.reserves ++ (Event.registers? ⟨s, op⟩).toList := by
  have quietly {t : Bank} (kept : t.ledger.reserves = s.ledger.reserves) :
      t.ledger.reserves = s.ledger.reserves ++ [] := by
    rw [kept, List.append_nil]
  cases op with
  | mintToken | burnToken => cases managed
  | register caller reserve cap now =>
    unfold Event.registers? Event.ending
    rcases step_register caller reserve cap now s with ⟨r, refused⟩ | ⟨a, l, opened, done⟩
    · simp only [refused]
      exact quietly rfl
    · simp only [done]
      exact Ledger.reserves_of_register opened
  | mint caller reserve holder amount now =>
    rcases step_mint caller reserve holder amount now s with ⟨r, refused⟩ | ⟨total, l, minted, done⟩
    · rw [refused]
      exact quietly rfl
    · rw [done]
      exact quietly (Ledger.reserves_of_mint minted)
  | burn caller reserve holder amount =>
    rcases step_burn caller reserve holder amount s with ⟨r, refused⟩ | ⟨total, l, burnt, done⟩
    · rw [refused]
      exact quietly rfl
    · rw [done]
      exact quietly (Ledger.reserves_of_redeem burnt)
  | redeem caller reserve amount address wallet now =>
    rcases step_redeem_ledger caller reserve amount address wallet now s with same | ⟨total, burnt⟩
    · rw [same]
      exact quietly rfl
    · exact quietly (Ledger.reserves_of_redeem burnt)
  | fulfill | fulfillIfPossible | fulfillTrusted | flagDefault =>
    exact quietly (congrArg Ledger.reserves (step_settles _ rfl s).ledger_eq)
  | _ => exact quietly (moves_step _ rfl).amends.reserves_eq

theorem run_writes {ops : List Operation} (managed : ∀ op ∈ ops, op.direct = false) (s : Bank) :
    s.ledger.Writes (s.run ops).ledger := by
  refine ⟨s.params.network, ?_⟩
  induction ops using List.reverseRecOn with
  | nil => exact .refl
  | append_singleton ops op ih =>
    have earlier := ih fun op' mem => managed op' (List.mem_append_left _ mem)
    have last := step_writes op (managed op (List.mem_append_right _ List.mem_cons_self)) (s.run ops)
    rw [run_params] at last
    rw [run_concat]
    exact earlier.trans last

theorem run_reserves {ops : List Operation} (managed : ∀ op ∈ ops, op.direct = false) (s : Bank) :
    (s.run ops).ledger.reserves = s.ledger.reserves ++ s.registered ops := by
  induction ops using List.reverseRecOn with
  | nil => exact (List.append_nil _).symm
  | append_singleton ops op ih =>
    have earlier : ∀ op' ∈ ops, op'.direct = false :=
      fun op' mem => managed op' (List.mem_append_left _ mem)
    have last : op.direct = false := managed op (List.mem_append_right _ List.mem_cons_self)
    rw [run_concat, registered_concat, step_reserves op last, ih earlier, List.append_assoc]

/-- However a bank is run, with the token minted and burnt by the ledger alone, the counters agree
and every reserve is within its cap, no cap is lower than at any earlier time, and the breaches are
those of missing backing, one for each reserve that lacks it, in order of registration. -/
theorem run_accounts (authority : Authority) (relay : Relay) (params : Parameters)
    (before after : List Operation) (managed : ∀ op ∈ before ++ after, op.direct = false) :
    let s := new authority relay params
    let earlier := (s.run before).ledger
    let now := (s.run (before ++ after)).ledger
    now.Balanced ∧ earlier.CapsRise now ∧
      now.breaches = (s.registered (before ++ after)).filterMap now.lack? ∧
      (s.registered (before ++ after)).Nodup := by
  intro s earlier now
  have balanced : now.Balanced := Ledger.empty_balanced.writes (run_writes managed s)
  have reserves : now.reserves = s.registered (before ++ after) := run_reserves managed s
  have later : ∀ op ∈ after, op.direct = false :=
    fun op mem => managed op (List.mem_append_right _ mem)
  have writes : earlier.Writes now := by
    have split : s.run (before ++ after) = (s.run before).run after := run_append s before after
    simp only [now, earlier, split]
    exact run_writes later (s.run before)
  refine ⟨balanced, writes.capsRise, ?_, ?_⟩
  · rw [balanced.breaches_eq, reserves]
  · rw [← reserves]
    exact now.accounts.nodup

/-- The operations of a reserve that mints, moves its tokens in a circle and then loses backing. -/
theorem run_accounts_minted :
    let before : List Operation :=
      [.register "registrar" "reserve" 100 none, .setBacking "reserve" 80 none,
        .mint "minter" "reserve" "holder" 70 none]
    let after : List Operation :=
      [.transferToken "holder" "holder" 50, .burn "holder" "reserve" "holder" 20,
        .setBacking "reserve" 40 none]
    let s := new .everyone ⟨1, 1⟩ .testing
    let now := (s.run (before ++ after)).ledger
    (∀ op ∈ before ++ after, op.direct = false) ∧ now.totalMinted = 50 ∧
      (s.registered (before ++ after)).filterMap now.lack? = [.underBacked "reserve" 40 50] ∧
      now.breaches = [.underBacked "reserve" 40 50] := by
  intro before after s now
  have managed : ∀ op ∈ before ++ after, op.direct = false := by decide
  have lacking : (s.registered (before ++ after)).filterMap now.lack? =
      [.underBacked "reserve" 40 50] := by decide +kernel
  obtain ⟨-, -, breaches, -⟩ := run_accounts .everyone ⟨1, 1⟩ .testing before after managed
  exact ⟨managed, by decide +kernel, lacking, breaches.trans lacking⟩

end Bank

end BitcoinReserve
