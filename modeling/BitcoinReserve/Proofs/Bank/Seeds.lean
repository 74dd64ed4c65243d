import BitcoinReserve.Proofs.Bank.Openings

/-!
# Seeds in a run

A redemption that passes its checks takes the next number, whether an id comes of it or not. So the
numbers that a run takes are counted up without a gap, and since a seed tells its number, nothing is
hashed for two redemptions.
-/
namespace BitcoinReserve.Bank

/-- A redemption as it is opened, with the number that is taken for it. -/
structure Opening where
  number : Nat
  redemption : Redemption

/-- The text whose hash names the redemption. -/
def Opening.seed (o : Opening) : Text :=
  Redemption.seed o.redemption.reserve o.redemption.user o.number o.redemption.requestedAt

theorem Opening.seed_ne {o o' : Opening} (less : o.number < o'.number) : o.seed ≠ o'.seed := by
  intro same
  have numbers : o.number = o'.number := Redemption.number_of_seed same
  omega

namespace Event

/-- The number that the event takes. -/
def number? (e : Event) : Option Nat :=
  let count := (e.found.step e.operation).2.redemptions.count
  if e.found.redemptions.count < count then some count else none

def opening? (e : Event) : Option Opening :=
  e.number?.bind fun number => e.opened?.map fun r => ⟨number, r⟩

/-- An event opens nothing and hashes nothing, or it takes a number and opens a redemption that goes
by the hash of its seed. -/
inductive Opens (e : Event) : Prop
  | nothing (opens : e.opened? = none) (hashes : e.hashed? = none)
  | one (o : Opening) (bytes : Bytes) (takes : e.number? = some o.number)
      (opens : e.opened? = some o.redemption) (seeded : Text.utf8? o.seed = some bytes)
      (hashes : e.hashed? = some bytes) (named : o.redemption.id = Hex.encode (sha256 bytes))

variable {e : Event}

/-- An event takes no number or the next one. -/
theorem number?_cases (e : Event) :
    (e.number? = none ∧ (e.found.step e.operation).2.redemptions.count =
        e.found.redemptions.count) ∨
      (e.number? = some (e.found.redemptions.count + 1) ∧
        (e.found.step e.operation).2.redemptions.count = e.found.redemptions.count + 1) := by
  rcases (step_books e.operation e.found).count_eq with same | next
  · left
    simp [number?, same]
  · right
    simp [number?, next]

/-- Where nothing is opened, nothing was hashed. -/
theorem hashed?_eq_none (opens : e.opened? = none) : e.hashed? = none := by
  obtain ⟨s, op⟩ := e
  cases op with
  | redeem caller reserve amount address wallet now =>
    rcases step_redeem caller reserve amount address wallet now s with
      ⟨r, refused⟩ | ⟨total, l, -, -, done⟩
    · simp [hashed?, ending, refused]
    · cases named : Redemption.idOf?
          (Redemption.seed reserve caller (s.redemptions.count + 1) now) with
      | none =>
        rw [named] at done
        simp [hashed?, ending, done]
      | some id =>
        rw [named] at done
        simp [opened?, ending, done] at opens
  | _ => rfl

theorem opens (e : Event) : e.Opens := by
  cases opened : e.opened? with
  | none => exact .nothing opened (hashed?_eq_none opened)
  | some r =>
    obtain ⟨reserve, user, address, wallet, amount, now, bytes, -, seeded, hashes, rfl, added⟩ :=
      (step_books e.operation e.found).of_opened opened
    refine .one ⟨e.found.redemptions.count + 1, _⟩ bytes ?_ opened seeded hashes rfl
    have count : (e.found.step e.operation).2.redemptions.count =
        e.found.redemptions.count + 1 := by
      rw [added]
      rfl
    simp [number?, count]

/-- Nothing that is opened is left out. -/
theorem map_redemption_opening? (e : Event) : e.opening?.map Opening.redemption = e.opened? := by
  cases e.opens with
  | nothing opens => simp [opening?, opens]
  | one o bytes takes opens => simp [opening?, takes, opens]

theorem map_utf8?_opening? (e : Event) :
    e.opening?.map (fun o => Text.utf8? o.seed) = e.hashed?.map some := by
  cases e.opens with
  | nothing opens hashes => simp [opening?, opens, hashes]
  | one o bytes takes opens seeded hashes => simp [opening?, takes, opens, seeded, hashes]

variable {o : Opening}

theorem number?_of_opening? (h : e.opening? = some o) : e.number? = some o.number := by
  simp only [opening?, Option.bind_eq_some_iff, Option.map_eq_some_iff] at h
  obtain ⟨number, takes, r, -, rfl⟩ := h
  exact takes

theorem idOf?_of_opening? (h : e.opening? = some o) :
    Redemption.idOf? o.seed = some o.redemption.id := by
  cases e.opens with
  | nothing opens => simp [opening?, opens] at h
  | one o' bytes takes opens seeded hashes named =>
    have same : o' = o := by simpa [opening?, takes, opens] using h
    subst same
    rw [Redemption.idOf?, seeded, named]
    rfl

end Event

variable {s : Bank}

/-- The numbers that a run takes, in order. -/
def numbers (s : Bank) (ops : List Operation) : List Nat := (s.events ops).filterMap Event.number?

/-- The redemptions that a run opens, in order. -/
def openings (s : Bank) (ops : List Operation) : List Opening :=
  (s.events ops).filterMap Event.opening?

theorem numbers_concat (s : Bank) (ops : List Operation) (op : Operation) :
    s.numbers (ops ++ [op]) = s.numbers ops ++ (Event.number? ⟨s.run ops, op⟩).toList :=
  filterMap_events_concat Event.number? s ops op

/-- The numbers that a run takes are counted up from the one it found, and none is left out. -/
theorem run_numbers (s : Bank) (ops : List Operation) :
    ∃ n, (s.run ops).redemptions.count = s.redemptions.count + n ∧
      s.numbers ops = List.range' (s.redemptions.count + 1) n := by
  induction ops using List.reverseRecOn with
  | nil => exact ⟨0, rfl, rfl⟩
  | append_singleton ops op ih =>
    obtain ⟨n, count, numbers⟩ := ih
    rw [run_concat, numbers_concat, numbers]
    rcases Event.number?_cases ⟨s.run ops, op⟩ with ⟨takes, same⟩ | ⟨takes, next⟩
    · refine ⟨n, same.trans count, ?_⟩
      rw [takes]
      exact List.append_nil _
    · refine ⟨n + 1, ?_, ?_⟩
      · rw [next, count]
        rfl
      · have last : s.redemptions.count + n + 1 = s.redemptions.count + 1 + n := by omega
        rw [takes, count, List.range'_1_concat, last]
        rfl

/-- What is opened later has the higher number. -/
theorem openings_rising (s : Bank) (ops : List Operation) :
    (s.openings ops).Pairwise fun o o' => o.number < o'.number := by
  obtain ⟨n, -, numbers⟩ := run_numbers s ops
  have rising : (s.numbers ops).Pairwise (· < ·) := by
    rw [numbers]
    exact List.pairwise_lt_range' 1
  apply List.pairwise_filterMap.mpr
  apply (List.pairwise_filterMap.mp rising).imp
  intro e e' less o opening o' opening'
  exact less _ (Event.number?_of_opening? opening) _ (Event.number?_of_opening? opening')

theorem idOf?_of_mem {ops : List Operation} {o : Opening} (mem : o ∈ s.openings ops) :
    Redemption.idOf? o.seed = some o.redemption.id := by
  obtain ⟨e, -, opening⟩ := List.mem_filterMap.mp mem
  exact Event.idOf?_of_opening? opening

theorem map_redemption_openings (s : Bank) (ops : List Operation) :
    (s.openings ops).map Opening.redemption = (s.events ops).filterMap Event.opened? := by
  simp only [openings, List.map_filterMap, Event.map_redemption_opening?]

/-- What is hashed in a run are the bytes of the seeds of its openings. -/
theorem map_utf8?_openings (s : Bank) (ops : List Operation) :
    (s.openings ops).map (fun o => Text.utf8? o.seed) = (s.hashed ops).map some := by
  simp only [openings, hashed, List.map_filterMap, Event.map_utf8?_opening?]

/-- Nothing is hashed twice. -/
theorem hashed_nodup (s : Bank) (ops : List Operation) : (s.hashed ops).Nodup := by
  have distinct : ((s.openings ops).map fun o => Text.utf8? o.seed).Nodup := by
    apply List.pairwise_map.mpr
    apply (openings_rising s ops).imp_of_mem
    intro o o' mem _ less same
    obtain ⟨bytes, encoded, -⟩ := Option.map_eq_some_iff.mp (idOf?_of_mem mem)
    exact Opening.seed_ne less (Text.eq_of_utf8? encoded (same.symm.trans encoded))
  rw [map_utf8?_openings] at distinct
  exact distinct.of_map some

/-- Seeds with different numbers are different, whatever the names and the times. Each redemption
goes by the hash of the seed with its number, and the numbers rise from one to the next. -/
theorem run_seeds (authority : Authority) (relay : Relay) (params : Parameters)
    (ops : List Operation) :
    let s := new authority relay params
    let openings := s.openings ops
    (∀ (reserve user reserve' user' : Text) (number number' : Nat) (now now' : Int),
      number ≠ number' →
        Redemption.seed reserve user number now ≠ Redemption.seed reserve' user' number' now') ∧
      openings.map Opening.redemption = (s.events ops).filterMap Event.opened? ∧
      (∀ o ∈ openings, Redemption.idOf? o.seed = some o.redemption.id) ∧
      (openings.map Opening.number).Pairwise (· < ·) ∧
      (openings.map Opening.seed).Nodup ∧
      openings.map (fun o => Text.utf8? o.seed) = (s.hashed ops).map some ∧
      (s.hashed ops).Nodup := by
  intro s openings
  have rising : openings.Pairwise fun o o' => o.number < o'.number := openings_rising s ops
  refine ⟨?_, map_redemption_openings s ops, fun o mem => idOf?_of_mem mem, ?_, ?_,
    map_utf8?_openings s ops, hashed_nodup s ops⟩
  · intro reserve user reserve' user' number number' now now' different same
    exact different (Redemption.number_of_seed same)
  · exact List.pairwise_map.mpr rising
  · apply List.pairwise_map.mpr
    exact rising.imp Opening.seed_ne

/-- The second of these redemptions gets no id and takes its number all the same. -/
example : ((new .everyone ⟨1, 1⟩ .testing).openings (redeeming "user" ++
    redeeming ⟨[.surrogate 0]⟩ ++ redeeming "user")).map Opening.number = [1, 3] := by
  decide +kernel

end BitcoinReserve.Bank
