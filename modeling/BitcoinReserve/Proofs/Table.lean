import BitcoinReserve.Table
import Mathlib

/-!
# Sums over tables

What an insertion does to a sum over the values, and how values, entries and lookups hang together.
-/
namespace BitcoinReserve.Table

variable {κ α : Type}

/-- The sum of a quantity over all values. -/
def sum (t : Table κ α) (f : α → Int) : Int := (t.values.map f).sum

@[simp] theorem sum_empty (f : α → Int) : (empty : Table κ α).sum f = 0 := rfl

@[simp] theorem keys_empty : (empty : Table κ α).keys = [] := rfl

theorem sum_eq_sum_entries (t : Table κ α) (f : α → Int) :
    t.sum f = (t.entries.map fun p => f p.2).sum := by
  simp [sum, values, List.map_map, Function.comp_def]

variable [DecidableEq κ]

/-- The quantity at one key, zero where the key is missing. -/
def amountAt (t : Table κ α) (f : α → Int) (k : κ) : Int := ((t.get? k).map f).getD 0

@[simp] theorem amountAt_empty (f : α → Int) (k : κ) : (empty : Table κ α).amountAt f k = 0 := rfl

theorem amountAt_of_get? {t : Table κ α} {k : κ} {a : α} (f : α → Int) (h : t.get? k = some a) :
    t.amountAt f k = f a := by
  simp [amountAt, h]

theorem amountAt_insert (t : Table κ α) (f : α → Int) (k j : κ) (a : α) :
    (t.insert k a).amountAt f j = if k = j then f a else t.amountAt f j := by
  unfold amountAt
  rw [get?_insert]
  split <;> rfl

theorem lookup_eq_some_iff {k : κ} {a : α} {l : List (κ × α)} (nodup : (l.map Prod.fst).Nodup) :
    lookup k l = some a ↔ (k, a) ∈ l := by
  induction l with
  | nil => simp [lookup]
  | cons p rest ih =>
    obtain ⟨k', b⟩ := p
    obtain ⟨fresh, nodup⟩ := List.nodup_cons.mp nodup
    by_cases h : k' = k
    · subst h
      have absent : (k', a) ∉ rest := fun m => fresh (List.mem_map.mpr ⟨_, m, rfl⟩)
      simp [lookup, absent, eq_comm]
    · have h' : ¬ k = k' := fun e => h e.symm
      simp [lookup, h, h', ih nodup]

theorem get?_eq_some_iff {t : Table κ α} {k : κ} {a : α} :
    t.get? k = some a ↔ (k, a) ∈ t.entries :=
  lookup_eq_some_iff t.nodup

theorem mem_keys_iff {t : Table κ α} {k : κ} : k ∈ t.keys ↔ ∃ a, t.get? k = some a := by
  simp [keys, get?_eq_some_iff]

theorem mem_values_iff {t : Table κ α} {a : α} : a ∈ t.values ↔ ∃ k, t.get? k = some a := by
  simp [values, get?_eq_some_iff]

theorem get?_insert_eq_some_iff {t : Table κ α} {k j : κ} {a b : α} :
    (t.insert k a).get? j = some b ↔ k = j ∧ a = b ∨ k ≠ j ∧ t.get? j = some b := by
  rw [get?_insert]
  by_cases here : k = j <;> simp [here]

theorem get?_erase_eq_some_iff {t : Table κ α} {k j : κ} {b : α} :
    (t.erase k).get? j = some b ↔ k ≠ j ∧ t.get? j = some b := by
  rw [get?_erase]
  by_cases here : k = j <;> simp [here]

theorem get?_erase_of_ne (t : Table κ α) {k j : κ} (h : k ≠ j) : (t.erase k).get? j = t.get? j := by
  rw [get?_erase, if_neg h]

theorem get?_modify_of_ne (t : Table κ α) {k j : κ} (f : α → α) (h : k ≠ j) :
    (t.modify k f).get? j = t.get? j := by
  rw [get?_modify, if_neg h]

theorem get?_eq_none_iff {t : Table κ α} {k : κ} : t.get? k = none ↔ k ∉ t.keys := by
  rw [mem_keys_iff, Option.eq_none_iff_forall_ne_some, not_exists]

theorem contains_iff {t : Table κ α} {k : κ} : t.contains k = true ↔ k ∈ t.keys := by
  rw [contains, Option.isSome_iff_exists, mem_keys_iff]

theorem contains_eq_false_iff {t : Table κ α} {k : κ} : t.contains k = false ↔ k ∉ t.keys := by
  rw [← contains_iff, Bool.not_eq_true]

@[simp] theorem mem_keys_insert {t : Table κ α} {k j : κ} {a : α} :
    j ∈ (t.insert k a).keys ↔ k = j ∨ j ∈ t.keys := by
  rw [mem_keys_iff, mem_keys_iff, get?_insert]
  by_cases here : k = j <;> simp [here]

@[simp] theorem mem_keys_erase {t : Table κ α} {k j : κ} :
    j ∈ (t.erase k).keys ↔ k ≠ j ∧ j ∈ t.keys := by
  rw [mem_keys_iff, mem_keys_iff, get?_erase]
  by_cases here : k = j <;> simp [here]

theorem place_place (k : κ) (a b : α) (l : List (κ × α)) :
    place k b (place k a l) = place k b l := by
  induction l with
  | nil => simp [place]
  | cons p rest ih =>
    obtain ⟨k', c⟩ := p
    by_cases h : k' = k
    · simp [place, h]
    · simp [place, h, ih]

theorem insert_insert (t : Table κ α) (k : κ) (a b : α) :
    (t.insert k a).insert k b = t.insert k b := by
  unfold insert
  congr 1
  exact place_place k a b t.entries

theorem place_of_lookup {k : κ} {a : α} {l : List (κ × α)} (found : lookup k l = some a) :
    place k a l = l := by
  induction l with
  | nil => cases found
  | cons p rest ih =>
    obtain ⟨k', b⟩ := p
    by_cases h : k' = k
    · simp only [lookup, h, if_true, Option.some.injEq] at found
      simp [place, h, found]
    · simp only [lookup, if_neg h] at found
      simp [place, h, ih found]

/-- Inserting what is there already changes nothing. -/
theorem insert_of_get? {t : Table κ α} {k : κ} {a : α} (found : t.get? k = some a) :
    t.insert k a = t := by
  unfold insert
  congr 1
  exact place_of_lookup found

theorem place_of_lookup_eq_none {k : κ} {a : α} {l : List (κ × α)} (missing : lookup k l = none) :
    place k a l = l ++ [(k, a)] := by
  induction l with
  | nil => rfl
  | cons p rest ih =>
    obtain ⟨k', b⟩ := p
    by_cases h : k' = k
    · simp [lookup, h] at missing
    · simp only [lookup, if_neg h] at missing
      simp [place, h, ih missing]

theorem sum_place (f : α → Int) (k : κ) (a : α) (l : List (κ × α)) :
    ((place k a l).map fun p => f p.2).sum =
      (l.map fun p => f p.2).sum - ((lookup k l).map f).getD 0 + f a := by
  induction l with
  | nil => simp [place, lookup]
  | cons p rest ih =>
    obtain ⟨k', b⟩ := p
    by_cases h : k' = k
    · simp [place, lookup, h, add_comm]
    · simp only [place, if_neg h, List.map_cons, List.sum_cons, ih, lookup]
      omega

/-- An insertion adds the new quantity and takes the replaced one away. -/
theorem sum_insert (t : Table κ α) (f : α → Int) (k : κ) (a : α) :
    (t.insert k a).sum f = t.sum f - t.amountAt f k + f a := by
  rw [sum_eq_sum_entries, sum_eq_sum_entries]
  exact sum_place f k a t.entries

theorem sum_insert_of_eq {t : Table κ α} {f : α → Int} {k : κ} {a b : α} (found : t.get? k = some a)
    (same : f b = f a) : (t.insert k b).sum f = t.sum f := by
  rw [sum_insert, amountAt_of_get? f found, same]
  omega

theorem keys_insert_of_get? {t : Table κ α} {k : κ} {a b : α} (found : t.get? k = some a) :
    (t.insert k b).keys = t.keys := by
  rw [keys_insert, if_pos (mem_keys_iff.mpr ⟨a, found⟩)]

theorem keys_insert_of_get?_none {t : Table κ α} {k : κ} {b : α} (missing : t.get? k = none) :
    (t.insert k b).keys = t.keys ++ [k] := by
  rw [keys_insert, if_neg (get?_eq_none_iff.mp missing)]

theorem values_insert_of_get?_none {t : Table κ α} {k : κ} {b : α} (missing : t.get? k = none) :
    (t.insert k b).values = t.values ++ [b] := by
  have placed : (t.insert k b).entries = t.entries ++ [(k, b)] := place_of_lookup_eq_none missing
  rw [values, placed, List.map_append]
  rfl

/-- The table of some values, each under its own key. -/
def keyed (key : α → κ) (values : List α) : Table κ α :=
  values.foldl (fun t a => t.insert (key a) a) empty

theorem keyed_concat (key : α → κ) (values : List α) (a : α) :
    keyed key (values ++ [a]) = (keyed key values).insert (key a) a :=
  List.foldl_concat ..

/-- Under distinct keys all values are there, in their order. -/
theorem keyed_of_nodup {key : α → κ} {values : List α} (distinct : (values.map key).Nodup) :
    (keyed key values).keys = values.map key ∧ (keyed key values).values = values := by
  induction values using List.reverseRecOn with
  | nil => exact ⟨rfl, rfl⟩
  | append_singleton values a ih =>
    rw [List.map_append, List.map_singleton, ← List.concat_eq_append, List.nodup_concat] at distinct
    obtain ⟨keys, listed⟩ := ih distinct.2
    have fresh : (keyed key values).get? (key a) = none := by
      rw [get?_eq_none_iff, keys]
      exact distinct.1
    rw [keyed_concat, keys_insert_of_get?_none fresh, values_insert_of_get?_none fresh, keys,
      listed, List.map_append]
    exact ⟨rfl, rfl⟩

/-- The values with a property stand under the same keys in both tables. -/
def SameOn (P : α → Prop) (t t' : Table κ α) : Prop :=
  ∀ k a, P a → (t'.get? k = some a ↔ t.get? k = some a)

variable {P : α → Prop} {t t' t'' : Table κ α}

theorem SameOn.refl (P : α → Prop) (t : Table κ α) : t.SameOn P t := fun _ _ _ => Iff.rfl

theorem SameOn.trans (first : t.SameOn P t') (next : t'.SameOn P t'') : t.SameOn P t'' :=
  fun k a has => (next k a has).trans (first k a has)

/-- Neither the value that is put in nor the one that it replaces has the property. -/
theorem SameOn.insert {k : κ} {b : α} (new : ¬ P b) (old : ∀ a, t.get? k = some a → ¬ P a) :
    t.SameOn P (t.insert k b) := by
  intro j a has
  rw [get?_insert_eq_some_iff]
  constructor
  · rintro (⟨rfl, rfl⟩ | ⟨-, found⟩)
    · exact absurd has new
    · exact found
  · intro found
    refine .inr ⟨?_, found⟩
    rintro rfl
    exact old a found has

end BitcoinReserve.Table
