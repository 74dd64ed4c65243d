/-!
# Finite tables in order of first insertion

A table lists each key once. Replacing an entry keeps its place, a new key goes last, and an erased
key that returns goes last again.
-/
namespace BitcoinReserve

structure Table (κ α : Type) where
  entries : List (κ × α)
  nodup : (entries.map Prod.fst).Nodup
  deriving Repr

namespace Table

variable {κ α : Type} [DecidableEq κ]

def empty : Table κ α := ⟨[], List.nodup_nil⟩

instance : Inhabited (Table κ α) := ⟨empty⟩

def keys (t : Table κ α) : List κ := t.entries.map Prod.fst

def values (t : Table κ α) : List α := t.entries.map Prod.snd

def lookup (k : κ) : List (κ × α) → Option α
  | [] => none
  | (k', a) :: rest => if k' = k then some a else lookup k rest

def place (k : κ) (a : α) : List (κ × α) → List (κ × α)
  | [] => [(k, a)]
  | (k', b) :: rest => if k' = k then (k, a) :: rest else (k', b) :: place k a rest

theorem keys_place (k : κ) (a : α) (l : List (κ × α)) :
    (place k a l).map Prod.fst =
      if k ∈ l.map Prod.fst then l.map Prod.fst else l.map Prod.fst ++ [k] := by
  induction l with
  | nil => simp [place]
  | cons p rest ih =>
    obtain ⟨k', b⟩ := p
    by_cases h : k' = k
    · subst h; simp [place]
    · have h' : ¬ k = k' := fun e => h e.symm
      simp only [place, if_neg h, List.map_cons, ih, List.mem_cons, h', false_or]
      split <;> simp

def get? (t : Table κ α) (k : κ) : Option α := lookup k t.entries

def contains (t : Table κ α) (k : κ) : Bool := (t.get? k).isSome

def insert (t : Table κ α) (k : κ) (a : α) : Table κ α where
  entries := place k a t.entries
  nodup := by
    rw [keys_place]
    split
    · exact t.nodup
    · rename_i h
      exact List.nodup_append.mpr ⟨t.nodup, by simp, by
        intro x hx y hy
        rw [List.mem_singleton.mp hy]
        exact fun e => h (e ▸ hx)⟩

def erase (t : Table κ α) (k : κ) : Table κ α where
  entries := t.entries.filter (fun p => p.1 ≠ k)
  nodup := t.nodup.sublist (List.filter_sublist.map _)

/-- Changes the entry of `k`, if there is one. -/
def modify (t : Table κ α) (k : κ) (f : α → α) : Table κ α :=
  match t.get? k with
  | some a => t.insert k (f a)
  | none => t

def getD (t : Table κ α) (k : κ) (default : α) : α := (t.get? k).getD default

theorem lookup_place (k j : κ) (a : α) (l : List (κ × α)) :
    lookup j (place k a l) = if k = j then some a else lookup j l := by
  induction l with
  | nil => simp [place, lookup]
  | cons p rest ih =>
    obtain ⟨k', b⟩ := p
    by_cases h : k' = k
    · subst h; by_cases hj : k' = j <;> simp [place, lookup, hj]
    · simp only [place, if_neg h, lookup, ih]
      by_cases hj : k' = j
      · subst hj; simp [show ¬ k = k' from fun e => h e.symm]
      · simp [hj]

theorem lookup_filter_ne (k j : κ) (l : List (κ × α)) :
    lookup j (l.filter (fun p => p.1 ≠ k)) = if k = j then none else lookup j l := by
  induction l with
  | nil => simp [lookup]
  | cons p rest ih =>
    obtain ⟨k', b⟩ := p
    by_cases h : k' = k
    · subst h
      simp only [ne_eq, not_true_eq_false, decide_false, Bool.false_eq_true, not_false_eq_true,
        List.filter_cons_of_neg, lookup]
      rw [show (List.filter (fun p => decide ¬p.fst = k') rest) =
        List.filter (fun p => decide (p.fst ≠ k')) rest from rfl, ih]
      split <;> simp_all
    · rw [List.filter_cons_of_pos (by simpa using h)]
      simp only [lookup, ih]
      by_cases hj : k' = j
      · subst hj; simp [show ¬ k = k' from fun e => h e.symm]
      · simp [hj]

@[simp] theorem get?_empty (k : κ) : (empty : Table κ α).get? k = none := rfl

theorem get?_insert (t : Table κ α) (k j : κ) (a : α) :
    (t.insert k a).get? j = if k = j then some a else t.get? j := lookup_place k j a t.entries

theorem get?_erase (t : Table κ α) (k j : κ) :
    (t.erase k).get? j = if k = j then none else t.get? j := lookup_filter_ne k j t.entries

@[simp] theorem get?_insert_self (t : Table κ α) (k : κ) (a : α) :
    (t.insert k a).get? k = some a := by simp [get?_insert]

theorem get?_insert_of_ne (t : Table κ α) {k j : κ} (a : α) (h : k ≠ j) :
    (t.insert k a).get? j = t.get? j := by simp [get?_insert, h]

theorem get?_modify (t : Table κ α) (k j : κ) (f : α → α) :
    (t.modify k f).get? j = if k = j then (t.get? k).map f else t.get? j := by
  unfold modify
  cases h : t.get? k with
  | none => by_cases e : k = j <;> simp_all
  | some a => simp [get?_insert]

/-- Inserting leaves the keys as they were, or puts a new one last. -/
theorem keys_insert (t : Table κ α) (k : κ) (a : α) :
    (t.insert k a).keys = if k ∈ t.keys then t.keys else t.keys ++ [k] := keys_place k a t.entries

end Table

/-- A set kept in order of first insertion. -/
abbrev KeySet (κ : Type) := Table κ Unit

namespace KeySet

variable {κ : Type} [DecidableEq κ]

def add (s : KeySet κ) (k : κ) : KeySet κ := Table.insert s k ()

def isEmpty (s : KeySet κ) : Bool := s.entries.isEmpty

end KeySet

end BitcoinReserve
