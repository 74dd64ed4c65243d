import BitcoinReserve.Proofs.Bank.Steps

/-!
# Runs of a bank

A run is told by its events: each operation with the bank that it found. How an operation ended
follows from the two.
-/
namespace BitcoinReserve

/-- The parameters of a test network. -/
def Parameters.testing : Parameters :=
  { Settings.testing.toLimits with
    network := .regtest
    executionPolicy := .withinVotingPeriod
    sound := by constructor <;> decide }

theorem Settings.check_testing : testing.check = .ok .testing := by rfl

namespace Bank

structure Event where
  found : Bank
  operation : Operation

namespace Event

def ending (e : Event) : Except Failure Answer := (e.found.step e.operation).1

/-- The reserve whose account the event opens. -/
def registers? (e : Event) : Option Text :=
  match e.operation, e.ending with
  | .register _ reserve _ _, .ok _ => some reserve
  | _, _ => none

/-- The event is answered by yes. -/
def affirmed (e : Event) : Bool :=
  match e.ending with
  | .ok (.flag b) => b
  | _ => false

end Event

theorem affirmed_of_step {s : Bank} {op : Operation} (h : Event.affirmed ⟨s, op⟩ = true) :
    (s.step op).1 = .ok (.flag true) := by
  unfold Event.affirmed Event.ending at h
  split at h
  · rename_i b flagged
    rw [flagged, h]
  · cases h

def events (s : Bank) : List Operation → List Event
  | [] => []
  | op :: rest => ⟨s, op⟩ :: (s.step op).2.events rest

/-- The reserves that a run registers, in order. -/
def registered (s : Bank) (ops : List Operation) : List Text :=
  (s.events ops).filterMap Event.registers?

variable {s : Bank}

theorem run_append (s : Bank) (ops more : List Operation) :
    s.run (ops ++ more) = (s.run ops).run more :=
  List.foldl_append

theorem run_concat (s : Bank) (ops : List Operation) (op : Operation) :
    s.run (ops ++ [op]) = ((s.run ops).step op).2 :=
  run_append s ops [op]

theorem events_concat (s : Bank) (ops : List Operation) (op : Operation) :
    s.events (ops ++ [op]) = s.events ops ++ [⟨s.run ops, op⟩] := by
  induction ops generalizing s with
  | nil => rfl
  | cons first rest ih =>
    simp only [List.cons_append, events, ih]
    rfl

/-- What is told of single events is told of one more at the end of a run. -/
theorem filterMap_events_concat {α : Type} (f : Event → Option α) (s : Bank)
    (ops : List Operation) (op : Operation) :
    (s.events (ops ++ [op])).filterMap f =
      (s.events ops).filterMap f ++ (f ⟨s.run ops, op⟩).toList := by
  rw [events_concat, List.filterMap_append]
  cases told : f ⟨s.run ops, op⟩ with
  | none => simp [told]
  | some a => simp [told]

theorem registered_concat (s : Bank) (ops : List Operation) (op : Operation) :
    s.registered (ops ++ [op]) =
      s.registered ops ++ (Event.registers? ⟨s.run ops, op⟩).toList :=
  filterMap_events_concat Event.registers? s ops op

end Bank

end BitcoinReserve
