import BitcoinReserve.Text.Hex

/-!
# Tables of numbers

A table is written in rows of hexadecimal numbers. Commas separate the numbers of a row, blanks and
line ends separate rows.
-/
namespace BitcoinReserve.Text

/-- What of a table is read so far, each list with its newest item first. -/
structure Rows where
  finished : List (List Nat)
  row : List Nat
  number : Option Nat

namespace Rows

def endNumber (r : Rows) : Rows :=
  match r.number with
  | some n => { r with row := n :: r.row, number := none }
  | none => r

def endRow (r : Rows) : Rows :=
  let r := r.endNumber
  if r.row.isEmpty then r else { r with finished := r.row.reverse :: r.finished, row := [] }

def step (r : Rows) (c : Char) : Rows :=
  match Hex.digit? c with
  | some d => { r with number := some (16 * r.number.getD 0 + d) }
  | none => if c = ',' then r.endNumber else r.endRow

end Rows

def rows (table : String) : List (List Nat) :=
  (table.toList.foldl Rows.step ⟨[], [], none⟩).endRow.finished.reverse

/-- Whether a number lies in one of the ranges, each given by its first number and its size. -/
def inRanges (ranges : List (List Nat)) (n : Nat) : Bool :=
  ranges.any fun range =>
    match range with
    | [first, count] => first ≤ n && n < first + count
    | _ => false

end BitcoinReserve.Text
