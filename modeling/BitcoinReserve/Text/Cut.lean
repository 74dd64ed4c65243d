import BitcoinReserve.Text.Basic

/-!
# Cutting texts

A text is cut at the first or the last of its separators, which is left out.
-/
namespace BitcoinReserve.Text

/-- What stands before the first separator, and what stands after it if there is one. -/
def cut (separator : CodePoint) (t : Text) : Text × Option Text :=
  match t.points.dropWhile (· ≠ separator) with
  | [] => (t, none)
  | _ :: rest => (⟨t.points.takeWhile (· ≠ separator)⟩, some ⟨rest⟩)

/-- What stands before the last separator if there is one, and what stands after it. -/
def cutLast (separator : CodePoint) (t : Text) : Option Text × Text :=
  match t.points.reverse.dropWhile (· ≠ separator) with
  | [] => (none, t)
  | _ :: before =>
    (some ⟨before.reverse⟩, ⟨(t.points.reverse.takeWhile (· ≠ separator)).reverse⟩)

def contains (c : CodePoint) (t : Text) : Bool := t.points.contains c

/-- Whether a text begins with the given characters. -/
def opensWith (opening : String) (t : Text) : Bool :=
  (ofString opening).points.isPrefixOf t.points

end BitcoinReserve.Text
