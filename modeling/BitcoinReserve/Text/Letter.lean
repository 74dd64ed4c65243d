import BitcoinReserve.Text.Basic

/-!
# Case of letters

Lower and upper case as far as it leads into ASCII. Besides the letters of ASCII only the Kelvin
sign has a lower case there, and only the dotless i, the long and the sharp s and some ligatures
have an upper case there.
-/
namespace BitcoinReserve.Text

def isUpper (c : Char) : Bool := ('A' ≤ c && c ≤ 'Z') || c = '\u212a'

def lower (c : Char) : Char := if c = '\u212a' then 'k' else c.toLower

def upper (c : Char) : List Char :=
  if c = 'ı' then ['I']
  else if c = 'ſ' then ['S']
  else if c = 'ß' then ['S', 'S']
  else if c = 'ﬀ' then ['F', 'F']
  else if c = 'ﬁ' then ['F', 'I']
  else if c = 'ﬂ' then ['F', 'L']
  else if c = 'ﬃ' then ['F', 'F', 'I']
  else if c = 'ﬄ' then ['F', 'F', 'L']
  else if c = 'ﬅ' ∨ c = 'ﬆ' then ['S', 'T']
  else [c.toUpper]

/-- The text with its letters in upper case. -/
def toUpper (t : Text) : Text :=
  ⟨t.points.flatMap fun c =>
    match c with
    | .char c => (upper c).map .char
    | .surrogate _ => [c]⟩

theorem lower_of_isUpper {c : Char} (h : isUpper c = false) : lower c = c := by
  simp only [isUpper, Bool.or_eq_false_iff, Bool.and_eq_false_iff, decide_eq_false_iff_not] at h
  rw [lower, if_neg h.2]
  unfold Char.toLower
  rw [dif_neg]
  rintro ⟨low, high⟩
  rcases h.1 with h | h
  · exact h low
  · exact h high

end BitcoinReserve.Text
