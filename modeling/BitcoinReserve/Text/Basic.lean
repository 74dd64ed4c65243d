/-!
# Text

A text is a list of code points. Besides the characters these are the surrogates, which name no
character: one that stands alone can be kept, compared and printed, but it has no bytes.
-/
namespace BitcoinReserve

inductive CodePoint where
  | char (c : Char)
  /-- The surrogate `0xd800 + n`. -/
  | surrogate (n : Fin 0x800)
  deriving DecidableEq, Repr

namespace CodePoint

instance : Coe Char CodePoint := ⟨char⟩

instance : Inhabited CodePoint := ⟨char ' '⟩

def value : CodePoint → Nat
  | char c => c.toNat
  | surrogate n => 0xd800 + n

def char? : CodePoint → Option Char
  | char c => some c
  | surrogate _ => none

/-- The code point of a value up to 0x10ffff. -/
def ofNat (n : Nat) : CodePoint :=
  if h : 0xd800 ≤ n ∧ n < 0xe000 then surrogate ⟨n - 0xd800, by omega⟩ else char (Char.ofNat n)

def isAscii (c : CodePoint) : Bool := c.value < 0x80

theorem ofNat_value (c : CodePoint) : ofNat c.value = c := by
  cases c with
  | char c =>
    have : ¬(0xd800 ≤ c.toNat ∧ c.toNat < 0xe000) := by
      rintro ⟨low, high⟩
      rcases c.valid with h | ⟨h, -⟩
      · exact absurd h (Nat.not_lt.mpr low)
      · exact absurd h (Nat.not_lt.mpr (Nat.le_of_lt_succ high))
    rw [ofNat, value, dif_neg this, Char.ofNat_toNat]
  | surrogate n =>
    have : 0xd800 ≤ 0xd800 + n.val ∧ 0xd800 + n.val < 0xe000 := by omega
    rw [ofNat, value, dif_pos this]
    exact congrArg surrogate (Fin.ext (by simp only [Nat.add_sub_cancel_left]))

end CodePoint

structure Text where
  points : List CodePoint
  deriving DecidableEq, Repr

namespace Text

def empty : Text := ⟨[]⟩

instance : Inhabited Text := ⟨empty⟩

def ofChars (cs : List Char) : Text := ⟨cs.map .char⟩

def ofString (s : String) : Text := ofChars s.toList

instance : Coe String Text := ⟨ofString⟩

instance : Append Text := ⟨fun s t => ⟨s.points ++ t.points⟩⟩

def length (t : Text) : Nat := t.points.length

def isEmpty (t : Text) : Bool := t.points.isEmpty

def take (n : Nat) (t : Text) : Text := ⟨t.points.take n⟩

/-- The characters of a text without surrogates. -/
def chars? (t : Text) : Option (List Char) := t.points.mapM CodePoint.char?

def string? (t : Text) : Option String := t.chars?.map String.ofList

/-- The texts one after another with a separator between them. -/
def join (separator : Text) : List Text → Text
  | [] => empty
  | [t] => t
  | t :: rest => t ++ separator ++ join separator rest

/-- The pieces between the separators, of which there is one more than separators. -/
def splitOn (separator : CodePoint) (t : Text) : List Text :=
  go t.points
where
  go : List CodePoint → List Text
    | [] => [empty]
    | c :: rest =>
      match go rest with
      | first :: others =>
        if c = separator then empty :: first :: others else ⟨c :: first.points⟩ :: others
      | [] => [⟨[c]⟩]

/-- Whether one list of code points stands before another in a dictionary, or is equal to it. -/
def ordered : List CodePoint → List CodePoint → Bool
  | [], _ => true
  | _ :: _, [] => false
  | c :: cs, d :: ds => c.value < d.value || (c = d && ordered cs ds)

/-- The texts in the order of their code points. -/
def sort (texts : List Text) : List Text := texts.mergeSort fun s t => ordered s.points t.points

@[simp] theorem points_append (s t : Text) : (s ++ t).points = s.points ++ t.points := rfl

@[simp] theorem points_ofChars (cs : List Char) : (ofChars cs).points = cs.map .char := rfl

@[simp] theorem chars?_ofChars (cs : List Char) : (ofChars cs).chars? = some cs := by
  induction cs with
  | nil => rfl
  | cons c cs ih =>
    simp only [chars?, points_ofChars] at ih
    simp [chars?, CodePoint.char?, ih]

theorem eq_ofChars_of_chars? {t : Text} {cs : List Char} (h : t.chars? = some cs) :
    t = ofChars cs := by
  obtain ⟨points⟩ := t
  simp only [chars?] at h
  simp only [ofChars, mk.injEq]
  induction points generalizing cs with
  | nil => simp_all
  | cons c points ih =>
    cases c with
    | surrogate n => simp [CodePoint.char?] at h
    | char c =>
      simp only [List.mapM_cons, CodePoint.char?, Option.pure_def, Option.bind_eq_bind,
        Option.bind_some, Option.bind_eq_some_iff, Option.some.injEq] at h
      obtain ⟨ds, hds, rfl⟩ := h
      simp [ih hds]

/-- Only a text of characters has characters, and it has all of them. -/
theorem chars?_eq_some_iff {t : Text} {cs : List Char} : t.chars? = some cs ↔ t = ofChars cs :=
  ⟨eq_ofChars_of_chars?, fun h => h ▸ chars?_ofChars cs⟩

end Text

end BitcoinReserve
