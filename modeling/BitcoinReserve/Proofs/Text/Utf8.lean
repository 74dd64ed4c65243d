import BitcoinReserve.Text.Utf8
import Mathlib

/-!
# The bytes of texts

A text has bytes unless there is a surrogate in it, and no two texts have the same. Only the null
character has a zero among its bytes.
-/
namespace BitcoinReserve.Text

theorem ofChars_injective : Function.Injective ofChars := by
  intro cs ds same
  have chars := congrArg chars? same
  rwa [chars?_ofChars, chars?_ofChars, Option.some.injEq] at chars

theorem chars?_append (s t : Text) :
    (s ++ t).chars? = s.chars?.bind fun cs => t.chars?.map (cs ++ ·) := by
  simp only [chars?, points_append, List.mapM_append, Option.bind_eq_bind, Option.pure_def]
  cases s.points.mapM CodePoint.char? with
  | none => rfl
  | some cs =>
    cases t.points.mapM CodePoint.char? with
    | none => rfl
    | some ds => rfl

theorem utf8?_eq_none_iff {t : Text} : utf8? t = none ↔ t.chars? = none := by
  simp [utf8?, string?]

theorem utf8?_append_eq_none_iff {s t : Text} :
    utf8? (s ++ t) = none ↔ utf8? s = none ∨ utf8? t = none := by
  simp only [utf8?_eq_none_iff, chars?_append]
  cases s.chars? with
  | none => simp
  | some cs => simp

theorem utf8?_ofString_ne_none (s : String) : utf8? (ofString s) ≠ none := by
  rw [Ne, utf8?_eq_none_iff, ofString, chars?_ofChars]
  simp

/-- No two texts have the same bytes. -/
theorem eq_of_utf8? {s t : Text} {bs : Bytes} (hs : utf8? s = some bs) (ht : utf8? t = some bs) :
    s = t := by
  simp only [utf8?, string?, Option.map_map, Option.map_eq_some_iff, Function.comp_apply] at hs ht
  obtain ⟨cs, hcs, rfl⟩ := hs
  obtain ⟨ds, hds, same⟩ := ht
  have bytes : (String.ofList ds).toByteArray = (String.ofList cs).toByteArray := by
    apply ByteArray.ext
    apply Array.toList_inj.mp
    exact same
  have strings : ds = cs := String.ofList_inj.mp (String.toByteArray_inj.mp bytes)
  rw [chars?_eq_some_iff.mp hcs, chars?_eq_some_iff.mp hds, strings]

/-- Only the null character has a zero among its bytes. -/
theorem eq_nul_of_zero_mem {c : Char} (zero : 0 ∈ String.utf8EncodeChar c) : c = '\x00' := by
  have value {n : Nat} (small : n < 256) : (0 : UInt8) = UInt8.ofNat n ↔ n = 0 := by
    rw [← UInt8.toNat_inj, UInt8.toNat_zero, UInt8.toNat_ofNat']
    omega
  simp only [String.utf8EncodeChar] at zero
  split_ifs at zero with ascii
  · rw [List.mem_singleton, value (by omega)] at zero
    exact Char.ext (UInt32.toNat_inj.mp zero)
  all_goals
    simp (disch := omega) only [List.mem_cons, List.not_mem_nil, or_false, value] at zero
    omega

theorem nul_mem_of_utf8? {t : Text} {bs : Bytes} (encoded : utf8? t = some bs) (zero : 0 ∈ bs) :
    .char '\x00' ∈ t.points := by
  simp only [utf8?, string?, Option.map_map, Option.map_eq_some_iff, Function.comp_apply] at encoded
  obtain ⟨cs, chars, rfl⟩ := encoded
  have bytes : utf8 (String.ofList cs) = cs.flatMap String.utf8EncodeChar := by
    simp [utf8, String.toUTF8, List.utf8Encode]
  rw [bytes, List.mem_flatMap] at zero
  obtain ⟨c, mem, inside⟩ := zero
  rw [chars?_eq_some_iff.mp chars, points_ofChars, List.mem_map]
  exact ⟨c, mem, congrArg _ (eq_nul_of_zero_mem inside)⟩

end BitcoinReserve.Text
