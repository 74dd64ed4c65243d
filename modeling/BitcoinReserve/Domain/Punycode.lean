import BitcoinReserve.Text.Letter

/-!
# Punycode

Any code points are written with ASCII letters, digits and hyphens: first the ASCII code points as
they are, then the places of all others as numbers of varying length.
-/
namespace BitcoinReserve.Domain.Punycode

def digit (d : Nat) : Char := if d < 26 then Char.ofNat (97 + d) else Char.ofNat (22 + d)

def digit? (c : Char) : Option Nat :=
  if 'a' ≤ c ∧ c ≤ 'z' then some (c.toNat - 97)
  else if 'A' ≤ c ∧ c ≤ 'Z' then some (c.toNat - 65)
  else if '0' ≤ c ∧ c ≤ '9' then some (c.toNat - 22)
  else none

/-- The least digit at place `k` after which the number goes on. -/
def threshold (k bias : Nat) : Nat :=
  if 36 * (k + 1) ≤ bias then 1 else max 1 (min 26 (36 * (k + 1) - bias))

theorem threshold_pos (k bias : Nat) : 1 ≤ threshold k bias := by
  unfold threshold; split <;> omega

theorem threshold_le (k bias : Nat) : threshold k bias ≤ 26 := by
  unfold threshold; split <;> omega

/-- The digits of a number, least significant first, from place `k` on. -/
def writeNumber (bias k n : Nat) : List Char :=
  let t := threshold k bias
  if n < t then [digit n]
  else digit (t + (n - t) % (36 - t)) :: writeNumber bias (k + 1) ((n - t) / (36 - t))
termination_by n
decreasing_by
  have := threshold_pos k bias
  have := threshold_le k bias
  exact Nat.lt_of_le_of_lt (Nat.div_le_self _ _) (by omega)

/-- Divides by 35 as long as the number is large, and counts 36 for each time. -/
def damp (delta : Nat) : Nat × Nat :=
  if 455 < delta then
    let (rest, count) := damp (delta / 35)
    (rest, count + 36)
  else (delta, 0)
termination_by delta
decreasing_by exact Nat.div_lt_self (by omega) (by omega)

/-- The bias after a number, which is the first one or not, of a text that has `count` code points
now. -/
def adapt (delta count : Nat) (first : Bool) : Nat :=
  let delta := if first then delta / 700 else delta / 2
  let (rest, bias) := damp (delta + delta / count)
  bias + 36 * rest / (rest + 38)

def encodeNumbers (bias count : Nat) (first : Bool) : List Nat → List Char
  | [] => []
  | delta :: rest =>
    writeNumber bias 0 delta ++ encodeNumbers (adapt delta (count + 1) first) (count + 1) false rest

/-- The places, counted among the code points up to `n`, at which `n` stands. -/
def places (n : Nat) (ns : List Nat) : List Nat :=
  ((ns.filter (· ≤ n)).zipIdx.filter (·.1 = n)).map Prod.snd

/-- The differences of places where each next one lies behind the last, plus `start` for the
first. -/
def steps (start : Nat) : (last : Nat) → List Nat → List Nat
  | _, [] => []
  | last, place :: rest => (start + place - last) :: steps 0 (place + 1) rest

/-- The numbers for the code points from `low` on, in ascending order, with the place that was
reached. -/
def deltas (ns : List Nat) : (low place : Nat) → List Nat → List Nat
  | _, _, [] => []
  | low, place, n :: rest =>
    let count := (ns.filter (· < n)).length
    let found := places n ns
    steps ((count + 1) * (n - low)) place found ++
      deltas ns n ((found.getLast?.map (· + 1)).getD place) rest

def encode (ns : List Nat) : List Char :=
  let basic := ns.filter (· < 0x80)
  let others := ((ns.filter (0x80 ≤ ·)).mergeSort).eraseDups
  (if basic.isEmpty then [] else basic.map Char.ofNat ++ ['-']) ++
    encodeNumbers 72 basic.length true (deltas ns 0x80 0 others)

/-- Reads a number whose digits so far make `n`; the next one counts `weight` times. -/
def readNumber (bias : Nat) : (k weight n : Nat) → List Char → Option (Nat × List Char)
  | _, _, _, [] => none
  | k, weight, n, c :: rest =>
    match digit? c with
    | none => none
    | some d =>
      if d < threshold k bias then some (n + d * weight, rest)
      else readNumber bias (k + 1) (weight * (36 - threshold k bias)) (n + d * weight) rest

/-- Inserts code points into a text, the next one from place `place` on and not below `low`; `fuel`
bounds their number. -/
def insertAll (bias low place : Nat) (first : Bool) : (fuel : Nat) → List Nat → List Char →
    Option (List Nat)
  | _, ns, [] => some ns
  | 0, _, _ => none
  | fuel + 1, ns, cs =>
    match readNumber bias 0 1 0 cs with
    | none => none
    | some (delta, rest) =>
      let count := ns.length + 1
      let n := low + (place + delta) / count
      let place := (place + delta) % count
      if n < 0x110000 then
        insertAll (adapt delta count first) n (place + 1) false fuel (ns.insertIdx place n) rest
      else none

/-- Splits at the last hyphen; without one there is nothing before it. -/
def splitLast (cs : List Char) : List Char × List Char :=
  match cs.reverse.dropWhile (· ≠ '-') with
  | [] => ([], cs)
  | _ :: before => (before.reverse, (cs.reverse.takeWhile (· ≠ '-')).reverse)

def decode? (cs : List Char) : Option (List Nat) :=
  let (basic, extended) := splitLast cs
  insertAll 72 0x80 0 true extended.length (basic.map Char.toNat) extended

end BitcoinReserve.Domain.Punycode
