/-
Punycode: a label with characters outside ASCII, written in ASCII.

The ASCII characters come first; the others follow in order of their code points, each
as the distance from the one before it, in digits whose weights adapt to the distances
seen so far.
-/
namespace NcInsight
namespace Url
namespace Punycode

def digit (d : Nat) : Char := if d < 26 then Char.ofNat (97 + d) else Char.ofNat (22 + d)

def digitValue (c : Char) : Option Nat :=
  if 'a' ≤ c ∧ c ≤ 'z' then some (c.toNat - 97)
  else if 'A' ≤ c ∧ c ≤ 'Z' then some (c.toNat - 65)
  else if '0' ≤ c ∧ c ≤ '9' then some (c.toNat - 22)
  else none

/-- The threshold of the digit of weight `k`. -/
def threshold (k bias : Nat) : Nat := min 26 (max 1 (k - bias))

theorem threshold_pos (k bias : Nat) : 1 ≤ threshold k bias := by
  unfold threshold; omega

def scaleDown (delta k : Nat) : Nat :=
  if 455 < delta then scaleDown (delta / 35) (k + 36) else k + 36 * delta / (delta + 38)
termination_by delta
decreasing_by omega

/-- The next bias after a distance `delta`, with `count` characters placed. -/
def adapt (delta count : Nat) (first : Bool) : Nat :=
  let delta := if first then delta / 700 else delta / 2
  scaleDown (delta + delta / count) 0

def digits (bias k q : Nat) : List Char :=
  let t := threshold k bias
  if q < t then [digit q]
  else digit (t + (q - t) % (36 - t)) :: digits bias (k + 36) ((q - t) / (36 - t))
termination_by q
decreasing_by
  have h := threshold_pos k bias
  exact Nat.lt_of_le_of_lt (Nat.div_le_self _ _) (by omega)

structure State where
  out : List Char
  delta : Nat
  bias : Nat
  placed : Nat

/-- Passes one character while the code point `m` is placed. -/
def place (basic m : Nat) (s : State) (c : Char) : State :=
  if c.toNat < m then { s with delta := s.delta + 1 }
  else if c.toNat = m then
    { out := s.out ++ digits s.bias 36 s.delta
      delta := 0
      bias := adapt s.delta (s.placed + 1) (s.placed == basic)
      placed := s.placed + 1 }
  else s

/-- Places the code points `m` in ascending order; `n` is the least one still possible. -/
def placeAll (cs : List Char) (basic : Nat) : List Nat → Nat → State → State
  | [], _, s => s
  | m :: ms, n, s =>
      let s := { s with delta := s.delta + (m - n) * (s.placed + 1) }
      let s := cs.foldl (place basic m) s
      placeAll cs basic ms (m + 1) { s with delta := s.delta + 1 }

def encode (cs : List Char) : List Char :=
  let basic := cs.filter (·.toNat < 0x80)
  let high := (((cs.map (·.toNat)).filter (0x80 ≤ ·)).mergeSort).eraseDups
  let start := if basic.isEmpty then [] else basic ++ ['-']
  (placeAll cs basic.length high 0x80
    { out := start, delta := 0, bias := 72, placed := basic.length }).out

/-- Positions and weights fit a word of 32 bits. -/
def bound : Nat := 4294967296

/-- A position: the distance that the digits stand for, counted from `i`. -/
def readPosition (bias k weight i : Nat) : List Char → Option (Nat × List Char)
  | [] => none
  | c :: cs =>
      match digitValue c with
      | none => none
      | some d =>
          let t := threshold k bias
          let i := i + d * weight
          if bound ≤ i then none
          else if d < t then some (i, cs)
          else if bound ≤ weight * (36 - t) then none
          else readPosition bias (k + 36) (weight * (36 - t)) i cs

/-- Inserts the characters one position at a time; each position takes at least one digit. -/
def insertAll : Nat → List Char → (n i bias : Nat) → List Char → Option (List Char)
  | _, out, _, _, _, [] => some out
  | 0, _, _, _, _, _ => none
  | fuel + 1, out, n, i, bias, cs =>
      match readPosition bias 36 1 i cs with
      | none => none
      | some (next, cs) =>
          let count := out.length + 1
          let n := n + next / count
          let place := next % count
          if n < 0xD800 || (0xDFFF < n && n < 0x110000) then
            insertAll fuel (out.take place ++ Char.ofNat n :: out.drop place) n (place + 1)
              (adapt (next - i) count (i == 0)) cs
          else none

/-- The part before the last hyphen, and the part after it.  A hyphen at the front divides
nothing. -/
def splitLast (cs : List Char) : List Char × List Char :=
  let tail := (cs.reverse.takeWhile (· ≠ '-')).reverse
  if tail.length + 1 < cs.length then (cs.take (cs.length - tail.length - 1), tail)
  else ([], cs)

def decode? (cs : List Char) : Option (List Char) :=
  let (basic, tail) := splitLast cs
  if basic.all (·.toNat < 0x80) then insertAll (tail.length + 1) basic 0x80 0 72 tail else none

end Punycode
end Url
end NcInsight
