import NcInsight.Number.Digits
import NcInsight.Text.Parts

/-
Decimal text read as the nearest binary number of 53 digits.

Two texts name the same number when they round to the same binary number, so `0.1` and
`0.1000000000000000000001` agree.  A finite number is kept in one form only: its
mantissa has 53 binary digits unless its exponent is the least one, which makes equality of
numbers equality of their parts.  A tie goes to the even mantissa.
-/
namespace NcInsight
namespace Number

inductive Binary where
  | nan
  | infinite (negative : Bool)
  /-- The number `mantissa * 2 ^ exponent`, or its negative. -/
  | finite (negative : Bool) (mantissa : Nat) (exponent : Int)
  deriving DecidableEq, Repr

namespace Binary

def precision : Nat := 53

/-- The least number with more binary digits than a mantissa has. -/
def mantissaBound : Nat := Nat.pow 2 precision

def leastExponent : Int := -1074

def greatestExponent : Int := 971

def zero : Binary := finite false 0 leastExponent

/-- Same number: not-a-number equals nothing, and the two zeros are equal. -/
def same : Binary → Binary → Bool
  | nan, _ => false
  | _, nan => false
  | finite _ 0 _, finite _ 0 _ => true
  | a, b => a == b

/-- The number is above the natural number `n`. -/
def exceeds (n : Nat) : Binary → Bool
  | nan => false
  | infinite negative => !negative
  | finite true _ _ => false
  | finite false m e => n * Nat.pow 2 (-e).toNat < m * Nat.pow 2 e.toNat

/-- A quotient rounded to a whole number, a half going to the even one. -/
def roundDiv (num den : Nat) : Nat :=
  let q := num / den
  let r := num % den
  if 2 * r < den then q
  else if den < 2 * r then q + 1
  else if q % 2 = 0 then q else q + 1

/-- The quotient `num / den` in units of `2 ^ e`, rounded. -/
def roundAt (num den : Nat) (e : Int) : Nat :=
  roundDiv (num * Nat.pow 2 (-e).toNat) (den * Nat.pow 2 e.toNat)

/-- The greatest `e` for which `num / den` has all its binary digits above `2 ^ e`, give or
take one. -/
def scale (num den : Nat) : Int := (num.log2 : Int) - den.log2 - precision

/-- The nearest number to `num / den`. -/
def nearest (negative : Bool) (num den : Nat) : Binary :=
  let e := max leastExponent (scale num den)
  let e := if mantissaBound ≤ roundAt num den e then e + 1 else e
  let m := roundAt num den e
  let (m, e) := if m = mantissaBound then (mantissaBound / 2, e + 1) else (m, e)
  if greatestExponent < e then infinite negative else finite negative m e

/-- The nearest number to `digits * 10 ^ exponent`.  Far outside the range of exponents the
result does not depend on the digits. -/
def ofDecimal (negative : Bool) (digits : Nat) (exponent : Int) : Binary :=
  if digits = 0 then finite negative 0 leastExponent
  else
    let magnitude := (toString digits).length + exponent
    if 400 < magnitude then infinite negative
    else if magnitude < -400 then finite negative 0 leastExponent
    else nearest negative (digits * Nat.pow 10 exponent.toNat)
        (Nat.pow 10 (-exponent).toNat)

/-- Digits, a point and more digits, of which there is at least one. -/
def splitMantissa (cs : List Char) : Option (List Char × List Char × List Char) :=
  let (whole, r) := cs.span Char.isDigit
  let (fraction, r) := match r with
    | '.' :: r => r.span Char.isDigit
    | r => ([], r)
  if whole.isEmpty && fraction.isEmpty then none else some (whole, fraction, r)

/-- The exponent at the end, zero if there is none. -/
def exponent? : List Char → Option Int
  | [] => some 0
  | c :: r =>
      if c ≠ 'e' ∧ c ≠ 'E' then none
      else
        let (negative, ds) := match r with
          | '-' :: ds => (true, ds)
          | '+' :: ds => (false, ds)
          | ds => (false, ds)
        if ds.isEmpty || !ds.all Char.isDigit then none
        else some (if negative then -(ofDigits ds : Int) else ofDigits ds)

def unsigned? (negative : Bool) (cs : List Char) : Option Binary :=
  match String.ofList (cs.map Char.toLower) with
  | "inf" | "infinity" => some (infinite negative)
  | "nan" => some nan
  | _ => do
      let (whole, fraction, r) ← splitMantissa cs
      let e ← exponent? r
      return ofDecimal negative (ofDigits (whole ++ fraction)) (e - fraction.length)

def ofChars? : List Char → Option Binary
  | '-' :: r => unsigned? true r
  | '+' :: r => unsigned? false r
  | r => unsigned? false r

/-- The number a text is, white space at its ends apart. -/
def ofText? (s : String) : Option Binary := ofChars? (Text.trimBoth Text.isBlank s.toList)

end Binary
end Number
end NcInsight
