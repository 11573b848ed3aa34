/-
Digits and what they write.

A natural number in text has digits, at least one, after an optional plus sign, and a value of 64
bits.
-/
namespace NcInsight
namespace Number

/-- The least number that does not fit in 64 bits. -/
def wordBound : Nat := 0x10000000000000000

/-- The least number that does not fit in 64 bits of which one is a sign. -/
def signedBound : Nat := 0x8000000000000000

/-! ## Reading -/

/-- The value of a hexadecimal digit of either case. -/
def hexValue? (c : Char) : Option Nat :=
  if '0' ≤ c ∧ c ≤ '9' then some (c.toNat - 48)
  else if 'a' ≤ c ∧ c ≤ 'f' then some (c.toNat - 87)
  else if 'A' ≤ c ∧ c ≤ 'F' then some (c.toNat - 55)
  else none

/-- The number that digits of these values write in a base. -/
def ofValues (base : Nat) (ds : List Nat) : Nat := ds.foldl (fun n d => n * base + d) 0

/-- The number that decimal digits write. -/
def ofDigits (ds : List Char) : Nat := ofValues 10 (ds.map fun d => d.toNat - 48)

/-- The number that hexadecimal digits write. -/
def ofHex? (ds : List Char) : Option Nat := (ds.mapM hexValue?).map (ofValues 16)

def naturalChars? (cs : List Char) : Option Nat :=
  let ds := match cs with
    | '+' :: r => r
    | r => r
  if ds.isEmpty || !ds.all Char.isDigit then none
  else if ofDigits ds < wordBound then some (ofDigits ds) else none

/-- The number a text is. -/
def natural? (s : String) : Option Nat := naturalChars? s.toList

/-! ## Writing -/

def hexDigit (n : Nat) : Char :=
  if n < 10 then Char.ofNat (48 + n) else Char.ofNat (87 + n)

/-- Lowercase hexadecimal digits, at most `fuel` of them, before `tail`. -/
def hexFuel : Nat → Nat → List Char → List Char
  | 0, _, tail => tail
  | fuel + 1, n, tail =>
      let rest := hexDigit (n % 16) :: tail
      if n < 16 then rest else hexFuel fuel (n / 16) rest

/-- A number in lowercase hexadecimal. -/
def hex (n : Nat) : List Char := hexFuel (n + 1) n []

end Number
end NcInsight
