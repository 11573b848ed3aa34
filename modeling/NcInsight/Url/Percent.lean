import NcInsight.Number.Digits

/-
Percent encoding.

A character is written as `%XX` for each of its UTF-8 bytes when it is not ASCII, is a
control, or belongs to the set of the part of the address it stands in.
-/
namespace NcInsight
namespace Url

/-- The bytes of a character in UTF-8. -/
def utf8 (c : Char) : List Nat :=
  let n := c.toNat
  if n < 0x80 then [n]
  else if n < 0x800 then [0xC0 + n / 0x40, 0x80 + n % 0x40]
  else if n < 0x10000 then [0xE0 + n / 0x1000, 0x80 + n / 0x40 % 0x40, 0x80 + n % 0x40]
  else [0xF0 + n / 0x40000, 0x80 + n / 0x1000 % 0x40, 0x80 + n / 0x40 % 0x40, 0x80 + n % 0x40]

def hexUpper (n : Nat) : Char :=
  if n < 10 then Char.ofNat (48 + n) else Char.ofNat (55 + n)

def percent (byte : Nat) : List Char := ['%', hexUpper (byte / 16), hexUpper (byte % 16)]

def isControl (c : Char) : Bool := c.toNat < 0x20 || c.toNat = 0x7F

/-- The written form of a character, where the characters of `reserved` have to be encoded. -/
def encodeChar (reserved : List Char) (c : Char) : List Char :=
  if 0x7F < c.toNat || isControl c || reserved.contains c then (utf8 c).flatMap percent else [c]

def encode (reserved : List Char) (cs : List Char) : List Char := cs.flatMap (encodeChar reserved)

def fragmentSet : List Char := [' ', '"', '<', '>', '\x60']

def pathSet : List Char := fragmentSet ++ ['#', '?', '\x7b', '\x7d']

def userinfoSet : List Char := pathSet ++ ['/', ':', ';', '=', '@', '[', '\\', ']', '^', '|']

def querySet : List Char := [' ', '"', '#', '<', '>']

/-- In the schemes of the web a query encodes the single quote too. -/
def specialQuerySet : List Char := querySet ++ ['\x27']

/-- The bytes of a text with its percent escapes undone.  A percent sign without two digits
stands for itself. -/
def decodeBytes : List Char → List Nat
  | [] => []
  | '%' :: a :: b :: cs =>
      match Number.hexValue? a, Number.hexValue? b with
      | some x, some y => (x * 16 + y) :: decodeBytes cs
      | _, _ => 0x25 :: decodeBytes (a :: b :: cs)
  | c :: cs => utf8 c ++ decodeBytes cs
termination_by cs => cs.length

/-- The text with its percent escapes undone, if the bytes are UTF-8. -/
def decode? (cs : List Char) : Option (List Char) :=
  (String.fromUTF8? ⟨((decodeBytes cs).map (·.toUInt8)).toArray⟩).map String.toList

end Url
end NcInsight
