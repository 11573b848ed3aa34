/-
The parts of a text: what stands between white space, between separators, and behind the letter of
a jump.

White space is the code points with the Unicode property White_Space.
-/
namespace NcInsight
namespace Text

/-! ## White space -/

/-- The closed ranges of code points that are white space. -/
def blankRanges : List (Nat × Nat) :=
  [(0x09, 0x0D), (0x20, 0x20), (0x85, 0x85), (0xA0, 0xA0), (0x1680, 0x1680),
   (0x2000, 0x200A), (0x2028, 0x2029), (0x202F, 0x202F), (0x205F, 0x205F), (0x3000, 0x3000)]

def inRanges (ranges : List (Nat × Nat)) (n : Nat) : Bool :=
  ranges.any fun r => r.1 ≤ n && n ≤ r.2

def isBlank (c : Char) : Bool := inRanges blankRanges c.toNat

def trimStartChars (cs : List Char) : List Char := cs.dropWhile isBlank

def trimEndChars (cs : List Char) : List Char := (cs.reverse.dropWhile isBlank).reverse

/-- The text without the characters of `drop` at either end. -/
def trimBoth (drop : Char → Bool) (cs : List Char) : List Char :=
  ((cs.dropWhile drop).reverse.dropWhile drop).reverse

/-- The text without white space at either end. -/
def trim (s : String) : String := String.ofList (trimBoth isBlank s.toList)

/-- The text without white space at its end. -/
def trimEnd (s : String) : String := String.ofList (trimEndChars s.toList)

/-! ## Separators -/

/-- The parts between the characters `sep`; one more than there are of them. -/
def splitAt (sep : Char) : List Char → List (List Char)
  | [] => [[]]
  | c :: cs =>
      if c = sep then [] :: splitAt sep cs
      else match splitAt sep cs with
        | [] => [[c]]
        | p :: ps => (c :: p) :: ps

/-! ## Words of a program -/

def stripJumpChars : List Char → List Char
  | 'N' :: cs => cs
  | 'n' :: cs => cs
  | cs => cs

/-- The value of a jump target: `N10` and `n10` jump to `10`.  One letter is dropped. -/
def stripJump (s : String) : String := String.ofList (stripJumpChars s.toList)

/-- Digits and points only, at least one. -/
def isPlainNumber (s : String) : Bool :=
  !s.isEmpty && s.toList.all fun c => c.isDigit || c = '.'

end Text
end NcInsight
