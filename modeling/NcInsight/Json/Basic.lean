import NcInsight.Number.Digits

/-
JSON values.

An object is its list of members in the order written, repeats included, because a
record that names a field twice is refused.  Of the numbers only the plain naturals
matter to the library; any other literal is kept as it was written.
-/
namespace NcInsight

inductive Json where
  | null
  | bool (b : Bool)
  /-- An integer literal without sign, fraction or exponent. -/
  | natural (n : Nat)
  /-- Any other number literal. -/
  | numeral (literal : String)
  | string (s : String)
  /-- A well-formed literal that has no text, because an escape leaves half of a
  surrogate pair alone, or an object with such a literal for a key.  It can be skipped and
  not read. -/
  | textless
  | array (items : List Json)
  | object (members : List (String × Json))
  deriving Inhabited

namespace Json

/-- The first member called `key`. -/
def get? (j : Json) (key : String) : Option Json :=
  match j with
  | .object ms => (ms.find? (·.1 == key)).map (·.2)
  | _ => none

def string? : Json → Option String
  | .string s => some s
  | _ => none

def items? : Json → Option (List Json)
  | .array js => some js
  | _ => none

/-- A natural number below `bound`. -/
def natural? (bound : Nat) : Json → Option Nat
  | .natural n => if n < bound then some n else none
  | _ => none

/-- A natural number of 64 bits. -/
def word? (j : Json) : Option Nat := j.natural? Number.wordBound

/-- The optional value: absent is written `null`. -/
def ofOption {α : Type} (write : α → Json) : Option α → Json
  | none => .null
  | some a => write a

end Json
end NcInsight
