import NcInsight.Json.Basic
import NcInsight.Number.Digits

/-
Reading JSON text.

The grammar is the standard one: white space is blank, tab, line feed and carriage
return; control characters may not stand in a string; nothing but white space may
follow the value.  `value` and its two companions recurse on a bound of the characters
left, which `parse?` takes from the text.
-/
namespace NcInsight
namespace Json
namespace Reader

def isSpace (c : Char) : Bool := c = ' ' || c = '\n' || c = '\t' || c = '\r'

def skip (cs : List Char) : List Char := cs.dropWhile isSpace

def hex4 (a b c d : Char) : Option Nat := Number.ofHex? [a, b, c, d]

def isHigh (n : Nat) : Bool := 0xD800 ≤ n && n < 0xDC00

def isLow (n : Nat) : Bool := 0xDC00 ≤ n && n < 0xE000

/-- The letter escapes. -/
def escape : Char → Option Char
  | '"' => some '"'
  | '\\' => some '\\'
  | '/' => some '/'
  | 'b' => some '\x08'
  | 'f' => some '\x0c'
  | 'n' => some '\n'
  | 'r' => some '\r'
  | 't' => some '\t'
  | _ => none

/-- The rest of a string literal after its opening quote.  `acc` holds the characters
read so far, last first, and is `none` once a surrogate was left alone. -/
def text (acc : Option (List Char)) : List Char → Option (Option String × List Char)
  | [] => none
  | '"' :: r => some (acc.map fun cs => String.ofList cs.reverse, r)
  | '\\' :: 'u' :: a :: b :: c :: d :: '\\' :: 'u' :: e :: f :: g :: h :: r =>
      match hex4 a b c d, hex4 e f g h with
      | some n, some m =>
          if isHigh n then
            if isLow m then
              text (acc.map (Char.ofNat (0x10000 + (n - 0xD800) * 0x400 + (m - 0xDC00)) :: ·)) r
            else text none ('\\' :: 'u' :: e :: f :: g :: h :: r)
          else if isLow n then text none ('\\' :: 'u' :: e :: f :: g :: h :: r)
          else text (acc.map (Char.ofNat n :: ·)) ('\\' :: 'u' :: e :: f :: g :: h :: r)
      | _, _ => none
  | '\\' :: 'u' :: a :: b :: c :: d :: r =>
      match hex4 a b c d with
      | some n =>
          if isHigh n || isLow n then text none r else text (acc.map (Char.ofNat n :: ·)) r
      | none => none
  | '\\' :: e :: r =>
      match escape e with
      | some c => text (acc.map (c :: ·)) r
      | none => none
  | c :: r => if c.toNat < 0x20 then none else text (acc.map (c :: ·)) r
termination_by cs => cs.length

/-- Digits, at least one. -/
def digits (cs : List Char) : Option (List Char × List Char) :=
  match cs.span Char.isDigit with
  | ([], _) => none
  | (ds, r) => some (ds, r)

/-- The digits before a fraction: a leading zero stands alone. -/
def integer (cs : List Char) : Option (List Char × List Char) :=
  match digits cs with
  | some ('0' :: _ :: _, _) => none
  | other => other

def fraction : List Char → Option (List Char × List Char)
  | '.' :: r => (digits r).map fun (ds, r) => ('.' :: ds, r)
  | r => some ([], r)

def exponent : List Char → Option (List Char × List Char)
  | 'e' :: r | 'E' :: r =>
      match r with
      | '+' :: r => (digits r).map fun (ds, r) => ('e' :: '+' :: ds, r)
      | '-' :: r => (digits r).map fun (ds, r) => ('e' :: '-' :: ds, r)
      | r => (digits r).map fun (ds, r) => ('e' :: ds, r)
  | r => some ([], r)

def unsigned (cs : List Char) : Option (List Char × Bool × List Char) := do
  let (i, r) ← integer cs
  let (f, r) ← fraction r
  let (e, r) ← exponent r
  return (i ++ f ++ e, f.isEmpty && e.isEmpty, r)

def number : List Char → Option (Json × List Char)
  | '-' :: r => do
      let (ds, _, r) ← unsigned r
      return (.numeral (String.ofList ('-' :: ds)), r)
  | r => do
      let (ds, plain, r) ← unsigned r
      return (if plain then .natural (Number.ofDigits ds) else .numeral (String.ofList ds), r)

/-- The object of these members: without text as soon as one key is. -/
def objectOf (members : List (Option String × Json)) : Json :=
  if members.all (·.1.isSome) then
    .object (members.filterMap fun (k, v) => k.map (·, v))
  else .textless

mutual

/-- A value, the white space before it skipped. -/
def value : Nat → List Char → Option (Json × List Char)
  | 0, _ => none
  | fuel + 1, cs =>
      match skip cs with
      | 'n' :: 'u' :: 'l' :: 'l' :: r => some (.null, r)
      | 't' :: 'r' :: 'u' :: 'e' :: r => some (.bool true, r)
      | 'f' :: 'a' :: 'l' :: 's' :: 'e' :: r => some (.bool false, r)
      | '"' :: r =>
          match text (some []) r with
          | some (some s, r) => some (.string s, r)
          | some (none, r) => some (.textless, r)
          | none => none
      | '[' :: r =>
          match skip r with
          | ']' :: r => some (.array [], r)
          | r => (items fuel r).map fun (js, r) => (.array js, r)
      | '\x7b' :: r =>
          match skip r with
          | '\x7d' :: r => some (.object [], r)
          | r => (members fuel r).map fun (ms, r) => (objectOf ms, r)
      | r => number r

/-- The items of an array up to its closing bracket, at least one. -/
def items : Nat → List Char → Option (List Json × List Char)
  | 0, _ => none
  | fuel + 1, cs =>
      match value fuel cs with
      | none => none
      | some (j, r) =>
          match skip r with
          | ',' :: r => (items fuel r).map fun (js, r) => (j :: js, r)
          | ']' :: r => some ([j], r)
          | _ => none

/-- The members of an object up to its closing brace, at least one. -/
def members : Nat → List Char → Option (List (Option String × Json) × List Char)
  | 0, _ => none
  | fuel + 1, cs =>
      match skip cs with
      | '"' :: r =>
          match text (some []) r with
          | none => none
          | some (key, r) =>
              match skip r with
              | ':' :: r =>
                  match value fuel r with
                  | none => none
                  | some (j, r) =>
                      match skip r with
                      | ',' :: r => (members fuel r).map fun (ms, r) => ((key, j) :: ms, r)
                      | '\x7d' :: r => some ([(key, j)], r)
                      | _ => none
              | _ => none
      | _ => none

end

end Reader

/-- The value of a JSON text.  Every call consumes a character or closes a bracket, so the
number of characters bounds the recursion. -/
def parse? (s : String) : Option Json :=
  let cs := s.toList
  match Reader.value (2 * cs.length + 2) cs with
  | some (j, r) => if (Reader.skip r).isEmpty then some j else none
  | none => none

end Json
end NcInsight
