import NcInsight.Json.Basic
import NcInsight.Number.Binary

/-
The simple values of TOML text: strings, numbers, dates and truth values.

Every reader takes the characters from where the value starts and answers the value and
the characters behind it.  What may follow a value is for the caller to say, so a reader
that stops early is refused there.
-/
namespace NcInsight
namespace Toml

/-! ## Characters -/

def isSpace (c : Char) : Bool := c = ' ' || c = '\t'

/-- Characters of a comment: no control character but the tab. -/
def isText (c : Char) : Bool := c = '\t' || (0x20 ≤ c.toNat && c.toNat ≠ 0x7F)

def isBasic (c : Char) : Bool := isText c && c ≠ '"' && c ≠ '\\'

def isLiteral (c : Char) : Bool := isText c && c ≠ '\x27'

def isBareKey (c : Char) : Bool := c.isAlphanum || c = '-' || c = '_'

/-- What follows a line break. -/
def newline? : List Char → Option (List Char)
  | '\n' :: r => some r
  | '\r' :: '\n' :: r => some r
  | _ => none

def skipSpaces (cs : List Char) : List Char := cs.dropWhile isSpace

/-- What follows an optional comment. -/
def skipComment : List Char → List Char
  | '#' :: r => r.dropWhile isText
  | r => r

/-- What follows the end of a line, which may have a comment on it. -/
def lineEnd? (cs : List Char) : Option (List Char) :=
  match skipComment (skipSpaces cs) with
  | [] => some []
  | r => newline? r

def skipLinesWithin : Nat → List Char → List Char
  | 0, cs => cs
  | fuel + 1, cs =>
      match newline? (skipComment (skipSpaces cs)) with
      | some r => skipLinesWithin fuel r
      | none => skipSpaces cs

/-- What follows spaces, comments and line breaks. -/
def skipLines (cs : List Char) : List Char := skipLinesWithin (cs.length + 1) cs

/-! ## Strings -/

/-- A character from its code point; surrogates are none. -/
def charOf? (n : Nat) : Option Char := if n.isValidChar then some (Char.ofNat n) else none

/-- A character from the given count of hexadecimal digits. -/
def hexEscape? (count : Nat) (cs : List Char) : Option (Char × List Char) := do
  let ds := cs.take count
  if ds.length < count then none
  else
    let c ← charOf? (← Number.ofHex? ds)
    return (c, cs.drop count)

/-- The character of an escape, read behind its backslash. -/
def escape? : List Char → Option (Char × List Char)
  | 'b' :: r => some ('\x08', r)
  | 't' :: r => some ('\t', r)
  | 'n' :: r => some ('\n', r)
  | 'f' :: r => some ('\x0c', r)
  | 'r' :: r => some ('\r', r)
  | '"' :: r => some ('"', r)
  | '\\' :: r => some ('\\', r)
  | 'u' :: r => hexEscape? 4 r
  | 'U' :: r => hexEscape? 8 r
  | _ => none

/-- The rest of a string in double quotes. -/
def basicWithin : Nat → List Char → Option (List Char × List Char)
  | 0, _ => none
  | _ + 1, [] => none
  | _ + 1, '"' :: r => some ([], r)
  | fuel + 1, '\\' :: r => do
      let (c, r) ← escape? r
      let (s, r) ← basicWithin fuel r
      return (c :: s, r)
  | fuel + 1, c :: r => do
      if isBasic c then
        let (s, r) ← basicWithin fuel r
        return (c :: s, r)
      else none

def basic? (cs : List Char) : Option (List Char × List Char) := basicWithin (cs.length + 1) cs

/-- The rest of a string in single quotes. -/
def literal? (cs : List Char) : Option (List Char × List Char) :=
  match cs.span isLiteral with
  | (s, '\x27' :: r) => some (s, r)
  | _ => none

/-- The quotes in front, with what follows them. -/
def quotes (q : Char) (cs : List Char) : Nat × List Char :=
  ((cs.takeWhile (· = q)).length, cs.dropWhile (· = q))

/-- A run of quotes in a string of several lines: up to two belong to the string, three end it,
and up to two right in front of those three belong to it as well. -/
inductive Run where
  | inside
  | ending (kept : Nat)
  | tooLong

def runOf (n : Nat) : Run :=
  if n < 3 then .inside else if n ≤ 5 then .ending (n - 3) else .tooLong

def skipBreaksWithin : Nat → List Char → List Char
  | 0, cs => cs
  | fuel + 1, cs =>
      match newline? (skipSpaces cs) with
      | some r => skipBreaksWithin fuel r
      | none => skipSpaces cs

/-- The text that a backslash at the end of a line goes on with: spaces and line breaks between
them are dropped. -/
def continuation? (cs : List Char) : Option (List Char) :=
  (newline? (skipSpaces cs)).map fun r => skipBreaksWithin (r.length + 1) r

/-- The rest of a string of several lines in double quotes. -/
def basicLinesWithin : Nat → List Char → Option (List Char × List Char)
  | 0, _ => none
  | _ + 1, [] => none
  | fuel + 1, '"' :: r => do
      let (n, r) := quotes '"' ('"' :: r)
      match runOf n with
      | .inside =>
          let (s, r) ← basicLinesWithin fuel r
          return (List.replicate n '"' ++ s, r)
      | .ending kept => return (List.replicate kept '"', r)
      | .tooLong => none
  | fuel + 1, '\\' :: r =>
      match continuation? r with
      | some r => basicLinesWithin fuel r
      | none => do
          let (c, r) ← escape? r
          let (s, r) ← basicLinesWithin fuel r
          return (c :: s, r)
  | fuel + 1, c :: r => do
      if isBasic c then
        let (s, r) ← basicLinesWithin fuel r
        return (c :: s, r)
      else
        let r ← newline? (c :: r)
        let (s, r) ← basicLinesWithin fuel r
        return ('\n' :: s, r)

/-- The rest of a string of several lines in single quotes. -/
def literalLinesWithin : Nat → List Char → Option (List Char × List Char)
  | 0, _ => none
  | _ + 1, [] => none
  | fuel + 1, '\x27' :: r => do
      let (n, r) := quotes '\x27' ('\x27' :: r)
      match runOf n with
      | .inside =>
          let (s, r) ← literalLinesWithin fuel r
          return (List.replicate n '\x27' ++ s, r)
      | .ending kept => return (List.replicate kept '\x27', r)
      | .tooLong => none
  | fuel + 1, c :: r => do
      if isLiteral c then
        let (s, r) ← literalLinesWithin fuel r
        return (c :: s, r)
      else
        let r ← newline? (c :: r)
        let (s, r) ← literalLinesWithin fuel r
        return ('\n' :: s, r)

/-- A line break right behind the opening quotes is not part of the string. -/
def skipFirstBreak (cs : List Char) : List Char := (newline? cs).getD cs

def string? : List Char → Option (List Char × List Char)
  | '"' :: '"' :: '"' :: r => basicLinesWithin (r.length + 1) (skipFirstBreak r)
  | '\x27' :: '\x27' :: '\x27' :: r => literalLinesWithin (r.length + 1) (skipFirstBreak r)
  | '"' :: r => basic? r
  | '\x27' :: r => literal? r
  | _ => none

/-! ## Numbers -/

/-- Digits with single underscores between them; answers the digits. -/
def groupedWithin (isOf : Char → Bool) : Nat → List Char → List Char × List Char
  | 0, cs => ([], cs)
  | fuel + 1, cs =>
      match cs with
      | '_' :: d :: r =>
          if isOf d then
            let (ds, r) := groupedWithin isOf fuel r
            (d :: ds, r)
          else ([], cs)
      | d :: r =>
          if isOf d then
            let (ds, r) := groupedWithin isOf fuel r
            (d :: ds, r)
          else ([], cs)
      | [] => ([], [])

/-- At least one digit, then more. -/
def grouped? (isOf : Char → Bool) (cs : List Char) : Option (List Char × List Char) :=
  match cs with
  | d :: r =>
      if isOf d then
        let (ds, r) := groupedWithin isOf r.length r
        some (d :: ds, r)
      else none
  | [] => none

/-- A sign and digits that do not start with a spare zero. -/
def decimal? (cs : List Char) : Option (List Char × List Char) :=
  let (sign, cs) := match cs with
    | '+' :: r => (['+'], r)
    | '-' :: r => (['-'], r)
    | r => ([], r)
  match cs with
  | '0' :: r => some (sign ++ ['0'], r)
  | cs => (grouped? Char.isDigit cs).map fun (ds, r) => (sign ++ ds, r)

def exponent? : List Char → Option (List Char × List Char)
  | [] => none
  | e :: r =>
      if e ≠ 'e' ∧ e ≠ 'E' then none
      else
        let (sign, r) := match r with
          | '+' :: r => (['+'], r)
          | '-' :: r => (['-'], r)
          | r => ([], r)
        (grouped? Char.isDigit r).map fun (ds, r) => ('e' :: sign ++ ds, r)

def fraction? : List Char → Option (List Char × List Char)
  | '.' :: r => (grouped? Char.isDigit r).map fun (ds, r) => ('.' :: ds, r)
  | _ => none

/-- The digits of a number with a fraction or an exponent, or both. -/
def floatText? (cs : List Char) : Option (List Char × List Char) := do
  let (whole, r) ← decimal? cs
  match fraction? r with
  | some (fraction, r) =>
      match exponent? r with
      | some (exponent, r) => return (whole ++ fraction ++ exponent, r)
      | none => return (whole ++ fraction, r)
  | none =>
      let (exponent, r) ← exponent? r
      return (whole ++ exponent, r)

/-- Words for numbers that digits cannot write. -/
def special? : List Char → Option (List Char)
  | 'i' :: 'n' :: 'f' :: r => some r
  | 'n' :: 'a' :: 'n' :: r => some r
  | _ => none

def signedSpecial? : List Char → Option (List Char)
  | '+' :: r => special? r
  | '-' :: r => special? r
  | r => special? r

/-- A number with a fraction or an exponent.  One too great to write is refused, unless it is
negative. -/
def float? (cs : List Char) : Option (Json × List Char) :=
  match floatText? cs with
  | some (text, r) =>
      match Number.Binary.ofChars? text with
      | some (.infinite false) => none
      | some _ => some (.numeral (String.ofList text), r)
      | none => none
  | none => (signedSpecial? cs).map fun r => (.numeral "", r)

/-- A whole number in some base, behind its mark. -/
def based? (base : Nat) (cs : List Char) : Option (Json × List Char) := do
  let (ds, r) ← grouped? (fun c => (Number.hexValue? c).any (· < base)) cs
  let n := Number.ofValues base (ds.filterMap Number.hexValue?)
  if n < Number.signedBound then return (.natural n, r) else none

/-- A whole number of 64 bits with sign. -/
def integer? : List Char → Option (Json × List Char)
  | '0' :: 'x' :: r => based? 16 r
  | '0' :: 'o' :: r => based? 8 r
  | '0' :: 'b' :: r => based? 2 r
  | cs => do
      let (text, r) ← decimal? cs
      let n := Number.ofDigits (text.filter Char.isDigit)
      if n < Number.signedBound ∨ (n = Number.signedBound ∧ text.head? = some '-') then
        return (.numeral (String.ofList text), r)
      else none

/-! ## Dates -/

/-- A number of exactly `count` digits within bounds. -/
def digits? (count least greatest : Nat) (cs : List Char) : Option (Nat × List Char) :=
  let ds := cs.take count
  if ds.length = count ∧ ds.all Char.isDigit ∧ least ≤ Number.ofDigits ds ∧
      Number.ofDigits ds ≤ greatest then
    some (Number.ofDigits ds, cs.drop count)
  else none

def expect? (c : Char) : List Char → Option (List Char)
  | d :: r => if d = c then some r else none
  | [] => none

def isLeap (year : Nat) : Bool := year % 4 = 0 && (year % 100 ≠ 0 || year % 400 = 0)

def daysIn (year month : Nat) : Nat :=
  match month with
  | 2 => if isLeap year then 29 else 28
  | 4 | 6 | 9 | 11 => 30
  | _ => 31

/-- What follows a date. -/
def day? (cs : List Char) : Option (List Char) := do
  let (year, r) ← digits? 4 0 9999 cs
  let (month, r) ← digits? 2 1 12 (← expect? '-' r)
  let (_, r) ← digits? 2 1 (daysIn year month) (← expect? '-' r)
  return r

/-- What follows a time of day. -/
def time? (cs : List Char) : Option (List Char) := do
  let (_, r) ← digits? 2 0 23 cs
  let (_, r) ← digits? 2 0 59 (← expect? ':' r)
  let (_, r) ← digits? 2 0 60 (← expect? ':' r)
  match r with
  | '.' :: d :: fraction => return if d.isDigit then fraction.dropWhile Char.isDigit else r
  | r => return r

/-- What follows an offset from universal time. -/
def zone? : List Char → Option (List Char)
  | [] => none
  | c :: r =>
      if c = 'Z' ∨ c = 'z' then some r
      else if c = '+' ∨ c = '-' then do
        let (_, r) ← digits? 2 0 23 r
        let (_, r) ← digits? 2 0 59 (← expect? ':' r)
        return r
      else none

/-- The time behind a date, if there is one. -/
def skipTime (cs : List Char) : List Char :=
  match cs with
  | c :: r =>
      if c = 'T' ∨ c = 't' ∨ c = ' ' then
        match time? r with
        | some r => (zone? r).getD r
        | none => cs
      else cs
  | [] => []

/-- A date reads as a record of fields that nobody asks for. -/
def date : Json := .object [("date", .textless)]

def date? (cs : List Char) : Option (Json × List Char) :=
  match day? cs with
  | some r => some (date, skipTime r)
  | none => (time? cs).map fun r => (date, r)

/-! ## Any simple value -/

def word? (word : List Char) (cs : List Char) : Option (List Char) :=
  if cs.take word.length = word then some (cs.drop word.length) else none

def scalar? (cs : List Char) : Option (Json × List Char) :=
  match cs with
  | [] => none
  | c :: _ =>
      if c = '"' ∨ c = '\x27' then (string? cs).map fun (s, r) => (.string (String.ofList s), r)
      else if c = 't' then (word? "true".toList cs).map fun r => (.bool true, r)
      else if c = 'f' then (word? "false".toList cs).map fun r => (.bool false, r)
      else (date? cs).or ((float? cs).or (integer? cs))

end Toml
end NcInsight
