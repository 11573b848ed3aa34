import NcInsight.Json.Basic
import NcInsight.Number.Digits

/-
Writing JSON text: no blanks, members in their order, and only quote, backslash and
control characters escaped, by a letter where there is one.
-/
namespace NcInsight
namespace Json

/-- The characters that are escaped by one letter. -/
def escapeLetter? : Char → Option Char
  | '"' => some '"'
  | '\\' => some '\\'
  | '\x08' => some 'b'
  | '\x0c' => some 'f'
  | '\n' => some 'n'
  | '\r' => some 'r'
  | '\t' => some 't'
  | _ => none

def escapeChar (c : Char) : List Char :=
  match escapeLetter? c with
  | some letter => ['\\', letter]
  | none =>
      if c.toNat < 0x20 then
        ['\\', 'u', '0', '0', Number.hexDigit (c.toNat / 16), Number.hexDigit (c.toNat % 16)]
      else [c]

def quote (s : String) : String :=
  String.ofList ('"' :: s.toList.flatMap escapeChar ++ ['"'])

mutual

/-- The text of a value.  A literal without text is written `null`. -/
def render : Json → String
  | .null => "null"
  | .bool b => if b then "true" else "false"
  | .natural n => toString n
  | .numeral l => l
  | .string s => quote s
  | .textless => "null"
  | .array js => "[" ++ renderItems js ++ "]"
  | .object ms => "\x7b" ++ renderMembers ms ++ "\x7d"

def renderItems : List Json → String
  | [] => ""
  | [j] => render j
  | j :: js => render j ++ "," ++ renderItems js

def renderMembers : List (String × Json) → String
  | [] => ""
  | [(k, j)] => quote k ++ ":" ++ render j
  | (k, j) :: ms => quote k ++ ":" ++ render j ++ "," ++ renderMembers ms

end

end Json
end NcInsight
