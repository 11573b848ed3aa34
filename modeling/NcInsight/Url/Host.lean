import NcInsight.Text.Parts
import NcInsight.Url.Domain
import NcInsight.Url.Percent

/-
Hosts.

A host of a scheme of the web is a domain, an IPv4 number or an IPv6 number, and each
has one written form: a domain is lowercase ASCII, an IPv4 number has four decimal
parts, an IPv6 number has its longest run of zeros left out.  A host of any other scheme
is kept as it is, apart from characters that cannot stand in an address.
-/
namespace NcInsight
namespace Url
namespace Host

def isAlpha (c : Char) : Bool := ('a' ≤ c && c ≤ 'z') || ('A' ≤ c && c ≤ 'Z')

/-! ## IPv4 -/

/-- A part of an IPv4 number: hexadecimal after `0x`, octal after `0`, else decimal. -/
def ipv4Part? (cs : List Char) : Option Nat :=
  let read (base : Nat) (ds : List Char) : Option Nat :=
    ((ds.mapM Number.hexValue?).filter (·.all (· < base))).map (Number.ofValues base)
  match cs with
  | [] => none
  | '0' :: 'x' :: ds | '0' :: 'X' :: ds => read 16 ds
  | '0' :: d :: ds => read 8 (d :: ds)
  | ds => read 10 ds

/-- Whether a domain can only be an IPv4 number: its last part, an empty one apart, is one. -/
def endsInNumber (cs : List Char) : Bool :=
  match (Text.splitAt '.' cs).reverse with
  | [] :: part :: _ => part ≠ [] && (part.all Char.isDigit || (ipv4Part? part).isSome)
  | part :: _ => part ≠ [] && (part.all Char.isDigit || (ipv4Part? part).isSome)
  | [] => false

/-- The value of the parts: the last one fills the bytes that the others leave. -/
def ipv4Value? (parts : List Nat) : Option Nat :=
  match parts.reverse with
  | [] => none
  | last :: front =>
      let front := front.reverse
      if 3 < front.length ∨ Nat.pow 256 (4 - front.length) ≤ last ∨ front.any (255 < ·) then none
      else some (last + Number.ofValues 256 (front ++ List.replicate (4 - front.length) 0))

def ipv4? (cs : List Char) : Option (List Char) := do
  let parts := Text.splitAt '.' cs
  let parts := if parts.getLast? = some [] then parts.dropLast else parts
  let n ← (← parts.mapM ipv4Part?) |> ipv4Value?
  let bytes := [n / 16777216 % 256, n / 65536 % 256, n / 256 % 256, n % 256]
  return ".".intercalate (bytes.map toString) |>.toList

/-! ## IPv6 -/

/-- Up to four hexadecimal digits. -/
def hexPiece : Nat → Nat → List Char → Nat × List Char
  | 0, n, cs => (n, cs)
  | _ + 1, n, [] => (n, [])
  | k + 1, n, c :: cs =>
      match Number.hexValue? c with
      | some d => hexPiece k (n * 16 + d) cs
      | none => (n, c :: cs)

/-- A decimal byte without leading zeros. -/
def decimalByte? (cs : List Char) : Option (Nat × List Char) :=
  match cs.span Char.isDigit with
  | ([], _) => none
  | (ds, r) =>
      let n := Number.ofDigits ds
      if (ds.head? = some '0' ∧ 1 < ds.length) ∨ 255 < n then none else some (n, r)

/-- The two pieces of an IPv4 number at the end of an IPv6 number. -/
def dotted? (cs : List Char) : Option (List Nat) := do
  let (a, r) ← decimalByte? cs
  let (b, r) ← dot r
  let (c, r) ← dot r
  let (d, r) ← dot r
  if r.isEmpty then return [a * 256 + b, c * 256 + d] else none
where
  dot : List Char → Option (Nat × List Char)
    | '.' :: r => decimalByte? r
    | _ => none

/-- The pieces before and after the run of zeros, which is marked once by `::`.  A piece
consumes a character, so the number of characters bounds the recursion. -/
def pieces? : Nat → List Nat → Option (List Nat) → List Char →
    Option (List Nat × Option (List Nat))
  | _, before, after, [] => some (before, after)
  | 0, _, _, _ => none
  | fuel + 1, before, after, cs =>
      let used := before.length + (after.map (·.length + 1)).getD 0
      let add (ps : List Nat) : List Nat × Option (List Nat) :=
        match after with
        | none => (before ++ ps, none)
        | some a => (before, some (a ++ ps))
      if used = 8 then none
      else match cs with
        | ':' :: r => if after.isSome then none else pieces? fuel before (some []) r
        | cs =>
            match hexPiece 4 0 cs with
            | (n, []) => some (add [n])
            | (_, '.' :: _) =>
                if 6 < used then none else (dotted? cs).map add
            | (n, ':' :: r) =>
                if r.isEmpty then none
                else let (b, a) := add [n]; pieces? fuel b a r
            | _ => none

def ipv6Pieces? (cs : List Char) : Option (List Nat) := do
  let (before, after) ← match cs with
    | ':' :: ':' :: r => pieces? (r.length + 1) [] (some []) r
    | ':' :: _ => none
    | [_] => none
    | [] => none
    | r => pieces? (r.length + 1) [] none r
  match after with
  | none => if before.length = 8 then some before else none
  | some after =>
      some (before ++ List.replicate (8 - before.length - after.length) 0 ++ after)

/-- The zeros at the front. -/
def zeroRun (ps : List Nat) : Nat := (ps.takeWhile (· == 0)).length

/-- Where the first of the longest runs of zeros starts, and its length. -/
def longestRun : Nat → List Nat → Nat × Nat
  | _, [] => (0, 0)
  | i, p :: ps =>
      let here := zeroRun (p :: ps)
      let (j, length) := longestRun (i + 1) ps
      if length ≤ here then (i, here) else (j, length)

def joinColons (ps : List Nat) : List Char :=
  (":".intercalate (ps.map fun p => String.ofList (Number.hex p))).toList

def ipv6Text (ps : List Nat) : List Char :=
  let (i, length) := longestRun 0 ps
  if length < 2 then '[' :: joinColons ps ++ [']']
  else '[' :: joinColons (ps.take i) ++ [':', ':'] ++ joinColons (ps.drop (i + length)) ++ [']']

/-- The number between brackets. -/
def bracketed? (cs : List Char) : Option (List Char) :=
  match cs.getLast? with
  | some ']' => (ipv6Pieces? cs.dropLast).map ipv6Text
  | _ => none

/-! ## Reading a host -/

/-- A host of a scheme of the web, or of a file. -/
def special? : List Char → Option (List Char)
  | '[' :: r => bracketed? r
  | cs => do
      let d ← Domain.ascii? (← decode? cs)
      if d.isEmpty then none
      else if endsInNumber d then ipv4? d
      else return d

/-- A host of any other scheme. -/
def plain? : List Char → Option (List Char)
  | '[' :: r => bracketed? r
  | cs =>
      if cs.any fun c => c.toNat = 0 || ['\t', '\n', '\r', ' ', '#', '/', ':', '<', '>', '?', '@',
          '[', '\\', ']', '^', '|'].contains c then none
      else some (encode [] cs)

end Host
end Url
end NcInsight
