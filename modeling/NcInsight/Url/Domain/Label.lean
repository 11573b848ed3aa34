import NcInsight.Text.Composition
import NcInsight.Text.Direction
import NcInsight.Text.Joining
import NcInsight.Url.Domain.Folding
import NcInsight.Url.Punycode

/-
Labels: the parts of a domain between its full stops.

A label with characters outside ASCII is written in ASCII behind a marker.  Such a label,
written in either way, has to be one that a reader can tell from others: it starts with no
mark, its joiners stand where they show, and in a domain with text from right to left its
characters keep to one direction.
-/
namespace NcInsight
namespace Url
namespace Domain

/-- The text that a domain stands for, in its one spelling. -/
def canonical? (cs : List Char) : Option (List Char) :=
  (cs.mapM fold?).map fun parts => Text.compose parts.flatten

namespace Label

/-- What a label in ASCII starts with if it is written for one with other characters. -/
def marker : List Char := "xn--".toList

def isMarked (cs : List Char) : Bool := marker.isPrefixOf cs

def isAscii (cs : List Char) : Bool := cs.all (·.toNat < 0x80)

/-! ## Writing in ASCII and back -/

/-- The longest text behind a marker that is read. -/
def longestEncoded : Nat := 2000

/-- The longest label that is written behind a marker. -/
def longestDecoded : Nat := 1000

def encode (cs : List Char) : List Char :=
  if isAscii cs then cs else marker ++ Punycode.encode cs

/-- The label that a text stands for.  Behind a marker stands the code of a label that is in
its one spelling and needs the code. -/
def decode? (cs : List Char) : Option (List Char) :=
  if !isMarked cs then some cs
  else
    let code := cs.drop marker.length
    if cs.getLast? = some '-' || longestEncoded < code.length then none
    else (Punycode.decode? code).filter fun label =>
      canonical? label = some label && !isMarked label

/-! ## Marks and joiners -/

/-- Whether the characters before a joiner, the nearest first, end in a sign that kills a
vowel: after one, a joiner says how the next consonant is written. -/
def followsVirama : List Char → Bool
  | [] => false
  | c :: _ => Text.combiningClass c = Text.viramaClass

/-- Whether each joiner stands where it shows.  `before` has the characters already passed,
the nearest first. -/
def joinersShow (before : List Char) : List Char → Bool
  | [] => true
  | c :: cs =>
      let shows :=
        if c = Text.joiner then followsVirama before
        else if c = Text.nonJoiner then
          followsVirama before ||
            (Text.reaches Text.Joining.joinsNext before &&
              Text.reaches Text.Joining.joinsPrevious cs)
        else true
      shows && joinersShow (c :: before) cs

def isReadable (cs : List Char) : Bool :=
  !cs.head?.any Text.isMark && joinersShow [] cs && (isAscii cs || cs.length ≤ longestDecoded)

/-! ## Direction -/

/-- Whether a label has text from right to left. -/
def isRightToLeft (cs : List Char) : Bool :=
  cs.any fun c => Text.direction c = .right || Text.direction c = .arabic

/-- The directions of a label up to the last character that is no mark. -/
def directions (cs : List Char) : List Text.Direction :=
  ((cs.map Text.direction).reverse.dropWhile (· = .mark)).reverse

/-- Whether a label keeps to the direction of its first character.  It ends in a letter or a
digit, and digits of one set only stand among letters from right to left. -/
def isOrdered (cs : List Char) : Bool :=
  let ds := directions cs
  match cs.head?.map Text.direction with
  | none => true
  | some .left =>
      ds.all (fun d => d ≠ .right && d ≠ .arabic) &&
        ds.getLast?.any fun d => d = .left || d = .european
  | some .right =>
      ds.all (· ≠ .left) && !(ds.contains .arabic && ds.contains .european) &&
        ds.getLast?.any fun d => d = .right || d = .arabic || d = .european
  | some _ => false

end Label
end Domain
end Url
end NcInsight
