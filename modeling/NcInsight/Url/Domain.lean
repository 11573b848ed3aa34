import NcInsight.Url.Domain.Label

/-
Domains.

A domain is written in lowercase ASCII.  Its labels are read one by one, and the rules of
direction hold for all of them as soon as one has text from right to left.
-/
namespace NcInsight
namespace Url
namespace Domain

/-- ASCII characters that cannot stand in a domain. -/
def isForbidden (c : Char) : Bool :=
  c.toNat ≤ 0x20 || c.toNat = 0x7F ||
    ['%', '#', '/', ':', '<', '>', '?', '@', '[', '\\', ']', '^', '|'].contains c

/-- The labels of a domain. -/
def labels? (cs : List Char) : Option (List (List Char)) := do
  let text ← canonical? cs
  if text.any isForbidden then none
  let labels ← (Text.splitAt '.' text).mapM Label.decode?
  if !labels.all Label.isReadable then none
  if labels.any Label.isRightToLeft && !labels.all Label.isOrdered then none
  return labels

/-- The one written form of a domain. -/
def ascii? (cs : List Char) : Option (List Char) :=
  (labels? cs).map fun labels => ['.'].intercalate (labels.map Label.encode)

end Domain
end Url
end NcInsight
