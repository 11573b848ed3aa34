/-
How built-in functions are called.

The written form of a call is a list of parts: brackets, fixed text, and groups of
parameters.
-/
namespace NcInsight
namespace Signature

structure Parameter where
  name : String
  doc : Option String := none
  deriving DecidableEq, Repr, Inhabited

structure Part where
  bracket : Option String := none
  /-- Fixed text that is no bracket. -/
  escape : Option String := none
  params : List Parameter := []
  deriving DecidableEq, Repr, Inhabited

structure Overload where
  description : String := ""
  /-- What stands between the parameters of one group. -/
  delimiter : String := ""
  parts : List Part := []
  deriving DecidableEq, Repr, Inhabited

namespace Overload

def params (o : Overload) : List Parameter := o.parts.flatMap (·.params)

def arity (o : Overload) : Nat := o.params.length

end Overload

structure Function where
  name : String
  overloads : List Overload := []
  deriving DecidableEq, Repr, Inhabited

structure Table where
  functions : List Function := []
  deriving DecidableEq, Repr, Inhabited

/-- Equal but for the case of ASCII letters. -/
def sameName (a b : String) : Bool :=
  a.toList.map Char.toLower == b.toList.map Char.toLower

namespace Table

/-- The first function of a name. -/
def get? (t : Table) (name : String) : Option Function :=
  t.functions.find? fun f => sameName f.name name

end Table
end Signature
end NcInsight
