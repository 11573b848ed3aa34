import NcInsight.Url.Path

/-
Addresses.

An address is its scheme and the parts after it; reading one and joining a reference to
one both give the parts in their written form, so that writing an address is putting
them together.
-/
namespace NcInsight

/-- What stands between the two slashes and the path. -/
structure Authority where
  /-- User and password with the sign that ends them, or nothing. -/
  userinfo : List Char := []
  host : List Char := []
  port : Option Nat := none
  deriving DecidableEq, Repr, Inhabited

structure Url where
  scheme : List Char
  authority : Option Authority
  path : List Char
  query : Option (List Char)
  fragment : Option (List Char)
  deriving DecidableEq, Repr, Inhabited

namespace Url

def kind (u : Url) : SchemeKind := .of u.scheme

/-- Whether relative references can be joined to the address. -/
def isBase (u : Url) : Bool := u.authority.isSome || u.path.head? = some '/'

def writeAuthority : Option Authority → List Char
  | none => []
  | some a =>
      ['/', '/'] ++ a.userinfo ++ a.host ++
        match a.port with
        | none => []
        | some p => ':' :: (toString p).toList

/-- A path that starts with two slashes is kept apart from the scheme by a dot, lest it be
read as a host. -/
def writePath (authority : Option Authority) (path : List Char) : List Char :=
  match authority, path with
  | none, '/' :: '/' :: r => ['/', '.', '/', '/'] ++ r
  | _, path => path

def writePart (mark : Char) : Option (List Char) → List Char
  | none => []
  | some cs => mark :: cs

def toList (u : Url) : List Char :=
  u.scheme ++ [':'] ++ writeAuthority u.authority ++ writePath u.authority u.path ++
    writePart '?' u.query ++ writePart '#' u.fragment

/-- The written address. -/
def render (u : Url) : String := String.ofList u.toList

end Url
end NcInsight
