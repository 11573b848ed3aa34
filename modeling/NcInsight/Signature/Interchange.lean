import NcInsight.Json.Record
import NcInsight.Signature.Basic

/-
Tables of signatures read from values.

Only names have to be given.  A record may be written as a list of its fields; whether a
list that is too long is refused or cut depends on the format it comes from.
-/
namespace NcInsight
namespace Signature

/-- What to do with items of a list that are one too many for its record. -/
inductive Surplus where
  | refused
  | ignored
  deriving DecidableEq, Repr

namespace Surplus

def slots? (s : Surplus) (keys : List String) (j : Json) : Option (List Json.Slot) :=
  match s, j with
  | .ignored, .array js => Json.slots? keys (.array (js.take keys.length))
  | _, j => Json.slots? keys j

end Surplus

namespace Parameter

def ofJson? (s : Surplus) (j : Json) : Option Parameter := do
  match ← s.slots? ["name", "doc"] j with
  | [name, doc] =>
      return { name := ← name.required Json.string?
               doc := ← doc.optionalWithDefault Json.string? }
  | _ => none

end Parameter

namespace Part

def ofJson? (s : Surplus) (j : Json) : Option Part := do
  match ← s.slots? ["bracket", "escape", "params"] j with
  | [bracket, escape, params] =>
      return {
        bracket := ← bracket.optionalWithDefault Json.string?
        escape := ← escape.optionalWithDefault Json.string?
        params := ← params.withDefault [] (Json.list? (Parameter.ofJson? s)) }
  | _ => none

end Part

namespace Overload

def ofJson? (s : Surplus) (j : Json) : Option Overload := do
  match ← s.slots? ["description", "delimiter", "parts"] j with
  | [description, delimiter, parts] =>
      return {
        description := ← description.withDefault "" Json.string?
        delimiter := ← delimiter.withDefault "" Json.string?
        parts := ← parts.withDefault [] (Json.list? (Part.ofJson? s)) }
  | _ => none

end Overload

namespace Function

def ofJson? (s : Surplus) (j : Json) : Option Function := do
  match ← s.slots? ["name", "overloads"] j with
  | [name, overloads] =>
      return {
        name := ← name.required Json.string?
        overloads := ← overloads.withDefault [] (Json.list? (Overload.ofJson? s)) }
  | _ => none

end Function

namespace Table

def ofJson? (s : Surplus) (j : Json) : Option Table := do
  match ← s.slots? ["functions"] j with
  | [functions] =>
      return { functions := ← functions.withDefault [] (Json.list? (Function.ofJson? s)) }
  | _ => none

end Table
end Signature
end NcInsight
