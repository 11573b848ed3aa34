import NcInsight.Json.Basic

/-
Records in JSON.

A record is written as an object of its fields, or as an array that lists them in
order.  Members that the record does not have are skipped; a field given twice or an
item too many is refused.  What an absent field means is left to its reader, and
differs between the two forms: an optional field may be left out of an object, and
out of the end of an array only if it has a default.
-/
namespace NcInsight
namespace Json

/-- What a record says about one field. -/
inductive Slot where
  | given (j : Json)
  /-- Left out of an object. -/
  | unnamed
  /-- Past the end of an array. -/
  | unlisted

namespace Slot

/-- A field that has to be there. -/
def required {α : Type} (read : Json → Option α) : Slot → Option α
  | given j => read j
  | _ => none

/-- A field with a default. -/
def withDefault {α : Type} (default : α) (read : Json → Option α) : Slot → Option α
  | given j => read j
  | _ => some default

/-- An optional field: `null` or left out is no value. -/
def optional {α : Type} (read : Json → Option α) : Slot → Option (Option α)
  | given .null => some none
  | given j => (read j).map some
  | unnamed => some none
  | unlisted => none

/-- An optional field that may also be left out of the end of an array. -/
def optionalWithDefault {α : Type} (read : Json → Option α) : Slot → Option (Option α)
  | given .null => some none
  | given j => (read j).map some
  | _ => some none

end Slot

/-- The values of one member of an object. -/
def valuesOf (key : String) (members : List (String × Json)) : List Json :=
  (members.filter (·.1 == key)).map (·.2)

/-- The slot of a named field; a repeated one is refused. -/
def namedSlot (members : List (String × Json)) (key : String) : Option Slot :=
  match valuesOf key members with
  | [] => some .unnamed
  | [j] => some (.given j)
  | _ => none

/-- The slots of listed fields. -/
def listedSlots : List String → List Json → Option (List Slot)
  | [], [] => some []
  | [], _ :: _ => none
  | _ :: keys, [] => (listedSlots keys []).map (.unlisted :: ·)
  | _ :: keys, j :: js => (listedSlots keys js).map (.given j :: ·)

/-- The slots of a record with these fields. -/
def slots? (keys : List String) : Json → Option (List Slot)
  | .object ms => keys.mapM (namedSlot ms)
  | .array js => listedSlots keys js
  | _ => none

/-- A variant: its name alone, or an object with that one member, which holds its payload. -/
def variant? : Json → Option (String × Option Json)
  | .string s => some (s, none)
  | .object [(s, j)] => some (s, some j)
  | _ => none

/-- A variant without payload; `null` may stand for the missing payload. -/
def plainVariant? (j : Json) : Option String :=
  match j.variant? with
  | some (s, none) => some s
  | some (s, some .null) => some s
  | _ => none

/-- All items of an array, each read by `read`. -/
def list? {α : Type} (read : Json → Option α) (j : Json) : Option (List α) :=
  j.items?.bind (·.mapM read)

/-- All members of an object, each value read by `read`. -/
def members? {α : Type} (read : Json → Option α) : Json → Option (List (String × α))
  | .object ms => ms.mapM fun (k, v) => (read v).map (k, ·)
  | _ => none

end Json
end NcInsight
