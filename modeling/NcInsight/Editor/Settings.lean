import NcInsight.Json.Record
import NcInsight.Lint.Rule

/-
What a user can set: the step between sequence numbers, documentation for names, and the
levels of the rules.

Everything has a default, and settings with a mistake in them are refused as a whole.
-/
namespace NcInsight

/-- Documentation for a name. -/
structure Keyword where
  symbol : String
  paragraphs : List String
  deriving DecidableEq, Repr, Inhabited

namespace Keyword

def text (k : Keyword) : String := "\n\n".intercalate k.paragraphs

def paragraphs? : Json → Option (List String)
  | .string s => some [s]
  | j => j.list? Json.string?

def ofJson? (j : Json) : Option Keyword := do
  match ← j.slots? ["symbol", "description"] with
  | [symbol, description] =>
      return {
        symbol := ← symbol.required Json.string?
        paragraphs := ← description.required paragraphs? }
  | _ => none

end Keyword

namespace Levels

def ofJson? (j : Json) : Option Levels :=
  (j.members? fun v => v.plainVariant?.bind Level.ofName?).map (⟨·⟩)

end Levels

structure Settings where
  increment : Nat := 10
  keywords : List Keyword := []
  levels : Levels := {}
  deriving Inhabited

namespace Settings

/-- The step of the record about sequence numbers. -/
def increment? (j : Json) : Option Nat := do
  match ← j.slots? ["increment"] with
  | [increment] => increment.withDefault 10 (Json.natural? 0x100000000)
  | _ => none

def ofRecord? (j : Json) : Option Settings := do
  match ← j.slots? ["sequence", "keywords", "lint"] with
  | [sequence, keywords, lint] =>
      return {
        increment := ← sequence.withDefault 10 increment?
        keywords := ← keywords.withDefault [] (Json.list? Keyword.ofJson?)
        levels := ← lint.withDefault {} Levels.ofJson? }
  | _ => none

/-- Reads settings, which may stand in a section of their own. -/
def ofJson? (j : Json) : Option Settings := ofRecord? ((j.get? "macro").getD j)

/-- Settings after a change; one that cannot be read changes nothing. -/
def update (s : Settings) (j : Json) : Settings := (ofJson? j).getD s

end Settings
end NcInsight
