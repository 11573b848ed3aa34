import Mathlib.Data.List.Forall2
import NcInsight.Signature.Help

/-
The marks of a written form point at the names of its parameters.

A mark is made while the form is still growing, and it counts UTF-16 units.  A form grows at its
end only, so what stands in front of a name stays in front of it, and the mark keeps its place
(`Layout.Marked.grow`).  A new mark begins behind everything that was there, so behind all marks
before it (`Layout.Marked.addParameter`).
-/
namespace NcInsight
namespace Text

/-- The UTF-16 code units of a character: the character itself, or two surrogates. -/
def utf16Char (c : Char) : List UInt16 :=
  if c.toNat < 0x10000 then [c.toNat.toUInt16]
  else [(0xD800 + (c.toNat - 0x10000) / 0x400).toUInt16,
    (0xDC00 + (c.toNat - 0x10000) % 0x400).toUInt16]

/-- The UTF-16 code units of a text. -/
def utf16 (s : String) : List UInt16 := s.toList.flatMap utf16Char

theorem utf16_append (a b : String) : utf16 (a ++ b) = utf16 a ++ utf16 b := by
  rw [utf16, String.toList_append, List.flatMap_append, utf16, utf16]

theorem length_utf16 (s : String) : (utf16 s).length = units s := by
  rw [utf16, units]
  induction s.toList with
  | nil => rfl
  | cons c cs ih =>
      rw [List.flatMap_cons, List.length_append, ih, unitsChars, utf16Char, unitsOf]
      split <;> rfl

example : utf16 "aé😀" = [0x61, 0xE9, 0xD83D, 0xDE00] := by decide

end Text

namespace Signature

namespace Mark

/-- The units between the ends of a mark are a parameter's name. -/
structure PointsAt (label : String) (m : Mark) (p : Parameter) : Prop where
  ordered : m.start ≤ m.stop
  within : m.stop ≤ (Text.utf16 label).length
  name : (Text.utf16 label).extract m.start m.stop = Text.utf16 p.name
  doc : m.documentation = p.doc

/-- A written form holds a parameter's name at a mark, with some text on either side. -/
structure Holds (label : String) (m : Mark) (p : Parameter) : Prop where
  split : ∃ front back, label = front ++ p.name ++ back ∧ m.start = Text.units front ∧
    m.stop = Text.units (front ++ p.name)
  doc : m.documentation = p.doc

theorem Holds.append {label : String} {m : Mark} {p : Parameter} (h : Holds label m p)
    (text : String) : Holds (label ++ text) m p := by
  obtain ⟨⟨front, back, hlabel, hstart, hstop⟩, hdoc⟩ := h
  refine ⟨⟨front, back ++ text, ?_, hstart, hstop⟩, hdoc⟩
  rw [hlabel, String.append_assoc]

theorem Holds.stop_le {label : String} {m : Mark} {p : Parameter} (h : Holds label m p) :
    m.stop ≤ Text.units label := by
  obtain ⟨⟨front, back, hlabel, -, hstop⟩, -⟩ := h
  rw [hlabel, Text.units_append, ← hstop]
  exact Nat.le_add_right _ _

theorem Holds.pointsAt {label : String} {m : Mark} {p : Parameter} (h : Holds label m p) :
    PointsAt label m p := by
  have hwithin := h.stop_le
  obtain ⟨⟨front, back, hlabel, hstart, hstop⟩, hdoc⟩ := h
  rw [Text.units_append] at hstop
  refine ⟨by omega, by rw [Text.length_utf16]; exact hwithin, ?_, hdoc⟩
  have hfront : m.start = (Text.utf16 front).length := by rw [hstart, Text.length_utf16]
  have hlength : m.stop - m.start = (Text.utf16 p.name).length := by
    rw [Text.length_utf16]
    omega
  rw [hlabel, Text.utf16_append, Text.utf16_append, List.append_assoc, List.extract_eq_take_drop,
    hlength, hfront, List.drop_left, List.take_left]

end Mark

namespace Layout

/-- The marks of a layout hold the names of these parameters, in their order and apart. -/
structure Marked (l : Layout) (ps : List Parameter) : Prop where
  holds : List.Forall₂ (Mark.Holds l.label) l.marks ps
  apart : l.marks.Pairwise fun m n => m.stop ≤ n.start
  within : ∀ m ∈ l.marks, m.stop ≤ Text.units l.label

namespace Marked

variable {l : Layout} {ps : List Parameter}

theorem grow (h : l.Marked ps) (text delimiter : String) :
    ({ l with label := l.label ++ text, delimiter } : Layout).Marked ps := by
  refine ⟨h.holds.imp fun _ _ hm => hm.append text, h.apart, fun m hm => ?_⟩
  rw [Text.units_append]
  exact Nat.le_trans (h.within m hm) (Nat.le_add_right _ _)

theorem addFixed (h : l.Marked ps) (p : Part) : (l.addFixed p).Marked ps := by
  rw [Layout.addFixed]
  cases p.bracket.or p.escape with
  | some text => exact h.grow text ""
  | none => exact h

/-- Step lemma: a new mark holds the name that was added, and starts behind the marks so far. -/
theorem addParameter (h : l.Marked ps) (delimiter : String) (p : Parameter) :
    (l.addParameter delimiter p).Marked (ps ++ [p]) := by
  obtain ⟨text, htext⟩ : ∃ text,
      (if delimiter.isEmpty then l.label else l.label ++ l.delimiter) = l.label ++ text := by
    cases delimiter.isEmpty with
    | true => exact ⟨"", String.append_empty.symm⟩
    | false => exact ⟨l.delimiter, rfl⟩
  have hfront := h.grow text ""
  have hbehind : ∀ m ∈ l.marks, m.stop ≤ Text.units (l.label ++ text) := hfront.within
  simp only [Layout.addParameter, htext]
  refine ⟨?_, ?_, fun m hm => ?_⟩
  · refine List.rel_append (hfront.holds.imp fun _ _ hm => hm.append p.name) ?_
    exact .cons ⟨⟨l.label ++ text, "", String.append_empty.symm, rfl, rfl⟩, rfl⟩ .nil
  · refine List.pairwise_append.mpr ⟨h.apart, List.pairwise_singleton _ _, fun m hm n hn => ?_⟩
    rw [List.mem_singleton.mp hn]
    exact hbehind m hm
  · rcases List.mem_append.mp hm with hm | hm
    · rw [Text.units_append]
      exact Nat.le_trans (hbehind m hm) (Nat.le_add_right _ _)
    · obtain rfl := List.mem_singleton.mp hm
      exact Nat.le_refl _

theorem addParameters (h : l.Marked ps) (delimiter : String) (qs : List Parameter) :
    (qs.foldl (Layout.addParameter delimiter) l).Marked (ps ++ qs) := by
  induction qs generalizing l ps with
  | nil =>
      rw [List.append_nil]
      exact h
  | cons q qs ih =>
      have hrest := ih (h.addParameter delimiter q)
      rw [List.append_assoc] at hrest
      exact hrest

theorem addPart (h : l.Marked ps) (delimiter : String) (isFirst : Bool) (p : Part) :
    (l.addPart delimiter isFirst p).Marked (ps ++ p.params) := by
  have hfixed := h.addFixed p
  simp only [Layout.addPart]
  split
  case isTrue hempty =>
      rw [List.isEmpty_iff.mp hempty, List.append_nil]
      exact hfixed
  case isFalse =>
      refine Marked.addParameters ?_ delimiter p.params
      cases isFirst with
      | true => exact hfixed.grow " " _
      | false => exact hfixed

/-- Run lemma: parts add the marks of their own parameters. -/
theorem addParts (h : l.Marked ps) (delimiter : String) (parts : List Part) :
    (parts.foldl (Layout.addPart delimiter false) l).Marked (ps ++ parts.flatMap (·.params)) := by
  induction parts generalizing l ps with
  | nil =>
      rw [List.flatMap_nil, List.append_nil]
      exact h
  | cons p parts ih =>
      have hrest := ih (h.addPart delimiter false p)
      rw [List.append_assoc] at hrest
      exact hrest

end Marked

theorem marked_of (name : String) (o : Overload) : (Layout.of name o).Marked o.params := by
  have hname : ({ label := name } : Layout).Marked [] :=
    ⟨.nil, List.Pairwise.nil, fun m hm => by cases hm⟩
  rw [Layout.of, Overload.params]
  cases o.parts with
  | nil => exact hname
  | cons p parts =>
      have hfirst := hname.addPart o.delimiter true p
      exact hfirst.addParts o.delimiter parts

end Layout

/-- A written form has one mark for each parameter, in their order.  The units of the form from the
start of a mark to its end are the name of its parameter, and a mark ends before the next begins. -/
theorem marks_point_at_names (name : String) (o : Overload) :
    (form name o).parameters.length = o.arity ∧
      List.Forall₂ (Mark.PointsAt (form name o).label) (form name o).parameters o.params ∧
      (form name o).parameters.Pairwise fun m n => m.stop ≤ n.start := by
  have h := Layout.marked_of name o
  exact ⟨h.holds.length_eq, h.holds.imp fun _ _ hm => hm.pointsAt, h.apart⟩

end Signature
end NcInsight
