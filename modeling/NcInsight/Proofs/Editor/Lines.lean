import NcInsight.Proofs.Editor.Position
import NcInsight.Proofs.Text.Cut

/-
Offsets and positions correspond one to one.

A line is a part of the text that holds no newline and has one on each side, or an end of the text;
its number is the count of newlines in front of it.  The table of line starts holds the start of a
line at its number, and the line ends in front of the next entry (`Line.getElem?_lineStarts`,
`Line.lineEnd_eq`).  Every offset of the text lies on a line (`exists_line_around`), so what the two
conversions do is said line by line (`Line.ofOffset_eq`, `Line.offset_eq`).
-/
namespace NcInsight

/-- A line of a text, with what is in front of it and what follows. -/
structure Line (source : String) where
  front : List Char
  text : List Char
  back : List Char
  split : source.toList = front ++ text ++ back
  starts : front = [] ∨ front.getLast? = some '\n'
  plain : '\n' ∉ text
  ends : back = [] ∨ back.head? = some '\n'

namespace Line

variable {source : String} (l : Line source)

/-- Lines are counted from zero. -/
def number : Nat := l.front.count '\n'

def start : Nat := Text.size l.front

/-- Where the newline of the line is, or the end of the text. -/
def stop : Nat := l.start + Text.size l.text

theorem start_le_stop : l.start ≤ l.stop := Nat.le_add_right _ _

theorem stop_le : l.stop ≤ Text.length source := by
  have hsize := congrArg Text.size l.split
  rw [Text.size_append, Text.size_append, Text.size_toList] at hsize
  unfold stop start
  omega

end Line

namespace Position

/-! ## The table of line starts -/

theorem startsAfter_append (offset : Nat) (a b : List Char) :
    startsAfter offset (a ++ b) = startsAfter offset a ++ startsAfter (offset + Text.size a) b := by
  induction a generalizing offset with
  | nil => rfl
  | cons c a ih =>
      have hnext : offset + c.utf8Size + Text.size a = offset + Text.size (c :: a) := by
        rw [Text.size_cons, Nat.add_assoc]
      simp only [List.cons_append, startsAfter, ih, hnext]
      split <;> rfl

theorem length_startsAfter (offset : Nat) (cs : List Char) :
    (startsAfter offset cs).length = cs.count '\n' := by
  induction cs generalizing offset with
  | nil => rfl
  | cons c cs ih =>
      by_cases hc : c = '\n'
      · rw [startsAfter, if_pos hc, List.length_cons, ih, hc, List.count_cons_self]
      · rw [startsAfter, if_neg hc, ih, List.count_cons_of_ne hc]

theorem le_of_mem_startsAfter {offset x : Nat} {cs : List Char} (h : x ∈ startsAfter offset cs) :
    x ≤ offset + Text.size cs := by
  induction cs generalizing offset with
  | nil => cases h
  | cons c cs ih =>
      rw [Text.size_cons, ← Nat.add_assoc]
      simp only [startsAfter] at h
      split at h
      · rcases List.mem_cons.mp h with rfl | h
        · exact Nat.le_add_right _ _
        · exact ih h
      · exact ih h

theorem length_lineStarts (source : String) :
    (lineStarts source).length = source.toList.count '\n' + 1 := by
  rw [lineStarts, List.length_cons, length_startsAfter]

theorem lineStarts_lt {source : String} {i j x y : Nat} (hx : (lineStarts source)[i]? = some x)
    (hy : (lineStarts source)[j]? = some y) (hij : i < j) : x < y := by
  obtain ⟨hi, rfl⟩ := List.getElem?_eq_some_iff.mp hx
  obtain ⟨hj, rfl⟩ := List.getElem?_eq_some_iff.mp hy
  exact List.pairwise_iff_getElem.mp (lineStarts_pairwise source) i j hi hj hij

/-- The starts up to a line, those of its own characters, of which there are none, and the rest. -/
theorem lineStarts_eq_append {source : String} (l : Line source) :
    lineStarts source = (0 :: startsAfter 0 l.front) ++ startsAfter l.stop l.back := by
  have hplain : startsAfter l.start l.text = [] := by
    apply List.eq_nil_of_length_eq_zero
    rw [length_startsAfter, List.count_eq_zero]
    exact l.plain
  rw [lineStarts, l.split, startsAfter_append, startsAfter_append, Nat.zero_add, Text.size_append,
    Nat.zero_add]
  show 0 :: (startsAfter 0 l.front ++ startsAfter l.start l.text ++ startsAfter l.stop l.back) = _
  rw [hplain, List.append_nil, List.cons_append]

end Position

namespace Line

open Position

variable {source : String} (l : Line source)

theorem length_starts_front : (0 :: startsAfter 0 l.front).length = l.number + 1 := by
  rw [List.length_cons, length_startsAfter, number]

theorem getElem?_lineStarts : (lineStarts source)[l.number]? = some l.start := by
  have hlt : l.number < (0 :: startsAfter 0 l.front).length := by
    rw [l.length_starts_front]
    exact Nat.lt_succ_self _
  rw [lineStarts_eq_append l, List.getElem?_append_left hlt, number, start]
  rcases l.starts with hfront | hfront
  · rw [hfront]
    rfl
  · -- the newline in front of the line makes the last entry so far
    obtain ⟨f, hf⟩ := List.getLast?_eq_some_iff.mp hfront
    rw [hf, startsAfter_append, Text.size_append, List.count_append, ← length_startsAfter 0 f]
    show (0 :: (startsAfter 0 f ++ [0 + Text.size f + 1]))[(startsAfter 0 f).length + 1]? =
      some (Text.size f + 1)
    rw [List.getElem?_cons_succ, List.getElem?_concat_length, Nat.zero_add]

theorem getElem?_lineStarts_succ :
    (lineStarts source)[l.number + 1]? = (startsAfter l.stop l.back)[0]? := by
  rw [lineStarts_eq_append l, List.getElem?_append_right (Nat.le_of_eq l.length_starts_front),
    l.length_starts_front, Nat.sub_self]

/-- Behind the newline of a line the next one starts; a line without newline is the last. -/
theorem next_start :
    (lineStarts source)[l.number + 1]? = some (l.stop + 1) ∨
      (lineStarts source)[l.number + 1]? = none ∧ l.stop = Text.length source := by
  rw [l.getElem?_lineStarts_succ]
  rcases l.ends with hback | hback
  · refine .inr ⟨by rw [hback]; rfl, ?_⟩
    have hsize := congrArg Text.size l.split
    rw [hback, List.append_nil, Text.size_append, Text.size_toList] at hsize
    exact hsize.symm
  · obtain ⟨rest, hrest⟩ := List.head?_eq_some_iff.mp hback
    left
    rw [hrest]
    rfl

theorem lineEnd_eq : lineEnd source l.number = l.stop := by
  rcases l.next_start with hnext | ⟨hnext, hlast⟩
  · rw [lineEnd, hnext]
    rfl
  · rw [lineEnd, hnext, hlast]

/-- What starts behind the start of a line starts behind its end. -/
theorem stop_lt_of_lt {n s : Nat} (hs : (lineStarts source)[n]? = some s) (hn : l.number < n) :
    l.stop < s := by
  rcases l.next_start with hnext | ⟨hnone, -⟩
  · rcases Nat.eq_or_lt_of_le (show l.number + 1 ≤ n from hn) with rfl | hlt
    · rw [hs, Option.some.injEq] at hnext
      omega
    · have := lineStarts_lt hnext hs hlt
      omega
  · have hlt := (List.getElem?_eq_some_iff.mp hs).1
    rw [List.getElem?_eq_none_iff] at hnone
    omega

/-! ## The two conversions on a line -/

/-- Past the end of a line is its end. -/
theorem offset_eq {p : Position} (hp : l.number = p.line) :
    Position.offset source p = l.start + min p.character (Text.size l.text) := by
  rw [Position.offset, ← hp, l.getElem?_lineStarts, l.lineEnd_eq]
  show min (l.start + p.character) (max l.stop l.start) = _
  unfold stop
  omega

/-- An offset on a line is the place on that line. -/
theorem ofOffset_eq {o : Nat} (hstart : l.start ≤ o) (hstop : o ≤ l.stop) :
    Position.ofOffset source o = ⟨l.number, o - l.start⟩ := by
  -- the starts at the offset or before it are those up to the line
  have hpassed : (lineStarts source).filter (· ≤ o) = 0 :: startsAfter 0 l.front := by
    rw [lineStarts_eq_append l, List.filter_append]
    have hfront : (0 :: startsAfter 0 l.front).filter (· ≤ o) = 0 :: startsAfter 0 l.front := by
      apply List.filter_eq_self.mpr
      intro x hx
      have hle : x ≤ 0 + Text.size l.front := by
        rcases List.mem_cons.mp hx with rfl | hx
        · exact Nat.zero_le _
        · exact le_of_mem_startsAfter hx
      rw [decide_eq_true_eq]
      unfold start at hstart
      omega
    have hback : (startsAfter l.stop l.back).filter (· ≤ o) = [] := by
      apply List.filter_eq_nil_iff.mpr
      intro x hx
      have hlt := lt_of_mem_startsAfter hx
      rw [decide_eq_true_eq]
      omega
    rw [hfront, hback, List.append_nil]
  have hlast : (0 :: startsAfter 0 l.front).getLastD 0 = l.start := by
    have hself := l.getElem?_lineStarts
    rw [lineStarts_eq_append l, List.getElem?_append_left (by rw [l.length_starts_front]; omega)]
      at hself
    rw [List.getLastD_eq_getLast?, List.getLast?_eq_getElem?, l.length_starts_front,
      Nat.add_sub_cancel, hself, Option.getD_some]
  have hle : o ≤ Text.length source := Nat.le_trans hstop l.stop_le
  simp only [Position.ofOffset, Nat.min_eq_left hle, hpassed, hlast, l.length_starts_front,
    Nat.add_sub_cancel]

end Line

namespace Position

/-! ## Every offset lies on a line -/

/-- The part between newlines around an offset of a text, by induction on the text. -/
theorem exists_parts_around (cs : List Char) {o : Nat} (ho : o ≤ Text.size cs) :
    ∃ front text back, cs = front ++ text ++ back ∧ (front = [] ∨ front.getLast? = some '\n') ∧
      '\n' ∉ text ∧ (back = [] ∨ back.head? = some '\n') ∧
      Text.size front ≤ o ∧ o ≤ Text.size front + Text.size text := by
  induction cs generalizing o with
  | nil => exact ⟨[], [], [], rfl, .inl rfl, List.not_mem_nil, .inl rfl, Nat.zero_le o, ho⟩
  | cons c cs ih =>
      rw [Text.size_cons] at ho
      obtain ⟨front, text, back, rfl, hstarts, hplain, hends, hlo, hhi⟩ :=
        ih (o := o - c.utf8Size) (by omega)
      -- the character is behind the line, on it, or in front of it
      have hplace : c = '\n' ∧ o = 0 ∨ c ≠ '\n' ∧ front = [] ∨
          (c :: front).getLast? = some '\n' ∧ c.utf8Size ≤ o := by
        rcases hstarts with rfl | hlast
        · by_cases hc : c = '\n'
          · subst hc
            rcases Nat.eq_zero_or_pos o with hzero | hpos
            · exact .inl ⟨rfl, hzero⟩
            · exact .inr (.inr ⟨rfl, hpos⟩)
          · exact .inr (.inl ⟨hc, rfl⟩)
        · have hpos : 0 < Text.size front := by
            apply Nat.pos_of_ne_zero
            intro hzero
            rw [Text.eq_nil_of_size_eq_zero hzero] at hlast
            cases hlast
          refine .inr (.inr ⟨?_, by omega⟩)
          rw [List.getLast?_cons, hlast, Option.getD_some]
      rcases hplace with ⟨rfl, rfl⟩ | ⟨hc, rfl⟩ | ⟨hlast, hle⟩
      · exact ⟨[], [], _, rfl, .inl rfl, List.not_mem_nil, .inr rfl, Nat.le_refl 0, Nat.le_refl 0⟩
      · refine ⟨[], c :: text, back, rfl, .inl rfl, ?_, hends, Nat.zero_le o, ?_⟩
        · rw [List.mem_cons, not_or]
          exact ⟨fun h => hc h.symm, hplain⟩
        · rw [Text.size_nil] at hhi ⊢
          rw [Text.size_cons]
          omega
      · refine ⟨c :: front, text, back, rfl, .inr hlast, hplain, hends, ?_, ?_⟩
        · rw [Text.size_cons]
          omega
        · rw [Text.size_cons]
          omega

theorem exists_line_around {source : String} {o : Nat} (ho : o ≤ Text.length source) :
    ∃ l : Line source, l.start ≤ o ∧ o ≤ l.stop := by
  rw [← Text.size_toList] at ho
  obtain ⟨front, text, back, hsplit, hstarts, hplain, hends, hlo, hhi⟩ :=
    exists_parts_around source.toList ho
  exact ⟨⟨front, text, back, hsplit, hstarts, hplain, hends⟩, hlo, hhi⟩

/-- There is a line of every number up to the count of newlines. -/
theorem exists_line {source : String} {n : Nat} (hn : n ≤ source.toList.count '\n') :
    ∃ l : Line source, l.number = n := by
  have hlt : n < (lineStarts source).length := by
    rw [length_lineStarts]
    omega
  obtain ⟨s, hs⟩ : ∃ s, (lineStarts source)[n]? = some s := ⟨_, List.getElem?_eq_getElem hlt⟩
  have hle : s ≤ Text.length source := by
    rcases List.mem_cons.mp (List.mem_of_getElem? hs) with rfl | hmem
    · exact Nat.zero_le _
    · have := le_of_mem_startsAfter hmem
      rw [Text.size_toList] at this
      omega
  obtain ⟨l, hlo, hhi⟩ := exists_line_around hle
  refine ⟨l, ?_⟩
  -- the starts ascend, so the line around a start is the one that starts there
  rcases Nat.lt_trichotomy l.number n with h | h | h
  · have := l.stop_lt_of_lt hs h
    omega
  · exact h
  · have := lineStarts_lt hs l.getElem?_lineStarts h
    omega

/-! ## The order of positions -/

/-- The order in which an editor counts positions: by line, and on a line by character. -/
def Before (p q : Position) : Prop :=
  p.line < q.line ∨ p.line = q.line ∧ p.character < q.character

theorem before_of_lt {source : String} {o o' : Nat} (hlt : o < o')
    (ho' : o' ≤ Text.length source) : (ofOffset source o).Before (ofOffset source o') := by
  obtain ⟨l, hlo, hhi⟩ := exists_line_around (show o ≤ Text.length source by omega)
  obtain ⟨l', hlo', hhi'⟩ := exists_line_around ho'
  rw [l.ofOffset_eq hlo hhi, l'.ofOffset_eq hlo' hhi']
  rcases Nat.lt_trichotomy l.number l'.number with h | h | h
  · exact .inl h
  · have hsame := l.getElem?_lineStarts
    rw [h, l'.getElem?_lineStarts, Option.some.injEq] at hsame
    refine .inr ⟨h, ?_⟩
    show o - l.start < o' - l'.start
    omega
  · have := l'.stop_lt_of_lt l.getElem?_lineStarts h
    omega

theorem ofOffset_min (source : String) (o : Nat) :
    ofOffset source (min o (Text.length source)) = ofOffset source o := by
  simp only [ofOffset, Nat.min_assoc, Nat.min_self]

theorem ofOffset_of_length_le {source : String} {o : Nat} (h : Text.length source ≤ o) :
    ofOffset source o = ofOffset source (Text.length source) := by
  rw [← ofOffset_min, Nat.min_eq_right h]

theorem count_le_size (cs : List Char) : cs.count '\n' ≤ Text.size cs := by
  induction cs with
  | nil => exact Nat.le_refl 0
  | cons c cs ih =>
      have hpos := Char.utf8Size_pos c
      rw [List.count_cons, Text.size_cons]
      split <;> omega

/-- Neither number of a position is greater than the length of the text. -/
theorem ofOffset_le (source : String) (o : Nat) :
    (ofOffset source o).line ≤ Text.length source ∧
      (ofOffset source o).character ≤ Text.length source := by
  obtain ⟨l, hlo, hhi⟩ := exists_line_around (Nat.min_le_right o (Text.length source))
  rw [← ofOffset_min, l.ofOffset_eq hlo hhi]
  refine ⟨?_, ?_⟩
  · exact Nat.le_trans (count_le_size l.front) (Nat.le_trans l.start_le_stop l.stop_le)
  · show min o (Text.length source) - l.start ≤ Text.length source
    omega

/-- Offsets and positions correspond.  The way from an offset of the text to its position and back
is the identity, positions come in the order of their offsets, and an offset past the text is read
as its end; in a text of less than 2³² bytes both numbers of a position are of 32 bits.  The
other way, a position leads into the text: to the end of it if there is no such line, and else to a
place on its line, never past the newline.  A position that is on its line is found again. -/
theorem positions_correspond (source : String) :
    (∀ o, o ≤ Text.length source → offset source (ofOffset source o) = o) ∧
    (∀ o o', o < o' → o' ≤ Text.length source →
      (ofOffset source o).Before (ofOffset source o')) ∧
    (∀ o, Text.length source ≤ o → ofOffset source o = ofOffset source (Text.length source)) ∧
    (Text.length source < UInt32.size → ∀ o,
      (ofOffset source o).line < UInt32.size ∧ (ofOffset source o).character < UInt32.size) ∧
    ∀ p : Position, offset source p ≤ Text.length source ∧
      (source.toList.count '\n' < p.line → offset source p = Text.length source) ∧
      (p.line ≤ source.toList.count '\n' → ∃ l : Line source, l.number = p.line) ∧
      ∀ l : Line source, l.number = p.line →
        offset source p = l.start + min p.character (Text.size l.text) ∧
        offset source p ≤ l.stop ∧ (ofOffset source (offset source p)).line = p.line ∧
        (p.character ≤ Text.size l.text → ofOffset source (offset source p) = p) := by
  have hmissing : ∀ p : Position, source.toList.count '\n' < p.line →
      offset source p = Text.length source := by
    intro p hp
    have hnone : (lineStarts source)[p.line]? = none := by
      rw [List.getElem?_eq_none_iff, length_lineStarts]
      omega
    rw [offset, hnone]
  refine ⟨fun o => offset_ofOffset, fun o o' => before_of_lt, fun o => ofOffset_of_length_le,
    fun hshort o => ?_, fun p => ⟨?_, hmissing p, exists_line, fun l hl => ?_⟩⟩
  · have hle := ofOffset_le source o
    omega
  · rcases Nat.lt_or_ge (source.toList.count '\n') p.line with hp | hp
    · exact Nat.le_of_eq (hmissing p hp)
    · obtain ⟨l, hl⟩ := exists_line hp
      have hstop := l.stop_le
      rw [l.offset_eq hl]
      unfold Line.stop at hstop
      omega
  · have hoffset := l.offset_eq hl
    have hstop : offset source p ≤ l.stop := by
      unfold Line.stop
      omega
    have hplace := l.ofOffset_eq (o := offset source p) (by omega) hstop
    refine ⟨hoffset, hstop, ?_, fun hcharacter => ?_⟩
    · rw [hplace]
      exact hl
    · rw [hplace, hl, hoffset, Nat.add_sub_cancel_left, Nat.min_eq_left hcharacter]

/-- The last line of a text with a letter of two bytes, an empty line, and no newline at the end. -/
def lastOfThree : Line "é\n\nab" where
  front := ['é', '\n', '\n']
  text := ['a', 'b']
  back := []
  split := by decide
  starts := .inr rfl
  plain := by decide
  ends := .inl rfl

theorem positions_correspond_lastOfThree :
    offset "é\n\nab" (ofOffset "é\n\nab" 1) = 1 ∧
      (ofOffset "é\n\nab" 2).Before (ofOffset "é\n\nab" 3) ∧
      ofOffset "é\n\nab" 9 = ofOffset "é\n\nab" 6 ∧
      (ofOffset "é\n\nab" 6).line < UInt32.size ∧ offset "é\n\nab" ⟨3, 0⟩ = 6 ∧
      (∃ l : Line "é\n\nab", l.number = 1) ∧ lastOfThree.number = 2 ∧
      offset "é\n\nab" ⟨2, 40⟩ ≤ lastOfThree.stop ∧
      ofOffset "é\n\nab" (offset "é\n\nab" ⟨2, 1⟩) = ⟨2, 1⟩ := by
  obtain ⟨hround, horder, hpast, hsmall, hback⟩ := positions_correspond "é\n\nab"
  have hlast : lastOfThree.number = 2 := by decide
  exact ⟨hround 1 (by decide), horder 2 3 (by decide) (by decide), hpast 9 (by decide),
    (hsmall (by decide) 6).1, (hback ⟨3, 0⟩).2.1 (by decide), (hback ⟨1, 0⟩).2.2.1 (by decide),
    hlast, ((hback ⟨2, 40⟩).2.2.2 lastOfThree hlast).2.1,
    ((hback ⟨2, 1⟩).2.2.2 lastOfThree hlast).2.2.2 (by decide)⟩

end Position
end NcInsight
