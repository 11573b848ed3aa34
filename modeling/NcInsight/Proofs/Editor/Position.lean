import NcInsight.Editor.Position

/-
Offsets survive the way to a position and back.

The starts of the lines ascend, so the ones at or before an offset are a first part of
the list, and the line of the offset is the last of that part.  The next start, if there is
one, lies behind the offset, so clamping to the end of the line changes nothing.
-/
namespace NcInsight
namespace Position

theorem lt_of_mem_startsAfter {cs : List Char} {offset x : Nat}
    (h : x ∈ startsAfter offset cs) : offset < x := by
  induction cs generalizing offset with
  | nil => simp [startsAfter] at h
  | cons c cs ih =>
      have hc : 0 < c.utf8Size := Char.utf8Size_pos c
      simp only [startsAfter] at h
      split at h
      · rcases List.mem_cons.mp h with rfl | h
        · omega
        · have := ih h
          omega
      · have := ih h
        omega

theorem startsAfter_pairwise (cs : List Char) (offset : Nat) :
    (startsAfter offset cs).Pairwise (· < ·) := by
  induction cs generalizing offset with
  | nil => simp [startsAfter]
  | cons c cs ih =>
      simp only [startsAfter]
      split
      · exact List.pairwise_cons.mpr ⟨fun x hx => lt_of_mem_startsAfter hx, ih _⟩
      · exact ih _

/-- The starts of the lines ascend. -/
theorem lineStarts_pairwise (source : String) : (lineStarts source).Pairwise (· < ·) :=
  List.pairwise_cons.mpr
    ⟨fun _ hx => lt_of_mem_startsAfter hx, startsAfter_pairwise source.toList 0⟩

/-- An ascending list divides at every bound into what is below and what is above. -/
theorem exists_append_of_pairwise {l : List Nat} (h : l.Pairwise (· < ·)) (n : Nat) :
    ∃ a b, l = a ++ b ∧ l.filter (· ≤ n) = a ∧ ∀ x ∈ b, n < x := by
  induction l with
  | nil => exact ⟨[], [], rfl, rfl, by simp⟩
  | cons y l ih =>
      obtain ⟨hy, hl⟩ := List.pairwise_cons.mp h
      rcases Nat.lt_or_ge n y with hn | hn
      · refine ⟨[], y :: l, rfl, ?_, ?_⟩
        · rw [List.filter_eq_nil_iff]
          intro x hx
          rcases List.mem_cons.mp hx with rfl | hx
          · simpa using hn
          · have := hy x hx
            simp only [decide_eq_true_eq]
            omega
        · intro x hx
          rcases List.mem_cons.mp hx with rfl | hx
          · exact hn
          · exact Nat.lt_trans hn (hy x hx)
      · obtain ⟨a, b, rfl, hf, hb⟩ := ih hl
        refine ⟨y :: a, b, rfl, ?_, hb⟩
        rw [List.filter_cons_of_pos (by simpa using hn), hf]

/-- The way to a position and back is the identity on the offsets of a text. -/
theorem offset_ofOffset {source : String} {o : Nat} (h : o ≤ Text.length source) :
    offset source (ofOffset source o) = o := by
  obtain ⟨a, b, hl, hf, hb⟩ := exists_append_of_pairwise (lineStarts_pairwise source) o
  have hzero : 0 ∈ a := by
    rw [← hf]
    simp [lineStarts]
  have hne : a ≠ [] := List.ne_nil_of_mem hzero
  obtain ⟨first, last, rfl⟩ : ∃ first last, a = first ++ [last] :=
    ⟨a.dropLast, a.getLast hne, (List.dropLast_concat_getLast hne).symm⟩
  have hlast : last ≤ o := by
    have hm : last ∈ (lineStarts source).filter (· ≤ o) := by rw [hf]; simp
    simpa using (List.mem_filter.mp hm).2
  have hpos : ofOffset source o = ⟨first.length, o - last⟩ := by
    simp only [ofOffset, Nat.min_eq_left h, hf]
    simp
  have hstart : (lineStarts source)[first.length]? = some last := by rw [hl]; simp
  have hend : o ≤ lineEnd source first.length := by
    have hnext : (lineStarts source)[first.length + 1]? = b[0]? := by
      rw [hl, List.getElem?_append_right (by simp)]
      simp
    rw [lineEnd, hnext]
    cases b with
    | nil => exact h
    | cons next b =>
        have := hb next List.mem_cons_self
        simp only [List.getElem?_cons_zero]
        omega
  rw [hpos]
  simp only [offset, hstart]
  omega

end Position
end NcInsight
