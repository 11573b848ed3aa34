import NcInsight.Text.Parts
import NcInsight.Text.Bytes

/-
Cuts of a text: the byte offsets that fall between two characters.

A slice exists exactly between two cuts, and then the text is what precedes it, the slice, and
what follows (`slice?_eq_some_iff`).  All later statements about spans are made through
such decompositions, so no proof counts bytes inside a character.
-/
namespace NcInsight
namespace Text

/-- The offset `n` falls between two characters, or at an end. -/
def IsCut (cs : List Char) (n : Nat) : Prop := ∃ a b, cs = a ++ b ∧ size a = n

theorem eq_nil_of_size_eq_zero {cs : List Char} (h : size cs = 0) : cs = [] := by
  cases cs with
  | nil => rfl
  | cons c cs =>
      have hc : 0 < c.utf8Size := Char.utf8Size_pos c
      rw [size_cons] at h
      omega

/-- Of two ways to divide a text, the one that divides earlier is a refinement of the other. -/
theorem exists_of_append_eq_append {a b c d : List Char} (h : a ++ b = c ++ d)
    (hs : size a ≤ size c) : ∃ m, c = a ++ m ∧ b = m ++ d := by
  rcases List.append_eq_append_iff.mp h with ⟨m, hc, hb⟩ | ⟨m, ha, hd⟩
  · exact ⟨m, hc, hb⟩
  · have hm : m = [] := by
      apply eq_nil_of_size_eq_zero
      rw [ha, size_append] at hs
      omega
    subst hm
    exact ⟨[], by simpa using ha.symm, by simpa using hd.symm⟩

theorem append_inj_of_size {a b c d : List Char} (h : a ++ b = c ++ d)
    (hs : size a = size c) : a = c ∧ b = d := by
  obtain ⟨m, hc, hb⟩ := exists_of_append_eq_append h (Nat.le_of_eq hs)
  have hm : m = [] := by
    apply eq_nil_of_size_eq_zero
    rw [hc, size_append] at hs
    omega
  subst hm
  exact ⟨by simpa using hc.symm, by simpa using hb⟩

theorem isCut_zero (cs : List Char) : IsCut cs 0 := ⟨[], cs, rfl, rfl⟩

theorem isCut_size (cs : List Char) : IsCut cs (size cs) := ⟨cs, [], by simp, rfl⟩

theorem IsCut.le {cs : List Char} {n : Nat} (h : IsCut cs n) : n ≤ size cs := by
  obtain ⟨a, b, rfl, rfl⟩ := h
  rw [size_append]
  omega

theorem IsCut.append {cs : List Char} {n : Nat} (h : IsCut cs n) (ds : List Char) :
    IsCut (cs ++ ds) n := by
  obtain ⟨a, b, rfl, rfl⟩ := h
  exact ⟨a, b ++ ds, List.append_assoc a b ds, rfl⟩

/-- What lies between two cuts. -/
theorem exists_between {cs : List Char} {i j : Nat} (hi : IsCut cs i) (hj : IsCut cs j)
    (hij : i ≤ j) : ∃ a m c, cs = a ++ m ++ c ∧ size a = i ∧ size a + size m = j := by
  obtain ⟨a, b, rfl, rfl⟩ := hi
  obtain ⟨c, d, h, rfl⟩ := hj
  obtain ⟨m, rfl, rfl⟩ := exists_of_append_eq_append h hij
  exact ⟨a, m, d, by simp, rfl, (size_append a m).symm⟩

/-! ## Slices -/

theorem exists_of_dropBytes {n : Nat} {cs r : List Char} (h : dropBytes n cs = some r) :
    ∃ a, cs = a ++ r ∧ size a = n := by
  fun_induction dropBytes n cs with
  | case1 cs =>
      obtain rfl : cs = r := by simpa using h
      exact ⟨[], rfl, rfl⟩
  | case2 => simp at h
  | case3 n c cs hc ih =>
      obtain ⟨a, rfl, ha⟩ := ih h
      refine ⟨c :: a, rfl, ?_⟩
      rw [size_cons]
      omega
  | case4 => simp at h

theorem exists_of_takeBytes {n : Nat} {cs m : List Char} (h : takeBytes n cs = some m) :
    ∃ c, cs = m ++ c ∧ size m = n := by
  fun_induction takeBytes n cs generalizing m with
  | case1 cs =>
      obtain rfl : [] = m := by simpa using h
      exact ⟨cs, rfl, rfl⟩
  | case2 => simp at h
  | case3 n c cs hc ih =>
      obtain ⟨m', hm, rfl⟩ := Option.map_eq_some_iff.mp h
      obtain ⟨d, rfl, hd⟩ := ih hm
      refine ⟨d, rfl, ?_⟩
      rw [size_cons]
      omega
  | case4 => simp at h

/-- A slice is a middle part of the text. -/
theorem slice?_eq_some_iff {s u : String} {i j : Nat} :
    slice? s i j = some u ↔
      ∃ a c, s.toList = a ++ u.toList ++ c ∧ size a = i ∧ i + size u.toList = j := by
  constructor
  · intro h
    obtain ⟨m, hm, rfl⟩ := Option.map_eq_some_iff.mp h
    rw [sliceChars?] at hm
    split at hm
    case isTrue hij =>
      obtain ⟨r, hr, hm⟩ := Option.bind_eq_some_iff.mp hm
      obtain ⟨a, hs, ha⟩ := exists_of_dropBytes hr
      obtain ⟨c, rfl, hc⟩ := exists_of_takeBytes hm
      rw [String.toList_ofList]
      exact ⟨a, c, by rw [hs, List.append_assoc], ha, by omega⟩
    case isFalse => simp at hm
  · rintro ⟨a, c, hs, rfl, rfl⟩
    rw [slice?, hs, sliceChars?_append, Option.map_some, String.ofList_toList]

theorem slice?_of_append {s : String} {a m c : List Char} (h : s.toList = a ++ m ++ c) :
    slice? s (size a) (size a + size m) = some (String.ofList m) := by
  rw [slice?_eq_some_iff]
  exact ⟨a, c, by rw [h, String.toList_ofList], rfl, by rw [String.toList_ofList]⟩

theorem exists_slice? {s : String} {i j : Nat} (hi : IsCut s.toList i) (hj : IsCut s.toList j)
    (hij : i ≤ j) : ∃ u, slice? s i j = some u := by
  obtain ⟨a, m, c, hs, rfl, rfl⟩ := exists_between hi hj hij
  exact ⟨_, slice?_of_append hs⟩

/-! ## White space at the end -/

theorem trimEndChars_append_blanks (cs : List Char) :
    ∃ bs, cs = trimEndChars cs ++ bs ∧ ∀ x ∈ bs, isBlank x = true := by
  refine ⟨(cs.reverse.takeWhile isBlank).reverse, ?_, ?_⟩
  · rw [trimEndChars, ← List.reverse_append, List.takeWhile_append_dropWhile, List.reverse_reverse]
  · intro x hx
    exact List.all_eq_true.mp List.all_takeWhile x (List.mem_reverse.mp hx)

/-- The text between two offsets is white space, as far as there is any. -/
def BlankBetween (cs : List Char) (i j : Nat) : Prop :=
  ∀ a m c, cs = a ++ m ++ c → size a = i → size a + size m = j → ∀ x ∈ m, isBlank x = true

theorem BlankBetween.append {cs : List Char} {i j : Nat} (h : BlankBetween cs i j)
    (hj : j ≤ size cs) (ds : List Char) : BlankBetween (cs ++ ds) i j := by
  intro a m c hs ha hm
  have hle : size (a ++ m) ≤ size cs := by rw [size_append]; omega
  obtain ⟨e, rfl, -⟩ := exists_of_append_eq_append hs.symm hle
  exact h a m e rfl ha hm

/-- What begins later in a white-space part is white space too. -/
theorem BlankBetween.of_le {cs : List Char} {i j k : Nat} (h : BlankBetween cs i k)
    (hi : IsCut cs i) (hij : i ≤ j) : BlankBetween cs j k := by
  intro a m c hs ha hm x hx
  obtain ⟨p, q, hpq, hp⟩ := hi
  have hsplit : p ++ q = a ++ (m ++ c) := by rw [← hpq, hs, List.append_assoc]
  obtain ⟨w, rfl, -⟩ := exists_of_append_eq_append hsplit (by omega)
  rw [size_append] at ha hm
  refine h p (w ++ m) c (by rw [hs]; simp) hp ?_ x (List.mem_append_right w hx)
  rw [size_append]
  omega

/-- After the characters that trimming keeps, everything to the end is white space. -/
theorem blankBetween_trimEnd {a cs : List Char} {j : Nat} :
    BlankBetween (a ++ cs) (size a + size (trimEndChars cs)) j := by
  intro b m c hs hb hm x hx
  obtain ⟨bs, hcs, hbs⟩ := trimEndChars_append_blanks cs
  have hsplit : (a ++ trimEndChars cs) ++ bs = b ++ (m ++ c) := by
    rw [List.append_assoc, ← hcs, hs, List.append_assoc]
  have hsize : size (a ++ trimEndChars cs) = size b := by rw [size_append, hb]
  obtain ⟨-, rfl⟩ := append_inj_of_size hsplit hsize
  exact hbs x (List.mem_append_left c hx)

theorem trimEndChars_eq_nil_or (cs : List Char) :
    trimEndChars cs = [] ∨ ∃ kept z, trimEndChars cs = kept ++ [z] ∧ isBlank z = false := by
  rcases h : cs.reverse.dropWhile isBlank with _ | ⟨z, zs⟩
  · exact .inl (by rw [trimEndChars, h, List.reverse_nil])
  · refine .inr ⟨zs.reverse, z, by rw [trimEndChars, h, List.reverse_cons], ?_⟩
    have hne : cs.reverse.dropWhile isBlank ≠ [] := by simp [h]
    have hz := List.head_dropWhile_not isBlank hne
    simpa [h] using hz

/-- A white-space part that reaches to the end of a word cannot begin before the last
character that trimming keeps of the word. -/
theorem lt_of_blankBetween {cs p m c : List Char} {i j n : Nat}
    (h : BlankBetween cs i j) (hi : IsCut cs i) (hs : cs = p ++ m ++ c)
    (hj : size p + size m = j) (hn : n < size (trimEndChars m)) : size p + n < i := by
  rcases Nat.lt_or_ge (size p + n) i with hlt | hge
  · exact hlt
  · exfalso
    obtain ⟨bs, hm, -⟩ := trimEndChars_append_blanks m
    obtain ⟨x, y, hxy, hx⟩ := hi
    have hsplit : x ++ y = (p ++ trimEndChars m) ++ (bs ++ c) := by
      calc x ++ y = p ++ m ++ c := by rw [← hxy, hs]
        _ = p ++ (trimEndChars m ++ bs) ++ c := by rw [← hm]
        _ = (p ++ trimEndChars m) ++ (bs ++ c) := by simp only [List.append_assoc]
    have hlt : size x < size (p ++ trimEndChars m) := by rw [size_append]; omega
    obtain ⟨w, hw, hy⟩ := exists_of_append_eq_append hsplit (Nat.le_of_lt hlt)
    have hsize : size (w ++ bs) + i = j := by
      have hpm : size (p ++ trimEndChars m ++ bs) = j := by
        rw [List.append_assoc, ← hm, size_append, hj]
      rw [hw, List.append_assoc, size_append] at hpm
      omega
    have hblank := h x (w ++ bs) c (by rw [hxy, hy]; simp) hx (by omega)
    rcases trimEndChars_eq_nil_or m with hnil | ⟨kept, z, hz, hzb⟩
    · rw [hnil] at hn
      simp at hn
    · have hwne : w ≠ [] := by
        rintro rfl
        rw [hw, List.append_nil] at hlt
        omega
      obtain ⟨w', z', rfl⟩ := (List.eq_nil_or_concat w).resolve_left hwne
      have hlast : (p ++ kept) ++ [z] = (x ++ w') ++ [z'] := by
        rw [List.append_assoc, ← hz, hw, List.concat_eq_append, List.append_assoc]
      obtain ⟨-, hzz⟩ := List.append_inj' hlast rfl
      obtain rfl : z = z' := by simpa using hzz
      rw [hblank z (by simp)] at hzb
      cases hzb

end Text
end NcInsight
