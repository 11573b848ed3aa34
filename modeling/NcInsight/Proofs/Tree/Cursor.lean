import NcInsight.Proofs.Tree.Layout

/-
The way from the root down to a word.

At an offset inside a word, up to the last character that is not white space, every node on
the line from the root to the word touches the offset, and no later sibling of one does.
So the descent cannot leave the line.
-/
namespace NcInsight
namespace Tree

theorem getLast?_filter_of_pairwise {l : List Nat} (h : l.Pairwise (· < ·)) {p : Nat → Bool}
    {c : Nat} (hc : c ∈ l) (hp : p c = true) (hlater : ∀ d ∈ l, c < d → p d = false) :
    (l.filter p).getLast? = some c := by
  obtain ⟨a, b, rfl⟩ := List.append_of_mem hc
  have hb : b.filter p = [] := by
    rw [List.filter_eq_nil_iff]
    intro d hd
    have hcd := (List.pairwise_cons.mp (List.pairwise_append.mp h).2.1).1 d hd
    simp [hlater d (by simp [hd]) hcd]
  rw [List.filter_append, List.filter_cons_of_pos hp, hb, List.getLast?_concat]

variable {t : Tree}

/-- The child through which the line from an ancestor down to a node runs. -/
theorem Nested.exists_child (h : t.Nested) {a i : Nat} (hi : i < t.size) (hai : t.Encloses a i) :
    ∃ c ∈ t.children a, c = i ∨ t.Encloses c i := by
  induction i using Nat.strongRecOn with
  | ind i ih =>
      have hpos : 0 < i := Nat.zero_lt_of_lt hai.1
      have hup := h.above_lt hpos hi
      rcases Nat.eq_or_lt_of_le (hai.2 i hai.1 (Nat.le_refl i)) with e | hlt
      · exact ⟨i, h.mem_children.mpr ⟨hpos, hi, e.symm⟩, .inl rfl⟩
      · have hmid : t.Encloses a (t.above i) :=
          ⟨hlt, fun k hak hk => hai.2 k hak (by omega)⟩
        obtain ⟨c, hc, hci⟩ := ih (t.above i) hup (by omega) hmid
        have hlast := h.encloses_above hpos hi
        refine ⟨c, hc, .inr ?_⟩
        rcases hci with rfl | hci
        · exact hlast
        · exact hci.trans hlast

/-- A node without children lies above no other. -/
theorem Nested.not_encloses_of_leaf (h : t.Nested) {i j : Nat} (hleaf : t.children i = [])
    (hj : j < t.size) : ¬ t.Encloses i j := by
  intro henc
  obtain ⟨c, hc, -⟩ := h.exists_child hj henc
  rw [hleaf] at hc
  simp at hc

theorem mem_children_of_touching {o a c : Nat} (hc : t.touching o a = some c) :
    c ∈ t.children a :=
  List.mem_of_mem_filter (List.mem_of_getLast? hc)

section

variable (h : t.Laid) {i : Nat} (hi : i < t.size) (hleaf : t.children i = [])
  {p m q : List Char} (hs : t.source.toList = p ++ m ++ q) (hp : Text.size p = t.start i)
  (hm : Text.size p + Text.size m = (t.span i).stop)
  {o : Nat} (hlo : t.start i ≤ o) (hhi : o < t.start i + Text.size (Text.trimEndChars m))
include h hi hleaf hs hp hm hlo hhi

omit hleaf in
/-- Every node on the line to the word touches the offset. -/
theorem Laid.touches_of_encloses {c : Nat} (hc : c = i ∨ t.Encloses c i) :
    (t.span c).touches o = true := by
  have hword : Text.size (Text.trimEndChars m) ≤ Text.size m := by
    obtain ⟨bs, hbs, -⟩ := Text.trimEndChars_append_blanks m
    have := congrArg Text.size hbs
    rw [Text.size_append] at this
    omega
  have hstart : t.start c ≤ t.start i := by
    rcases hc with rfl | hc
    · exact Nat.le_refl _
    · exact h.start_mono (Nat.le_of_lt hc.1) hi
  have hstop : o ≤ (t.span c).stop := by
    rcases hc with rfl | hc
    · omega
    · have hlt := Text.lt_of_blankBetween (h.blank hc hi)
        (h.stop_cut (Nat.lt_trans hc.1 hi)) hs hm (show o - t.start i < _ by omega)
      omega
  rw [Span.touches, Bool.and_eq_true, decide_eq_true_eq, decide_eq_true_eq]
  exact ⟨Nat.le_trans hstart hlo, hstop⟩

/-- Step of the descent: from a node above the word it goes on along the line. -/
theorem Laid.exists_touching {a : Nat} (ha : t.Encloses a i) :
    ∃ c, t.touching o a = some c ∧ a < c ∧ (c = i ∨ t.Encloses c i) := by
  obtain ⟨c, hc, hci⟩ := h.exists_child hi ha
  obtain ⟨hcpos, hcs, hca⟩ := h.mem_children.mp hc
  have hac : a < c := by
    have := h.above_lt hcpos hcs
    omega
  refine ⟨c, ?_, hac, hci⟩
  refine getLast?_filter_of_pairwise (h.pairwise_children a) hc
    (h.touches_of_encloses hi hs hp hm hlo hhi hci) fun d hd hcd => ?_
  obtain ⟨hdpos, hds, hda⟩ := h.mem_children.mp hd
  -- a later sibling hangs from the same node, so it stands behind the whole line
  have hid : i < d := by
    rcases Nat.lt_or_ge i d with hlt | hge
    · exact hlt
    · rcases hci with rfl | hci
      · exact hcd
      · have := hci.2 d hcd hge
        omega
  have hafter := h.stop_le_start hid hds (h.not_encloses_of_leaf hleaf hds)
  have hword := h.touches_of_encloses hi hs hp hm hlo hhi (.inl rfl)
  rw [Span.touches, Bool.and_eq_false_iff]
  left
  rw [decide_eq_false_iff_not]
  have hstop : t.start i + Text.size (Text.trimEndChars m) ≤ (t.span i).stop := by
    obtain ⟨bs, hbs, -⟩ := Text.trimEndChars_append_blanks m
    have := congrArg Text.size hbs
    rw [Text.size_append] at this
    omega
  have : t.start d = (t.span d).start := rfl
  omega

/-- Run lemma of the descent: what is above a node of the line, and then the way down from it, make
up the whole line. -/
theorem Laid.pathWithin_eq {fuel a : Nat} (hf : i ≤ fuel + a) (ha : a = i ∨ t.Encloses a i) :
    (t.ancestors a).reverse ++ t.pathWithin o fuel a = (t.ancestors i).reverse ++ [i] := by
  induction fuel generalizing a with
  | zero =>
      have : a = i := by
        rcases ha with e | ha
        · exact e
        · have := ha.1
          omega
      rw [this]
      rfl
  | succ fuel ih =>
      rcases ha with rfl | ha
      · simp [pathWithin, touching, preceding, hleaf]
      · obtain ⟨c, htouch, hac, hci⟩ := h.exists_touching hi hleaf hs hp hm hlo hhi ha
        have hc : c < t.size := by
          rcases hci with rfl | hci
          · exact hi
          · exact Nat.lt_trans hci.1 hi
        have hrec := ih (show i ≤ fuel + c by omega) hci
        have habove : t.above c = a := (h.mem_children.mp (mem_children_of_touching htouch)).2.2
        rw [h.ancestors_eq (Nat.zero_lt_of_lt hac) hc, habove, List.reverse_cons,
          List.append_assoc] at hrec
        rw [pathWithin, htouch]
        exact hrec

/-- The way down to an offset inside a word is the line to the word. -/
theorem Laid.path_eq : t.path o = (t.ancestors i).reverse ++ [i] := by
  have hroot : root = i ∨ t.Encloses root i := by
    rcases Nat.eq_zero_or_pos i with rfl | hpos
    · exact .inl rfl
    · exact .inr ⟨hpos, fun _ _ _ => Nat.zero_le _⟩
  have hline := h.pathWithin_eq hi hleaf hs hp hm hlo hhi
    (show i ≤ t.size + root from Nat.le_trans (Nat.le_of_lt hi) (Nat.le_add_right _ _)) hroot
  rw [show t.ancestors root = [] from h.ancestors_root, List.reverse_nil, List.nil_append] at hline
  exact hline

/-- The innermost node at an offset inside a word is the word. -/
theorem Laid.nodeAt_eq : t.nodeAt o = i := by
  rw [nodeAt, h.path_eq hi hleaf hs hp hm hlo hhi, List.getLast?_concat]
  rfl

end

theorem Laid.slice?_eq_text {t : Tree} (h : t.Laid) {i : Nat} (hi : i < t.size) :
    Text.slice? t.source (t.start i) (t.span i).stop = some (t.text i) := by
  obtain ⟨u, hu⟩ := Text.exists_slice? (h.start_cut hi) (h.stop_cut hi) (h.start_le_stop hi)
  rw [text, spanText, show (t.span i).start = t.start i from rfl, hu]
  rfl

/-- A node with some text takes some place. -/
theorem Laid.start_lt_stop {t : Tree} (h : t.Laid) {i : Nat} (hi : i < t.size)
    (htext : (t.text i).toList ≠ []) : t.start i < (t.span i).stop := by
  obtain ⟨a, c, -, -, hsize⟩ := Text.slice?_eq_some_iff.mp (h.slice?_eq_text hi)
  rcases Nat.eq_zero_or_pos (Text.size (t.text i).toList) with h0 | hpos
  · exact absurd (Text.eq_nil_of_size_eq_zero h0) htext
  · omega

/-- Two leaves do not share a place that is not empty. -/
theorem Laid.eq_of_span_eq {t : Tree} (h : t.Laid) {i j : Nat} (hi : i < t.size) (hj : j < t.size)
    (hil : t.children i = []) (hjl : t.children j = []) (hspan : t.span i = t.span j)
    (hpos : t.start j < (t.span j).stop) : i = j := by
  have hstart : t.start i = t.start j := congrArg Span.start hspan
  rcases Nat.lt_trichotomy i j with hlt | heq | hgt
  · have hle := h.stop_le_start hlt hj (h.not_encloses_of_leaf hil hj)
    rw [hspan] at hle
    omega
  · exact heq
  · have hle := h.stop_le_start hgt hi (h.not_encloses_of_leaf hjl hi)
    omega

/-- A leaf with some text that is not white space is the node at its own start. -/
theorem Laid.nodeAt_start {t : Tree} (h : t.Laid) {i : Nat} (hi : i < t.size)
    (hleaf : t.children i = []) (htext : ∃ x ∈ (t.text i).toList, Text.isBlank x = false) :
    t.nodeAt (t.start i) = i := by
  obtain ⟨p, m, q, hs, hp, hm⟩ := Text.exists_between (h.start_cut hi) (h.stop_cut hi)
    (h.start_le_stop hi)
  have hword : (t.text i).toList = m := by
    rw [text, spanText, ← hm, ← show t.start i = (t.span i).start from rfl, ← hp,
      Text.slice?_of_append hs, Option.getD_some, String.toList_ofList]
  have hpos : 0 < Text.size (Text.trimEndChars m) := by
    obtain ⟨x, hx, hxb⟩ := htext
    rcases Nat.eq_zero_or_pos (Text.size (Text.trimEndChars m)) with h0 | h0
    · exfalso
      obtain ⟨bs, hbs, hblank⟩ := Text.trimEndChars_append_blanks m
      rw [Text.eq_nil_of_size_eq_zero h0, List.nil_append] at hbs
      rw [hword, hbs] at hx
      rw [hblank x hx] at hxb
      cases hxb
    · exact h0
  exact h.nodeAt_eq hi hleaf hs hp hm (Nat.le_refl _) (by omega)

end Tree
end NcInsight
