import NcInsight.Proofs.Text.Cut
import NcInsight.Proofs.Tree.Building

/-
Where the nodes of a script stand in its text.

While a script runs, the open nodes form one line from the root down, everything behind an
open node lies below it, and a closed node is never touched again: nodes added later start
where it ends or behind.  `Sound` is that invariant.  When the script is done every node is
closed, and what remains is the layout of the tree, `Laid`: starts ascend with the array, two
nodes of which none lies below the other do not overlap, and what a node holds beyond the
end of an ancestor is white space.
-/
namespace NcInsight
namespace Builder

/-- The span of a node is final. -/
structure Closed (b : Builder) (i : Nat) : Prop where
  start_le_stop : b.sofar.start i ≤ (b.sofar.span i).stop
  stop_cut : Text.IsCut b.source.toList (b.sofar.span i).stop
  later : ∀ j : Nat, i < j → j < b.nodes.size →
    (b.sofar.Encloses i j ∧ j ∉ b.opened ∧
      Text.BlankBetween b.source.toList (b.sofar.span i).stop (b.sofar.span j).stop) ∨
    (¬ b.sofar.Encloses i j ∧ (b.sofar.span i).stop ≤ b.sofar.start j)

/-- What holds of a script at every moment. -/
structure Sound (b : Builder) : Prop where
  nested : b.sofar.Nested
  opened_lt : ∀ a : Nat, a ∈ b.opened → 0 < a ∧ a < b.nodes.size
  opened_desc : b.opened.Pairwise fun x y : Nat => y < x
  opened_le_above : ∀ a : Nat, a ∈ b.opened → ∀ k : Nat, a < k → k < b.nodes.size →
    a ≤ b.sofar.above k
  start_mono : ∀ {i j : Nat}, i ≤ j → j < b.nodes.size → b.sofar.start i ≤ b.sofar.start j
  start_cut : ∀ {i : Nat}, i < b.nodes.size → Text.IsCut b.source.toList (b.sofar.start i)
  closed : ∀ {i : Nat}, 0 < i → i < b.nodes.size → i ∉ b.opened → b.Closed i

namespace Sound

variable {b : Builder}

/-! ## The innermost open node -/

theorem top_eq_or_mem (b : Builder) : b.top = 0 ∨ b.top ∈ b.opened := by
  rw [top]
  cases b.opened with
  | nil => exact .inl rfl
  | cons a rest => exact .inr List.mem_cons_self

theorem ne_top {i : Nat} (hpos : 0 < i) (hio : i ∉ b.opened) : i ≠ b.top := by
  rcases top_eq_or_mem b with e | hmem
  · rw [e]
    exact Nat.ne_of_gt hpos
  · exact fun e => hio (e ▸ hmem)

theorem top_lt (h : b.Sound) : b.top < b.nodes.size := by
  rcases top_eq_or_mem b with e | hmem
  · rw [e]
    exact h.nested.size_pos
  · exact (h.opened_lt _ hmem).2

theorem le_top (h : b.Sound) {a : Nat} (ha : a ∈ b.opened) : a ≤ b.top := by
  have hdesc := h.opened_desc
  rw [top]
  cases ho : b.opened with
  | nil =>
      rw [ho] at ha
      simp at ha
  | cons x rest =>
      rw [ho] at ha hdesc
      rcases List.mem_cons.mp ha with rfl | hmem
      · exact Nat.le_refl a
      · exact Nat.le_of_lt ((List.pairwise_cons.mp hdesc).1 a hmem)

theorem top_le_above (h : b.Sound) {k : Nat} (hk : b.top < k) (hks : k < b.nodes.size) :
    b.top ≤ b.sofar.above k := by
  rcases top_eq_or_mem b with e | hmem
  · rw [e]
    exact Nat.zero_le _
  · exact h.opened_le_above _ hmem k hk hks

/-! ## Adding a node -/

section push

variable (h : b.Sound) (kind : Kind) (field : Option Field) (span : Span)
include h

theorem nested_push : (b.push kind field span).sofar.Nested where
  size_pos := by
    rw [size_sofar, size_push]
    exact Nat.succ_pos _
  parent_root := by
    have hpos : 0 < b.nodes.size := h.nested.size_pos
    rw [parent_push kind field span h.top_lt, if_neg (by omega)]
    exact h.nested.parent_root
  parent_eq {i} hpos hi := by
    rw [size_sofar, size_push] at hi
    rw [parent_push kind field span h.top_lt, above_push kind field span h.top_lt]
    by_cases hn : i = b.nodes.size
    · rw [if_pos hn, if_pos hn]
    · rw [if_neg hn, if_neg hn]
      exact h.nested.parent_eq hpos (show i < b.nodes.size by omega)
  above_lt {i} hpos hi := by
    rw [size_sofar, size_push] at hi
    rw [above_push kind field span h.top_lt]
    by_cases hn : i = b.nodes.size
    · rw [if_pos hn, hn]
      exact h.top_lt
    · rw [if_neg hn]
      exact h.nested.above_lt hpos (show i < b.nodes.size by omega)
  above_le {j k} hjk hk hup := by
    rw [size_sofar, size_push] at hk
    rw [above_push kind field span h.top_lt] at hup
    rw [above_push kind field span h.top_lt, above_push kind field span h.top_lt,
      if_neg (show j ≠ b.nodes.size by omega)]
    by_cases hn : k = b.nodes.size
    · rw [if_pos hn] at hup ⊢
      exact h.top_le_above hup (by omega)
    · rw [if_neg hn] at hup ⊢
      exact h.nested.above_le hjk (show k < b.nodes.size by omega) hup
  children_eq {i} hi := by
    rw [size_sofar, size_push] at hi
    rw [size_sofar, size_push, List.range_succ, List.filter_append,
      children_push kind field span h.top_lt]
    have hold : ((List.range b.nodes.size).filter fun c =>
          (b.push kind field span).sofar.parent c == some i) =
        (List.range b.nodes.size).filter fun c => b.sofar.parent c == some i := by
      refine List.filter_congr fun c hc => ?_
      rw [parent_push kind field span h.top_lt, if_neg (Nat.ne_of_lt (List.mem_range.mp hc))]
    have hnew : ([b.nodes.size].filter fun c =>
        (b.push kind field span).sofar.parent c == some i) =
          if i = b.top then [b.nodes.size] else [] := by
      simp only [List.filter_cons, List.filter_nil, parent_push kind field span h.top_lt]
      by_cases hi : i = b.top
      · simp [hi]
      · have : ¬ b.top = i := fun e => hi e.symm
        simp [hi, this]
    rw [hold, hnew]
    by_cases hn : i = b.nodes.size
    · have hnt : ¬ i = b.top := by
        rw [hn]
        exact Nat.ne_of_gt h.top_lt
      rw [if_pos hn, if_neg hnt, List.append_nil, eq_comm, List.filter_eq_nil_iff]
      intro c hc hp
      have hcs : c < b.nodes.size := List.mem_range.mp hc
      have hc0 : 0 < c := by
        rcases Nat.eq_zero_or_pos c with rfl | hc0
        · rw [h.nested.parent_root] at hp
          simp at hp
        · exact hc0
      have hup := h.nested.above_lt hc0 hcs
      rw [h.nested.parent_eq hc0 hcs, hn] at hp
      exact Nat.ne_of_lt (Nat.lt_trans hup hcs) (by simpa using hp)
    · have his : i < b.nodes.size := by omega
      rw [if_neg hn]
      by_cases hnt : i = b.top
      · rw [if_pos hnt, if_pos hnt, h.nested.children_eq his]
        rfl
      · rw [if_neg hnt, if_neg hnt, List.append_nil, h.nested.children_eq his]
        rfl

omit h in
/-- The new node changes nothing between the nodes before it. -/
theorem encloses_push (htop : b.top < b.nodes.size) {i j : Nat} (hj : j < b.nodes.size) :
    (b.push kind field span).sofar.Encloses i j ↔ b.sofar.Encloses i j := by
  have hk : ∀ k : Nat, k ≤ j → (b.push kind field span).sofar.above k = b.sofar.above k := by
    intro k hkj
    rw [above_push kind field span htop, if_neg (show k ≠ b.nodes.size by omega)]
  constructor
  · rintro ⟨hij, henc⟩
    refine ⟨hij, fun k hik hkj => ?_⟩
    rw [← hk k hkj]
    exact henc k hik hkj
  · rintro ⟨hij, henc⟩
    refine ⟨hij, fun k hik hkj => ?_⟩
    rw [hk k hkj]
    exact henc k hik hkj

/-- The new node lies below no closed one. -/
theorem not_encloses_push {i : Nat} (hpos : 0 < i) (hi : i < b.nodes.size)
    (hio : i ∉ b.opened) : ¬ (b.push kind field span).sofar.Encloses i b.nodes.size := by
  rintro ⟨-, henc⟩
  have hle : i ≤ b.top := by
    have := henc b.nodes.size hi (Nat.le_refl _)
    rwa [above_push kind field span h.top_lt, if_pos rfl] at this
  have htop : b.top ∈ b.opened := by
    rcases top_eq_or_mem b with e | hmem
    · rw [e] at hle
      exact absurd hpos (Nat.not_lt.mpr hle)
    · exact hmem
  have hlt : i < b.top := Nat.lt_of_le_of_ne hle (ne_top hpos hio)
  -- then the innermost open node lies below `i` too, but what lies below a closed node is closed
  have hbelow : b.sofar.Encloses i b.top := by
    rw [← encloses_push kind field span h.top_lt h.top_lt]
    exact ⟨hlt, fun k hik hk => henc k hik (Nat.le_trans hk (Nat.le_of_lt h.top_lt))⟩
  rcases (h.closed hpos hi hio).later b.top hlt h.top_lt with ⟨-, hn, -⟩ | ⟨hn, -⟩
  · exact hn htop
  · exact hn hbelow

variable {span} {o : List NodeId}

theorem closed_push_self (hle : span.start ≤ span.stop)
    (hecut : Text.IsCut b.source.toList span.stop) :
    Closed { b.push kind field span with opened := o } b.nodes.size := by
  have hlast : (b.push kind field span).sofar.span b.nodes.size = span := by
    rw [span_push kind field span h.top_lt, if_pos rfl]
  refine ⟨?_, ?_, fun j hij hj => ?_⟩
  · show ((b.push kind field span).sofar.span _).start ≤
      ((b.push kind field span).sofar.span _).stop
    rw [hlast]
    exact hle
  · show Text.IsCut b.source.toList ((b.push kind field span).sofar.span _).stop
    rw [hlast]
    exact hecut
  · change j < (b.push kind field span).nodes.size at hj
    rw [size_push] at hj
    omega

/-- A closed node stays closed: the new node starts where it ends or behind. -/
theorem closed_push_of_lt {i : Nat} (hpos : 0 < i) (hi : i < b.nodes.size) (hio : i ∉ b.opened)
    (hstop : (b.sofar.span i).stop ≤ span.start)
    (ho : o = b.opened ∨ o = b.nodes.size :: b.opened) :
    Closed { b.push kind field span with opened := o } i := by
  have hold := h.closed hpos hi hio
  have hspan : ∀ j : Nat, j < b.nodes.size →
      (b.push kind field span).sofar.span j = b.sofar.span j := by
    intro j hj
    rw [span_push kind field span h.top_lt, if_neg (Nat.ne_of_lt hj)]
  refine ⟨?_, ?_, fun j hij hj => ?_⟩
  · show ((b.push kind field span).sofar.span i).start ≤
      ((b.push kind field span).sofar.span i).stop
    rw [hspan i hi]
    exact hold.start_le_stop
  · show Text.IsCut b.source.toList ((b.push kind field span).sofar.span i).stop
    rw [hspan i hi]
    exact hold.stop_cut
  · change j < (b.push kind field span).nodes.size at hj
    rw [size_push] at hj
    show ((b.push kind field span).sofar.Encloses i j ∧ j ∉ o ∧
        Text.BlankBetween b.source.toList ((b.push kind field span).sofar.span i).stop
          ((b.push kind field span).sofar.span j).stop) ∨
      (¬ (b.push kind field span).sofar.Encloses i j ∧
        ((b.push kind field span).sofar.span i).stop ≤
          ((b.push kind field span).sofar.span j).start)
    rw [hspan i hi]
    by_cases hnj : j = b.nodes.size
    · subst hnj
      rw [span_push kind field span h.top_lt, if_pos rfl]
      exact .inr ⟨h.not_encloses_push kind field span hpos hi hio, hstop⟩
    · have hjs : j < b.nodes.size := by omega
      rw [hspan j hjs, encloses_push kind field span h.top_lt hjs]
      rcases hold.later j hij hjs with ⟨henc, hno, hblank⟩ | hright
      · refine .inl ⟨henc, ?_, hblank⟩
        rcases ho with rfl | rfl
        · exact hno
        · intro hmem
          rcases List.mem_cons.mp hmem with e | hmem
          · exact hnj e
          · exact hno hmem
      · exact .inr hright

/-- Adding a node behind everything that is there keeps the invariant, whether the new node
stays open or not. -/
theorem push (hstart : ∀ i : Nat, i < b.nodes.size → b.sofar.start i ≤ span.start)
    (hstop : ∀ i : Nat, 0 < i → i < b.nodes.size → i ∉ b.opened →
      (b.sofar.span i).stop ≤ span.start)
    (hscut : Text.IsCut b.source.toList span.start) (hle : span.start ≤ span.stop)
    (hecut : Text.IsCut b.source.toList span.stop)
    (ho : o = b.opened ∨ o = b.nodes.size :: b.opened) :
    Sound { b.push kind field span with opened := o } where
  nested := h.nested_push kind field span
  opened_lt a ha := by
    show 0 < a ∧ a < (b.push kind field span).nodes.size
    rw [size_push]
    have hold : a ∈ b.opened → 0 < a ∧ a < b.nodes.size + 1 := fun hmem =>
      ⟨(h.opened_lt a hmem).1, Nat.lt_succ_of_lt (h.opened_lt a hmem).2⟩
    rcases ho with rfl | rfl
    · exact hold ha
    · rcases List.mem_cons.mp ha with rfl | hmem
      · exact ⟨h.nested.size_pos, Nat.lt_succ_self _⟩
      · exact hold hmem
  opened_desc := by
    rcases ho with rfl | rfl
    · exact h.opened_desc
    · exact List.pairwise_cons.mpr ⟨fun a ha => (h.opened_lt a ha).2, h.opened_desc⟩
  opened_le_above a ha k hak hk := by
    change k < (b.push kind field span).nodes.size at hk
    rw [size_push] at hk
    show a ≤ (b.push kind field span).sofar.above k
    have hmem : a ∈ b.opened := by
      rcases ho with rfl | rfl
      · exact ha
      · rcases List.mem_cons.mp ha with rfl | hmem
        · omega
        · exact hmem
    rw [above_push kind field span h.top_lt]
    by_cases hn : k = b.nodes.size
    · rw [if_pos hn]
      exact h.le_top hmem
    · rw [if_neg hn]
      exact h.opened_le_above a hmem k hak (by omega)
  start_mono {i j} hij hj := by
    change j < (b.push kind field span).nodes.size at hj
    rw [size_push] at hj
    show (b.push kind field span).sofar.start i ≤ (b.push kind field span).sofar.start j
    rw [Tree.start, Tree.start, span_push kind field span h.top_lt,
      span_push kind field span h.top_lt]
    by_cases hnj : j = b.nodes.size
    · rw [if_pos hnj]
      by_cases hni : i = b.nodes.size
      · rw [if_pos hni]
      · rw [if_neg hni]
        exact hstart i (by omega)
    · rw [if_neg hnj, if_neg (by omega)]
      exact h.start_mono hij (by omega)
  start_cut {i} hi := by
    change i < (b.push kind field span).nodes.size at hi
    rw [size_push] at hi
    show Text.IsCut b.source.toList ((b.push kind field span).sofar.span i).start
    rw [span_push kind field span h.top_lt]
    by_cases hn : i = b.nodes.size
    · rw [if_pos hn]
      exact hscut
    · rw [if_neg hn]
      exact h.start_cut (by omega)
  closed {i} hpos hi hio := by
    change i < (b.push kind field span).nodes.size at hi
    rw [size_push] at hi
    by_cases hn : i = b.nodes.size
    · subst hn
      exact h.closed_push_self kind field hle hecut
    · have his : i < b.nodes.size := by omega
      have hold : i ∉ b.opened := by
        rcases ho with rfl | rfl
        · exact hio
        · exact fun hmem => hio (List.mem_cons_of_mem _ hmem)
      exact h.closed_push_of_lt kind field hpos his hold (hstop i hpos his hold) ho

end push

/-! ## The five moves -/

theorem stop_le (h : b.Sound) {i : Nat} (hpos : 0 < i) (hi : i < b.nodes.size)
    (hio : i ∉ b.opened) : (b.sofar.span i).stop ≤ b.offset := by
  rw [offset, ← Text.size_toList]
  exact (h.closed hpos hi hio).stop_cut.le

theorem start_le (h : b.Sound) {i : Nat} (hi : i < b.nodes.size) :
    b.sofar.start i ≤ b.offset := by
  rw [offset, ← Text.size_toList]
  exact (h.start_cut hi).le

theorem isCut_offset (b : Builder) : Text.IsCut b.source.toList b.offset := by
  rw [offset, ← Text.size_toList]
  exact Text.isCut_size _

theorem trivia (h : b.Sound) (text : String) : (b.trivia text).Sound where
  nested := h.nested.congr rfl (fun _ => rfl) fun _ => rfl
  opened_lt := h.opened_lt
  opened_desc := h.opened_desc
  opened_le_above := h.opened_le_above
  start_mono := h.start_mono
  start_cut {i} hi := by
    show Text.IsCut (b.source ++ text).toList (b.sofar.start i)
    rw [String.toList_append]
    exact (h.start_cut hi).append _
  closed {i} hpos hi hio := by
    have hold := h.closed hpos hi hio
    refine ⟨hold.start_le_stop, ?_, fun j hij hj => ?_⟩
    · show Text.IsCut (b.source ++ text).toList (b.sofar.span i).stop
      rw [String.toList_append]
      exact hold.stop_cut.append _
    · rcases hold.later j hij hj with ⟨henc, hno, hblank⟩ | hright
      · refine .inl ⟨henc, hno, ?_⟩
        show Text.BlankBetween (b.source ++ text).toList (b.sofar.span i).stop
          (b.sofar.span j).stop
        rw [String.toList_append]
        have hj0 : 0 < j := Nat.lt_trans hpos hij
        exact hblank.append (h.closed hj0 hj hno).stop_cut.le _
      · exact .inr hright

theorem start (h : b.Sound) (kind : Kind) (field : Option Field) : (b.start kind field).Sound :=
  h.push kind field (fun _ hi => h.start_le hi) (fun _ hpos hi hio => h.stop_le hpos hi hio)
    (isCut_offset b) (Nat.le_refl _) (isCut_offset b) (.inr rfl)

theorem token (h : b.Sound) (kind : Kind) (text : String) (field : Option Field) :
    (b.token kind text field).Sound := by
  have hlong : b.offset ≤ (b.trivia text).offset := by
    show Text.length b.source ≤ Text.length (b.source ++ text)
    rw [Text.length, Text.length, String.utf8ByteSize_append]
    exact Nat.le_add_right _ _
  have hcut : Text.IsCut (b.trivia text).source.toList b.offset := by
    show Text.IsCut (b.source ++ text).toList b.offset
    rw [String.toList_append]
    exact (isCut_offset b).append _
  exact (h.trivia text).push kind field (fun _ hi => h.start_le hi)
    (fun _ hpos hi hio => h.stop_le hpos hi hio) hcut hlong (isCut_offset _) (.inl rfl)

theorem annotate (h : b.Sound) (nodes : Array Node) (hs : SameShape nodes b.nodes) :
    Sound { b with nodes } := by
  have hs' : SameShape (Builder.sofar { b with nodes }).nodes b.sofar.nodes := hs
  have hsize : nodes.size = b.nodes.size := hs.1
  refine ⟨h.nested.of_shape hs', ?_, h.opened_desc, ?_, ?_, ?_, ?_⟩
  · intro a ha
    rw [hsize]
    exact h.opened_lt a ha
  · intro a ha k hak hk
    rw [Tree.above_eq (Tree.parent_eq_of_shape hs')]
    exact h.opened_le_above a ha k hak (hsize ▸ hk)
  · intro i j hij hj
    rw [Tree.start_eq_of_shape hs', Tree.start_eq_of_shape hs']
    exact h.start_mono hij (hsize ▸ hj)
  · intro i hi
    rw [Tree.start_eq_of_shape hs']
    exact h.start_cut (hsize ▸ hi)
  · intro i hpos hi hio
    have hold := h.closed hpos (hsize ▸ hi) hio
    refine ⟨?_, ?_, fun j hij hj => ?_⟩
    · rw [Tree.start_eq_of_shape hs', Tree.span_eq_of_shape hs']
      exact hold.start_le_stop
    · rw [Tree.span_eq_of_shape hs']
      exact hold.stop_cut
    · rw [Tree.encloses_iff (Tree.parent_eq_of_shape hs'), Tree.span_eq_of_shape hs',
        Tree.span_eq_of_shape hs', Tree.start_eq_of_shape hs']
      exact hold.later j hij (hsize ▸ hj)

/-- A node that closes ends at a cut, and what follows to the end of the text is white
space. -/
theorem closingEnd_spec {source : String} {start : Nat} (h : Text.IsCut source.toList start) :
    start ≤ closingEnd source start ∧ Text.IsCut source.toList (closingEnd source start) ∧
      ∀ j, Text.BlankBetween source.toList (closingEnd source start) j := by
  obtain ⟨a, cs, hs, rfl⟩ := h
  have hend : closingEnd source (Text.size a) = Text.size a + Text.size (Text.trimEndChars cs) := by
    rw [closingEnd, hs, Text.dropBytes_append]
    rfl
  rw [hend, hs]
  refine ⟨Nat.le_add_right _ _, ?_, fun j => Text.blankBetween_trimEnd⟩
  obtain ⟨bs, hcs, -⟩ := Text.trimEndChars_append_blanks cs
  refine ⟨a ++ Text.trimEndChars cs, bs, ?_, Text.size_append _ _⟩
  rw [List.append_assoc, ← hcs]

section finish

variable {id : Nat} {rest : List Nat} (h : b.Sound) (ho : b.opened = id :: rest)
include h ho

theorem head_lt : 0 < id ∧ id < b.nodes.size := h.opened_lt id (ho ▸ List.mem_cons_self)

/-- The node that closes gets its final span. -/
theorem closed_finish_self : b.finish.Closed id := by
  have hid := (h.head_lt ho).2
  have hrest : b.finish.opened = rest := by rw [opened_finish, ho]; rfl
  obtain ⟨hle, hcut, hblank⟩ := closingEnd_spec (h.start_cut hid)
  refine ⟨?_, ?_, fun j hij hj => .inl ⟨?_, ?_, ?_⟩⟩
  · rw [start_finish ho hid, stop_finish ho hid]
    exact hle
  · rw [source_finish, stop_finish ho hid]
    exact hcut
  · rw [size_finish] at hj
    rw [Tree.encloses_iff (parent_finish ho hid)]
    exact ⟨hij, fun k hik hkj =>
      h.opened_le_above id (ho ▸ List.mem_cons_self) k hik (by omega)⟩
  · rw [hrest]
    intro hjr
    exact Nat.lt_asymm hij ((List.pairwise_cons.mp (ho ▸ h.opened_desc)).1 j hjr)
  · rw [source_finish, stop_finish ho hid]
    exact hblank _

/-- The nodes that were closed before stay as they are. -/
theorem closed_finish_of_ne {i : Nat} (hne : i ≠ id) (hclosed : b.Closed i) :
    b.finish.Closed i := by
  have hid := (h.head_lt ho).2
  have hrest : b.finish.opened = rest := by rw [opened_finish, ho]; rfl
  refine ⟨?_, ?_, fun j hij hj => ?_⟩
  · rw [start_finish ho hid, span_finish_of_ne ho hid hne]
    exact hclosed.start_le_stop
  · rw [source_finish, span_finish_of_ne ho hid hne]
    exact hclosed.stop_cut
  · rw [size_finish] at hj
    rw [Tree.encloses_iff (parent_finish ho hid), hrest, source_finish,
      span_finish_of_ne ho hid hne, start_finish ho hid]
    rcases hclosed.later j hij hj with ⟨henc, hno, hblank⟩ | hright
    · rw [ho] at hno
      rw [span_finish_of_ne ho hid fun e => hno (e ▸ List.mem_cons_self)]
      exact .inl ⟨henc, fun hm => hno (List.mem_cons_of_mem id hm), hblank⟩
    · exact .inr hright

end finish

theorem finish (h : b.Sound) : b.finish.Sound := by
  cases ho : b.opened with
  | nil =>
      rw [finish_of_nil ho]
      exact h
  | cons id rest =>
      have hid := (h.head_lt ho).2
      have hrest : b.finish.opened = rest := by rw [opened_finish, ho]; rfl
      have hmem : ∀ a, a ∈ b.finish.opened → a ∈ b.opened := by
        intro a ha
        rw [ho]
        exact List.mem_cons_of_mem id (hrest ▸ ha)
      refine ⟨h.nested.congr size_finish (parent_finish ho hid) (children_finish ho hid),
        ?_, ?_, ?_, ?_, ?_, ?_⟩
      · intro a ha
        rw [size_finish]
        exact h.opened_lt a (hmem a ha)
      · rw [hrest]
        exact (List.pairwise_cons.mp (ho ▸ h.opened_desc)).2
      · intro a ha k hak hk
        rw [size_finish] at hk
        rw [Tree.above_eq (parent_finish ho hid)]
        exact h.opened_le_above a (hmem a ha) k hak hk
      · intro i j hij hj
        rw [size_finish] at hj
        rw [start_finish ho hid, start_finish ho hid]
        exact h.start_mono hij hj
      · intro i hi
        rw [size_finish] at hi
        rw [start_finish ho hid, source_finish]
        exact h.start_cut hi
      · intro i hpos hi hio
        rw [size_finish] at hi
        by_cases hne : i = id
        · subst hne
          exact h.closed_finish_self ho
        · refine h.closed_finish_of_ne ho hne (h.closed hpos hi ?_)
          rw [ho]
          intro hm
          rcases List.mem_cons.mp hm with e | hm
          · exact hne e
          · exact hio (hrest ▸ hm)

end Sound

theorem sound_keptByMoves : KeptByMoves Sound where
  start h := h.start
  finish h := h.finish
  trivia h := h.trivia
  token h := h.token
  annotate h := h.annotate

theorem sound_new (kind : FileKind) : (Builder.new kind).Sound := by
  have hroot : ∀ i : Nat, i < (Builder.new kind).nodes.size → i = 0 := by
    intro i hi
    have : i < 1 := hi
    omega
  refine ⟨⟨Nat.one_pos, rfl, ?_, ?_, ?_, ?_⟩, ?_, List.Pairwise.nil, ?_, ?_, ?_, ?_⟩
  · intro i hpos hi
    have := hroot i hi
    omega
  · intro i hpos hi
    have := hroot i hi
    omega
  · intro j k hjk hk _
    have := hroot k hk
    omega
  · intro i hi
    rw [hroot i hi]
    rfl
  · intro a ha
    simp [Builder.new] at ha
  · intro a ha
    simp [Builder.new] at ha
  · intro i j hij hj
    have hj0 := hroot j hj
    rw [hj0, show i = 0 by omega]
  · intro i hi
    rw [hroot i hi]
    exact Text.isCut_zero _
  · intro i hpos hi _
    have := hroot i hi
    omega

end Builder

/-! ## The layout of a tree -/

/-- The nodes stand in the text in the order of the array, and only ancestors overlap. -/
structure Tree.Laid (t : Tree) : Prop extends t.Nested where
  start_le_stop : ∀ {i : Nat}, i < t.size → t.start i ≤ (t.span i).stop
  start_mono : ∀ {i j : Nat}, i ≤ j → j < t.size → t.start i ≤ t.start j
  start_cut : ∀ {i : Nat}, i < t.size → Text.IsCut t.source.toList (t.start i)
  stop_cut : ∀ {i : Nat}, i < t.size → Text.IsCut t.source.toList (t.span i).stop
  stop_le_start : ∀ {i j : Nat}, i < j → j < t.size → ¬ t.Encloses i j →
    (t.span i).stop ≤ t.start j
  blank : ∀ {i j : Nat}, t.Encloses i j → j < t.size →
    Text.BlankBetween t.source.toList (t.span i).stop (t.span j).stop

namespace Builder

/-- Once nothing is open, giving the root the whole text as its span completes the layout. -/
theorem Sound.laid {b : Builder} (h : b.Sound) (ho : b.opened = []) {t : Tree}
    (hsource : t.source = b.source)
    (hshape : SameShape t.nodes (b.nodes.modify Tree.root fun n => { n with span := ⟨0, b.offset⟩ })) :
    t.Laid := by
  have hpos : 0 < b.nodes.size := h.nested.size_pos
  have hnode : ∀ i : Nat, (t.node i).bare = (if i = 0 then
      { b.sofar.node i with span := ⟨0, b.offset⟩ } else b.sofar.node i).bare := by
    intro i
    rw [Tree.node, hshape.2, getD_modify _ _ fun _ => show Tree.root < b.nodes.size from hpos]
    rfl
  have hsize : t.size = b.nodes.size := hshape.1.trans Array.size_modify
  have hparent : ∀ i, t.parent i = b.sofar.parent i := by
    intro i
    have := congrArg Node.parent (hnode i)
    split at this <;> exact this
  have hchildren : ∀ i, t.children i = b.sofar.children i := by
    intro i
    have := congrArg Node.children (hnode i)
    split at this <;> exact this
  have hroot : t.span 0 = ⟨0, b.offset⟩ := congrArg Node.span (hnode 0)
  have hspan : ∀ i : Nat, 0 < i → t.span i = b.sofar.span i := by
    intro i hi
    have := congrArg Node.span (hnode i)
    rw [if_neg (show i ≠ 0 by omega)] at this
    exact this
  have hclosed : ∀ {i : Nat}, 0 < i → i < t.size → b.Closed i := by
    intro i hi his
    exact h.closed hi (hsize ▸ his) (by simp [ho])
  refine ⟨h.nested.congr hsize hparent hchildren, ?_, ?_, ?_, ?_, ?_, ?_⟩
  · intro i hi
    rcases Nat.eq_zero_or_pos i with rfl | hi0
    · rw [Tree.start, hroot]
      exact Nat.zero_le _
    · rw [Tree.start, hspan i hi0]
      exact (hclosed hi0 hi).start_le_stop
  · intro i j hij hj
    rcases Nat.eq_zero_or_pos i with rfl | hi0
    · rw [Tree.start, hroot]
      exact Nat.zero_le _
    · rw [Tree.start, Tree.start, hspan i hi0, hspan j (by omega)]
      exact h.start_mono hij (hsize ▸ hj)
  · intro i hi
    rw [hsource]
    rcases Nat.eq_zero_or_pos i with rfl | hi0
    · rw [Tree.start, hroot]
      exact Text.isCut_zero _
    · rw [Tree.start, hspan i hi0]
      exact h.start_cut (hsize ▸ hi)
  · intro i hi
    rw [hsource]
    rcases Nat.eq_zero_or_pos i with rfl | hi0
    · rw [hroot]
      exact Sound.isCut_offset b
    · rw [hspan i hi0]
      exact (hclosed hi0 hi).stop_cut
  · intro i j hij hj hne
    rcases Nat.eq_zero_or_pos i with rfl | hi0
    · exact absurd ⟨hij, fun _ _ _ => Nat.zero_le _⟩ hne
    · rw [Tree.encloses_iff hparent] at hne
      rw [Tree.start, hspan i hi0, hspan j (by omega)]
      rcases (hclosed hi0 (by omega)).later j hij (hsize ▸ hj) with ⟨henc, -⟩ | ⟨-, hle⟩
      · exact absurd henc hne
      · exact hle
  · intro i j henc hj
    have hj0 : 0 < j := Nat.zero_lt_of_lt henc.1
    rw [hsource, hspan j hj0]
    rcases Nat.eq_zero_or_pos i with rfl | hi0
    · intro a m c _ ha hm x hx
      have hle := h.stop_le hj0 (hsize ▸ hj) (by simp [ho])
      have hnil : m = [] := Text.eq_nil_of_size_eq_zero (by rw [hroot] at ha; simp only at ha; omega)
      rw [hnil] at hx
      simp at hx
    · rw [hspan i hi0]
      rcases (hclosed hi0 (Nat.lt_trans henc.1 hj)).later j henc.1 (hsize ▸ hj) with
        ⟨-, -, hb⟩ | ⟨hne, -⟩
      · exact hb
      · exact absurd ((Tree.encloses_iff hparent).mp henc) hne

end Builder

/-- Every script gives a laid out tree. -/
theorem Tree.laid_ofScript (kind : FileKind) (steps : List Step) :
    (Tree.ofScript kind steps).Laid := by
  have hrun := Builder.sound_keptByMoves.run (Builder.sound_new kind) steps
  exact (Builder.sound_keptByMoves.close hrun).laid (Builder.opened_close _) rfl
    (Annotate.run_shape _ _)

end NcInsight
