import NcInsight.Proofs.Tree.Annotation
import NcInsight.Proofs.Tree.Pieces
import NcInsight.Proofs.Tree.Validity

/-
Where the links of a built tree lead.

A script leaves links on nodes, and annotation keeps them; the links that annotation adds lead to
declarations it has collected (`leads_run`).  All else that the check of a tree asks for is a
matter of its layout, so a built tree fails it only for a link that the script left
(`defect?_ofScript`).
-/
namespace NcInsight

/-! ## Built trees have one way to each node -/

namespace Tree

variable {t : Tree}

theorem Nested.linked (h : t.Nested) : t.Linked where
  size_pos := h.size_pos
  parent_root := h.parent_root
  child_spec _ hc := by
    obtain ⟨hpos, hlt, habove⟩ := h.mem_children.mp hc
    exact ⟨hlt, by rw [h.parent_eq hpos hlt, habove]⟩
  listed {i} hi hne := by
    have hpos : 0 < i := Nat.pos_of_ne_zero hne
    have hup := h.above_lt hpos hi
    exact ⟨t.above i, h.parent_eq hpos hi, Nat.lt_trans hup hi, h.mem_children.mpr ⟨hpos, hi, rfl⟩⟩

theorem Nested.exists_way (h : t.Nested) {i : Nat} (hi : i < t.size) :
    ∃ ks, t.follow root ks = some i := by
  induction i using Nat.strongRecOn with
  | ind i ih =>
      rcases Nat.eq_zero_or_pos i with rfl | hpos
      · exact ⟨[], rfl⟩
      · have hup := h.above_lt hpos hi
        obtain ⟨ks, hks⟩ := ih (t.above i) hup (Nat.lt_trans hup hi)
        obtain ⟨k, hk⟩ := List.getElem?_of_mem (h.mem_children.mpr ⟨hpos, hi, rfl⟩)
        exact ⟨ks ++ [k], follow_concat_eq_some.mpr ⟨t.above i, hks, hk⟩⟩

theorem Nested.rooted (h : t.Nested) : t.Rooted := by
  refine ⟨h.linked, fun {i} hi => ?_⟩
  obtain ⟨ks, hks⟩ := h.exists_way hi
  have hnodup : ∀ j, j < t.size → (t.children j).Nodup := fun j _ =>
    (h.pairwise_children j).imp fun hlt => Nat.ne_of_lt hlt
  exact ⟨ks, hks, fun ls hls => h.linked.way_unique hnodup hls hks⟩

end Tree

/-! ## The links that a script leaves -/

namespace Step

/-- The link of node `i` after a step, if it was `before` and the nodes up to `next` are there. -/
def linkAfter (i next : NodeId) (before : Option Link) : Step → Option Link
  | .setLink id link => if id = i ∧ i < next then some link else before
  | _ => before

/-- The link of node `i` after a script. -/
def linkAfterAll (i : NodeId) : NodeId → Option Link → List Step → Option Link
  | _, before, [] => before
  | next, before, s :: steps =>
      linkAfterAll i (next + s.count) (s.linkAfter i next before) steps

/-- The link that a script leaves on node `i`; the root is there from the start. -/
def linkLeft (steps : List Step) (i : NodeId) : Option Link := linkAfterAll i 1 none steps

end Step

namespace Builder

/-- The link that a node has so far. -/
def link (b : Builder) (i : NodeId) : Option Link := (b.nodes.getD i Node.blank).link

variable (b : Builder) (i : NodeId)

theorem link_step (s : Step) : (b.step s).link i = s.linkAfter i b.nodes.size (b.link i) := by
  have hplain : s.isPlain = true → (b.step s).link i = b.link i := fun hs =>
    congrArg Prod.snd (b.notes_step i hs)
  cases s with
  | start kind field => exact hplain rfl
  | finish => exact hplain rfl
  | token kind text field => exact hplain rfl
  | trivia text => exact hplain rfl
  | inclusion uri => exact hplain rfl
  | varDef name value type => exact hplain rfl
  | labelDef name value type => exact hplain rfl
  | setValueType id type => exact hplain rfl
  | setReferenceTypes id types => exact of_modify Node.link _ _ i
  | setLink id link =>
      show ((b.nodes.modify id fun n => { n with link := some link }).getD i Node.blank).link =
        if id = i ∧ i < b.nodes.size then some link else b.link i
      rw [Builder.link, Array.getD_eq_getD_getElem?, Array.getD_eq_getD_getElem?,
        Array.getElem?_modify]
      by_cases hid : id = i
      · rcases Nat.lt_or_ge i b.nodes.size with hi | hi
        · rw [if_pos hid, if_pos ⟨hid, hi⟩, Array.getElem?_eq_getElem hi]
          rfl
        · rw [if_pos hid, if_neg fun h => Nat.not_lt.mpr hi h.2, Array.getElem?_eq_none hi]
          rfl
      · rw [if_neg hid, if_neg fun h => hid h.1]

theorem link_run (steps : List Step) :
    (b.run steps).link i = Step.linkAfterAll i b.nodes.size (b.link i) steps := by
  induction steps generalizing b with
  | nil => rfl
  | cons s steps ih =>
      have hrest := ih (b.step s)
      rw [size_step, link_step] at hrest
      exact hrest

theorem link_close : b.close.link i = b.link i := congrArg Prod.snd (b.notes_close i)

end Builder

/-! ## The links that annotation adds -/

namespace Annotate

/-- The link `new` is the link `old`, or there was none and it leads to one of `count`
declarations of the file. -/
structure Leads (count : Nat) (old new : Option Link) : Prop where
  kept : ∀ l, old = some l → new = some l
  added : old = none → ∀ l, new = some l → ∃ d, l = ⟨none, d⟩ ∧ d < count

namespace Leads

variable {count : Nat} {old : Option Link} {n : Node}

theorem refl (count : Nat) (old : Option Link) : Leads count old old :=
  ⟨fun _ h => h, fun hnone l hl => by rw [hnone] at hl; cases hl⟩

theorem mono (h : Leads count old n.link) {more : Nat} (hle : count ≤ more) :
    Leads more old n.link := by
  refine ⟨h.kept, fun hnone l hl => ?_⟩
  obtain ⟨d, hd, hlt⟩ := h.added hnone l hl
  exact ⟨d, hd, Nat.lt_of_lt_of_le hlt hle⟩

theorem mark (h : Leads count old n.link) (d : Declaration) {id : DeclId} (hid : id < count) :
    Leads count old (mark d id n).link := by
  refine ⟨fun l hl => ?_, fun hnone l hl => ?_⟩
  · show n.link.or (some { id }) = some l
    rw [h.kept l hl, Option.some_or]
  · have hl : n.link.or (some { id }) = some l := hl
    rcases Option.or_eq_some_iff.mp hl with hold | ⟨-, hnew⟩
    · exact h.added hnone l hold
    · exact ⟨id, (Option.some.inj hnew).symm, hid⟩

theorem linkNode (h : Leads count old n.link) (source : String) {ds : Array Declaration}
    (hcount : ds.size = count) : Leads count old (linkNode source ds n).link := by
  cases hlink : n.link with
  | some l =>
      rw [linkNode_of_link (by rw [hlink]; rfl)]
      exact h
  | none =>
      rw [link_linkNode hlink]
      refine ⟨fun l hl => ?_, fun _ l hl => ?_⟩
      · have hkept := h.kept l hl
        rw [hlink] at hkept
        cases hkept
      · obtain ⟨i, hi, rfl⟩ := Option.map_eq_some_iff.mp hl
        refine ⟨i, rfl, ?_⟩
        have hfind : ∀ {k name}, find ds k name = some i → i < count := by
          intro k name hf
          rw [find, Array.findIdx?_eq_some_iff_getElem] at hf
          exact hcount ▸ hf.1
        unfold resolve at hi
        split at hi
        · exact (Option.or_eq_some_iff.mp hi).elim hfind fun hf => hfind hf.2
        · exact (Option.or_eq_some_iff.mp hi).elim hfind fun hf => hfind hf.2
        · cases hi

end Leads

theorem link_tagNode (nodes : Array Node) (ds : Array Declaration) (n : Node) :
    (tagNode nodes ds n).link = n.link := by
  unfold tagNode
  split
  · simp only
    split <;> rfl
  · rfl

section

variable (source : String) {old : NodeId → Option Link}

theorem leads_modify {count : Nat} {nodes : Array Node}
    (h : ∀ j, Leads count (old j) (nodes.getD j Node.blank).link) (d : Declaration) {id : DeclId}
    (hid : id < count) (i j : NodeId) :
    Leads count (old j) ((nodes.modify i (mark d id)).getD j Node.blank).link := by
  have hj := h j
  rw [Array.getD_eq_getD_getElem?] at hj
  rw [Array.getD_eq_getD_getElem?, Array.getElem?_modify]
  split
  · cases hnode : nodes[j]? with
    | none =>
        rw [hnode] at hj
        exact hj
    | some n =>
        rw [hnode] at hj
        exact hj.mark d hid
  · exact hj

/-- One declaration gives links to itself, and is one more to lead to. -/
theorem leads_collectOne {s : State}
    (h : ∀ j, Leads s.declarations.size (old j) (s.nodes.getD j Node.blank).link) (i j : NodeId) :
    Leads (collectOne source s i).declarations.size (old j)
      ((collectOne source s i).nodes.getD j Node.blank).link := by
  cases hd : declared source s.nodes i with
  | none =>
      rw [collectOne_of_none hd]
      exact h j
  | some d =>
      rw [declarations_collectOne hd, Array.size_push]
      have hmore : ∀ j, Leads (s.declarations.size + 1) (old j) (s.nodes.getD j Node.blank).link :=
        fun j => (h j).mono (Nat.le_succ _)
      have hself := leads_modify hmore d (Nat.lt_succ_self _) i
      simp only [collectOne, hd]
      split
      · exact leads_modify hself d (Nat.lt_succ_self _) _ j
      · exact hself j

end

/-- Annotation keeps the links that are there, and those it adds lead to declarations. -/
theorem leads_run {source : String} {nodes : Array Node} {j : NodeId}
    (hj : j < (run source nodes).size) :
    Leads (run source nodes).declarations.size (nodes.getD j Node.blank).link
      ((run source nodes).node j).link := by
  have hcollect : ∀ j, Leads (collect source nodes).declarations.size
      (nodes.getD j Node.blank).link ((collect source nodes).nodes.getD j Node.blank).link := by
    apply collect_of_step source nodes fun s => ∀ j, Leads s.declarations.size
      (nodes.getD j Node.blank).link (s.nodes.getD j Node.blank).link
    · exact fun j => Leads.refl _ _
    · exact fun s i _ h => leads_collectOne source h i
  rw [node_run hj, link_tagNode]
  exact (hcollect j).linkNode source rfl

end Annotate

/-! ## The check of a built tree -/

namespace Builder

theorem kind_push {b : Builder} (htop : b.top < b.nodes.size) (kind : Kind) (field : Option Field)
    (span : Span) {i : NodeId} (hi : i < b.nodes.size) :
    (b.push kind field span).sofar.kind i = b.sofar.kind i := by
  rw [Tree.kind, node_push kind field span htop, if_neg (Nat.ne_of_lt hi)]
  split <;> rfl

theorem kind_finish (b : Builder) (i : NodeId) : b.finish.sofar.kind i = b.sofar.kind i := by
  rw [finish]
  split
  · rfl
  · exact of_modify Node.kind _ _ i

theorem kind_close (b : Builder) (i : NodeId) : b.close.sofar.kind i = b.sofar.kind i :=
  close_of_finish (fun c => c.sofar.kind i = b.sofar.kind i)
    (fun c hc => (c.kind_finish i).trans hc) rfl

/-- The root stays the node of the file. -/
theorem root_keptByMoves (kind : FileKind) :
    KeptByMoves fun b => b.Sound ∧ b.sofar.kind Tree.root = .file kind where
  start h k field := ⟨h.1.start k field,
    (kind_push h.1.top_lt k field _ h.1.nested.size_pos).trans h.2⟩
  finish h := ⟨h.1.finish, (kind_finish _ _).trans h.2⟩
  trivia h text := ⟨h.1.trivia text, h.2⟩
  token {b} h k text field := ⟨h.1.token k text field,
    (kind_push (h.1.trivia text).top_lt k field _ h.1.nested.size_pos).trans h.2⟩
  annotate {b} h nodes hs := by
    have hs' : SameShape (Builder.sofar { b with nodes }).nodes b.sofar.nodes := hs
    exact ⟨h.1.annotate nodes hs, (Tree.kind_eq_of_shape hs' _).trans h.2⟩

end Builder

namespace Tree

variable (kind : FileKind) (steps : List Step)

/-- Annotation leaves the kinds that the script gave. -/
theorem kind_ofScript (i : NodeId) :
    (Tree.ofScript kind steps).kind i = ((Builder.new kind).run steps).sofar.kind i := by
  have hkind := congrArg Node.kind ((Annotate.run_shape _ _).2 i :
    ((Tree.ofScript kind steps).node i).bare = _)
  exact (hkind.trans (Builder.of_modify Node.kind _ _ i)).trans (Builder.kind_close _ i)

theorem kind_root_ofScript : (Tree.ofScript kind steps).kind root = .file kind :=
  (kind_ofScript kind steps root).trans
    ((Builder.root_keptByMoves kind).run ⟨Builder.sound_new kind, rfl⟩ steps).2

theorem formed_ofScript : (Tree.ofScript kind steps).Formed := by
  have h := laid_ofScript kind steps
  refine ⟨h.rooted, ?_, fun {i} hi => ⟨h.start_le_stop hi, ?_⟩⟩
  · rw [kind_root_ofScript]
    rfl
  · rw [← Text.size_toList]
    exact (h.stop_cut hi).le

variable {t : Tree}

theorem Formed.rootDefect?_eq_none (h : t.Formed) : t.rootDefect? = none :=
  rootDefect?_eq_none_iff.mpr ⟨h.size_pos, h.root_isFile, h.parent_root⟩

/-- Only a link is left to be found wrong with a node. -/
theorem Formed.nodeDefect?_eq (h : t.Formed) {i : NodeId} (hi : i < t.size) :
    t.nodeDefect? i = t.linkDefect? i (t.node i) := by
  have hspan := spanDefect?_eq_none_iff.mpr (h.span_spec hi)
  have hparent := parentDefect?_eq_none_iff.mpr (h.listed hi)
  have hchildren : (t.node i).children.findSome? (t.childDefect? i) = none :=
    List.findSome?_eq_none_iff.mpr fun c hc => childDefect?_eq_none_iff.mpr (h.child_spec hi hc)
  rw [nodeDefect?]
  simp only [hspan, hchildren, hparent, Option.none_or]

theorem Formed.defect?_eq_some (h : t.Formed) {e : Defect} (he : t.defect? = some e) :
    ∃ i d, i < t.size ∧ (t.node i).link = some ⟨none, d⟩ ∧ t.declarations.size ≤ d ∧
      e = .declarationOutOfRange i d := by
  rw [defect?, h.rootDefect?_eq_none, h.reachDefect?_eq_none, Option.none_or, Option.or_none] at he
  obtain ⟨i, hi, he⟩ := List.exists_of_findSome?_eq_some he
  have hi := List.mem_range.mp hi
  rw [h.nodeDefect?_eq hi] at he
  obtain ⟨d, hlink, hd, rfl⟩ := linkDefect?_eq_some he
  exact ⟨i, d, hi, hlink, hd, rfl⟩

theorem link_close_run (i : NodeId) :
    ((Builder.new kind).run steps).close.link i = Step.linkLeft steps i := by
  have hnew : (Builder.new kind).link i = none := by cases i <;> rfl
  rw [Builder.link_close, Builder.link_run, hnew]
  rfl

theorem link_ofScript {i : NodeId} (hi : i < (Tree.ofScript kind steps).size) :
    Annotate.Leads (Tree.ofScript kind steps).declarations.size (Step.linkLeft steps i)
      ((Tree.ofScript kind steps).node i).link := by
  have hleads : Annotate.Leads (Tree.ofScript kind steps).declarations.size _
    ((Tree.ofScript kind steps).node i).link := Annotate.leads_run hi
  rw [Builder.of_modify Node.link] at hleads
  rw [← link_close_run kind]
  exact hleads

theorem lt_size_of_linkLeft {i : NodeId} {l : Link} (h : Step.linkLeft steps i = some l) :
    i < (Tree.ofScript kind steps).size := by
  have hsize : (Tree.ofScript kind steps).size =
      ((Builder.new kind).run steps).close.nodes.size :=
    (Annotate.run_shape _ _).1.trans Array.size_modify
  rcases Nat.lt_or_ge i (Tree.ofScript kind steps).size with hlt | hge
  · exact hlt
  · rw [hsize] at hge
    rw [← link_close_run kind, Builder.link, Array.getD_eq_getD_getElem?,
      Array.getElem?_eq_none hge] at h
    cases h

/-- A built tree passes the check if every link into the file itself that the script left leads to
a declaration, and else it fails for such a link and for nothing else. -/
theorem defect?_ofScript :
    ((Tree.ofScript kind steps).defect? = none ↔
      ∀ i d, Step.linkLeft steps i = some ⟨none, d⟩ →
        d < (Tree.ofScript kind steps).declarations.size) ∧
    ∀ e, (Tree.ofScript kind steps).defect? = some e →
      ∃ i d, e = .declarationOutOfRange i d ∧ Step.linkLeft steps i = some ⟨none, d⟩ ∧
        (Tree.ofScript kind steps).declarations.size ≤ d := by
  have hfail : ∀ e, (Tree.ofScript kind steps).defect? = some e →
      ∃ i d, e = .declarationOutOfRange i d ∧ Step.linkLeft steps i = some ⟨none, d⟩ ∧
        (Tree.ofScript kind steps).declarations.size ≤ d := by
    intro e he
    obtain ⟨i, d, hi, hlink, hd, rfl⟩ := (formed_ofScript kind steps).defect?_eq_some he
    refine ⟨i, d, rfl, ?_, hd⟩
    -- a link that annotation added would lead to a declaration
    have hleads := link_ofScript kind steps hi
    cases hleft : Step.linkLeft steps i with
    | some l => rw [← hleads.kept l hleft, hlink]
    | none =>
        obtain ⟨d', hd', hlt⟩ := hleads.added hleft _ hlink
        cases hd'
        exact absurd hlt (Nat.not_lt.mpr hd)
  refine ⟨⟨fun hnone i d hleft => ?_, fun hall => ?_⟩, hfail⟩
  · have hi := lt_size_of_linkLeft kind steps hleft
    have hvalid := defect?_eq_none_iff.mp hnone
    exact hvalid.link_lt hi ((link_ofScript kind steps hi).kept _ hleft)
  · cases he : (Tree.ofScript kind steps).defect? with
    | none => rfl
    | some e =>
        obtain ⟨i, d, -, hleft, hd⟩ := hfail e he
        exact absurd (hall i d hleft) (Nat.not_lt.mpr hd)

end Tree
end NcInsight
