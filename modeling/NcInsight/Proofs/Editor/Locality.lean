import NcInsight.Editor.Session
import NcInsight.Proofs.Editor.Resolution
import NcInsight.Proofs.Lint.Provenance
import NcInsight.Proofs.Tree.Links

/-
How far the answers about a file look.

Three parts of the editor follow includes, each in its own way: lint resolves the text of an include
statement when its walk meets it, a scope takes in the addresses that the record lists, and
navigation asks for these one by one.  None looks further than the files at those addresses, and
none takes anything from what these include in turn.  So two workspaces that have the file and what
it includes in common give the same answers about it (`answers_local`).
-/
namespace NcInsight

/-! ## Files as they are opened -/

/-- The record has the addresses that its include statements mean here, and its nodes form a tree.
The files of a workspace are such records (`Workspace.Stored.stands`). -/
structure Resolver.Stands (files : Resolver) (r : Record) : Prop where
  record : r = Record.new (files.resolve · r.uri) r.uri r.tree
  formed : r.tree.Formed

/-- The nodes of every file that is found form a tree. -/
def Resolver.Formed (files : Resolver) : Prop :=
  ∀ uri r, files.get? uri = some r → r.tree.Formed

namespace Workspace

/-- Every file stands with the addresses that its include statements mean here, and its nodes form
a tree. -/
def Stored (w : Workspace) : Prop :=
  ∀ r ∈ w.records, r = w.record r.uri r.tree ∧ r.tree.Formed

theorem stored_empty (base : IncludeBase) : Stored { base } := by
  intro r hr
  cases hr

namespace Stored

variable {w : Workspace}

theorem insert (h : w.Stored) (uri : String) {t : Tree} (ht : t.Formed) :
    (w.insert uri t).Stored := by
  intro r hr
  rcases mem_insertRecord hr with rfl | hr
  · exact ⟨rfl, ht⟩
  · exact h r hr

theorem erase (h : w.Stored) (uri : String) : (w.erase uri).Stored :=
  fun r hr => h r (List.mem_of_mem_filter hr)

theorem stands (h : w.Stored) {r : Record} (hr : r ∈ w.records) : w.resolver.Stands r :=
  ⟨(h r hr).1, (h r hr).2⟩

theorem formed (h : w.Stored) : w.resolver.Formed :=
  fun _ r hget => (h r (mem_of_get? hget).1).2

end Stored

theorem base_insert (w : Workspace) (uri : String) (t : Tree) :
    (w.insert uri t).base = w.base := rfl

theorem resolve_congr {v w : Workspace} (h : v.base = w.base) : v.resolve = w.resolve := by
  funext reference uri
  rw [resolve, resolve, h]

end Workspace

/-- The address that an include statement means is one of the record's. -/
theorem Tree.mem_includes {w : Workspace} {uri : String} {t : Tree} {id n : NodeId}
    (hid : id ∈ t.inclusions) (hn : t.inclusionTarget? id = some n) :
    w.resolve (t.text n) uri ∈ (w.record uri t).includes := by
  have htext : t.text n ∈ t.inclusionTexts :=
    List.mem_map_of_mem (List.mem_filterMap.mpr ⟨id, hid, hn⟩)
  exact List.mem_eraseDups.mpr (List.mem_map_of_mem htext)

/-! ## Lint -/

namespace Lint

/-- A walk that stops at more nodes meets no include statement that the record misses. -/
theorem mem_inclusions_of_mem_visited {t : Tree} (h : t.Rooted) {id : NodeId}
    (hid : id ∈ visited t) (hkind : t.kind id = .inclusion) : id ∈ t.inclusions := by
  obtain ⟨hlt, habove⟩ := h.mem_visits.mp hid
  refine List.mem_filter.mpr ⟨h.mem_visits.mpr ⟨hlt, fun a ha => ?_⟩, by simp [hkind]⟩
  have huncut := habove a ha
  simp only [isCut, Bool.not_eq_true', Bool.or_eq_false_iff] at huncut
  simp [bne, huncut.1]

end Lint

theorem Workspace.Stored.lint_congr {v w : Workspace} {r : Record} (hv : v.Stored)
    (hr : v.get? r.uri = some r) (hresolve : v.resolve = w.resolve)
    (hget : ∀ uri ∈ r.includes, v.get? uri = w.get? uri) (levels : Levels) :
    lint v r levels = lint w r levels := by
  obtain ⟨hrecord, hformed⟩ := hv r (mem_of_get? hr).1
  have hincludes : (v.record r.uri r.tree).includes = r.includes :=
    congrArg Record.includes hrecord.symm
  have hresolver : v.resolver.resolve = w.resolver.resolve := hresolve
  refine Lint.findings_of_alike hresolver (fun id hid hkind n hn => ?_) levels
  have hmem := Lint.mem_inclusions_of_mem_visited hformed.toRooted hid hkind
  have htarget : v.resolve (r.tree.text n) r.uri ∈ (v.record r.uri r.tree).includes :=
    Tree.mem_includes hmem hn
  rw [hincludes] at htarget
  exact congrArg Lint.offered (hget _ htarget)

/-! ## Names -/

section

variable {v w : Workspace} {r : Record} (hget : ∀ uri ∈ r.includes, v.get? uri = w.get? uri)
include hget

theorem Scope.build_congr : build v r = build w r := by
  have hunmet : ∀ met uris, (∀ uri ∈ uris, v.get? uri = w.get? uri) →
      unmet v.get? met uris = unmet w.get? met uris := by
    intro met uris
    induction uris generalizing met with
    | nil =>
        intro _
        rfl
    | cons uri uris ih =>
        intro h
        obtain ⟨huri, huris⟩ := List.forall_mem_cons.mp h
        rw [unmet, unmet, huri, ih met huris, ih (uri :: met) huris]
  rw [build, build, buildFrom, buildFrom, hunmet [r.uri] r.includes hget]

namespace Navigation

theorem searchOrder_congr : searchOrder v r = searchOrder w r := by
  have hincluded : v.includedBy r = w.includedBy r :=
    List.filterMap_congr fun uri huri => hget uri (List.mem_of_mem_filter huri)
  rw [searchOrder, searchOrder, hincluded]

theorem definition?_congr (offset : Nat) : definition? v r offset = definition? w r offset := by
  rw [definition?, definition?, origin?, origin?, searchOrder_congr hget]

end Navigation

end

/-! ## Completion -/

namespace Completion

/-- The same question asked of another workspace. -/
def Request.within (q : Request) (w : Workspace) : Request := { q with workspace := w }

variable {q : Request} {w : Workspace} (hscope : (q.within w).scope = q.scope)
include hscope

theorem propose_congr (id : NodeId) (ks : List Keyword) (o : Offer) :
    propose (q.within w) id ks o = propose q id ks o := by
  cases o with
  | symbols reference types =>
      rw [propose, propose, hscope]
      rfl
  | keywords => rfl
  | operators => rfl
  | sequence => rfl

theorem proposeAll_congr (id : NodeId) (os : List Offer) (ks : List Keyword) :
    proposeAll (q.within w) id os ks = proposeAll q id os ks := by
  induction os generalizing ks with
  | nil => rfl
  | cons o os ih => simp only [proposeAll, propose_congr hscope, ih]

theorem completions_congr : completions (q.within w) = completions q := by
  have hnode : proposals? (q.within w) = proposals? q := by
    funext id
    rw [proposals?, proposals?]
    simp only [proposeAll_congr hscope]
    rfl
  rw [completions_eq, completions_eq, hnode]
  rfl

end Completion

/-! ## All answers -/

/-- The answers about a file depend on the file and on the files at the addresses it includes, and
on nothing else that is open. -/
theorem answers_local {v w : Workspace} {r : Record} (hv : v.Stored) (hbase : v.base = w.base)
    (hr : v.get? r.uri = some r) (hr' : w.get? r.uri = some r)
    (hget : ∀ uri ∈ r.includes, v.get? uri = w.get? uri) :
    (∀ levels, lint v r levels = lint w r levels) ∧
    (∀ offset settings, completions { workspace := v, record := r, offset, settings } =
      completions { workspace := w, record := r, offset, settings }) ∧
    (∀ offset, Navigation.definition? v r offset = Navigation.definition? w r offset) ∧
    outline v r = outline w r ∧ documentLinks v r = documentLinks w r ∧
    ∀ (settings : Settings) (p : Position),
      let s : Session := { workspace := v, settings }
      let s' : Session := { workspace := w, settings }
      s.diagnostics r.uri = s'.diagnostics r.uri ∧
      s.completion r.uri p = s'.completion r.uri p ∧
      s.definition r.uri p = s'.definition r.uri p ∧
      s.outline r.uri = s'.outline r.uri ∧ s.links r.uri = s'.links r.uri ∧
      s.signatureHelp r.uri p = s'.signatureHelp r.uri p ∧
      s.prepareRename r.uri p = s'.prepareRename r.uri p := by
  have hscope : Scope.build v r = Scope.build w r := Scope.build_congr hget
  have hresolve : v.resolve = w.resolve := Workspace.resolve_congr hbase
  have hlint : ∀ levels, lint v r levels = lint w r levels := fun levels =>
    hv.lint_congr hr hresolve hget levels
  have hcompletion : ∀ offset settings,
      completions { workspace := v, record := r, offset, settings } =
        completions { workspace := w, record := r, offset, settings } := fun offset settings =>
    Completion.completions_congr (q := { workspace := w, record := r, offset, settings }) hscope
  have hdefinition := Navigation.definition?_congr hget
  have houtline : outline v r = outline w r := by rw [outline, outline, hscope]
  have hlinks : documentLinks v r = documentLinks w r := by
    have hof : DocumentLink.of v.resolver r = DocumentLink.of w.resolver r := by
      funext n
      simp only [DocumentLink.of, Workspace.resolver, hresolve]
    rw [documentLinks, documentLinks, DocumentLink.all, DocumentLink.all, hof]
  refine ⟨hlint, hcompletion, hdefinition, houtline, hlinks, fun settings p => ?_⟩
  simp [Session.diagnostics, Session.completion, Session.definition, Session.outline,
    Session.links, Session.signatureHelp, Session.prepareRename, Session.locate?, Session.get?,
    NcInsight.diagnostics, hr, hr', hlint, hcompletion, hdefinition, houtline, hlinks]

/-- Definitions that build on definitions. -/
def stock : Workspace :=
  (({} : Workspace).insert "file:///shop/base.def" (.ofScript .definitions
    [.varDef "FEED" "10" .numeric, .trivia "\n"])).insert "file:///shop/tools.def"
      (.ofScript .definitions [.inclusion "base.def", .trivia "\n", .varDef "R" "#500" .var,
        .trivia "\n"])

/-- A program that includes the upper ones and uses a name of each. -/
def millTree : Tree :=
  .ofScript .program [.inclusion "tools.def", .trivia "\n", .token .symbol "R" none,
    .trivia "\n", .token .symbol "FEED" none, .trivia "\n"]

def mill : Record := stock.record "file:///shop/mill.src" millTree

def stocked : Workspace := stock.insert "file:///shop/mill.src" millTree

/-- The lower definitions replaced. -/
def restocked : Workspace :=
  stocked.insert "file:///shop/base.def" (.ofScript .definitions
    [.varDef "R" "#900" .var, .trivia "\n"])

theorem stored_stocked : stocked.Stored :=
  (((Workspace.stored_empty _).insert _ (Tree.formed_ofScript _ _)).insert _
    (Tree.formed_ofScript _ _)).insert _ (Tree.formed_ofScript _ _)

theorem facts_stocked : mill.includes = ["file:///shop/tools.def"] ∧
    (stocked.get? "file:///shop/base.def").map (·.tree.source) ≠
      (restocked.get? "file:///shop/base.def").map (·.tree.source) := by
  decide +kernel

theorem get?_stocked : stocked.get? "file:///shop/mill.src" = some mill :=
  Workspace.get?_insert_self stock "file:///shop/mill.src" millTree

theorem get?_restocked {uri : String} (h : uri ≠ "file:///shop/base.def") :
    stocked.get? uri = restocked.get? uri :=
  (Workspace.get?_insert_of_ne stocked _ h).symm

theorem answers_local_mill :
    stocked.Stored ∧ stocked.base = restocked.base ∧ stocked.get? mill.uri = some mill ∧
      restocked.get? mill.uri = some mill ∧
      (∀ uri ∈ mill.includes, stocked.get? uri = restocked.get? uri) ∧
      (stocked.get? "file:///shop/base.def").map (·.tree.source) ≠
        (restocked.get? "file:///shop/base.def").map (·.tree.source) ∧
      (∀ levels, lint stocked mill levels = lint restocked mill levels) ∧
      ∀ offset, Navigation.definition? stocked mill offset =
        Navigation.definition? restocked mill offset := by
  obtain ⟨hincludes, hdiffer⟩ := facts_stocked
  have hbase : stocked.base = restocked.base := (Workspace.base_insert stocked _ _).symm
  have huri : mill.uri = "file:///shop/mill.src" := rfl
  have hold : stocked.get? mill.uri = some mill := huri ▸ get?_stocked
  have hnew : restocked.get? mill.uri = some mill := by
    rw [huri, ← get?_restocked (by decide)]
    exact get?_stocked
  have hget : ∀ uri ∈ mill.includes, stocked.get? uri = restocked.get? uri := by
    intro uri hmem
    rw [hincludes, List.mem_singleton] at hmem
    rw [hmem]
    exact get?_restocked (by decide)
  have hlocal := answers_local stored_stocked hbase hold hnew hget
  exact ⟨stored_stocked, hbase, hold, hnew, hget, hdiffer, hlocal.1, hlocal.2.2.1⟩

end NcInsight
