import NcInsight.Proofs.Lint.Reports
import NcInsight.Proofs.Tree.Walking

/-
Where findings come from.

A finding is at a node of the file that is linted (`node_lt_of_mem_reports`).  From the files that
it includes lint takes what their declarations say and never where they stand: two sets of files
whose declarations say the same lead to the same findings, even if no node of the one is a node of
the other (`findings_of_alike`).
-/
namespace NcInsight

/-- What a declaration says, wherever it stands. -/
def Declaration.content (d : Declaration) :
    DeclarationKind × String × Option String × ValueType :=
  (d.kind, d.name, d.valueText, d.valueType)

namespace Lint

/-- What the declarations of a file say that is there. -/
def offered (file : Option Record) :
    Option (List (DeclarationKind × String × Option String × ValueType)) :=
  file.map fun r => (exported r.tree).map Declaration.content

/-- A clash is with a declaration that is the newest of its name. -/
theorem clashes_iff {f : Facts} {d : Declaration} : clashes f d = true ↔
    d.valueText.isSome = true ∧
      ∃ e, f.lookup e.name = some e ∧ e.kind = d.kind ∧ e.valueText = d.valueText := by
  simp only [clashes, Bool.and_eq_true, List.any_eq_true, beq_iff_eq]
  constructor
  · rintro ⟨hvalue, e, -, ⟨hkind, htext⟩, hlookup⟩
    exact ⟨hvalue, e, hlookup, hkind, htext⟩
  · rintro ⟨hvalue, e, hlookup, hkind, htext⟩
    exact ⟨hvalue, e, List.mem_of_find?_eq_some hlookup, ⟨hkind, htext⟩, hlookup⟩

theorem lookup_of_introduced {f g : Facts}
    (h : f.introduced.map Declaration.content = g.introduced.map Declaration.content)
    (name : String) :
    (f.lookup name).map Declaration.content = (g.lookup name).map Declaration.content := by
  have hfind : ∀ ds : List Declaration, (ds.find? (·.name == name)).map Declaration.content =
      (ds.map Declaration.content).find? (·.2.1 == name) := by
    intro ds
    rw [List.find?_map]
    rfl
  rw [Facts.lookup, Facts.lookup, hfind, hfind, h]

/-- Declarations that say the same have the same value. -/
theorem value_of_content {o p : Option Declaration}
    (h : o.map Declaration.content = p.map Declaration.content) : (o = none ∧ p = none) ∨
      ∃ d e, o = some d ∧ p = some e ∧ d.valueText = e.valueText ∧ d.valueType = e.valueType := by
  cases o with
  | none =>
      rw [Option.map_none] at h
      exact .inl ⟨rfl, Option.map_eq_none_iff.mp h.symm⟩
  | some d =>
      rw [Option.map_some] at h
      obtain ⟨e, he, hcontent⟩ := Option.map_eq_some_iff.mp h.symm
      exact .inr ⟨d, e, rfl, he, (congrArg (fun s => s.2.2.1) hcontent).symm,
        (congrArg (fun s => s.2.2.2) hcontent).symm⟩

/-- The same is known, with declarations that may stand at different nodes. -/
structure Alike (f g : Facts) : Prop where
  introduced : f.introduced.map Declaration.content = g.introduced.map Declaration.content
  imports : f.imports = g.imports
  functions : f.functions = g.functions
  entries : f.entries = g.entries
  gotos : f.gotos = g.gotos

namespace Alike

variable {f g : Facts}

theorem refl (f : Facts) : Alike f f := ⟨rfl, rfl, rfl, rfl, rfl⟩

theorem symm (h : Alike f g) : Alike g f :=
  ⟨h.introduced.symm, h.imports.symm, h.functions.symm, h.entries.symm, h.gotos.symm⟩

variable (h : Alike f g)
include h

/-! ## Looking up -/

theorem lookup (name : String) :
    (f.lookup name).map Declaration.content = (g.lookup name).map Declaration.content :=
  lookup_of_introduced h.introduced name

theorem isKnown (name : String) : f.isKnown name = g.isKnown name := by
  have hany : ∀ ds : List Declaration, ds.any (·.name == name) =
      (ds.map Declaration.content).any (·.2.1 == name) := by
    intro ds
    rw [List.any_map]
    rfl
  rw [Facts.isKnown, Facts.isKnown, hany, hany, h.introduced]

theorem isDoubled (name : String) : f.isDoubled name = g.isDoubled name := by
  have hlength : ∀ ds : List Declaration, (ds.filter (·.name == name)).length =
      ((ds.map Declaration.content).filter (·.2.1 == name)).length := by
    intro ds
    rw [List.filter_map, List.length_map]
    rfl
  rw [Facts.isDoubled, Facts.isDoubled, hlength, hlength, h.introduced]

variable (t : Tree)

/-- A node stands for nothing to both, or for declarations of the same value. -/
theorem resolve (id : NodeId) : (f.resolve t id = none ∧ g.resolve t id = none) ∨
    ∃ d e, f.resolve t id = some d ∧ g.resolve t id = some e ∧
      d.valueText = e.valueText ∧ d.valueType = e.valueType := by
  apply value_of_content
  rw [Facts.resolve, Facts.resolve, Option.map_or, Option.map_or, h.lookup]

theorem valueOf (id : NodeId) : f.valueOf t id = g.valueOf t id := by
  rw [Facts.valueOf, Facts.valueOf]
  rcases h.resolve t id with ⟨hf, hg⟩ | ⟨d, e, hf, hg, htext, htype⟩
  · rw [hf, hg]
  · rw [hf, hg, Option.bind_some, Option.bind_some, htext]

theorem entry? (program : NodeId) (value : String) :
    f.entry? program value = g.entry? program value := by
  rw [Facts.entry?, Facts.entry?, h.entries]

theorem entryOf (id : NodeId) : entryOf f t id = entryOf g t id := by
  unfold Lint.entryOf
  cases t.kind id with
  | label => simp only [h.valueOf t id]
  | var =>
      rcases h.resolve t id with ⟨hf, hg⟩ | ⟨d, e, hf, hg, htext, htype⟩
      · simp only [hf, hg]
      · simp only [hf, hg, htext, htype]
  | _ => rfl

theorem functionNumber (name : NodeId) : functionNumber f t name = functionNumber g t name := by
  unfold Lint.functionNumber
  rcases h.resolve t name with ⟨hf, hg⟩ | ⟨d, e, hf, hg, htext, htype⟩
  · simp only [hf, hg]
  · simp only [hf, hg, htext]

theorem loopValue (label : NodeId) : loopValue f t label = loopValue g t label := by
  unfold Lint.loopValue
  rw [h.valueOf t label]

/-! ## One step -/

variable {t}

theorem addEntry (id : NodeId) : Alike (f.addEntry t id) (g.addEntry t id) := by
  rw [Facts.addEntry, Facts.addEntry, h.entryOf t id]
  cases Lint.entryOf g t id with
  | none => exact h
  | some s =>
      simp only [h.entry?]
      split
      · exact h
      · exact { h with entries := by rw [h.entries] }

theorem introduce (d : Declaration) :
    Alike { f with introduced := d :: f.introduced } { g with introduced := d :: g.introduced } :=
  { h with introduced := by rw [List.map_cons, List.map_cons, h.introduced] }

theorem addFunction (n : String) :
    Alike (if f.functions.contains n then f else { f with functions := f.functions ++ [n] })
      (if g.functions.contains n then g else { g with functions := g.functions ++ [n] }) := by
  rw [h.functions]
  split
  · exact h
  · exact { h with functions := rfl }

/-! ## What is reported -/

theorem clashes_of_clashes {d : Declaration} (hd : clashes f d = true) : clashes g d = true := by
  obtain ⟨hvalue, e, he, hkind, htext⟩ := clashes_iff.mp hd
  -- the declaration itself may be at another node in `g`, but the newest of its name says the same
  have hsame := h.lookup e.name
  rw [he, Option.map_some] at hsame
  obtain ⟨e', he', hcontent⟩ := Option.map_eq_some_iff.mp hsame.symm
  have hname : e'.name = e.name := congrArg (fun s => s.2.1) hcontent
  refine clashes_iff.mpr ⟨hvalue, e', ?_, ?_, ?_⟩
  · rw [hname, he']
  · exact (congrArg (fun s => s.1) hcontent).trans hkind
  · exact (congrArg (fun s => s.2.2.1) hcontent).trans htext

theorem clashes (d : Declaration) : clashes f d = clashes g d := by
  rw [Bool.eq_iff_iff]
  exact ⟨h.clashes_of_clashes, h.symm.clashes_of_clashes⟩

theorem entryReports (id : NodeId) : entryReports t f id = entryReports t g id := by
  unfold Lint.entryReports
  simp only [h.entryOf t id, h.entry?]

theorem functionReports (id : NodeId) : functionReports t f id = functionReports t g id := by
  unfold Lint.functionReports
  simp only [h.functionNumber t, h.functions]

theorem assignmentReports (id : NodeId) : assignmentReports t f id = assignmentReports t g id := by
  unfold Lint.assignmentReports
  split
  · rfl
  case h_2 target _ =>
    rcases h.resolve t target with ⟨hf, hg⟩ | ⟨d, e, hf, hg, htext, htype⟩
    · rw [hf, hg]
    · rw [hf, hg, Option.any_some, Option.any_some, htype]

theorem whileReports (id : NodeId) : whileReports f t id = whileReports g t id := by
  have hvalue : Lint.loopValue f t = Lint.loopValue g t := funext (h.loopValue t)
  have hnumber : loopNumber f t = loopNumber g t := by
    funext label
    rw [loopNumber, loopNumber, hvalue]
  have hbig : isTooBig f t = isTooBig g t := by
    funext label
    rw [isTooBig, isTooBig, hnumber]
  simp only [Lint.whileReports, labelReports, sharedNumberReports, hvalue, hnumber, hbig]

theorem jump (label : NodeId) : jump f t label = jump g t label := by
  unfold Lint.jump
  rcases h.resolve t label with ⟨hf, hg⟩ | ⟨d, e, hf, hg, htext, htype⟩
  · simp only [h.valueOf t, hf, hg]
  · simp only [h.valueOf t, hf, hg, htext, htype]

theorem gotoReports (id : NodeId) : gotoReports t f id = gotoReports t g id := by
  have hreachable : isReachable f = isReachable g := by
    funext program value
    simp only [isReachable, h.entry?]
  simp only [Lint.gotoReports, h.jump, hreachable]

end Alike

/-! ## A run -/

/-- What a node includes, if it does, says the same in both. -/
def AlikeAt (a b : Resolver) (r : Record) (id : NodeId) : Prop :=
  r.tree.kind id = .inclusion → ∀ n, r.tree.inclusionTarget? id = some n →
    offered (a.get? (a.resolve (r.tree.text n) r.uri)) =
      offered (b.get? (a.resolve (r.tree.text n) r.uri))

section run

variable {a b : Resolver} {r : Record} {f g : Facts} {id : NodeId}

theorem isSome_of_offered {o p : Option Record} (h : offered o = offered p) :
    o.isSome = p.isSome := by
  have hsome := congrArg Option.isSome h
  rw [offered, offered, Option.isSome_map, Option.isSome_map] at hsome
  exact hsome

theorem imported_of_alike {target : String} (h : Alike f g)
    (hoffered : offered (a.get? target) = offered (b.get? target)) :
    (imported { files := a, record := r } f target).map Declaration.content =
      (imported { files := b, record := r } g target).map Declaration.content := by
  rw [imported, imported, h.imports]
  split
  · rfl
  · revert hoffered
    show offered (a.get? target) = offered (b.get? target) → _
    cases ha : a.get? target with
    | none => cases hb : b.get? target <;> simp [offered]
    | some q => cases hb : b.get? target <;> simp [offered]

variable (hresolve : a.resolve = b.resolve) (h : Alike f g) (hat : AlikeAt a b r id)
include hresolve h hat

theorem reportsAt_of_alike :
    reportsAt { files := a, record := r } f id = reportsAt { files := b, record := r } g id := by
  unfold reportsAt
  simp only [Context.tree]
  cases hkind : r.tree.kind id with
  | inclusion =>
      simp only [includeReports, Context.tree, Context.target]
      cases hn : r.tree.inclusionTarget? id with
      | none => rfl
      | some n =>
          have hsome := isSome_of_offered (hat hkind n hn)
          simp only [← hresolve, h.imports, hsome]
  | varDef => simp only [declarationReports, Context.tree, h.isKnown, h.clashes]
  | labelDef => simp only [declarationReports, Context.tree, h.isKnown, h.clashes]
  | symbol => simp only [symbolReports, h.isKnown]
  | var => simp only [varReports, h.isDoubled, h.entryReports]
  | label => exact h.entryReports id
  | sequenceNumber => exact h.entryReports id
  | function => exact h.functionReports id
  | assignment => exact h.assignmentReports id
  | whileLoop => exact h.whileReports id
  | _ => rfl

/-- Step lemma: what is known stays alike. -/
theorem advance_of_alike : Alike (f.advance { files := a, record := r } id)
    (g.advance { files := b, record := r } id) := by
  unfold Facts.advance
  simp only [Context.tree]
  cases hkind : r.tree.kind id with
  | inclusion =>
      simp only [Context.tree, Context.target]
      cases hn : r.tree.inclusionTarget? id with
      | none => exact h
      | some n =>
          have himported := imported_of_alike (r := r) h (hat hkind n hn)
          simp only [← hresolve]
          refine { h with introduced := ?_, imports := by simp only [h.imports] }
          rw [List.map_append, List.map_append, List.map_reverse, List.map_reverse, himported,
            h.introduced]
  | varDef =>
      cases r.tree.declarationOf id with
      | none => exact h
      | some d => exact h.introduce d
  | labelDef =>
      cases r.tree.declarationOf id with
      | none => exact h
      | some d => exact h.introduce d
  | function =>
      simp only [funext (h.functionNumber r.tree)]
      cases (functionName r.tree id).bind (functionNumber g r.tree) with
      | none => exact h
      | some n => exact h.addFunction n
  | goto => exact { h with gotos := by rw [h.gotos] }
  | sequenceNumber => exact h.addEntry id
  | label => exact h.addEntry id
  | var => exact h.addEntry id
  | _ => exact h

omit h hat in
/-- Run lemma: along any nodes the same is reported, and what is known at the end is alike. -/
theorem scan_of_alike {ids : List NodeId} (hat : ∀ id ∈ ids, AlikeAt a b r id) (h : Alike f g) :
    scan { files := a, record := r } f ids = scan { files := b, record := r } g ids ∧
      Alike (ids.foldl (Facts.advance { files := a, record := r }) f)
        (ids.foldl (Facts.advance { files := b, record := r }) g) := by
  induction ids generalizing f g with
  | nil => exact ⟨rfl, h⟩
  | cons id ids ih =>
      obtain ⟨hid, hids⟩ := List.forall_mem_cons.mp hat
      obtain ⟨hscan, hfold⟩ := ih hids (advance_of_alike hresolve h hid)
      refine ⟨?_, hfold⟩
      rw [scan, scan, reportsAt_of_alike hresolve h hid, hscan]

omit h hat in
/-- Lint takes from other files what their declarations say, and nothing else. -/
theorem findings_of_alike (hat : ∀ id ∈ visited r.tree, AlikeAt a b r id) (levels : Levels) :
    findings a r levels = findings b r levels := by
  obtain ⟨hscan, hfacts⟩ := scan_of_alike hresolve hat (.refl {})
  have hfinal : Alike (finalFacts { files := a, record := r })
      (finalFacts { files := b, record := r }) := hfacts
  have hreports : reports { files := a, record := r } = reports { files := b, record := r } := by
    -- the gotos are nodes of the file itself
    have hgotos : orderedGotos r.tree (finalFacts { files := a, record := r }) =
        orderedGotos r.tree (finalFacts { files := b, record := r }) := by
      rw [orderedGotos, orderedGotos, hfinal.gotos]
    have hsaid : Lint.gotoReports r.tree (finalFacts { files := a, record := r }) =
        Lint.gotoReports r.tree (finalFacts { files := b, record := r }) :=
      funext hfinal.gotoReports
    show scan _ {} (visited r.tree) ++ (orderedGotos r.tree _).flatMap (gotoReports r.tree _) = _
    rw [hscan, hgotos, hsaid]
    rfl
  rw [findings_eq, findings_eq, hreports]

end run

/-! ## Anchors -/

theorem node_lt_of_mem_reports {c : Context} (h : c.tree.Rooted) {p : Report} (hp : p ∈ reports c) :
    p.node < c.tree.size := by
  rcases List.mem_append.mp hp with hp | hp
  · obtain ⟨g, id, hid, hp⟩ := exists_visit_of_mem_scan hp
    rcases (madeAt_reportsAt hp).anchor with he | ⟨i, hc⟩
    · rw [he]
      exact (h.mem_visits.mp hid).1
    · exact h.lt_of_mem hc
  · obtain ⟨id, -, hp⟩ := List.mem_flatMap.mp hp
    exact h.lt_of_mem (of_mem_gotoReports hp).2

/-- Every finding is at a node of the file, has the span of that node, the severity of the level of
its rule, and the code and the words of its rule, with its detail if it has one.  None is about a
node of another file: files that say the same at other nodes give the same findings. -/
theorem findings_anchored {r : Record} (h : r.tree.Formed) (files : Resolver) (levels : Levels) :
    (∀ f ∈ findings files r levels,
      f.node < r.tree.size ∧ f.span = r.tree.span f.node ∧
      f.span.start ≤ f.span.stop ∧ f.span.stop ≤ Text.length r.tree.source ∧
      (levels.level f.rule).severity? = some f.severity ∧ f.code = f.rule.code ∧
      f.message = match f.detail with
        | none => f.rule.message
        | some d => f.rule.message ++ ": " ++ d) ∧
    ∀ others : Resolver, others.resolve = files.resolve →
      (∀ uri, offered (others.get? uri) = offered (files.get? uri)) →
      findings others r levels = findings files r levels := by
  refine ⟨fun f hf => ?_, fun others hresolve hoffered => ?_⟩
  · rw [findings_eq] at hf
    obtain ⟨p, hp, hfound⟩ := List.mem_filterMap.mp hf
    obtain ⟨hseverity, heq⟩ := Report.finding?_eq_some hfound
    have hlt : p.node < r.tree.size :=
      node_lt_of_mem_reports (c := { files, record := r }) h.toRooted hp
    obtain ⟨hle, hstop⟩ := h.span_spec hlt
    rw [heq]
    exact ⟨hlt, rfl, hle, hstop, hseverity, rfl, rfl⟩
  · exact findings_of_alike hresolve (fun id _ _ n _ => hoffered _) levels

/-- A program that includes a file and uses two names. -/
def borrower : Record :=
  { uri := "main.src"
    includes := ["tools.def"]
    tree :=
      { source := "tools.def R Q"
        nodes := #[
          { kind := .file .program, span := ⟨0, 13⟩, children := [1, 3, 4] },
          { kind := .inclusion, span := ⟨0, 9⟩, parent := some 0, children := [2] },
          { kind := .string, span := ⟨0, 9⟩, field := some .uri, parent := some 1 },
          { kind := .symbol, span := ⟨10, 11⟩, parent := some 0 },
          { kind := .symbol, span := ⟨12, 13⟩, parent := some 0 }]
        declarations := #[] } }

/-- A file that declares one name, at node `id`. -/
def lender (id : NodeId) : Record :=
  { uri := "tools.def"
    includes := []
    tree :=
      { source := "R"
        nodes := #[{ kind := .file .definitions, span := ⟨0, 1⟩, children := [id] }] ++
          Array.replicate (id - 1) { kind := .other, span := ⟨0, 0⟩ } ++
          #[{ kind := .varDef, span := ⟨0, 1⟩, parent := some 0, children := [id + 1],
              link := some { id := 0 } },
            { kind := .symbol, span := ⟨0, 1⟩, parent := some id }]
        declarations := #[⟨.var, "R", id, some (id + 1), none, none, .undefined⟩] } }

/-- The file at every address. -/
def everywhere (r : Record) : Resolver :=
  { get? := fun _ => some r, resolve := fun reference _ => reference }

/-- The name that is not declared is found at its own node, wherever the other one is declared. -/
theorem findings_anchored_borrower :
    borrower.tree.Formed ∧
      (∀ uri, offered ((everywhere (lender 7)).get? uri) =
        offered ((everywhere (lender 1)).get? uri)) ∧
      findings (everywhere (lender 7)) borrower strict =
        findings (everywhere (lender 1)) borrower strict ∧
      ∃ f ∈ findings (everywhere (lender 1)) borrower strict,
        f.node = 4 ∧ f.span = ⟨12, 13⟩ ∧ f.message = "Unknown symbol: Q" := by
  have hformed : borrower.tree.Formed := (Tree.defect?_eq_none_iff.mp (by decide)).toFormed
  have hoffered : ∀ uri, offered ((everywhere (lender 7)).get? uri) =
      offered ((everywhere (lender 1)).get? uri) := by
    intro uri
    show offered (some (lender 7)) = offered (some (lender 1))
    decide
  obtain ⟨hanchored, hsame⟩ := findings_anchored hformed (everywhere (lender 1)) strict
  have hreport : (⟨.unknownSymbol, 4, some "Q"⟩ : Report) ∈
      scan { files := everywhere (lender 1), record := borrower } {} (visited borrower.tree) := by
    decide
  obtain ⟨f, hf, hnode, hrule, hdetail⟩ : ∃ f,
      (⟨.unknownSymbol, 4, some "Q"⟩ : Report).finding? borrower.tree strict = some f ∧
        f.node = 4 ∧ f.rule = .unknownSymbol ∧ f.detail = some "Q" :=
    ⟨_, rfl, rfl, rfl, rfl⟩
  have hmem : f ∈ findings (everywhere (lender 1)) borrower strict := by
    rw [findings_eq]
    exact List.mem_filterMap.mpr ⟨_, List.mem_append_left _ hreport, hf⟩
  obtain ⟨-, hspan, -, -, -, -, hmessage⟩ := hanchored f hmem
  refine ⟨hformed, hoffered, hsame _ rfl hoffered, f, hmem, hnode, ?_, ?_⟩
  · rw [hspan, hnode]
    rfl
  · rw [hmessage, hdetail, hrule]
    decide

end Lint
end NcInsight
