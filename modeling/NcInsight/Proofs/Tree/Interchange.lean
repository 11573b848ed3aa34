import NcInsight.Proofs.Json.Text
import NcInsight.Proofs.Tree.ReferenceTypes
import NcInsight.Tree.Interchange

/-
A tree and its JSON form.

The form is written with every field by name, and the reader finds each field again
(`slots?_object`), so a record reads as the record that was written as soon as its numbers fit in 64
bits.  What the reader lets through fits, so a tree that was read, whatever the form it was read
from, is also read from the form that is written of it (`interchange_lossless`).
-/
namespace NcInsight

namespace Json

/-! ## Records by name -/

theorem valuesOf_of_not_mem {key : String} {ms : List (String × Json)} (h : key ∉ ms.map (·.1)) :
    valuesOf key ms = [] := by
  have hnone : ms.filter (·.1 == key) = [] := by
    refine List.filter_eq_nil_iff.mpr fun m hm he => ?_
    exact h (List.mem_map.mpr ⟨m, hm, eq_of_beq he⟩)
  rw [valuesOf, hnone]
  rfl

theorem namedSlot_of_mem {ms : List (String × Json)} (hnodup : (ms.map (·.1)).Nodup)
    {key : String} {j : Json} (hm : (key, j) ∈ ms) : namedSlot ms key = some (.given j) := by
  have hvalues : valuesOf key ms = [j] := by
    induction ms with
    | nil => cases hm
    | cons m ms ih =>
        obtain ⟨hnot, hrest⟩ := List.nodup_cons.mp hnodup
        rcases List.mem_cons.mp hm with rfl | hm
        · have hnone := valuesOf_of_not_mem hnot
          rw [valuesOf] at hnone ⊢
          rw [List.filter_cons_of_pos (by simp), List.map_cons, hnone]
        · have hne : m.1 ≠ key := by
            rintro rfl
            exact hnot (List.mem_map.mpr ⟨_, hm, rfl⟩)
          have hih := ih hrest hm
          rw [valuesOf] at hih ⊢
          rw [List.filter_cons_of_neg (by simpa using hne), hih]
  rw [namedSlot, hvalues]

theorem mapM_eq_some_map {α β : Type} {read : α → Option β} {f : α → β} {l : List α}
    (h : ∀ a ∈ l, read a = some (f a)) : l.mapM read = some (l.map f) := by
  induction l with
  | nil => rfl
  | cons a l ih =>
      have ha := h a List.mem_cons_self
      simp [ha, ih fun b hb => h b (List.mem_cons_of_mem a hb)]

/-- A record that is written with the fields of its reader has all of them. -/
theorem slots?_object {keys : List String} {ms : List (String × Json)}
    (hkeys : ms.map (·.1) = keys) (hnodup : keys.Nodup) :
    slots? keys (.object ms) = some (ms.map fun m => Slot.given m.2) := by
  subst hkeys
  rw [slots?, List.mapM_map]
  exact mapM_eq_some_map fun m hm => namedSlot_of_mem hnodup hm

/-! ## Fields -/

theorem word?_natural {n : Nat} (h : n < Number.wordBound) : word? (.natural n) = some n := by
  rw [word?, natural?, if_pos h]

theorem optionalWithDefault_ofOption {α : Type} {read : Json → Option α} {write : α → Json}
    {o : Option α} (h : ∀ a ∈ o, read (write a) = some a ∧ write a ≠ .null) :
    (Slot.given (ofOption write o)).optionalWithDefault read = some o := by
  cases o with
  | none => rfl
  | some a =>
      obtain ⟨hread, hne⟩ := h a rfl
      rw [ofOption, Slot.optionalWithDefault]
      · rw [hread]
        rfl
      · exact hne

/-- The two kinds of optional fields differ only in what may be left out. -/
theorem optional_given {α : Type} (read : Json → Option α) (j : Json) :
    (Slot.given j).optional read = (Slot.given j).optionalWithDefault read := by
  cases j <;> rfl

theorem list?_map {α : Type} {read : Json → Option α} {write : α → Json} {l : List α}
    (h : ∀ a ∈ l, read (write a) = some a) : list? read (.array (l.map write)) = some l := by
  rw [list?, items?, Option.bind_some, List.mapM_map]
  have hread : l.mapM (read ∘ write) = some (l.map id) := mapM_eq_some_map h
  rw [hread, List.map_id]

end Json

/-! ## Names -/

theorem FileKind.ofName?_name (k : FileKind) : ofName? k.name = some k := by
  cases k <;> decide

theorem Kind.ofName?_name {k : Kind} (h : k.isFile = false) : ofName? k.name = some k := by
  cases k with
  | file => cases h
  | _ => decide

theorem Field.ofText?_text (f : Field) : ofText? f.text = some f := by
  cases f <;> decide

theorem ValueType.ofName?_name (v : ValueType) : ofName? v.name = some v := by
  cases v <;> decide

theorem DeclarationKind.ofName?_name (k : DeclarationKind) : ofName? k.name = some k := by
  cases k <;> decide

theorem Kind.ofJson?_toJson (k : Kind) : ofJson? k.toJson = some k := by
  cases k with
  | file k => cases k <;> decide
  | _ => exact ofName?_name rfl

/-! ## Numbers that fit

A reader takes numbers of 64 bits, so the records below say which numbers they hold. -/

def Span.Fits (s : Span) : Prop := s.start < Number.wordBound ∧ s.stop < Number.wordBound

structure Node.Fits (n : Node) : Prop where
  span : n.span.Fits
  parent : ∀ p ∈ n.parent, p < Number.wordBound
  children : ∀ c ∈ n.children, c < Number.wordBound
  link : ∀ l ∈ n.link, l.id < Number.wordBound

structure Declaration.Fits (d : Declaration) : Prop where
  node : d.node < Number.wordBound
  nameNode : ∀ n ∈ d.nameNode, n < Number.wordBound
  valueNode : ∀ n ∈ d.valueNode, n < Number.wordBound

/-- Every number of the tree fits in 64 bits. -/
structure Tree.Fits (t : Tree) : Prop where
  nodes : ∀ n ∈ t.nodes.toList, n.Fits
  declarations : ∀ d ∈ t.declarations.toList, d.Fits

/-! ## What is written is read -/

theorem Span.ofJson?_toJson {s : Span} (h : s.Fits) : ofJson? s.toJson = some s := by
  have hslots : s.toJson.slots? ["start", "end"] =
      some [.given (.natural s.start), .given (.natural s.stop)] :=
    Json.slots?_object rfl (by decide)
  simp [ofJson?, hslots, Json.Slot.required, Json.word?_natural h.1, Json.word?_natural h.2]

theorem Link.ofJson?_toJson {l : Link} (h : l.id < Number.wordBound) :
    ofJson? l.toJson = some l := by
  have hslots : l.toJson.slots? ["uri", "id"] =
      some [.given (Json.ofOption .string l.uri), .given (.natural l.id)] :=
    Json.slots?_object rfl (by decide)
  have huri : (Json.Slot.given (Json.ofOption .string l.uri)).optionalWithDefault Json.string? =
      some l.uri := Json.optionalWithDefault_ofOption fun a _ => ⟨rfl, by simp⟩
  simp [ofJson?, hslots, huri, Json.Slot.required, Json.word?_natural h]

theorem Node.ofJson?_toJson {n : Node} (h : n.Fits) : ofJson? n.toJson = some n := by
  have hslots : n.toJson.slots? keys = some [
      .given n.kind.toJson, .given n.span.toJson,
      .given (Json.ofOption (fun f => .string f.text) n.field),
      .given (Json.ofOption .natural n.parent),
      .given (.array (n.children.map .natural)),
      .given (Json.ofOption (fun v => .string v.name) n.valueType),
      .given (.string n.referenceTypes.render),
      .given (Json.ofOption Link.toJson n.link)] :=
    Json.slots?_object rfl (by decide)
  have hfield : (Json.Slot.given (Json.ofOption (fun f => .string f.text)
      n.field)).optionalWithDefault Field.ofJson? = some n.field :=
    Json.optionalWithDefault_ofOption fun f _ => ⟨Field.ofText?_text f, by simp⟩
  have hparent : (Json.Slot.given (Json.ofOption .natural n.parent)).optionalWithDefault
      Json.word? = some n.parent :=
    Json.optionalWithDefault_ofOption fun p hp => ⟨Json.word?_natural (h.parent p hp), by simp⟩
  have hchildren : Json.list? Json.word? (.array (n.children.map .natural)) = some n.children :=
    Json.list?_map fun c hc => Json.word?_natural (h.children c hc)
  have hvalue : (Json.Slot.given (Json.ofOption (fun v => .string v.name)
      n.valueType)).optionalWithDefault ValueType.ofJson? = some n.valueType :=
    Json.optionalWithDefault_ofOption fun v _ => ⟨ValueType.ofName?_name v, by simp⟩
  have htypes : ReferenceTypes.ofJson? (.string n.referenceTypes.render) =
      some n.referenceTypes := ReferenceTypes.ofText?_render n.referenceTypes
  have hlink : (Json.Slot.given (Json.ofOption Link.toJson n.link)).optionalWithDefault
      Link.ofJson? = some n.link :=
    Json.optionalWithDefault_ofOption fun l hl =>
      ⟨Link.ofJson?_toJson (h.link l hl), by simp [Link.toJson]⟩
  simp [ofJson?, hslots, Json.Slot.required, Json.Slot.withDefault, Kind.ofJson?_toJson,
    Span.ofJson?_toJson h.span, hfield, hparent, hchildren, hvalue, htypes, hlink]

theorem Declaration.ofJson?_toJson {d : Declaration} (h : d.Fits) :
    ofJson? d.toJson = some d := by
  have hslots : d.toJson.slots? keys = some [
      .given (.string d.kind.name), .given (.string d.name), .given (.natural d.node),
      .given (Json.ofOption .natural d.nameNode), .given (Json.ofOption .natural d.valueNode),
      .given (Json.ofOption .string d.valueText), .given (.string d.valueType.name)] :=
    Json.slots?_object rfl (by decide)
  have hname : (Json.Slot.given (Json.ofOption .natural d.nameNode)).optionalWithDefault
      Json.word? = some d.nameNode :=
    Json.optionalWithDefault_ofOption fun n hn => ⟨Json.word?_natural (h.nameNode n hn), by simp⟩
  have hvalue : (Json.Slot.given (Json.ofOption .natural d.valueNode)).optionalWithDefault
      Json.word? = some d.valueNode :=
    Json.optionalWithDefault_ofOption fun n hn => ⟨Json.word?_natural (h.valueNode n hn), by simp⟩
  have htext : (Json.Slot.given (Json.ofOption .string d.valueText)).optionalWithDefault
      Json.string? = some d.valueText :=
    Json.optionalWithDefault_ofOption fun s _ => ⟨rfl, by simp⟩
  have htype : ValueType.ofJson? (.string d.valueType.name) = some d.valueType :=
    ValueType.ofName?_name d.valueType
  simp [ofJson?, hslots, Json.Slot.required, Json.optional_given, Json.plainVariant?,
    Json.variant?, Json.string?, DeclarationKind.ofName?_name, Json.word?_natural h.node, hname,
    hvalue, htext, htype]

namespace Tree

theorem ofRecords?_toJson {t : Tree} (h : t.Fits) : ofRecords? t.toJson = some t := by
  have hslots : t.toJson.slots? ["source", "nodes", "declarations"] = some [
      .given (.string t.source), .given (.array (t.nodes.toList.map Node.toJson)),
      .given (.array (t.declarations.toList.map Declaration.toJson))] :=
    Json.slots?_object rfl (by decide)
  have hnodes : Json.list? Node.ofJson? (.array (t.nodes.toList.map Node.toJson)) =
      some t.nodes.toList := Json.list?_map fun n hn => Node.ofJson?_toJson (h.nodes n hn)
  have hdeclarations : Json.list? Declaration.ofJson?
      (.array (t.declarations.toList.map Declaration.toJson)) = some t.declarations.toList :=
    Json.list?_map fun d hd => Declaration.ofJson?_toJson (h.declarations d hd)
  simp [ofRecords?, hslots, Json.Slot.required, Json.Slot.withDefault, Json.string?, hnodes,
    hdeclarations]

end Tree

/-! ## What is written has a text -/

theorem Json.written_ofOption {α : Type} {write : α → Json} (h : ∀ a, (write a).Written)
    (o : Option α) : (ofOption write o).Written := by
  cases o with
  | none => exact .null
  | some a => exact h a

theorem Json.written_map {α : Type} {write : α → Json} (h : ∀ a, (write a).Written)
    (l : List α) : (Json.array (l.map write)).Written := by
  refine .array fun j hj => ?_
  obtain ⟨a, -, rfl⟩ := List.mem_map.mp hj
  exact h a

theorem Span.written_toJson (s : Span) : s.toJson.Written :=
  .object (by simp [Json.Written.natural])

theorem Kind.written_toJson (k : Kind) : k.toJson.Written := by
  cases k with
  | file k => exact .object (by simp [Json.Written.string])
  | _ => exact .string _

theorem Link.written_toJson (l : Link) : l.toJson.Written :=
  .object (by simp [Json.Written.natural, Json.written_ofOption, Json.Written.string])

theorem Node.written_toJson (n : Node) : n.toJson.Written :=
  .object (by simp [Json.Written.natural, Json.written_ofOption, Json.written_map,
    Json.Written.string, Kind.written_toJson, Span.written_toJson, Link.written_toJson])

theorem Declaration.written_toJson (d : Declaration) : d.toJson.Written :=
  .object (by simp [Json.Written.natural, Json.written_ofOption, Json.Written.string])

theorem Tree.written_toJson (t : Tree) : t.toJson.Written :=
  .object (by simp [Json.Written.string, Json.written_map, Node.written_toJson,
    Declaration.written_toJson])

/-! ## What is read fits -/

namespace Json

variable {α : Type} {P : α → Prop} {read : Json → Option α}

theorem word?_lt (j : Json) (n : Nat) (h : word? j = some n) : n < Number.wordBound := by
  unfold word? natural? at h
  split at h
  · split at h
    · cases h
      assumption
    · cases h
  · cases h

theorem required_spec (hread : ∀ j a, read j = some a → P a) {s : Slot} {a : α}
    (h : s.required read = some a) : P a := by
  cases s with
  | given j => exact hread j a h
  | unnamed => cases h
  | unlisted => cases h

theorem withDefault_spec (hread : ∀ j a, read j = some a → P a) {default : α} (hdefault : P default)
    {s : Slot} {a : α} (h : s.withDefault default read = some a) : P a := by
  cases s with
  | given j => exact hread j a h
  | unnamed => cases h; exact hdefault
  | unlisted => cases h; exact hdefault

theorem optionalWithDefault_spec (hread : ∀ j a, read j = some a → P a) {s : Slot} {o : Option α}
    (h : s.optionalWithDefault read = some o) : ∀ a ∈ o, P a := by
  intro a ha
  cases ha
  unfold Slot.optionalWithDefault at h
  split at h
  · cases h
  · obtain ⟨b, hb, he⟩ := Option.map_eq_some_iff.mp h
    cases he
    exact hread _ a hb
  · cases h

theorem optionalWithDefault_of_optional {s : Slot} {o : Option α} (h : s.optional read = some o) :
    s.optionalWithDefault read = some o := by
  cases s with
  | given j => rw [← optional_given, h]
  | unnamed => exact h
  | unlisted => cases h

theorem list?_spec (hread : ∀ j a, read j = some a → P a) {j : Json} {l : List α}
    (h : list? read j = some l) : ∀ a ∈ l, P a := by
  obtain ⟨js, -, hjs⟩ := Option.bind_eq_some_iff.mp h
  clear h
  induction js generalizing l with
  | nil =>
      cases hjs
      simp
  | cons i js ih =>
      simp only [List.mapM_cons, Option.bind_eq_bind, Option.bind_eq_some_iff, Option.pure_def,
        Option.some.injEq] at hjs
      obtain ⟨a, ha, as, has, rfl⟩ := hjs
      intro b hb
      rcases List.mem_cons.mp hb with rfl | hb
      · exact hread i b ha
      · exact ih has b hb

end Json

theorem Span.fits_of_ofJson? (j : Json) (s : Span) (h : ofJson? j = some s) : s.Fits := by
  simp only [ofJson?, Option.bind_eq_bind, Option.bind_eq_some_iff] at h
  obtain ⟨slots, -, h⟩ := h
  split at h
  · simp only [Option.bind_eq_some_iff, Option.pure_def, Option.some.injEq] at h
    obtain ⟨a, ha, b, hb, rfl⟩ := h
    exact ⟨Json.required_spec Json.word?_lt ha, Json.required_spec Json.word?_lt hb⟩
  · cases h

theorem Link.lt_of_ofJson? (j : Json) (l : Link) (h : ofJson? j = some l) :
    l.id < Number.wordBound := by
  simp only [ofJson?, Option.bind_eq_bind, Option.bind_eq_some_iff] at h
  obtain ⟨slots, -, h⟩ := h
  split at h
  · simp only [Option.bind_eq_some_iff, Option.pure_def, Option.some.injEq] at h
    obtain ⟨a, -, b, hb, rfl⟩ := h
    exact Json.required_spec Json.word?_lt hb
  · cases h

theorem Node.fits_of_ofJson? (j : Json) (n : Node) (h : ofJson? j = some n) : n.Fits := by
  simp only [ofJson?, Option.bind_eq_bind, Option.bind_eq_some_iff] at h
  obtain ⟨slots, -, h⟩ := h
  split at h
  · simp only [Option.bind_eq_some_iff, Option.pure_def, Option.some.injEq] at h
    obtain ⟨kind, -, span, hspan, field, -, parent, hparent, children, hchildren, valueType, -,
      types, -, link, hlink, rfl⟩ := h
    exact {
      span := Json.required_spec Span.fits_of_ofJson? hspan
      parent := Json.optionalWithDefault_spec Json.word?_lt hparent
      children :=
        Json.withDefault_spec (fun _ _ => Json.list?_spec Json.word?_lt) (by simp) hchildren
      link := Json.optionalWithDefault_spec Link.lt_of_ofJson? hlink }
  · cases h

theorem Declaration.fits_of_ofJson? (j : Json) (d : Declaration) (h : ofJson? j = some d) :
    d.Fits := by
  simp only [ofJson?, Option.bind_eq_bind, Option.bind_eq_some_iff] at h
  obtain ⟨slots, -, h⟩ := h
  split at h
  · simp only [Option.bind_eq_some_iff, Option.pure_def, Option.some.injEq] at h
    obtain ⟨kind, -, name, -, node, hnode, nameNode, hname, valueNode, hvalue, valueText, -,
      valueType, -, rfl⟩ := h
    exact {
      node := Json.required_spec Json.word?_lt hnode
      nameNode :=
        Json.optionalWithDefault_spec Json.word?_lt (Json.optionalWithDefault_of_optional hname)
      valueNode :=
        Json.optionalWithDefault_spec Json.word?_lt (Json.optionalWithDefault_of_optional hvalue) }
  · cases h

namespace Tree

theorem fits_of_ofRecords? {j : Json} {t : Tree} (h : ofRecords? j = some t) : t.Fits := by
  simp only [ofRecords?, Option.bind_eq_bind, Option.bind_eq_some_iff] at h
  obtain ⟨slots, -, h⟩ := h
  split at h
  · simp only [Option.bind_eq_some_iff, Option.pure_def, Option.some.injEq] at h
    obtain ⟨source, -, nodes, hnodes, declarations, hdeclarations, rfl⟩ := h
    have hnode : ∀ j l, Json.list? Node.ofJson? j = some l → ∀ n ∈ l, n.Fits := fun _ _ =>
      Json.list?_spec Node.fits_of_ofJson?
    have hdeclaration : ∀ j l, Json.list? Declaration.ofJson? j = some l → ∀ d ∈ l, d.Fits :=
      fun _ _ => Json.list?_spec Declaration.fits_of_ofJson?
    exact ⟨Json.required_spec hnode hnodes,
      Json.withDefault_spec hdeclaration (by simp) hdeclarations⟩
  · cases h

/-! ## The whole way -/

/-- The tree itself, or the first thing wrong with it. -/
def checked (t : Tree) : Except LoadError Tree :=
  match t.defect? with
  | some d => .error (.defect d)
  | none => .ok t

theorem ofJson_toJson {t : Tree} (h : t.Fits) : ofJson t.toJson = t.checked := by
  rw [ofJson, ofRecords?_toJson h]
  rfl

theorem load_eq_ofJson {t : Tree} : load t.dump = ofJson t.toJson := by
  rw [load, dump, Json.parse?_render t.written_toJson]

theorem fits_of_load {s : String} {t : Tree} (h : load s = .ok t) : t.Fits ∧ t.defect? = none := by
  unfold load at h
  split at h
  · cases h
  · unfold ofJson at h
    split at h
    · cases h
    · rename_i u hu
      split at h
      · cases h
      · rename_i hvalid
        cases h
        exact ⟨fits_of_ofRecords? hu, hvalid⟩

/-- Nothing is lost between a tree and its JSON form: the form of a tree reads as the tree if that
has no defect, and as its first defect otherwise.  A tree that was read from any text is read again
from its own form. -/
theorem interchange_lossless :
    (∀ t : Tree, t.Fits → ofJson t.toJson = t.checked ∧ load t.dump = t.checked) ∧
      ∀ (s : String) (t : Tree), load s = .ok t → load t.dump = .ok t := by
  refine ⟨fun t ht => ⟨ofJson_toJson ht, ?_⟩, fun s t hload => ?_⟩
  · rw [load_eq_ofJson, ofJson_toJson ht]
  · obtain ⟨ht, hvalid⟩ := fits_of_load hload
    rw [load_eq_ofJson, ofJson_toJson ht, checked, hvalid]

/-- A label of another file: its types hold bits without a name, and the source holds characters
that are written as they are, by a letter and by a number. -/
def labelled : Tree where
  source := "λ\t\x01"
  nodes := #[
    { kind := .file .program, span := ⟨0, 4⟩, children := [1] },
    { kind := .label, span := ⟨0, 2⟩, field := some .name, parent := some 0,
      valueType := some .numeric, referenceTypes := ⟨0xF2⟩,
      link := some ⟨some "file:///tools.def", 7⟩ }]
  declarations := #[
    { kind := .label, name := "λ", node := 1, nameNode := some 1, valueNode := none,
      valueText := some "\\\"", valueType := .numeric }]

theorem fits_labelled : labelled.Fits where
  nodes := by
    simp only [labelled, List.mem_cons, List.not_mem_nil, or_false, forall_eq_or_imp, forall_eq]
    constructor
    · constructor <;> simp [Span.Fits, Number.wordBound]
    · constructor <;> simp [Span.Fits, Number.wordBound]
  declarations := by
    simp only [labelled, List.mem_cons, List.not_mem_nil, or_false, forall_eq]
    constructor <;> simp [Number.wordBound]

/-- The tree as it stands, the same tree cut off in its source, and one whose text leaves out all
that may be left out. -/
theorem interchange_lossless_labelled :
    labelled.Fits ∧ load labelled.dump = .ok labelled ∧
      load { labelled with source := "" }.dump = .error (.defect (.spanOutOfRange 0 ⟨0, 4⟩ 0)) ∧
      ∃ t : Tree, load "[\"\",[[\x7b\"File\":\"Program\"\x7d,[0,0]]]]" = .ok t ∧
        load t.dump = .ok t := by
  have hwhole := (interchange_lossless.1 labelled fits_labelled).2
  have hcut := (interchange_lossless.1 { labelled with source := "" }
    ⟨fits_labelled.nodes, fits_labelled.declarations⟩).2
  refine ⟨fits_labelled, hwhole.trans rfl, hcut.trans rfl, ?_⟩
  let empty : Tree := ⟨"", #[{ kind := .file .program, span := ⟨0, 0⟩ }], #[]⟩
  have hread : load "[\"\",[[\x7b\"File\":\"Program\"\x7d,[0,0]]]]" = .ok empty := by decide +kernel
  exact ⟨empty, hread, interchange_lossless.2 _ empty hread⟩

end Tree
end NcInsight
