import NcInsight.Proofs.Tree.Renaming
import NcInsight.Proofs.Workspace.Scripted

/-
Opening a list of files.

A file is an address with the script of its text.  Opening files one after the other gives the
records of the files in order of address (`records_ofFiles`), so replacing the script of
every file replaces every record and moves none (`inOrder_map`).
-/
namespace NcInsight

/-- A file: its address and the script that builds it. -/
structure SourceFile where
  uri : String
  kind : FileKind
  steps : List Step
  deriving DecidableEq

namespace SourceFile

def tree (f : SourceFile) : Tree := .ofScript f.kind f.steps

/-- The record of the file, its include texts read relative to `base`. -/
def record (base : IncludeBase) (f : SourceFile) : Record :=
  Workspace.record { base } f.uri f.tree

/-- The file with the leaves that `p` picks given another text. -/
def rename (p : NodeId → Bool) (name : String) (f : SourceFile) : SourceFile :=
  { f with steps := Step.renameLeaves p name f.steps }

/-- Puts a file in its place among files in order, or in that of the file with its address. -/
def insert (f : SourceFile) : List SourceFile → List SourceFile
  | [] => [f]
  | g :: fs =>
      if Text.lt f.uri.toList g.uri.toList then f :: g :: fs
      else if f.uri = g.uri then f :: fs
      else g :: insert f fs

/-- The files in order of address. -/
def inOrder (files : List SourceFile) : List SourceFile :=
  files.foldl (fun fs f => f.insert fs) []

theorem insert_map {g : SourceFile → SourceFile} (hg : ∀ f, (g f).uri = f.uri)
    (f : SourceFile) (fs : List SourceFile) :
    (g f).insert (fs.map g) = (f.insert fs).map g := by
  induction fs with
  | nil => rfl
  | cons h fs ih =>
      rw [List.map_cons, insert, insert, hg, hg]
      split
      · rfl
      · split
        · rfl
        · rw [ih, List.map_cons]

theorem inOrder_map {g : SourceFile → SourceFile} (hg : ∀ f, (g f).uri = f.uri)
    (files : List SourceFile) : inOrder (files.map g) = (inOrder files).map g := by
  have hfold : ∀ fs : List SourceFile, (files.map g).foldl (fun fs f => f.insert fs) (fs.map g) =
      (files.foldl (fun fs f => f.insert fs) fs).map g := by
    induction files with
    | nil => exact fun _ => rfl
    | cons f files ih =>
        intro fs
        rw [List.map_cons, List.foldl_cons, List.foldl_cons, insert_map hg, ih]
  exact hfold []

theorem mem_insert {f g : SourceFile} {fs : List SourceFile} (hf : ∀ h ∈ fs, h.uri ≠ f.uri) :
    g ∈ f.insert fs ↔ g = f ∨ g ∈ fs := by
  induction fs with
  | nil => simp [insert]
  | cons h fs ih =>
      have hne : f.uri ≠ h.uri := fun he => hf h List.mem_cons_self he.symm
      rw [insert, if_neg hne]
      split
      · exact List.mem_cons
      · rw [List.mem_cons, ih fun x hx => hf x (List.mem_cons_of_mem h hx),
          List.mem_cons]
        exact or_left_comm

/-- Files with addresses of their own are all kept. -/
theorem mem_inOrder {files : List SourceFile} (h : (files.map (·.uri)).Nodup) {g : SourceFile} :
    g ∈ inOrder files ↔ g ∈ files := by
  have hfold : ∀ fs : List SourceFile, (∀ x ∈ fs, ∀ f ∈ files, x.uri ≠ f.uri) →
      (g ∈ files.foldl (fun fs f => f.insert fs) fs ↔ g ∈ fs ∨ g ∈ files) := by
    induction files with
    | nil => simp
    | cons f files ih =>
        intro fs hfs
        obtain ⟨hf, hfiles⟩ := List.nodup_cons.mp h
        have hne : ∀ x ∈ fs, x.uri ≠ f.uri := fun x hx => hfs x hx f List.mem_cons_self
        rw [List.foldl_cons, ih hfiles, mem_insert hne, List.mem_cons]
        · rw [or_assoc, or_left_comm]
        · intro x hx y hy
          rcases (mem_insert hne).mp hx with rfl | hx
          · exact fun he => hf (List.mem_map.mpr ⟨y, hy, he.symm⟩)
          · exact hfs x hx y (List.mem_cons_of_mem f hy)
  have hnil := hfold [] fun x hx => by cases hx
  rw [inOrder, hnil]
  simp

end SourceFile

namespace Workspace

/-- The workspace in which these files were opened, one after the other. -/
def ofFiles (base : IncludeBase) (files : List SourceFile) : Workspace :=
  files.foldl (fun w f => w.insert f.uri f.tree) { base }

theorem insertRecord_map (base : IncludeBase) (f : SourceFile) (fs : List SourceFile) :
    insertRecord (f.record base) (fs.map (SourceFile.record base)) =
      (f.insert fs).map (SourceFile.record base) := by
  induction fs with
  | nil => rfl
  | cons g fs ih =>
      rw [List.map_cons, insertRecord, SourceFile.insert]
      show (if Text.lt f.uri.toList g.uri.toList then _ else if f.uri = g.uri then _ else _) = _
      split
      · rfl
      · split
        · rfl
        · rw [ih, List.map_cons]

theorem ofFiles_eq (base : IncludeBase) (files : List SourceFile) : ofFiles base files =
    { base, records := (SourceFile.inOrder files).map (SourceFile.record base) } := by
  have hfold : ∀ fs : List SourceFile, files.foldl (fun (w : Workspace) f => w.insert f.uri f.tree)
      { base, records := fs.map (SourceFile.record base) } =
        { base, records :=
          (files.foldl (fun fs f => f.insert fs) fs).map (SourceFile.record base) } := by
    induction files with
    | nil => exact fun _ => rfl
    | cons f files ih =>
        intro fs
        rw [List.foldl_cons, List.foldl_cons, ← ih (f.insert fs), ← insertRecord_map]
        rfl
  exact hfold []

theorem records_ofFiles (base : IncludeBase) (files : List SourceFile) :
    (ofFiles base files).records = (SourceFile.inOrder files).map (SourceFile.record base) := by
  rw [ofFiles_eq]

theorem scripted_ofFiles (base : IncludeBase) (files : List SourceFile) :
    (ofFiles base files).Scripted := by
  have hfold : ∀ w : Workspace, w.Scripted →
      (files.foldl (fun w f => w.insert f.uri f.tree) w).Scripted := by
    induction files with
    | nil => exact fun _ h => h
    | cons f files ih => exact fun w h => ih _ (h.insert f.uri f.kind f.steps)
  exact hfold _ (scripted_empty base)

end Workspace
end NcInsight
