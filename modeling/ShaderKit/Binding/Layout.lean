import ShaderKit.Limits
import ShaderKit.Texture.Dimension
import ShaderKit.Texture.Format
import ShaderKit.Binding.Kind
import ShaderKit.Binding.Stage
import ShaderKit.Binding.Mask
import ShaderKit.Binding.NumberMap

/-!
# Bind group layouts and pipeline layouts

A bind group layout stores its entries in packing order, so that per-buffer side tables (dynamic
offsets, required sizes) are dense: buffers first; among them the ones with a dynamic offset, then
those with a pinned minimum size, then the unverified ones; each run by ascending binding number.
-/

namespace ShaderKit

/-- One binding slot of a bind group layout. -/
structure LayoutEntry where
  binding : Nat
  visibility : StageSet
  kind : BindingKind
  dynamicOffset : Bool := false
  /-- 0 leaves the size to be checked against the shader's requirement at each draw. -/
  minSize : UInt64 := 0
  view : Texture.ViewDimension := .d2
  component : Texture.ComponentType := .float
  format : Option Texture.Format := none
  multisampled : Bool := false
  deriving DecidableEq

namespace LayoutEntry

/-- The entry stands for a buffer. -/
def isBuffer (e : LayoutEntry) : Bool := e.kind.isBuffer

/-- The entry stands for a buffer whose offset is given when it is bound. -/
def isDynamicBuffer (e : LayoutEntry) : Bool := e.isBuffer && e.dynamicOffset

/-- A buffer whose size no layout entry pins. -/
def isUnverifiedBuffer (e : LayoutEntry) : Bool := e.isBuffer && e.minSize == 0

/-- The run of the packing order that the entry belongs to: buffers before the rest, dynamic offsets
before static ones, pinned sizes before unverified ones. -/
def packingRun (e : LayoutEntry) : Nat :=
  (if e.isBuffer then 0 else 4) + (if e.isDynamicBuffer then 0 else 2)
    + (if e.isUnverifiedBuffer then 1 else 0)

/-- Whether `a` may stand before `b` in packing order: by run, then by binding number. -/
def packsBefore (a b : LayoutEntry) : Bool :=
  a.packingRun < b.packingRun || (a.packingRun == b.packingRun && a.binding ≤ b.binding)

theorem packsBefore_total (a b : LayoutEntry) : (a.packsBefore b || b.packsBefore a) = true := by
  simp only [packsBefore, Bool.or_eq_true, decide_eq_true_eq, Bool.and_eq_true, beq_iff_eq]
  omega

theorem packsBefore_trans (a b c : LayoutEntry) (hab : a.packsBefore b = true)
    (hbc : b.packsBefore c = true) : a.packsBefore c = true := by
  simp only [packsBefore, Bool.or_eq_true, decide_eq_true_eq, Bool.and_eq_true, beq_iff_eq] at *
  omega

end LayoutEntry

/-- Why entries make no layout. -/
inductive LayoutError
  | duplicateBinding (binding : Nat)
  deriving DecidableEq

/-- The text of a failure. -/
def LayoutError.message : LayoutError → String
  | duplicateBinding binding => s!"bind group layout declares binding {binding} more than once"

/-- Numbers `entries` from `i` on, refusing a binding number that is already there. -/
def indexFrom (i : Nat) (index : NumberMap Nat) :
    List LayoutEntry → Except LayoutError (NumberMap Nat)
  | [] => .ok index
  | e :: rest =>
    if index.contains e.binding then .error (.duplicateBinding e.binding)
    else indexFrom (i + 1) (index.insert e.binding i) rest

/-- The numbered entries are those that were there and the new ones, at their places. -/
theorem indexFrom_spec {i : Nat} {index index' : NumberMap Nat} {entries : List LayoutEntry}
    (h : indexFrom i index entries = .ok index') (b k : Nat) :
    index'.find? b = some k ↔ index.find? b = some k ∨
      ∃ j e, k = i + j ∧ entries[j]? = some e ∧ e.binding = b := by
  induction entries generalizing i index with
  | nil =>
    cases h
    simp
  | cons e rest ih =>
    unfold indexFrom at h
    split at h
    · exact nomatch h
    · rename_i hfree
      have hnone : index.find? e.binding = none := by simpa [NumberMap.contains] using hfree
      rw [ih h]
      constructor
      · rintro (hfind | ⟨j, e', rfl, he', rfl⟩)
        · by_cases hb : b = e.binding
          · subst hb
            rw [NumberMap.find?_insert_self] at hfind
            exact .inr ⟨0, e, (Option.some.inj hfind).symm, rfl, rfl⟩
          · rw [NumberMap.find?_insert_of_ne _ _ hb] at hfind
            exact .inl hfind
        · exact .inr ⟨j + 1, e', by omega, he', rfl⟩
      · rintro (hfind | ⟨j, e', rfl, he', rfl⟩)
        · have hb : b ≠ e.binding := by
            rintro rfl
            exact nomatch hnone.symm.trans hfind
          exact .inl (by rw [NumberMap.find?_insert_of_ne _ _ hb, hfind])
        · cases j with
          | zero =>
            cases he'
            exact .inl (NumberMap.find?_insert_self ..)
          | succ j => exact .inr ⟨j, e', by omega, he', rfl⟩

/-- A bind group layout in packing order, with the index of every binding number. -/
structure GroupLayout where
  entries : List LayoutEntry
  /-- Binding number to index in `entries`. -/
  index : NumberMap Nat
  packed : entries.Pairwise fun a b => a.packsBefore b
  indexed : ∀ b i, index.find? b = some i ↔ ∃ e, entries[i]? = some e ∧ e.binding = b
  deriving DecidableEq

namespace GroupLayout

/-- Packs the entries. -/
def ofEntries (entries : List LayoutEntry) : Except LayoutError GroupLayout :=
  let packed := entries.mergeSort LayoutEntry.packsBefore
  match h : indexFrom 0 .empty packed with
  | .error e => .error e
  | .ok index => .ok {
      entries := packed
      index := index
      packed := List.pairwise_mergeSort LayoutEntry.packsBefore_trans
        LayoutEntry.packsBefore_total entries
      indexed := fun b i => by simpa using indexFrom_spec h b i }

/-- The entry of a binding number. -/
def entry? (layout : GroupLayout) (binding : Nat) : Option LayoutEntry := do
  layout.entries[← layout.index.find? binding]?

/-- How many entries are buffers; these come first. -/
def bufferCount (layout : GroupLayout) : Nat := layout.entries.countP (·.isBuffer)

/-- How many entries are buffers of a size that is checked later. -/
def unverifiedBufferCount (layout : GroupLayout) : Nat :=
  layout.entries.countP (·.isUnverifiedBuffer)

/-- How many entries are buffers with a dynamic offset. -/
def dynamicBufferCount (layout : GroupLayout) : Nat := layout.entries.countP (·.isDynamicBuffer)

end GroupLayout

/-- The bind group layouts of a pipeline; a group may be absent. -/
structure PipelineLayout where
  groups : Vector (Option GroupLayout) Limits.bindGroups
  deriving DecidableEq

namespace PipelineLayout

/-- The layout of a group, if the pipeline has that group. -/
def group? (layout : PipelineLayout) (group : Nat) : Option GroupLayout :=
  (layout.groups[group]?).join

/-- The groups that are present. -/
def mask (layout : PipelineLayout) : GroupMask := .ofPred fun g => (layout.group? g).isSome

end PipelineLayout

end ShaderKit
