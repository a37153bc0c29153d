import Mathlib.Data.List.Nodup
import Mathlib.Data.List.TakeWhile
import ShaderKit.EntryPoint.RequiredSizes
import ShaderKit.Proofs.Binding.Packing
import ShaderKit.Proofs.EntryPoint.Compatibility
import ShaderKit.Proofs.Std.List

/-!
# Every shader buffer has its size checked

A shader buffer that fits a pipeline layout is checked in one of two ways.  Either its entry pins a size
that is large enough, or the required sizes hold its size at the one index that belongs to it.

## Key results

- `GroupLayout.belongs_iff`: the one index of a group's unverified buffers that belongs to a binding
- `requiredGroupSizes_eq`: the required sizes of a group are those of its unverified buffers
- `requiredSizes_cover`: the sizes of all groups, and how a pipeline layout that fits covers each buffer
-/

namespace ShaderKit

namespace GroupLayout

variable (layout : GroupLayout)

/-- The buffers whose size is not pinned, in packing order. -/
def unverified : List LayoutEntry := layout.entries.filter (·.isUnverifiedBuffer)

/-- Index `k` of the unverified buffers belongs to a binding. -/
def Belongs (k binding : Nat) : Prop := (layout.unverified[k]?).map (·.binding) = some binding

/-- How many unverified buffers are packed before a binding. -/
def unverifiedBefore (binding : Nat) : Nat :=
  (layout.entries.takeWhile (·.binding != binding)).countP (·.isUnverifiedBuffer)

variable {layout}

/-- The entry of a binding number stands behind the entries with other numbers. -/
theorem entries_eq_of_entry? {binding : Nat} {e : LayoutEntry}
    (h : layout.entry? binding = some e) : e.binding = binding ∧ ∃ after,
      layout.entries = layout.entries.takeWhile (·.binding != binding) ++ e :: after := by
  unfold entry? at h
  obtain ⟨i, hi, he⟩ := Option.bind_eq_some_iff.1 h
  obtain ⟨e', he', hbinding⟩ := (layout.indexed binding i).1 hi
  obtain rfl : e' = e := Option.some.inj (he'.symm.trans he)
  refine ⟨hbinding, ?_⟩
  -- the first entry with the number is the one that is found: numbers do not occur twice
  cases hdrop : layout.entries.dropWhile (·.binding != binding) with
  | nil =>
    have hall := List.dropWhile_eq_nil_iff.1 hdrop e' (List.mem_of_getElem? he)
    simp [hbinding] at hall
  | cons first after =>
    have hfirst : first.binding = binding := by
      have hne : layout.entries.dropWhile (·.binding != binding) ≠ [] := by simp [hdrop]
      have hhead := List.head_dropWhile_not (fun e : LayoutEntry => e.binding != binding) hne
      simpa [hdrop] using hhead
    have hsplit : layout.entries =
        layout.entries.takeWhile (·.binding != binding) ++ first :: after := by
      rw [← hdrop, List.takeWhile_append_dropWhile]
    have hmem : first ∈ layout.entries := by
      rw [hsplit]
      simp
    obtain rfl : first = e' := List.inj_on_of_nodup_map nodup_bindings hmem
      (List.mem_of_getElem? he) (hfirst.trans hbinding.symm)
    exact ⟨after, hsplit⟩

/-- The one index of the unverified buffers that belongs to the binding of an unverified buffer. -/
theorem belongs_iff {binding : Nat} {e : LayoutEntry} (h : layout.entry? binding = some e)
    (hu : e.isUnverifiedBuffer = true) (k : Nat) :
    layout.Belongs k binding ↔ k = layout.unverifiedBefore binding := by
  obtain ⟨hbinding, after, hsplit⟩ := entries_eq_of_entry? h
  -- filtering keeps what is packed before the entry, so its index counts the unverified ones among
  -- that
  have hget : layout.unverified[layout.unverifiedBefore binding]? = some e := by
    have hfilter := List.filter_getElem?_countP (p := (·.isUnverifiedBuffer))
      (layout.entries.takeWhile (·.binding != binding)) after hu
    rw [← hsplit] at hfilter
    exact hfilter
  have hnodup : (layout.unverified.map (·.binding)).Nodup :=
    List.Nodup.sublist (List.filter_sublist.map _) nodup_bindings
  constructor
  · intro hk
    unfold Belongs at hk
    rw [← List.getElem?_map] at hk
    have hget' : (layout.unverified.map (·.binding))[layout.unverifiedBefore binding]? =
        some binding := by
      rw [List.getElem?_map, hget, Option.map_some, hbinding]
    -- no number occurs twice among the unverified buffers either
    obtain ⟨hlt, heq⟩ := List.getElem?_eq_some_iff.1 hk
    obtain ⟨hlt', heq'⟩ := List.getElem?_eq_some_iff.1 hget'
    exact (hnodup.getElem_inj_iff).1 (heq.trans heq'.symm)
  · rintro rfl
    rw [Belongs, hget, Option.map_some, hbinding]

end GroupLayout

namespace EntryPointMetadata

/-- The required sizes of a group are those of its unverified buffers. -/
theorem requiredGroupSizes_eq (m : EntryPointMetadata) (group : Nat) (layout : GroupLayout) :
    m.requiredGroupSizes group layout = layout.unverified.map (m.requiredSize group) := by
  have hbuffers : layout.entries.take layout.bufferCount = layout.entries.filter (·.isBuffer) :=
    List.take_countP (layout.packed.imp LayoutEntry.isBuffer_of_packsBefore)
  -- the buffers are packed first, so taking as many as there are takes just them
  rw [requiredGroupSizes, hbuffers, GroupLayout.unverified]
  induction layout.entries with
  | nil => rfl
  | cons e rest ih =>
    cases hb : e.isBuffer with
    | false => simp_all [LayoutEntry.isUnverifiedBuffer]
    | true =>
      by_cases hs : e.minSize = 0
      · simp_all [LayoutEntry.isUnverifiedBuffer]
      · simp_all [LayoutEntry.isUnverifiedBuffer]

/-- The sizes of a group's list. -/
theorem requiredSizes_getElem (m : EntryPointMetadata) (layout : PipelineLayout) {g : Nat}
    (hg : g < Limits.bindGroups) : (m.requiredSizes layout)[g] = match layout.group? g with
      | some groupLayout => groupLayout.unverified.map (m.requiredSize g)
      | none => [] := by
  simp only [requiredSizes, Vector.getElem_ofFn]
  cases layout.group? g with
  | none => rfl
  | some groupLayout => exact m.requiredGroupSizes_eq g groupLayout

/-- A buffer meets a buffer, and is not larger than a pinned size. -/
theorem of_mismatch?_eq_none {e : LayoutEntry} {stage : Stage} {x : ShaderBinding}
    (h : e.mismatch? stage x = none) (hx : x.kind.isBuffer = true) :
    e.isBuffer = true ∧ (e.minSize ≠ 0 → x.minSize ≤ e.minSize) := by
  have hfits : e.Fits stage x := LayoutEntry.mismatch?_eq_none_iff.1 h
  have hbuffer : e.kind.isBuffer = true := hfits.kind.isBuffer_eq.trans hx
  exact ⟨hbuffer, fun hpinned => (hfits.size (BindingKind.isBuffer_iff.1 hbuffer)).resolve_left hpinned⟩

/-- A declaration that was accepted meets an entry that fits it. -/
theorem entry_of_checkPipeline {m : EntryPointMetadata} {layout : PipelineLayout}
    (h : m.checkPipeline layout = .ok ()) {g b : Nat} {x : ShaderBinding}
    (hx : (m.group g).find? b = some x) :
    ∃ groupLayout e, layout.group? g = some groupLayout ∧ groupLayout.entry? b = some e ∧
      e.mismatch? m.stage x = none := by
  obtain ⟨groupLayout, hgroup, e, hmem, hbinding, hfits⟩ := checkPipeline_eq_ok_iff.1 h g b x hx
  exact ⟨groupLayout, e, hgroup, GroupLayout.entry?_eq_some_iff.2 ⟨hmem, hbinding⟩,
    LayoutEntry.mismatch?_eq_none_iff.2 hfits⟩

/-- Each group has one required size for each of its unverified buffers, in packing order, which is what
the shader requires of it; an absent group has none.  In a pipeline layout that is accepted, each buffer
of the shader meets a buffer that pins a size which is large enough, or the one index that belongs to it
holds its size. -/
theorem requiredSizes_cover (m : EntryPointMetadata) (layout : PipelineLayout) :
    (∀ g (hg : g < Limits.bindGroups), match layout.group? g with
      | some groupLayout =>
        (m.requiredSizes layout)[g].length = groupLayout.unverifiedBufferCount ∧
        (m.requiredSizes layout)[g] = groupLayout.unverified.map (m.requiredSize g) ∧
        groupLayout.unverified.Pairwise fun a b => a.packsBefore b
      | none => (m.requiredSizes layout)[g] = []) ∧
    (m.checkPipeline layout = .ok () → ∀ g b x, (m.group g).find? b = some x →
      x.kind.isBuffer = true → ∃ (hg : g < Limits.bindGroups) (groupLayout : GroupLayout)
        (e : LayoutEntry), layout.group? g = some groupLayout ∧ groupLayout.entry? b = some e ∧
        e.isBuffer = true ∧
        (e.minSize ≠ 0 ∧ x.minSize ≤ e.minSize ∨
          (∀ k, groupLayout.Belongs k b ↔ k = groupLayout.unverifiedBefore b) ∧
          (m.requiredSizes layout)[g][groupLayout.unverifiedBefore b]? = some x.minSize)) := by
  refine ⟨fun g hg => ?_, fun h g b x hx hbuffer => ?_⟩
  -- the list of a group keeps the order of packing
  · have hsizes := m.requiredSizes_getElem layout hg
    split
    · rename_i groupLayout hgroup
      simp only [hgroup] at hsizes
      refine ⟨?_, hsizes, groupLayout.packed.filter _⟩
      rw [hsizes, List.length_map, GroupLayout.unverified, ← List.countP_eq_length_filter]
      rfl
    · rename_i hgroup
      simpa only [hgroup] using hsizes
  · obtain ⟨groupLayout, e, hgroup, he, hfit⟩ := entry_of_checkPipeline h hx
    obtain ⟨hentry, hpinned⟩ := of_mismatch?_eq_none hfit hbuffer
    refine ⟨Declares.lt hx, groupLayout, e, hgroup, he, hentry, ?_⟩
    -- a pinned size was checked by the layout's entry, any other one is among the required sizes
    by_cases hzero : e.minSize = 0
    · have hu : e.isUnverifiedBuffer = true := by simp [LayoutEntry.isUnverifiedBuffer, hentry, hzero]
      have hbelongs := GroupLayout.belongs_iff he hu
      refine .inr ⟨hbelongs, ?_⟩
      have hget := (hbelongs (groupLayout.unverifiedBefore b)).2 rfl
      obtain ⟨e', he', hb'⟩ := Option.map_eq_some_iff.1 hget
      have hsizes := m.requiredSizes_getElem layout (Declares.lt hx)
      simp only [hgroup] at hsizes
      rw [hsizes, List.getElem?_map, he', Option.map_some, requiredSize, hb', hx]
      rfl
    · exact .inl ⟨hzero, hpinned hzero⟩

/-- A vertex shader with three buffers in group 0. -/
def threeBuffers : EntryPointMetadata where
  stage := .vertex
  bindings := (Vector.replicate _ .empty).set 0
    ⟨[(0, ⟨.uniformBuffer, 16, none, .other, none, false⟩),
      (1, ⟨.storageBuffer, 64, none, .other, none, false⟩),
      (5, ⟨.readonlyStorageBuffer, 12, none, .other, none, false⟩)], by decide⟩

/-- An unverified buffer with a dynamic offset, a pinned one, two unverified ones, of which `threeBuffers`
does not declare the first, and a sampler. -/
def mixedEntries : List LayoutEntry :=
  [{ binding := 1, visibility := ⟨1⟩, kind := .storageBuffer, dynamicOffset := true },
   { binding := 0, visibility := ⟨1⟩, kind := .uniformBuffer, minSize := 32 },
   { binding := 3, visibility := ⟨1⟩, kind := .uniformBuffer },
   { binding := 5, visibility := ⟨1⟩, kind := .storageBuffer },
   { binding := 4, visibility := ⟨1⟩, kind := .sampler }]

/-- The places of `mixedEntries` by binding number. -/
def mixedIndex : NumberMap Nat := ⟨[(0, 1), (1, 0), (3, 2), (4, 4), (5, 3)], by decide⟩

/-- A pipeline layout with `mixedEntries` in group 0 and no other group. -/
def mixedLayout : PipelineLayout where
  groups := #v[some {
    entries := mixedEntries
    index := mixedIndex
    packed := by decide
    indexed := fun b i => by
      have h : indexFrom 0 .empty mixedEntries = .ok mixedIndex := rfl
      simpa using indexFrom_spec h b i }, none, none, none]

theorem requiredSizes_cover_threeBuffers :
    threeBuffers.checkPipeline mixedLayout = .ok () ∧
    (threeBuffers.requiredSizes mixedLayout)[0] = [64, 0, 12] ∧
    ∀ g b x, (threeBuffers.group g).find? b = some x →
      x.kind.isBuffer = true → ∃ (hg : g < Limits.bindGroups) (groupLayout : GroupLayout)
        (e : LayoutEntry), mixedLayout.group? g = some groupLayout ∧ groupLayout.entry? b = some e ∧
        e.isBuffer = true ∧
        (e.minSize ≠ 0 ∧ x.minSize ≤ e.minSize ∨
          (∀ k, groupLayout.Belongs k b ↔ k = groupLayout.unverifiedBefore b) ∧
          (threeBuffers.requiredSizes mixedLayout)[g][groupLayout.unverifiedBefore b]? =
            some x.minSize) := by
  have hok : threeBuffers.checkPipeline mixedLayout = .ok () := by decide +kernel
  exact ⟨hok, by decide +kernel, (requiredSizes_cover threeBuffers mixedLayout).2 hok⟩

end EntryPointMetadata

end ShaderKit
