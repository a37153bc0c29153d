import Mathlib.Logic.Function.Basic
import ShaderKit.Proofs.Binding.Packing
import ShaderKit.Proofs.EntryPoint.Compatibility
import ShaderKit.Proofs.EntryPoint.RequiredSizes
import ShaderKit.Proofs.Resource.Extractable

/-!
# The layout that a shader asks for

From the metadata of a shader one reads off a pipeline layout: an entry for each declaration, with what the
declaration says.  Such a layout can be built, and the shader fits it.  It has nothing to spare: the shader
does not fit any more once one of its entries is gone, is hidden from the shader's stage, or pins a
smaller size.

## Key results

- `PipelineLayout.MadeOf`: the groups of a layout are built from lists of entries
- `extract_complete`: the bindings that extraction makes say all that their kinds need
- `LayoutEntry.DerivedFrom.fits`, `LayoutEntry.Weakened.not_fits`: an entry that is derived from a
  declaration fits it, and no weaker one does
- `derivedLayout_tight`: the layout fits, and has nothing to spare
-/

namespace ShaderKit

/-! ## Building layouts -/

namespace PipelineLayout

/-- The groups of the layout are built from lists of entries, one for each group.  A group without entries
may be absent. -/
structure MadeOf (layout : PipelineLayout) (entries : Nat → List LayoutEntry) : Prop where
  present : ∀ group groupLayout, layout.group? group = some groupLayout →
    GroupLayout.ofEntries (entries group) = .ok groupLayout
  absent : ∀ group < Limits.bindGroups, layout.group? group = none → entries group = []

variable {entries : Nat → List LayoutEntry} {layout : PipelineLayout}

/-- Where each group can be built, there is a layout, in which exactly the groups without entries are
absent. -/
theorem exists_madeOf
    (hbuild : ∀ group, ∃ groupLayout, GroupLayout.ofEntries (entries group) = .ok groupLayout) :
    ∃ layout : PipelineLayout, layout.MadeOf entries ∧
      ∀ group < Limits.bindGroups, layout.group? group = none ↔ entries group = [] := by
  choose build hbuild using hbuild
  -- a group without entries is left out
  let layout : PipelineLayout :=
    ⟨.ofFn fun group => if entries group = [] then none else some (build group)⟩
  have hgroup (group : Nat) (hlt : group < Limits.bindGroups) :
      layout.group? group = if entries group = [] then none else some (build group) := by
    simp [layout, group?, hlt]
  refine ⟨layout, ⟨fun group groupLayout hsome => ?_, fun group hlt hnone => ?_⟩,
    fun group hlt => ?_⟩
  · by_cases hlt : group < Limits.bindGroups
    · rw [hgroup group hlt] at hsome
      split at hsome
      · exact nomatch hsome
      · cases hsome
        exact hbuild group
    · simp [group?, hlt] at hsome
  · simpa [hgroup group hlt] using hnone
  · simp [hgroup group hlt]

/-- A layout that is made of entries admits a declaration exactly if one of them fits it. -/
theorem MadeOf.admits_iff (h : layout.MadeOf entries) {stage : Stage} {group binding : Nat}
    {shader : ShaderBinding} (hlt : group < Limits.bindGroups) :
    layout.Admits stage group binding shader ↔
      ∃ entry ∈ entries group, entry.binding = binding ∧ entry.Fits stage shader := by
  unfold Admits
  cases hgroup : layout.group? group with
  | none => simp [h.absent group hlt hgroup]
  | some groupLayout =>
    have hperm := GroupLayout.perm_of_ofEntries (h.present group groupLayout hgroup)
    simp [GroupLayout.Admits, hperm.mem_iff]

end PipelineLayout

/-! ## What extraction guarantees -/

/-- The binding says all that its kind needs: textures have a view, and only buffers have a size. -/
structure ShaderBinding.Complete (shader : ShaderBinding) : Prop where
  sampled : shader.kind = .sampledTexture → ∃ view, shader.view = some view
  storage : shader.kind.isStorageTexture = true → ∃ view, shader.view = some view
  size : shader.kind.isBuffer = false → shader.minSize = 0

/-- A resource that stands in a class has a complete binding. -/
theorem Resource.Kind.StandsIn.complete {kind : Resource.Kind} {cls : BindingKind}
    (h : kind.StandsIn cls) : (kind.bindingIn cls).Complete := by
  cases h with
  | uniformBuffer size nonWritable =>
    constructor <;> simp [Kind.bindingIn, Kind.access, BindingKind.isStorageTexture,
      BindingKind.isBuffer]
  | storageBuffer size nonWritable =>
    cases nonWritable <;> constructor <;> simp [Kind.bindingIn, Kind.access,
      BindingKind.isStorageTexture, BindingKind.isBuffer]
  | image dim arrayed multisampled component =>
    constructor <;> simp [Kind.bindingIn, Kind.view?, Kind.size]
  | sampler =>
    constructor <;> simp [Kind.bindingIn, Kind.access, Kind.size, BindingKind.isStorageTexture]
  | storageImage dim arrayed multisampled format nonReadable nonWritable =>
    constructor <;> simp [Kind.bindingIn, Kind.view?, Kind.size]

namespace EntryPointMetadata

variable {m : EntryPointMetadata} {group binding : Nat} {shader : ShaderBinding}

/-- The bindings that extraction makes are complete. -/
theorem extract_complete {r : Resource.Inventory} (h : r.extract = .ok m)
    (hdeclares : m.Declares group binding shader) : shader.Complete := by
  obtain ⟨_, hdescribes⟩ := Resource.Inventory.extract_eq_ok_iff.1 h
  obtain ⟨c, _, _, _, hrequirement⟩ := (hdescribes.slot group binding shader).1 hdeclares
  obtain ⟨hkind, _, rfl⟩ := Resource.Declaration.requirement_eq_ok_iff.1 hrequirement
  exact hkind.complete

end EntryPointMetadata

/-! ## Entries that are derived from declarations -/

namespace LayoutEntry

variable {entry : LayoutEntry} {stage : Stage} {binding : Nat} {shader : ShaderBinding}

/-- The entry says what the declaration says.  Whether its offset is dynamic and whether it is multisampled is
up to the layout. -/
structure DerivedFrom (entry : LayoutEntry) (stage : Stage) (binding : Nat)
    (shader : ShaderBinding) : Prop where
  binding : entry.binding = binding
  kind : entry.kind = shader.kind
  visibility : entry.visibility = stage.bit
  minSize : entry.minSize = shader.minSize
  component : entry.component = shader.component
  format : entry.format = shader.format
  /-- A binding without a view is given the one that entries have by default. -/
  view : entry.view = shader.view.getD .d2

/-- The entry of a declaration. -/
def ofBinding (stage : Stage) (binding : Nat) (shader : ShaderBinding) : LayoutEntry where
  binding := binding
  visibility := stage.bit
  kind := shader.kind
  minSize := shader.minSize
  view := shader.view.getD .d2
  component := shader.component
  format := shader.format
  multisampled := shader.multisampled

theorem derivedFrom_ofBinding (stage : Stage) (binding : Nat) (shader : ShaderBinding) :
    (ofBinding stage binding shader).DerivedFrom stage binding shader :=
  ⟨rfl, rfl, rfl, rfl, rfl, rfl, rfl⟩

/-- What can be left of an entry: nothing, or an entry that the stage does not see, or one that pins a
smaller size. -/
inductive Weakened (entry : LayoutEntry) (stage : Stage) : Option LayoutEntry → Prop
  | removed : Weakened entry stage none
  | hidden (visibility : StageSet) (hunseen : ¬ visibility.Sees stage) :
    Weakened entry stage (some { entry with visibility })
  | shrunk (minSize : UInt64) (hpinned : minSize ≠ 0) (hless : minSize < entry.minSize) :
    Weakened entry stage (some { entry with minSize })

/-- An entry that is derived from a complete declaration fits it. -/
theorem DerivedFrom.fits (h : entry.DerivedFrom stage binding shader) (hshader : shader.Complete) :
    entry.Fits stage shader where
  kind := h.kind ▸ .same shader.kind
  visible := by
    rw [h.visibility, ← StageSet.contains_bit_iff]
    cases stage <;> decide
  sampled hsampled := by
    obtain ⟨view, hview⟩ := hshader.sampled (h.kind ▸ hsampled)
    exact ⟨h.component, by simp [h.view, hview]⟩
  storage hstorage := by
    obtain ⟨view, hview⟩ := hshader.storage (h.kind ▸ BindingKind.isStorageTexture_iff.2 hstorage)
    exact ⟨h.format, by simp [h.view, hview]⟩
  size _ := .inr (by simp [h.minSize])

/-- What is left of a weakened entry keeps the binding number. -/
theorem Weakened.binding_eq {left : Option LayoutEntry} (h : entry.Weakened stage left) :
    ∀ e ∈ left, e.binding = entry.binding := by
  cases h with
  | removed => simp
  | hidden visibility hunseen => simp
  | shrunk minSize hpinned hless => simp

/-- What is left of a weakened entry does not fit the declaration. -/
theorem Weakened.not_fits {left : Option LayoutEntry} (h : entry.Weakened stage left)
    (hentry : entry.DerivedFrom stage binding shader) (hshader : shader.Complete) :
    ∀ e ∈ left, ¬ e.Fits stage shader := by
  cases h with
  | removed => simp
  | hidden visibility hunseen =>
    rintro e ⟨⟩ hfits
    exact hunseen hfits.visible
  | shrunk minSize hpinned hless =>
    rintro e ⟨⟩ hfits
    rw [hentry.minSize] at hless
    -- only a buffer has a size that can be pinned lower
    have hbuffer : entry.kind.isBuffer = true := by
      by_contra hother
      rw [hentry.kind, Bool.not_eq_true] at hother
      rw [hshader.size hother] at hless
      exact UInt64.not_lt_zero hless
    rcases hfits.size (BindingKind.isBuffer_iff.1 hbuffer) with hzero | hle
    · exact hpinned hzero
    · exact absurd hless (UInt64.not_lt.2 hle)

end LayoutEntry

namespace EntryPointMetadata

/-- The entries are derived from the bindings of a group, one from each, in any order. -/
def Derives (m : EntryPointMetadata) (group : Nat) (entries : List LayoutEntry) : Prop :=
  ∃ ordered, entries.Perm ordered ∧ List.Forall₂
    (fun (entry : LayoutEntry) (d : Nat × ShaderBinding) => entry.DerivedFrom m.stage d.1 d.2)
    ordered (m.group group).entries

/-- The entries of a group's bindings, by ascending binding number. -/
def derivedEntries (m : EntryPointMetadata) (group : Nat) : List LayoutEntry :=
  (m.group group).entries.map fun (binding, shader) => .ofBinding m.stage binding shader

variable {m : EntryPointMetadata} {group binding : Nat} {shader : ShaderBinding}
  {entries : List LayoutEntry} {entry : LayoutEntry}

theorem derives_derivedEntries (m : EntryPointMetadata) (group : Nat) :
    m.Derives group (m.derivedEntries group) := by
  refine ⟨_, .refl _, ?_⟩
  rw [derivedEntries, List.forall₂_map_left_iff, List.forall₂_same]
  exact fun d _ => LayoutEntry.derivedFrom_ofBinding m.stage d.1 d.2

/-- Derived entries have the binding numbers of the group. -/
private theorem Derives.perm_keys (h : m.Derives group entries) :
    (entries.map (·.binding)).Perm (m.group group).keys := by
  obtain ⟨ordered, hperm, hall⟩ := h
  have hpairs : List.Forall₂ (· = ·) (ordered.map (·.binding)) (m.group group).keys := by
    rw [NumberMap.keys, List.forall₂_map_left_iff, List.forall₂_map_right_iff]
    exact hall.imp fun _ _ hentry => hentry.binding
  rw [List.forall₂_eq_eq_eq] at hpairs
  exact hpairs ▸ hperm.map (·.binding)

/-- No two derived entries have the same binding number. -/
theorem Derives.nodup (h : m.Derives group entries) : (entries.map (·.binding)).Nodup := by
  rw [h.perm_keys.nodup_iff, NumberMap.keys, List.nodup_iff_pairwise_ne, List.pairwise_map]
  exact (m.group group).ascending.imp fun {a b} hlt => Nat.ne_of_lt hlt

/-- There are no derived entries exactly where there are no bindings. -/
theorem Derives.eq_nil_iff (h : m.Derives group entries) :
    entries = [] ↔ (m.group group).isEmpty = true := by
  have hlength := h.perm_keys.length_eq
  simp only [NumberMap.keys, List.length_map] at hlength
  rw [NumberMap.isEmpty, List.isEmpty_iff, ← List.length_eq_zero_iff, ← List.length_eq_zero_iff,
    hlength]

/-- Each declaration has its entry. -/
theorem Derives.exists_entry (h : m.Derives group entries)
    (hdeclares : m.Declares group binding shader) :
    ∃ entry ∈ entries, entry.DerivedFrom m.stage binding shader := by
  obtain ⟨ordered, hperm, hall⟩ := h
  have hmem : (binding, shader) ∈ (m.group group).entries :=
    (NumberMap.find?_eq_some_iff _).1 hdeclares
  -- the entry stands where the declaration does in the ordered list
  obtain ⟨i, hi, hget⟩ := List.mem_iff_getElem.1 hmem
  have hi' : i < ordered.length := by rw [hall.length_eq]; exact hi
  have hentry := hall.get hi' hi
  simp only [List.get_eq_getElem, hget] at hentry
  exact ⟨ordered[i], hperm.mem_iff.2 (List.getElem_mem hi'), hentry⟩

/-- Each entry is that of a declaration. -/
theorem Derives.exists_declaration (h : m.Derives group entries) (hmem : entry ∈ entries) :
    ∃ binding shader, m.Declares group binding shader ∧
      entry.DerivedFrom m.stage binding shader := by
  obtain ⟨ordered, hperm, hall⟩ := h
  obtain ⟨i, hi, rfl⟩ := List.mem_iff_getElem.1 (hperm.mem_iff.1 hmem)
  have hi' : i < (m.group group).entries.length := by rw [← hall.length_eq]; exact hi
  have hentry := hall.get hi hi'
  simp only [List.get_eq_getElem] at hentry
  exact ⟨_, _, (NumberMap.find?_eq_some_iff _).2 (List.getElem_mem hi'), hentry⟩

/-! ## The layout fits, and has nothing to spare -/

/-- A layout that is made of entries is accepted exactly if each declaration meets an entry that fits
it. -/
theorem checkPipeline_of_madeOf {layout : PipelineLayout} {entries : Nat → List LayoutEntry}
    (h : layout.MadeOf entries) : m.checkPipeline layout = .ok () ↔
      ∀ group binding shader, m.Declares group binding shader →
        ∃ entry ∈ entries group, entry.binding = binding ∧ entry.Fits m.stage shader := by
  rw [checkPipeline_eq_ok_iff]
  constructor
  · intro hall group binding shader hdeclares
    exact (h.admits_iff hdeclares.lt).1 (hall group binding shader hdeclares)
  · intro hall group binding shader hdeclares
    exact (h.admits_iff hdeclares.lt).2 (hall group binding shader hdeclares)

/-- Among derived entries of which one is weakened, none fits the declaration of that one. -/
private theorem Derives.not_fits_weakened {before after : List LayoutEntry}
    {left : Option LayoutEntry} (h : m.Derives group (before ++ entry :: after))
    (hweak : entry.Weakened m.stage left) (hentry : entry.DerivedFrom m.stage binding shader)
    (hshader : shader.Complete) :
    ∀ e ∈ before ++ left.toList ++ after, e.binding = binding → ¬ e.Fits m.stage shader := by
  intro e he hbinding
  have hnodup := h.nodup
  rw [List.map_append, List.map_cons, List.nodup_middle, List.nodup_cons, ← List.map_append] at hnodup
  -- any other entry has another binding number
  have hother : e ∉ before ++ after := by
    intro hmem
    exact hnodup.1 (List.mem_map.2 ⟨e, hmem, hbinding.trans hentry.binding.symm⟩)
  have hleft : e ∈ left := by
    simp only [List.mem_append, Option.mem_toList] at he hother
    tauto
  exact hweak.not_fits hentry hshader e hleft

/-- No binding number occurs twice after an entry is weakened. -/
private theorem Derives.nodup_weakened {before after : List LayoutEntry}
    {left : Option LayoutEntry} (h : m.Derives group (before ++ entry :: after))
    (hweak : entry.Weakened m.stage left) :
    ((before ++ left.toList ++ after).map (·.binding)).Nodup := by
  have hnodup := h.nodup
  cases left with
  | none =>
    refine hnodup.sublist (List.Sublist.map _ ?_)
    simp
  | some e => simpa [hweak.binding_eq e rfl] using hnodup

/-- From the metadata of an inventory, entries are derived for each group.  The group layouts can be
built, and so can a pipeline layout in which the groups without declarations are absent, and every such
layout is accepted.  Where one entry is weakened the layout can still be built, and is refused. -/
theorem derivedLayout_tight {r : Resource.Inventory} {m : EntryPointMetadata}
    (h : r.extract = .ok m) (entries : Nat → List LayoutEntry)
    (hentries : ∀ group, m.Derives group (entries group)) :
    (∀ group, ∃ groupLayout, GroupLayout.ofEntries (entries group) = .ok groupLayout) ∧
    (∃ layout : PipelineLayout, layout.MadeOf entries ∧ ∀ group < Limits.bindGroups,
      layout.group? group = none ↔ (m.group group).isEmpty = true) ∧
    (∀ layout : PipelineLayout, layout.MadeOf entries → m.checkPipeline layout = .ok ()) ∧
    ∀ group before entry after left, entries group = before ++ entry :: after →
      entry.Weakened m.stage left →
      let weaker := Function.update entries group (before ++ left.toList ++ after)
      (∃ layout : PipelineLayout, layout.MadeOf weaker) ∧
        ∀ layout : PipelineLayout, layout.MadeOf weaker →
          ∃ e, m.checkPipeline layout = .error e := by
  have hbuild (group : Nat) := GroupLayout.exists_ofEntries_eq_ok (hentries group).nodup
  refine ⟨hbuild, ?_, fun layout hmade => ?_, fun group before entry after left hsplit hweak => ?_⟩
  -- groups without entries are those without declarations
  · obtain ⟨layout, hmade, habsent⟩ := PipelineLayout.exists_madeOf hbuild
    exact ⟨layout, hmade, fun group hlt =>
      (habsent group hlt).trans (hentries group).eq_nil_iff⟩
  -- extraction gives bindings that say all that their kind needs, so the derived entry fits
  · refine (checkPipeline_of_madeOf hmade).2 fun group binding shader hdeclares => ?_
    obtain ⟨entry, hmem, hentry⟩ := (hentries group).exists_entry hdeclares
    exact ⟨entry, hmem, hentry.binding, hentry.fits (extract_complete h hdeclares)⟩
  · intro weaker
    have hgroup : m.Derives group (before ++ entry :: after) := hsplit ▸ hentries group
    constructor
    -- what is left has no repeated numbers, and other groups are as before
    · have hweaker (g : Nat) : ∃ groupLayout, GroupLayout.ofEntries (weaker g) = .ok groupLayout := by
        by_cases hg : g = group
        · subst hg
          simp only [weaker, Function.update_self]
          exact GroupLayout.exists_ofEntries_eq_ok (hgroup.nodup_weakened hweak)
        · simp only [weaker, Function.update_of_ne hg]
          exact hbuild g
      obtain ⟨layout, hmade, _⟩ := PipelineLayout.exists_madeOf hweaker
      exact ⟨layout, hmade⟩
    · intro layout hmade
      cases hcheck : m.checkPipeline layout with
      | error e => exact ⟨e, rfl⟩
      | ok _ =>
        -- the declaration that the entry was derived from meets no entry that fits it
        have hentry : entry ∈ before ++ entry :: after := by simp
        obtain ⟨binding, shader, hdeclares, hentry⟩ := hgroup.exists_declaration hentry
        obtain ⟨e, hmem, hbinding, hfits⟩ :=
          (checkPipeline_of_madeOf hmade).1 hcheck group binding shader hdeclares
        simp only [weaker, Function.update_self] at hmem
        exact absurd hfits (hgroup.not_fits_weakened hweak hentry
          (extract_complete h hdeclares) e hmem hbinding)

/-- A compute shader with a resource of each class, in groups 0 and 2. -/
def oneOfEach : Resource.Inventory where
  model := .compute
  uniformBuffers := [⟨"scale", some 0, some 3, .buffer 32 false⟩]
  images := [⟨"picture", some 2, some 1, .sampledImage .d2 true false .float⟩]
  samplers := [⟨"linear", some 2, some 0, .sampler⟩]
  storageBuffers := [⟨"weights", some 0, some 1, .buffer 64 true⟩]
  storageImages := [⟨"result", some 2, some 4,
    .storageImage .cube true false (some .rgba8Unorm) true false⟩]

/-- What `oneOfEach` declares. -/
def oneOfEachMetadata : EntryPointMetadata where
  stage := .compute
  bindings := #v[
    ⟨[(1, { kind := .readonlyStorageBuffer, minSize := 64 }),
      (3, { kind := .uniformBuffer, minSize := 32 })], by decide⟩,
    .empty,
    ⟨[(0, { kind := .sampler }),
      (1, { kind := .sampledTexture, view := some .d2Array, component := .float }),
      (4, { kind := .writeonlyStorageTexture, view := some .cubeArray,
            format := some .rgba8Unorm })], by decide⟩,
    .empty]

/-- With the size of `weights` pinned to 48 bytes. -/
theorem derivedLayout_tight_oneOfEach :
    let m := oneOfEachMetadata
    let weights := LayoutEntry.ofBinding .compute 1 { kind := .readonlyStorageBuffer, minSize := 64 }
    let scale := LayoutEntry.ofBinding .compute 3 { kind := .uniformBuffer, minSize := 32 }
    oneOfEach.extract = .ok m ∧ (∀ group, m.Derives group (m.derivedEntries group)) ∧
    (∀ layout : PipelineLayout, layout.MadeOf m.derivedEntries → m.checkPipeline layout = .ok ()) ∧
    m.derivedEntries 0 = [weights, scale] ∧
    weights.Weakened m.stage (some { weights with minSize := 48 }) ∧
    ∀ layout : PipelineLayout,
      layout.MadeOf (Function.update m.derivedEntries 0 [{ weights with minSize := 48 }, scale]) →
        ∃ e, m.checkPipeline layout = .error e := by
  intro m weights scale
  have hextract : oneOfEach.extract = .ok m := by decide +kernel
  have hderives := m.derives_derivedEntries
  have hsplit : m.derivedEntries 0 = [weights, scale] := by decide +kernel
  have hweak : weights.Weakened m.stage (some { weights with minSize := 48 }) :=
    .shrunk 48 (by decide) (by decide)
  obtain ⟨_, _, hfits, htight⟩ := derivedLayout_tight hextract m.derivedEntries hderives
  exact ⟨hextract, hderives, hfits, hsplit, hweak, (htight 0 [] weights [scale] _ hsplit hweak).2⟩

end EntryPointMetadata

end ShaderKit
