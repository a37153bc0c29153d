import ShaderKit.Proofs.Binding.Packing
import ShaderKit.Proofs.EntryPoint.Compatibility
import ShaderKit.Resource.Extraction

/-!
# What is compared of a texture

Where a pipeline layout is accepted, each texture of the shader meets an entry of its kind with its view; a
sampled texture also one with its component type, a storage texture one with its format.  Declarations and
entries both record whether the texture is multisampled, but no verdict depends on that: layouts and shaders
that differ in nothing else get the same one.

## Key results

- `LayoutEntry.Fits.agreesWith`: what an entry that fits a texture shares with it
- `checkPipeline_eq_of_sameButSampling`: whether textures are multisampled plays no part
- `checkPipeline_agrees`: the textures of an accepted layout
-/

namespace ShaderKit

namespace BindingKind

/-- Sampled and storage textures. -/
def isTexture (kind : BindingKind) : Bool := kind == .sampledTexture || kind.isStorageTexture

/-- Only an entry of the same kind stands for a texture. -/
theorem Suits.eq_of_isTexture {layout shader : BindingKind} (h : layout.Suits shader)
    (htexture : shader.isTexture = true) : layout = shader := by
  cases h with
  | same => rfl
  | readonly | comparing | plain => exact nomatch htexture

end BindingKind

namespace LayoutEntry

variable {entry : LayoutEntry} {stage : Stage} {shader : ShaderBinding}

/-- The entry shares with a texture declaration what is compared. -/
structure AgreesWith (entry : LayoutEntry) (shader : ShaderBinding) : Prop where
  kind : entry.kind = shader.kind
  view : some entry.view = shader.view
  component : shader.kind = .sampledTexture → entry.component = shader.component
  format : shader.kind.isStorageTexture = true → entry.format = shader.format

/-- An entry that fits a texture agrees with it. -/
theorem Fits.agreesWith (h : entry.Fits stage shader) (htexture : shader.kind.isTexture = true) :
    entry.AgreesWith shader := by
  have hkind : entry.kind = shader.kind := h.kind.eq_of_isTexture htexture
  have hstores (hstorage : shader.kind.isStorageTexture = true) : entry.kind.IsStorageTexture :=
    BindingKind.isStorageTexture_iff.1 (hkind ▸ hstorage)
  refine ⟨hkind, ?_, fun hsampled => (h.sampled (hkind.trans hsampled)).1,
    fun hstorage => (h.storage (hstores hstorage)).1⟩
  simp only [BindingKind.isTexture, Bool.or_eq_true, beq_iff_eq] at htexture
  rcases htexture with hsampled | hstorage
  · exact (h.sampled (hkind.trans hsampled)).2
  · exact (h.storage (hstores hstorage)).2

/-- The entry but for whether its texture is multisampled. -/
def unsampled (entry : LayoutEntry) : LayoutEntry := { entry with multisampled := false }

end LayoutEntry

/-- The declaration but for whether its texture is multisampled. -/
def ShaderBinding.unsampled (shader : ShaderBinding) : ShaderBinding :=
  { shader with multisampled := false }

/-- No check reads whether the texture of the entry is multisampled. -/
theorem LayoutEntry.mismatch?_unsampled (entry : LayoutEntry) (stage : Stage) (shader : ShaderBinding) :
    entry.unsampled.mismatch? stage shader = entry.mismatch? stage shader := rfl

/-- No check reads whether the declared texture is multisampled. -/
theorem LayoutEntry.mismatch?_shader_unsampled (entry : LayoutEntry) (stage : Stage)
    (shader : ShaderBinding) :
    entry.mismatch? stage shader.unsampled = entry.mismatch? stage shader := rfl

/-! ## Layouts and shaders that differ in sampling -/

namespace GroupLayout

variable {layout layout' : GroupLayout}

/-- The group layouts differ at most in which entries are multisampled. -/
def SameButSampling (layout layout' : GroupLayout) : Prop :=
  layout'.entries.map (·.unsampled) = layout.entries.map (·.unsampled)

/-- Under each binding number the group layouts have the same entry but for its sampling. -/
theorem SameButSampling.entry? (h : layout.SameButSampling layout') (binding : Nat) :
    (layout'.entry? binding).map (·.unsampled) = (layout.entry? binding).map (·.unsampled) := by
  -- the index is made of the binding numbers alone, so it is the same for both
  have hindex : layout'.index = layout.index := by
    have hbindings := congrArg (List.map (·.binding)) h
    simp only [List.map_map] at hbindings
    exact index_eq_of_bindings hbindings
  unfold GroupLayout.entry?
  rw [hindex]
  cases layout.index.find? binding with
  | none => rfl
  | some i =>
    have hget := congrArg (·[i]?) h
    simpa only [List.getElem?_map, Option.bind_eq_bind, Option.bind_some] using hget

end GroupLayout

namespace PipelineLayout

/-- The pipeline layouts differ at most in which entries are multisampled. -/
def SameButSampling (layout layout' : PipelineLayout) : Prop :=
  ∀ group, Option.Rel GroupLayout.SameButSampling (layout.group? group) (layout'.group? group)

/-- The pipeline layout has the entry under a group and a binding number. -/
def Enters (layout : PipelineLayout) (group binding : Nat) (entry : LayoutEntry) : Prop :=
  ∃ groupLayout, layout.group? group = some groupLayout ∧ groupLayout.entry? binding = some entry

end PipelineLayout

namespace EntryPointMetadata

variable {m m' : EntryPointMetadata}

/-- The shaders differ at most in which declarations are multisampled. -/
structure SameButSampling (m m' : EntryPointMetadata) : Prop where
  stage : m'.stage = m.stage
  group : ∀ group, (m'.group group).entries.map (fun d => (d.1, d.2.unsampled)) =
    (m.group group).entries.map (fun d => (d.1, d.2.unsampled))

/-- Whether a declaration passes is decided without the sampling of its entry. -/
theorem SameButSampling.checkBinding_eq (h : m.SameButSampling m') {layout layout' : GroupLayout}
    (hlayout : layout.SameButSampling layout') (group binding : Nat) (shader : ShaderBinding) :
    m'.checkBinding layout' group binding shader = m.checkBinding layout group binding shader := by
  -- both layouts have an entry or neither has one, and the check does not tell the two apart
  have hentry := hlayout.entry? binding
  unfold checkBinding
  rw [h.stage]
  cases hnew : layout'.entry? binding with
  | none =>
    cases hold : layout.entry? binding with
    | none => rfl
    | some entry => simp [hnew, hold] at hentry
  | some entry' =>
    cases hold : layout.entry? binding with
    | none => simp [hnew, hold] at hentry
    | some entry =>
      have hsame : entry'.unsampled = entry.unsampled := by simpa [hnew, hold] using hentry
      have hverdict : entry'.mismatch? m.stage shader = entry.mismatch? m.stage shader := by
        rw [← entry'.mismatch?_unsampled, hsame, entry.mismatch?_unsampled]
      simp only [hverdict]

/-- The declarations of a group are checked without their sampling. -/
theorem checkGroup_eq_unsampled (m : EntryPointMetadata) (group : Nat) (layout : GroupLayout) :
    m.checkGroup group layout = ((m.group group).entries.map fun d => (d.1, d.2.unsampled)).forM
      fun d => m.checkBinding layout group d.1 d.2 := by
  -- the check of one declaration does not look at its sampling
  have hsame (d : Nat × ShaderBinding) :
      m.checkBinding layout group d.1 d.2.unsampled = m.checkBinding layout group d.1 d.2 := by
    unfold checkBinding
    simp only [LayoutEntry.mismatch?_shader_unsampled]
  calc m.checkGroup group layout
      = (m.group group).entries.forM fun d => m.checkBinding layout group d.1 d.2 := rfl
    _ = (m.group group).entries.forM fun d => m.checkBinding layout group d.1 d.2.unsampled := by
      simp only [hsame]
    _ = ((m.group group).entries.map fun d => (d.1, d.2.unsampled)).forM fun d =>
        m.checkBinding layout group d.1 d.2 := by
      simp only [List.forM_eq_forM, List.forM_map]

theorem SameButSampling.checkGroup_eq (h : m.SameButSampling m') {layout layout' : GroupLayout}
    (hlayout : layout.SameButSampling layout') (group : Nat) :
    m'.checkGroup group layout' = m.checkGroup group layout := by
  simp only [checkGroup_eq_unsampled, h.group, h.checkBinding_eq hlayout]

/-- Whether textures are multisampled plays no part in the verdict. -/
theorem checkPipeline_eq_of_sameButSampling {layout layout' : PipelineLayout}
    (h : m.SameButSampling m') (hlayout : layout.SameButSampling layout') :
    m'.checkPipeline layout' = m.checkPipeline layout := by
  have hgroup (group : Nat) :
      m'.checkPipelineGroup layout' group = m.checkPipelineGroup layout group := by
    have hrel := hlayout group
    unfold checkPipelineGroup
    generalize layout.group? group = old, layout'.group? group = new at hrel
    -- a group is absent from both layouts, or present in both
    cases hrel with
    | none =>
      have hempty : (m'.group group).isEmpty = (m.group group).isEmpty := by
        have hlists := congrArg List.isEmpty (h.group group)
        simpa only [List.isEmpty_map, NumberMap.isEmpty] using hlists
      simp only [hempty]
    | some hsame => exact h.checkGroup_eq hsame group
  unfold checkPipeline
  simp only [funext hgroup]

/-- In a pipeline layout that is accepted, each texture of the shader meets an entry that agrees with it.
Which of them are multisampled, in the shader and in the layout, plays no part in whether it is accepted. -/
theorem checkPipeline_agrees (m : EntryPointMetadata) (layout : PipelineLayout) :
    (m.checkPipeline layout = .ok () → ∀ group binding shader, m.Declares group binding shader →
      shader.kind.isTexture = true →
      ∃ entry, layout.Enters group binding entry ∧ entry.AgreesWith shader) ∧
    ∀ m' layout', m.SameButSampling m' → layout.SameButSampling layout' →
      m'.checkPipeline layout' = m.checkPipeline layout := by
  refine ⟨fun hok group binding shader hdeclares htexture => ?_,
    fun m' layout' hm hlayout => checkPipeline_eq_of_sameButSampling hm hlayout⟩
  -- an accepted layout has an entry that fits, and what fits a texture agrees with it
  obtain ⟨groupLayout, hgroup, entry, hmem, hbinding, hfits⟩ :=
    checkPipeline_eq_ok_iff.1 hok group binding shader hdeclares
  have hentry : groupLayout.entry? binding = some entry :=
    GroupLayout.entry?_eq_some_iff.2 ⟨hmem, hbinding⟩
  exact ⟨entry, ⟨groupLayout, hgroup, hentry⟩, hfits.agreesWith htexture⟩

/-! ### A picture -/

/-- A fragment shader that samples one picture. -/
def picture (multisampled : Bool) : Resource.Inventory where
  model := .fragment
  images := [⟨"picture", some 0, some 0, .sampledImage .d2 false multisampled .float⟩]

/-- What `picture` declares. -/
def pictureBinding (multisampled : Bool) : ShaderBinding where
  kind := .sampledTexture
  view := some .d2
  component := .float
  multisampled := multisampled

/-- The metadata of `picture`. -/
def pictureMetadata (multisampled : Bool) : EntryPointMetadata where
  stage := .fragment
  bindings := #v[⟨[(0, pictureBinding multisampled)], List.pairwise_singleton ..⟩, .empty, .empty, .empty]

/-- A layout entry for `pictureBinding`. -/
def pictureEntry (multisampled : Bool) : LayoutEntry where
  binding := 0
  visibility := Stage.fragment.bit
  kind := .sampledTexture
  multisampled := multisampled

/-- A pipeline layout with `pictureEntry` in group 0 and no other group. -/
def pictureLayout (multisampled : Bool) : PipelineLayout where
  groups := #v[some {
    entries := [pictureEntry multisampled]
    index := ⟨[(0, 0)], List.pairwise_singleton ..⟩
    packed := List.pairwise_singleton ..
    indexed := fun b i => by
      have h : indexFrom 0 .empty [pictureEntry multisampled] =
        .ok ⟨[(0, 0)], List.pairwise_singleton ..⟩ := rfl
      simpa using indexFrom_spec h b i }, none, none, none]

theorem pictureMetadata_sameButSampling (old new : Bool) :
    (pictureMetadata old).SameButSampling (pictureMetadata new) where
  stage := rfl
  group group :=
    match group with
    | 0 | 1 | 2 | 3 | _ + 4 => rfl

theorem pictureLayout_sameButSampling (old new : Bool) :
    (pictureLayout old).SameButSampling (pictureLayout new) := by
  intro group
  match group with
  | 0 => exact .some rfl
  | 1 | 2 | 3 | _ + 4 => exact .none

theorem checkPipeline_agrees_picture :
    (pictureMetadata true).checkPipeline (pictureLayout true) = .ok () ∧
    (pictureMetadata true).Declares 0 0 (pictureBinding true) ∧
    (∃ entry, (pictureLayout true).Enters 0 0 entry ∧ entry.AgreesWith (pictureBinding true)) ∧
    (pictureMetadata true).checkPipeline (pictureLayout false) = .ok () := by
  have hok : (pictureMetadata true).checkPipeline (pictureLayout true) = .ok () := by decide +kernel
  have hdeclares : (pictureMetadata true).Declares 0 0 (pictureBinding true) := rfl
  obtain ⟨hagrees, hsame⟩ := checkPipeline_agrees (pictureMetadata true) (pictureLayout true)
  have hverdict := hsame _ _ (pictureMetadata_sameButSampling true true)
    (pictureLayout_sameButSampling true false)
  exact ⟨hok, hdeclares, hagrees hok 0 0 _ hdeclares rfl, hverdict.trans hok⟩

/-- A multisampled picture is accepted where the entry is not multisampled, and the other way round. -/
theorem picture_accepted_either_way :
    ((picture true).extract = .ok (pictureMetadata true) ∧
      (pictureMetadata true).Declares 0 0 (pictureBinding true) ∧
      (pictureLayout false).Enters 0 0 (pictureEntry false) ∧
      (pictureMetadata true).checkPipeline (pictureLayout false) = .ok () ∧
      (pictureBinding true).multisampled ≠ (pictureEntry false).multisampled) ∧
    (picture false).extract = .ok (pictureMetadata false) ∧
      (pictureMetadata false).Declares 0 0 (pictureBinding false) ∧
      (pictureLayout true).Enters 0 0 (pictureEntry true) ∧
      (pictureMetadata false).checkPipeline (pictureLayout true) = .ok () ∧
      (pictureBinding false).multisampled ≠ (pictureEntry true).multisampled := by
  refine ⟨⟨?_, rfl, ⟨_, rfl, rfl⟩, ?_, ?_⟩, ?_, rfl, ⟨_, rfl, rfl⟩, ?_, ?_⟩
  all_goals decide +kernel

end EntryPointMetadata

end ShaderKit
