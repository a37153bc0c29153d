import Mathlib.Data.Nat.Bitwise
import ShaderKit.EntryPoint.Compatibility
import ShaderKit.Proofs.Binding.NumberMap
import ShaderKit.Proofs.Std.Except

/-!
# Which pipeline layouts fit an entry point

A pipeline layout is accepted exactly if each declaration of the shader meets an entry that fits it.
Otherwise one error is reported: that of the least group with a declaration which no entry fits, there
of the least binding number, and of that the first check that fails.

## Key results

- `LayoutEntry.mismatch?_eq_none_iff`, `LayoutEntry.mismatch?_eq_some_iff`: what one entry makes of one
  declaration
- `checkBinding_eq_ok_iff`, `checkBinding_eq_error_iff`: what a group layout makes of it
- `checkPipeline_verdict`: the verdict on a pipeline layout
-/

namespace ShaderKit

/-! ## Entries that fit -/

/-- An entry of kind `layout` stands for a declaration of kind `shader`. -/
inductive BindingKind.Suits : (layout shader : BindingKind) → Prop
  | same (kind : BindingKind) : Suits kind kind
  /-- What may be written may be read. -/
  | readonly : Suits .storageBuffer .readonlyStorageBuffer
  | comparing : Suits .sampler .comparisonSampler
  | plain : Suits .comparisonSampler .sampler

/-- The kinds of buffers. -/
inductive BindingKind.IsBuffer : BindingKind → Prop
  | uniform : IsBuffer .uniformBuffer
  | storage : IsBuffer .storageBuffer
  | readonly : IsBuffer .readonlyStorageBuffer

/-- The kinds of storage textures. -/
inductive BindingKind.IsStorageTexture : BindingKind → Prop
  | readWrite : IsStorageTexture .storageTexture
  | readonly : IsStorageTexture .readonlyStorageTexture
  | writeonly : IsStorageTexture .writeonlyStorageTexture

/-- A stage is among those of a set. -/
def StageSet.Sees (set : StageSet) : Stage → Prop
  | .vertex => set.bits.toNat.testBit 0 = true
  | .fragment => set.bits.toNat.testBit 1 = true
  | .compute => set.bits.toNat.testBit 2 = true

namespace LayoutEntry

/-- The entry fits a declaration of a shader that runs in `stage`. -/
structure Fits (entry : LayoutEntry) (stage : Stage) (shader : ShaderBinding) : Prop where
  kind : entry.kind.Suits shader.kind
  visible : entry.visibility.Sees stage
  sampled : entry.kind = .sampledTexture →
    entry.component = shader.component ∧ some entry.view = shader.view
  storage : entry.kind.IsStorageTexture →
    entry.format = shader.format ∧ some entry.view = shader.view
  /-- Size 0 is left to be checked later. -/
  size : entry.kind.IsBuffer → entry.minSize = 0 ∨ shader.minSize ≤ entry.minSize

/-- What the entry is refused for by the declaration at `group`, `binding`: the first check that fails. -/
inductive FailsFirst (entry : LayoutEntry) (stage : Stage) (shader : ShaderBinding)
    (group binding : Nat) : CompatibilityError → Prop
  | kind (hkind : ¬ entry.kind.Suits shader.kind) :
    FailsFirst entry stage shader group binding (.kindConflict group binding)
  | visibility (hkind : entry.kind.Suits shader.kind) (hvisible : ¬ entry.visibility.Sees stage) :
    FailsFirst entry stage shader group binding (.notVisible group binding)
  | component (hkind : entry.kind.Suits shader.kind) (hvisible : entry.visibility.Sees stage)
      (hsampled : entry.kind = .sampledTexture) (hcomponent : entry.component ≠ shader.component) :
    FailsFirst entry stage shader group binding (.componentMismatch group binding)
  | format (hkind : entry.kind.Suits shader.kind) (hvisible : entry.visibility.Sees stage)
      (hstorage : entry.kind.IsStorageTexture) (hformat : entry.format ≠ shader.format) :
    FailsFirst entry stage shader group binding (.formatMismatch group binding)
  | view (hkind : entry.kind.Suits shader.kind) (hvisible : entry.visibility.Sees stage)
      (htexture : entry.kind = .sampledTexture ∧ entry.component = shader.component ∨
        entry.kind.IsStorageTexture ∧ entry.format = shader.format)
      (hview : some entry.view ≠ shader.view) :
    FailsFirst entry stage shader group binding (.viewMismatch group binding)
  | size (hkind : entry.kind.Suits shader.kind) (hvisible : entry.visibility.Sees stage)
      (hbuffer : entry.kind.IsBuffer) (hpinned : entry.minSize ≠ 0)
      (hsize : entry.minSize < shader.minSize) :
    FailsFirst entry stage shader group binding
      (.sizeTooSmall group binding entry.minSize shader.minSize)

end LayoutEntry

theorem BindingKind.isBuffer_iff {kind : BindingKind} : kind.isBuffer = true ↔ kind.IsBuffer := by
  constructor
  · intro h
    cases kind <;> first | constructor | cases h
  · rintro (_ | _ | _) <;> rfl

theorem BindingKind.isStorageTexture_iff {kind : BindingKind} :
    kind.isStorageTexture = true ↔ kind.IsStorageTexture := by
  constructor
  · intro h
    cases kind <;> first | constructor | cases h
  · rintro (_ | _ | _) <;> rfl

/-- The binding kinds that serve a declaration are those that suit it. -/
theorem BindingKind.serves_iff {layout shader : BindingKind} :
    layout.serves shader = true ↔ layout.Suits shader := by
  constructor
  · intro h
    simp only [serves, Bool.or_eq_true, beq_iff_eq] at h
    -- a kind serves itself, and there are three pairs of different kinds
    rcases h with rfl | h
    · exact .same layout
    · split at h
      · exact .readonly
      · exact .comparing
      · exact .plain
      · exact nomatch h
  · rintro (_ | _ | _ | _)
    · simp [serves]
    · rfl
    · rfl
    · rfl

/-- Only buffers stand for buffers, and they stand for nothing else. -/
theorem BindingKind.Suits.isBuffer_eq {layout shader : BindingKind} (h : layout.Suits shader) :
    layout.isBuffer = shader.isBuffer := by
  cases h <;> rfl

/-- A word contains the word of one bit exactly if that bit is set in it. -/
private theorem contains_two_pow_iff {bits : UInt32} {i : Nat} {bit : UInt32} (h : bit.toNat = 2 ^ i) :
    (⟨bits⟩ : StageSet).contains ⟨bit⟩ = true ↔ bits.toNat.testBit i = true := by
  simp only [StageSet.contains, beq_iff_eq]
  rw [← UInt32.toNat_inj, UInt32.toNat_and, h, Nat.and_two_pow]
  cases bits.toNat.testBit i with
  | true => simp
  | false => simpa using (Nat.two_pow_pos i).ne

theorem StageSet.contains_bit_iff {set : StageSet} {stage : Stage} :
    set.contains stage.bit = true ↔ set.Sees stage := by
  -- each stage has a bit of its own
  cases stage with
  | vertex => exact contains_two_pow_iff (i := 0) rfl
  | fragment => exact contains_two_pow_iff (i := 1) rfl
  | compute => exact contains_two_pow_iff (i := 2) rfl

namespace LayoutEntry

variable {entry : LayoutEntry} {stage : Stage} {shader : ShaderBinding}

private theorem ne_sampledTexture_of_isStorageTexture {kind : BindingKind}
    (h : kind.IsStorageTexture) : kind ≠ .sampledTexture := by
  rintro rfl
  exact nomatch h

private theorem not_texture_of_isBuffer {kind : BindingKind} (h : kind.IsBuffer) :
    kind ≠ .sampledTexture ∧ kind.isStorageTexture = false := by
  cases h <;> exact ⟨nofun, rfl⟩

/-- An entry for which a check makes `f` is refused for it. -/
private theorem failsFirst_of_mismatch? {f : Nat → Nat → CompatibilityError}
    (h : entry.mismatch? stage shader = some f) (group binding : Nat) :
    entry.FailsFirst stage shader group binding (f group binding) := by
  -- the checks are gone through in their order; each one that passes is a fact for those after it
  unfold mismatch? at h
  split at h
  · rename_i hkind
    cases h
    exact .kind (by simpa [← BindingKind.serves_iff] using hkind)
  rename_i hkind
  have hkind : entry.kind.Suits shader.kind := by simpa [BindingKind.serves_iff] using hkind
  split at h
  · rename_i hvisible
    cases h
    exact .visibility hkind (by simpa [← StageSet.contains_bit_iff] using hvisible)
  rename_i hvisible
  have hvisible : entry.visibility.Sees stage := by
    simpa [StageSet.contains_bit_iff] using hvisible
  -- sampled textures: the component, then the view
  split at h
  · rename_i hsampled
    have hsampled : entry.kind = .sampledTexture := by simpa using hsampled
    split at h
    · rename_i hcomponent
      cases h
      exact .component hkind hvisible hsampled (by simpa using hcomponent)
    rename_i hcomponent
    split at h
    · rename_i hview
      cases h
      exact .view hkind hvisible (.inl ⟨hsampled, by simpa using hcomponent⟩) (by simpa using hview)
    · exact nomatch h
  -- storage textures: the format, then the view
  split at h
  · rename_i hstorage
    have hstorage := BindingKind.isStorageTexture_iff.1 hstorage
    split at h
    · rename_i hformat
      cases h
      exact .format hkind hvisible hstorage (by simpa using hformat)
    rename_i hformat
    split at h
    · rename_i hview
      cases h
      exact .view hkind hvisible (.inr ⟨hstorage, by simpa using hformat⟩) (by simpa using hview)
    · exact nomatch h
  -- buffers: the size, unless it is left open
  split at h
  · rename_i hbuffer
    split at h
    · rename_i hsize
      cases h
      obtain ⟨hpinned, hsize⟩ : entry.minSize ≠ 0 ∧ entry.minSize < shader.minSize := by
        simpa using hsize
      exact .size hkind hvisible (BindingKind.isBuffer_iff.1 hbuffer) hpinned hsize
    · exact nomatch h
  · exact nomatch h

/-- What an entry is refused for is what the first failing check makes. -/
private theorem mismatch?_of_failsFirst {group binding : Nat} {e : CompatibilityError}
    (h : entry.FailsFirst stage shader group binding e) :
    ∃ f, entry.mismatch? stage shader = some f ∧ f group binding = e := by
  -- a failure comes with the checks before it that passed, and with what kind of entry it is about
  cases h with
  | kind hkind =>
    rw [← BindingKind.serves_iff] at hkind
    exact ⟨.kindConflict, by simp [mismatch?, hkind], rfl⟩
  | visibility hkind hvisible =>
    rw [← BindingKind.serves_iff] at hkind
    rw [← StageSet.contains_bit_iff] at hvisible
    exact ⟨.notVisible, by simp [mismatch?, hkind, hvisible], rfl⟩
  | component hkind hvisible hsampled hcomponent =>
    rw [← BindingKind.serves_iff] at hkind
    rw [← StageSet.contains_bit_iff] at hvisible
    refine ⟨.componentMismatch, ?_, rfl⟩
    rw [hsampled] at hkind
    simp [mismatch?, hkind, hvisible, hsampled, hcomponent]
  | format hkind hvisible hstorage hformat =>
    rw [← BindingKind.serves_iff] at hkind
    rw [← StageSet.contains_bit_iff] at hvisible
    -- a storage texture is not taken for a sampled one
    have hsampled := ne_sampledTexture_of_isStorageTexture hstorage
    rw [← BindingKind.isStorageTexture_iff] at hstorage
    exact ⟨.formatMismatch, by simp [mismatch?, hkind, hvisible, hsampled, hstorage, hformat], rfl⟩
  | view hkind hvisible htexture hview =>
    rw [← BindingKind.serves_iff] at hkind
    rw [← StageSet.contains_bit_iff] at hvisible
    refine ⟨.viewMismatch, ?_, rfl⟩
    rcases htexture with ⟨hsampled, hcomponent⟩ | ⟨hstorage, hformat⟩
    · rw [hsampled] at hkind
      simp [mismatch?, hkind, hvisible, hsampled, hcomponent, hview]
    · have hsampled := ne_sampledTexture_of_isStorageTexture hstorage
      rw [← BindingKind.isStorageTexture_iff] at hstorage
      simp [mismatch?, hkind, hvisible, hsampled, hstorage, hformat, hview]
  | size hkind hvisible hbuffer hpinned hsize =>
    rw [← BindingKind.serves_iff] at hkind
    rw [← StageSet.contains_bit_iff] at hvisible
    obtain ⟨hsampled, hstorage⟩ := not_texture_of_isBuffer hbuffer
    rw [← BindingKind.isBuffer_iff] at hbuffer
    refine ⟨fun g b => .sizeTooSmall g b entry.minSize shader.minSize, ?_, rfl⟩
    simp [mismatch?, hkind, hvisible, hsampled, hstorage, hbuffer, hpinned, hsize]

/-- The checks make exactly what the entry is refused for. -/
theorem mismatch?_eq_some_iff {group binding : Nat} {e : CompatibilityError} :
    (∃ f, entry.mismatch? stage shader = some f ∧ f group binding = e) ↔
      entry.FailsFirst stage shader group binding e := by
  constructor
  · rintro ⟨f, hf, rfl⟩
    exact failsFirst_of_mismatch? hf group binding
  · exact mismatch?_of_failsFirst

/-- An entry that is refused does not fit. -/
theorem FailsFirst.not_fits {group binding : Nat} {e : CompatibilityError}
    (h : entry.FailsFirst stage shader group binding e) : ¬ entry.Fits stage shader := by
  intro hfits
  -- each check is about one condition of fitting
  cases h with
  | kind hkind => exact hkind hfits.kind
  | visibility _ hvisible => exact hvisible hfits.visible
  | component _ _ hsampled hcomponent => exact hcomponent (hfits.sampled hsampled).1
  | format _ _ hstorage hformat => exact hformat (hfits.storage hstorage).1
  | view _ _ htexture hview =>
    rcases htexture with ⟨hsampled, _⟩ | ⟨hstorage, _⟩
    · exact hview (hfits.sampled hsampled).2
    · exact hview (hfits.storage hstorage).2
  | size _ _ hbuffer hpinned hsize =>
    rcases hfits.size hbuffer with hzero | hle
    · exact hpinned hzero
    · exact absurd hsize (UInt64.not_lt.2 hle)

/-- The checks find nothing exactly if the entry fits. -/
theorem mismatch?_eq_none_iff : entry.mismatch? stage shader = none ↔ entry.Fits stage shader := by
  constructor
  · intro h
    -- a condition that did not hold would be what the entry is refused for
    have hnever (e : CompatibilityError) : ¬ entry.FailsFirst stage shader 0 0 e := by
      intro hfails
      obtain ⟨f, hf, _⟩ := mismatch?_of_failsFirst hfails
      exact nomatch h.symm.trans hf
    have hkind : entry.kind.Suits shader.kind := not_not.1 fun hne => hnever _ (.kind hne)
    have hvisible : entry.visibility.Sees stage :=
      not_not.1 fun hne => hnever _ (.visibility hkind hne)
    refine ⟨hkind, hvisible, fun hsampled => ?_, fun hstorage => ?_, fun hbuffer => ?_⟩
    · have hcomponent : entry.component = shader.component :=
        not_not.1 fun hne => hnever _ (.component hkind hvisible hsampled hne)
      exact ⟨hcomponent,
        not_not.1 fun hne => hnever _ (.view hkind hvisible (.inl ⟨hsampled, hcomponent⟩) hne)⟩
    · have hformat : entry.format = shader.format :=
        not_not.1 fun hne => hnever _ (.format hkind hvisible hstorage hne)
      exact ⟨hformat,
        not_not.1 fun hne => hnever _ (.view hkind hvisible (.inr ⟨hstorage, hformat⟩) hne)⟩
    · refine or_iff_not_imp_left.2 fun hpinned => UInt64.not_lt.1 fun hsize => ?_
      exact hnever _ (.size hkind hvisible hbuffer hpinned hsize)
  · intro h
    -- an entry that is refused does not fit
    cases hf : entry.mismatch? stage shader with
    | none => rfl
    | some f => exact absurd h (failsFirst_of_mismatch? hf 0 0).not_fits

end LayoutEntry

/-! ## Group layouts and pipeline layouts -/

/-- The entry of a binding number is the one that has this number. -/
theorem GroupLayout.entry?_eq_some_iff {layout : GroupLayout} {binding : Nat} {entry : LayoutEntry} :
    layout.entry? binding = some entry ↔ entry ∈ layout.entries ∧ entry.binding = binding := by
  unfold entry?
  constructor
  · intro h
    obtain ⟨i, hi, hentry⟩ := Option.bind_eq_some_iff.1 h
    obtain ⟨entry', hentry', hbinding⟩ := (layout.indexed binding i).1 hi
    obtain rfl : entry' = entry := Option.some.inj (hentry'.symm.trans hentry)
    exact ⟨List.mem_of_getElem? hentry, hbinding⟩
  · rintro ⟨hmem, hbinding⟩
    obtain ⟨i, hi⟩ := List.mem_iff_getElem?.1 hmem
    exact Option.bind_eq_some_iff.2 ⟨i, (layout.indexed binding i).2 ⟨entry, hi, hbinding⟩, hi⟩

/-- The group layout has an entry that fits a declaration with this binding number. -/
def GroupLayout.Admits (layout : GroupLayout) (stage : Stage) (binding : Nat)
    (shader : ShaderBinding) : Prop :=
  ∃ entry ∈ layout.entries, entry.binding = binding ∧ entry.Fits stage shader

/-- What the group layout is refused for by the declaration at `group`, `binding`. -/
inductive GroupLayout.FailsFirst (layout : GroupLayout) (stage : Stage) (shader : ShaderBinding)
    (group binding : Nat) : CompatibilityError → Prop
  | missing (hmissing : ∀ entry ∈ layout.entries, entry.binding ≠ binding) :
    FailsFirst layout stage shader group binding (.missingEntry group binding)
  | entry {entry : LayoutEntry} {e : CompatibilityError} (hmem : entry ∈ layout.entries)
      (hbinding : entry.binding = binding) (hfails : entry.FailsFirst stage shader group binding e) :
    FailsFirst layout stage shader group binding e

/-- The pipeline layout has the group, and in it an entry that fits the declaration. -/
def PipelineLayout.Admits (layout : PipelineLayout) (stage : Stage) (group binding : Nat)
    (shader : ShaderBinding) : Prop :=
  ∃ groupLayout, layout.group? group = some groupLayout ∧ groupLayout.Admits stage binding shader

namespace EntryPointMetadata

variable {m : EntryPointMetadata} {layout : PipelineLayout} {e : CompatibilityError}

/-- The shader declares a binding. -/
def Declares (m : EntryPointMetadata) (group binding : Nat) (shader : ShaderBinding) : Prop :=
  (m.group group).find? binding = some shader

/-- What the pipeline layout is refused for in one group: the group is missing, or its layout fails for
the declaration of least binding number that it does not admit. -/
inductive FailsFirst (m : EntryPointMetadata) (layout : PipelineLayout) (group : Nat) :
    CompatibilityError → Prop
  | missing {binding : Nat} {shader : ShaderBinding} (hgroup : layout.group? group = none)
      (hdeclares : m.Declares group binding shader) : FailsFirst m layout group (.missingGroup group)
  | binding {groupLayout : GroupLayout} {binding : Nat} {shader : ShaderBinding}
      {e : CompatibilityError} (hgroup : layout.group? group = some groupLayout)
      (hdeclares : m.Declares group binding shader)
      (hbelow : ∀ below < binding, ∀ shader, m.Declares group below shader →
        groupLayout.Admits m.stage below shader)
      (hfails : groupLayout.FailsFirst m.stage shader group binding e) : FailsFirst m layout group e

/-- A declaration passes exactly if the group layout admits it. -/
theorem checkBinding_eq_ok_iff {groupLayout : GroupLayout} {group binding : Nat}
    {shader : ShaderBinding} : m.checkBinding groupLayout group binding shader = .ok () ↔
      groupLayout.Admits m.stage binding shader := by
  unfold checkBinding
  constructor
  · intro h
    -- there is an entry, and no check of it fails
    split at h
    · exact nomatch h
    rename_i entry hentry
    obtain ⟨hmem, hbinding⟩ := GroupLayout.entry?_eq_some_iff.1 hentry
    split at h
    · exact nomatch h
    rename_i hfit
    exact ⟨entry, hmem, hbinding, LayoutEntry.mismatch?_eq_none_iff.1 hfit⟩
  · rintro ⟨entry, hmem, hbinding, hfit⟩
    rw [GroupLayout.entry?_eq_some_iff.2 ⟨hmem, hbinding⟩]
    dsimp only
    rw [LayoutEntry.mismatch?_eq_none_iff.2 hfit]

/-- A declaration is refused with what the group layout fails for. -/
theorem checkBinding_eq_error_iff {groupLayout : GroupLayout} {group binding : Nat}
    {shader : ShaderBinding} : m.checkBinding groupLayout group binding shader = .error e ↔
      groupLayout.FailsFirst m.stage shader group binding e := by
  unfold checkBinding
  constructor
  · intro h
    split at h
    -- no entry is found, so none has the number
    · rename_i hnone
      cases h
      refine .missing fun entry hmem hbinding => ?_
      exact nomatch hnone.symm.trans (GroupLayout.entry?_eq_some_iff.2 ⟨hmem, hbinding⟩)
    rename_i entry hentry
    obtain ⟨hmem, hbinding⟩ := GroupLayout.entry?_eq_some_iff.1 hentry
    split at h
    · rename_i f hf
      cases h
      exact .entry hmem hbinding (LayoutEntry.mismatch?_eq_some_iff.1 ⟨f, hf, rfl⟩)
    · exact nomatch h
  · rintro (hmissing | ⟨hmem, hbinding, hfails⟩)
    -- binding numbers are found exactly where an entry has them
    · have hnone : groupLayout.entry? binding = none := by
        refine Option.eq_none_iff_forall_ne_some.2 fun entry hentry => ?_
        obtain ⟨hmem, hbinding⟩ := GroupLayout.entry?_eq_some_iff.1 hentry
        exact hmissing entry hmem hbinding
      rw [hnone]
    · obtain ⟨f, hf, rfl⟩ := LayoutEntry.mismatch?_eq_some_iff.2 hfails
      rw [GroupLayout.entry?_eq_some_iff.2 ⟨hmem, hbinding⟩]
      dsimp only
      rw [hf]

/-- A group passes exactly if the pipeline layout admits each of its declarations. -/
theorem checkPipelineGroup_eq_ok_iff {group : Nat} :
    m.checkPipelineGroup layout group = .ok () ↔
      ∀ binding shader, m.Declares group binding shader →
        layout.Admits m.stage group binding shader := by
  unfold checkPipelineGroup
  cases hgroup : layout.group? group with
  | none =>
    -- without a layout only a group without declarations passes
    have hempty : (if (m.group group).isEmpty then Except.ok ()
        else .error (CompatibilityError.missingGroup group)) = .ok () ↔
        (m.group group).isEmpty = true := by
      split <;> simp_all
    simp only [hempty, NumberMap.isEmpty_iff, PipelineLayout.Admits, hgroup, Declares]
    simp
  | some groupLayout =>
    simp only [checkGroup, Except.forM_eq_ok_iff, checkBinding_eq_ok_iff, PipelineLayout.Admits, hgroup,
      Option.some.injEq, exists_eq_left', Prod.forall, Declares, NumberMap.find?_eq_some_iff]

/-- A group is refused with what the pipeline layout fails for in it. -/
theorem checkPipelineGroup_eq_error_iff {group : Nat} :
    m.checkPipelineGroup layout group = .error e ↔ m.FailsFirst layout group e := by
  unfold checkPipelineGroup
  cases hgroup : layout.group? group with
  | none =>
    dsimp only
    -- without a layout any declaration is refused for the group
    constructor
    · intro h
      split at h
      · exact nomatch h
      rename_i hdeclared
      simp only [NumberMap.isEmpty_iff, not_forall, not_not] at hdeclared
      obtain ⟨binding, shader, hdeclares⟩ := hdeclared
      cases h
      exact .missing hgroup hdeclares
    · rintro (⟨_, hdeclares⟩ | ⟨hsome, _⟩)
      · rw [if_neg fun hempty => NumberMap.isEmpty_iff.1 hempty _ _ hdeclares]
      · exact nomatch hgroup.symm.trans hsome
  | some groupLayout =>
    -- the declarations are checked by ascending number, so the first failure has the least one
    simp only [checkGroup, Except.forM_eq_error_iff Prod.fst (m.group group).ascending,
      checkBinding_eq_ok_iff, checkBinding_eq_error_iff, Prod.exists, Prod.forall,
      ← NumberMap.find?_eq_some_iff]
    constructor
    · rintro ⟨binding, shader, hdeclares, hbelow, hfails⟩
      exact .binding hgroup hdeclares (fun below hlt shader hd => hbelow below shader hd hlt) hfails
    · rintro (⟨hnone, _⟩ | ⟨hsome, hdeclares, hbelow, hfails⟩)
      · exact nomatch hgroup.symm.trans hnone
      · obtain rfl := Option.some.inj (hgroup.symm.trans hsome)
        exact ⟨_, _, hdeclares, fun below shader hd hlt => hbelow below hlt shader hd, hfails⟩

/-- A declared group is below the limit. -/
theorem Declares.lt {group binding : Nat} {shader : ShaderBinding}
    (h : m.Declares group binding shader) : group < Limits.bindGroups := by
  by_contra hge
  simp [Declares, EntryPointMetadata.group, hge] at h

/-- A pipeline layout is accepted exactly if it admits each declaration. -/
theorem checkPipeline_eq_ok_iff : m.checkPipeline layout = .ok () ↔
    ∀ group binding shader, m.Declares group binding shader →
      layout.Admits m.stage group binding shader := by
  simp only [checkPipeline, Except.forM_eq_ok_iff, checkPipelineGroup_eq_ok_iff, List.mem_range]
  exact ⟨fun h g b x hx => h g hx.lt b x hx, fun h g _ => h g⟩

/-- A pipeline layout fails in a declared group. -/
private theorem FailsFirst.lt {group : Nat} (h : m.FailsFirst layout group e) :
    group < Limits.bindGroups := by
  cases h with
  | missing _ hdeclares => exact hdeclares.lt
  | binding _ hdeclares _ _ => exact hdeclares.lt

/-- A pipeline layout is accepted exactly if it admits each declaration.  Otherwise it is refused with
what it fails for in the least group where it does not. -/
theorem checkPipeline_verdict (m : EntryPointMetadata) (layout : PipelineLayout) :
    (m.checkPipeline layout = .ok () ↔
      ∀ group binding shader, m.Declares group binding shader →
        layout.Admits m.stage group binding shader) ∧
    ∀ e, m.checkPipeline layout = .error e ↔
      ∃ group, m.FailsFirst layout group e ∧
        ∀ below < group, ∀ binding shader, m.Declares below binding shader →
          layout.Admits m.stage below binding shader := by
  refine ⟨checkPipeline_eq_ok_iff, fun e => ?_⟩
  -- groups are checked in ascending order
  simp only [checkPipeline, Except.forM_eq_error_iff id List.pairwise_lt_range,
    checkPipelineGroup_eq_ok_iff, checkPipelineGroup_eq_error_iff, List.mem_range, id]
  constructor
  · rintro ⟨g, hg, hbelow, hfails⟩
    exact ⟨g, hfails, fun below hlt => hbelow below (hlt.trans hg) hlt⟩
  · rintro ⟨g, hfails, hbelow⟩
    -- only declared groups fail, so the group is below the limit
    exact ⟨g, hfails.lt, fun below _ hlt => hbelow below hlt, hfails⟩

end EntryPointMetadata

end ShaderKit
