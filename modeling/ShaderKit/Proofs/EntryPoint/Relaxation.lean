import Mathlib.Logic.Relation
import ShaderKit.Proofs.EntryPoint.DerivedLayout

/-!
# Relaxing a layout, asking less of it

Where a pipeline layout is accepted, its entries can be made to allow more, and the shader can be made to ask
for less, step after step: the layout can be built again after any number of such steps, and it is accepted
again.

## Key results

- `LayoutEntry.Relaxes.fits`, `ShaderBinding.Relaxes.fits`: an entry that allows more still fits, and it fits
  a declaration that asks for less
- `PipelineLayout.builtFrom_entries`: each pipeline layout is built from its own entries
- `Pairing.Relaxes.sound`: what one step keeps
- `Pairing.relaxed_accepted`: what any number of steps keeps
-/

namespace ShaderKit

/-! ## Binding kinds and stages -/

namespace BindingKind

variable {layout shader : BindingKind}

/-- Samplers, with or without a comparison. -/
def isSampler (kind : BindingKind) : Bool := kind == .sampler || kind == .comparisonSampler

/-- Each kind of sampler stands for each. -/
theorem suits_of_isSampler (hlayout : layout.isSampler = true) (hshader : shader.isSampler = true) :
    layout.Suits shader := by
  simp only [isSampler, Bool.or_eq_true, beq_iff_eq] at hlayout hshader
  rcases hlayout with rfl | rfl
  · rcases hshader with rfl | rfl
    · exact .same _
    · exact .comparing
  · rcases hshader with rfl | rfl
    · exact .plain
    · exact .same _

/-- Only samplers stand for samplers, and they stand for nothing else. -/
theorem Suits.isSampler_eq (h : layout.Suits shader) : layout.isSampler = shader.isSampler := by
  cases h <;> rfl

/-- What may be written stands for what only a buffer to read stood for. -/
theorem Suits.writable (h : Suits .readonlyStorageBuffer shader) : Suits .storageBuffer shader := by
  cases h
  exact .readonly

/-- What stands for a buffer to write stands for one to read. -/
theorem Suits.reading (h : layout.Suits .storageBuffer) : layout.Suits .readonlyStorageBuffer := by
  cases h
  exact .readonly

theorem not_texture_of_isSampler (h : layout.isSampler = true) :
    layout ≠ .sampledTexture ∧ ¬ layout.IsStorageTexture ∧ ¬ layout.IsBuffer := by
  simp only [isSampler, Bool.or_eq_true, beq_iff_eq] at h
  rcases h with rfl | rfl
  · exact ⟨nofun, nofun, nofun⟩
  · exact ⟨nofun, nofun, nofun⟩

end BindingKind

/-- A stage that is seen is also seen together with others. -/
theorem StageSet.Sees.union {set : StageSet} {stage : Stage} (h : set.Sees stage) (added : StageSet) :
    (set.union added).Sees stage := by
  have hbit {i : Nat} (hi : set.bits.toNat.testBit i = true) :
      (set.union added).bits.toNat.testBit i = true := by
    rw [StageSet.union, UInt32.toNat_or, Nat.testBit_or, hi, Bool.true_or]
  cases stage with
  | vertex | fragment | compute => exact hbit h

/-! ## Entries that allow more, declarations that ask for less -/

namespace LayoutEntry

/-- The entry is made to allow more. -/
inductive Relaxes (entry : LayoutEntry) : LayoutEntry → Prop
  | seen (added : StageSet) : Relaxes entry { entry with visibility := entry.visibility.union added }
  | unpinned : Relaxes entry { entry with minSize := 0 }
  | grown (minSize : UInt64) (hpinned : entry.minSize ≠ 0) (hle : entry.minSize ≤ minSize) :
    Relaxes entry { entry with minSize }
  | writable (hkind : entry.kind = .readonlyStorageBuffer) :
    Relaxes entry { entry with kind := .storageBuffer }
  | sampler (kind : BindingKind) (hold : entry.kind.isSampler = true) (hnew : kind.isSampler = true) :
    Relaxes entry { entry with kind }
  /-- Whether the offset is dynamic is up to the layout. -/
  | offset (dynamicOffset : Bool) : Relaxes entry { entry with dynamicOffset }

variable {entry entry' : LayoutEntry} {stage : Stage} {shader : ShaderBinding}

/-- The binding number stays. -/
theorem Relaxes.binding_eq (h : entry.Relaxes entry') : entry'.binding = entry.binding := by
  cases h <;> rfl

/-- An entry that allows more fits what it fitted. -/
theorem Relaxes.fits (h : entry.Relaxes entry') (hfits : entry.Fits stage shader) :
    entry'.Fits stage shader := by
  cases h with
  | seen added => exact { hfits with visible := hfits.visible.union added }
  | unpinned => exact { hfits with size := fun _ => .inl rfl }
  | grown minSize hpinned hle =>
    -- a size that was pinned before is as large as the declared one
    refine { hfits with size := fun hbuffer => ?_ }
    rcases hfits.size hbuffer with hzero | hlarge
    · exact absurd hzero hpinned
    · exact .inr (UInt64.le_trans hlarge hle)
  | writable hkind =>
    have hsuits : BindingKind.Suits .readonlyStorageBuffer shader.kind := hkind ▸ hfits.kind
    have hbuffer : entry.kind.IsBuffer := hkind ▸ .readonly
    exact { hfits with
      kind := hsuits.writable
      sampled := nofun
      storage := nofun
      size := fun _ => hfits.size hbuffer }
  | sampler kind hold hnew =>
    -- the declaration is a sampler too, and of samplers nothing else is checked
    obtain ⟨hsampled, hstorage, hbuffer⟩ := BindingKind.not_texture_of_isSampler hnew
    exact { hfits with
      kind := BindingKind.suits_of_isSampler hnew (hfits.kind.isSampler_eq ▸ hold)
      sampled := fun h => absurd h hsampled
      storage := fun h => absurd h hstorage
      size := fun h => absurd h hbuffer }
  | offset dynamicOffset => exact { hfits with }

end LayoutEntry

namespace ShaderBinding

/-- The declaration is made to ask for less. -/
inductive Relaxes (shader : ShaderBinding) : ShaderBinding → Prop
  | smaller (minSize : UInt64) (hle : minSize ≤ shader.minSize) : Relaxes shader { shader with minSize }
  | readonly (hkind : shader.kind = .storageBuffer) :
    Relaxes shader { shader with kind := .readonlyStorageBuffer }
  | sampler (kind : BindingKind) (hold : shader.kind.isSampler = true) (hnew : kind.isSampler = true) :
    Relaxes shader { shader with kind }

variable {entry : LayoutEntry} {stage : Stage} {shader shader' : ShaderBinding}

/-- What fitted a declaration fits one that asks for less. -/
theorem Relaxes.fits (h : shader.Relaxes shader') (hfits : entry.Fits stage shader) :
    entry.Fits stage shader' := by
  cases h with
  | smaller minSize hle =>
    exact { hfits with size := fun hbuffer => (hfits.size hbuffer).imp_right (UInt64.le_trans hle) }
  | readonly hkind =>
    have hsuits : entry.kind.Suits .storageBuffer := hkind ▸ hfits.kind
    exact { hfits with kind := hsuits.reading }
  | sampler kind hold hnew =>
    have hentry : entry.kind.isSampler = true := hfits.kind.isSampler_eq.trans hold
    exact { hfits with kind := BindingKind.suits_of_isSampler hentry hnew }

end ShaderBinding

/-! ## What a pipeline layout is built from -/

/-- The entries that a pipeline layout is built from: a list for each group that is present. -/
abbrev GivenEntries := Fin Limits.bindGroups → Option (List LayoutEntry)

namespace PipelineLayout

/-- The groups that are present are built from the entries. -/
def BuiltFrom (layout : PipelineLayout) (given : GivenEntries) : Prop :=
  ∀ group, (given group).map GroupLayout.ofEntries = (layout.group? group).map .ok

variable {layout : PipelineLayout} {given : GivenEntries}

/-- Each pipeline layout is built from its own entries. -/
theorem builtFrom_entries (layout : PipelineLayout) :
    layout.BuiltFrom fun group => (layout.group? group).map (·.entries) := by
  intro group
  dsimp only
  cases layout.group? group with
  | none => rfl
  | some groupLayout => simp [GroupLayout.ofEntries_entries]

/-- There is a pipeline layout where each group can be built. -/
theorem exists_builtFrom
    (hnodup : ∀ group entries, given group = some entries → (entries.map (·.binding)).Nodup) :
    ∃ layout : PipelineLayout, layout.BuiltFrom given := by
  refine ⟨⟨.ofFn fun group => (given group).bind fun entries =>
    (GroupLayout.ofEntries entries).toOption⟩, fun group => ?_⟩
  simp only [group?, Vector.getElem?_ofFn]
  cases hgroup : given group with
  | none => simp [hgroup]
  | some entries =>
    obtain ⟨groupLayout, hbuilt⟩ := GroupLayout.exists_ofEntries_eq_ok (hnodup group entries hgroup)
    simp [hgroup, hbuilt, Except.toOption]

/-- Where a pipeline layout is built from entries, no binding number occurs twice in a group. -/
theorem BuiltFrom.nodup (h : layout.BuiltFrom given) {group : Fin Limits.bindGroups}
    {entries : List LayoutEntry} (hgroup : given group = some entries) :
    (entries.map (·.binding)).Nodup := by
  have hbuilt := h group
  rw [hgroup, Option.map_some, eq_comm, Option.map_eq_some_iff] at hbuilt
  obtain ⟨groupLayout, _, hok⟩ := hbuilt
  exact GroupLayout.nodup_of_ofEntries hok.symm

/-- A pipeline layout admits a declaration exactly if one of the entries that it is built from fits it. -/
theorem BuiltFrom.admits_iff (h : layout.BuiltFrom given) {stage : Stage}
    (group : Fin Limits.bindGroups) {binding : Nat} {shader : ShaderBinding} :
    layout.Admits stage group binding shader ↔ ∃ entries, given group = some entries ∧
      ∃ entry ∈ entries, entry.binding = binding ∧ entry.Fits stage shader := by
  have hbuilt := h group
  unfold Admits
  cases hgroup : layout.group? group with
  | none =>
    rw [hgroup, Option.map_none, Option.map_eq_none_iff] at hbuilt
    simp [hbuilt]
  | some groupLayout =>
    rw [hgroup, Option.map_some, Option.map_eq_some_iff] at hbuilt
    obtain ⟨entries, hgiven, hok⟩ := hbuilt
    have hperm := GroupLayout.perm_of_ofEntries hok
    simp [GroupLayout.Admits, hgiven, hperm.mem_iff]

end PipelineLayout

/-- A shader, and the entries for the layout of a pipeline with it. -/
structure Pairing where
  shader : EntryPointMetadata
  given : GivenEntries

namespace Pairing

variable {p q : Pairing}

/-- One change that lets the entries allow more, or the shader ask for less. -/
inductive Relaxes (p : Pairing) : Pairing → Prop
  | addGroup (group : Fin Limits.bindGroups) {entries : List LayoutEntry} {groupLayout : GroupLayout}
      (habsent : p.given group = none) (hbuilt : GroupLayout.ofEntries entries = .ok groupLayout) :
    Relaxes p { p with given := Function.update p.given group (some entries) }
  | addEntry (group : Fin Limits.bindGroups) {entries : List LayoutEntry}
      (hgroup : p.given group = some entries) (entry : LayoutEntry)
      (hnew : ∀ e ∈ entries, e.binding ≠ entry.binding) :
    Relaxes p { p with given := Function.update p.given group (some (entry :: entries)) }
  | entry (group : Fin Limits.bindGroups) (before after : List LayoutEntry) {entry entry' : LayoutEntry}
      (hgroup : p.given group = some (before ++ entry :: after)) (hentry : entry.Relaxes entry') :
    Relaxes p { p with given := Function.update p.given group (some (before ++ entry' :: after)) }
  | permute (group : Fin Limits.bindGroups) {entries entries' : List LayoutEntry}
      (hgroup : p.given group = some entries) (hperm : entries'.Perm entries) :
    Relaxes p { p with given := Function.update p.given group (some entries') }
  | removeDeclaration (group : Fin Limits.bindGroups) (binding : Nat) :
    Relaxes p { p with
      shader.bindings := p.shader.bindings.set group ((p.shader.group group).erase binding) }
  | declaration (group : Fin Limits.bindGroups) (binding : Nat) {shader shader' : ShaderBinding}
      (hdeclares : p.shader.Declares group binding shader) (hshader : shader.Relaxes shader') :
    Relaxes p { p with
      shader.bindings := p.shader.bindings.set group ((p.shader.group group).insert binding shader') }

/-- A pipeline layout can be built from the entries, and the shader fits it. -/
structure Sound (p : Pairing) : Prop where
  nodup : ∀ group entries, p.given group = some entries → (entries.map (·.binding)).Nodup
  admits : ∀ (group : Fin Limits.bindGroups) binding shader, p.shader.Declares group binding shader →
    ∃ entries, p.given group = some entries ∧
      ∃ entry ∈ entries, entry.binding = binding ∧ entry.Fits p.shader.stage shader

/-- The entries of a group may be replaced by others that fit whatever they fitted. -/
theorem Sound.update (h : p.Sound) {group : Fin Limits.bindGroups} {entries' : List LayoutEntry}
    (hnodup : (entries'.map (·.binding)).Nodup)
    (hcovers : ∀ entries, p.given group = some entries → ∀ entry ∈ entries, ∃ entry' ∈ entries',
      entry'.binding = entry.binding ∧
        ∀ shader, entry.Fits p.shader.stage shader → entry'.Fits p.shader.stage shader) :
    Sound { p with given := Function.update p.given group (some entries') } where
  nodup g entries hentries := by
    dsimp only at hentries
    -- other groups keep their entries
    by_cases hg : g = group
    · subst hg
      rw [Function.update_self, Option.some.injEq] at hentries
      exact hentries ▸ hnodup
    · rw [Function.update_of_ne hg] at hentries
      exact h.nodup g entries hentries
  admits g binding shader hdeclares := by
    -- what the declaration met before is covered by a new entry
    obtain ⟨entries, hentries, entry, hmem, hbinding, hfits⟩ := h.admits g binding shader hdeclares
    by_cases hg : g = group
    · subst hg
      obtain ⟨entry', hmem', hsame, hfits'⟩ := hcovers entries hentries entry hmem
      exact ⟨entries', Function.update_self .., entry', hmem', hsame.trans hbinding, hfits' _ hfits⟩
    · exact ⟨entries, (Function.update_of_ne hg ..).trans hentries, entry, hmem, hbinding, hfits⟩

/-- The declarations of a group may be replaced by others, of which each asks for less than an old one. -/
theorem Sound.setGroup (h : p.Sound) (group : Fin Limits.bindGroups) {bindings : GroupBindings}
    (hasks : ∀ binding shader, bindings.find? binding = some shader →
      ∃ old, p.shader.Declares group binding old ∧ ∀ entry : LayoutEntry,
        entry.Fits p.shader.stage old → entry.Fits p.shader.stage shader) :
    Sound { p with shader.bindings := p.shader.bindings.set group bindings } where
  nodup := h.nodup
  admits g binding shader hdeclares := by
    unfold EntryPointMetadata.Declares at hdeclares
    rw [Resource.group_set _ group.isLt] at hdeclares
    split at hdeclares
    · rename_i hg
      obtain rfl := Fin.ext hg
      -- a declaration of the group meets the entry that the old one met
      obtain ⟨old, hold, hless⟩ := hasks binding shader hdeclares
      obtain ⟨entries, hentries, entry, hmem, hbinding, hfits⟩ := h.admits g binding old hold
      exact ⟨entries, hentries, entry, hmem, hbinding, hless entry hfits⟩
    · exact h.admits g binding shader hdeclares

/-- One change keeps the layout buildable and accepted. -/
theorem Relaxes.sound (hstep : p.Relaxes q) (h : p.Sound) : q.Sound := by
  cases hstep with
  | addGroup group habsent hbuilt =>
    -- nothing was declared in the group, since it was absent
    refine h.update (GroupLayout.nodup_of_ofEntries hbuilt) fun entries hentries => ?_
    exact nomatch habsent.symm.trans hentries
  | addEntry group hgroup entry hnew =>
    refine h.update ?_ fun entries hentries e he => ?_
    · rw [List.map_cons, List.nodup_cons, List.mem_map]
      exact ⟨fun ⟨e, he, hbinding⟩ => hnew e he hbinding, h.nodup _ _ hgroup⟩
    · cases hgroup.symm.trans hentries
      exact ⟨e, List.mem_cons_of_mem _ he, rfl, fun _ hfits => hfits⟩
  | @entry group before after entry entry' hgroup hentry =>
    refine h.update ?_ fun entries hentries e he => ?_
    · simpa [hentry.binding_eq] using h.nodup _ _ hgroup
    · -- the changed entry stands in for the old one, the others for themselves
      cases hgroup.symm.trans hentries
      by_cases hentry' : e = entry
      · subst hentry'
        exact ⟨entry', by simp, hentry.binding_eq, fun _ hfits => hentry.fits hfits⟩
      · have hother : e ∈ before ∨ e ∈ after := by simpa [hentry'] using he
        exact ⟨e, by simp only [List.mem_append, List.mem_cons]; tauto, rfl, fun _ hfits => hfits⟩
  | permute group hgroup hperm =>
    refine h.update ((hperm.map _).nodup_iff.2 (h.nodup _ _ hgroup)) fun entries hentries e he => ?_
    cases hgroup.symm.trans hentries
    exact ⟨e, hperm.mem_iff.2 he, rfl, fun _ hfits => hfits⟩
  | removeDeclaration group binding =>
    refine h.setGroup group fun b shader hfind => ?_
    rw [NumberMap.find?_erase] at hfind
    split at hfind
    · exact nomatch hfind
    · exact ⟨shader, hfind, fun _ hfits => hfits⟩
  | @declaration group binding old shader hold hshader =>
    -- the old declaration is asked for under its own number, every other one stays
    refine h.setGroup group fun b shader' hfind => ?_
    by_cases hb : b = binding
    · rw [hb, NumberMap.find?_insert_self] at hfind
      cases hfind
      exact ⟨old, hb ▸ hold, fun _ hfits => hshader.fits hfits⟩
    · rw [NumberMap.find?_insert_of_ne _ _ hb] at hfind
      exact ⟨shader', hfind, fun _ hfits => hfits⟩

/-- A pairing is sound if a layout that is built from the entries is accepted. -/
theorem sound_of_accepted {layout : PipelineLayout} (hbuilt : layout.BuiltFrom p.given)
    (hok : p.shader.checkPipeline layout = .ok ()) : p.Sound where
  nodup _ _ hgroup := hbuilt.nodup hgroup
  admits group binding shader hdeclares :=
    (hbuilt.admits_iff group).1
      (EntryPointMetadata.checkPipeline_eq_ok_iff.1 hok group binding shader hdeclares)

/-- Of a sound pairing, each layout that is built from the entries is accepted. -/
theorem Sound.accepted (h : p.Sound) {layout : PipelineLayout} (hbuilt : layout.BuiltFrom p.given) :
    p.shader.checkPipeline layout = .ok () := by
  refine EntryPointMetadata.checkPipeline_eq_ok_iff.2 fun group binding shader hdeclares => ?_
  have hlt : group < Limits.bindGroups := hdeclares.lt
  exact (hbuilt.admits_iff ⟨group, hlt⟩).2 (h.admits ⟨group, hlt⟩ binding shader hdeclares)

/-- Where a pipeline layout is accepted, its entries may be made to allow more and the shader to ask for less,
in any number of steps: the layout can be built again, and is accepted. -/
theorem relaxed_accepted {layout : PipelineLayout} (hbuilt : layout.BuiltFrom p.given)
    (hok : p.shader.checkPipeline layout = .ok ()) (hsteps : Relation.ReflTransGen Relaxes p q) :
    (∃ layout' : PipelineLayout, layout'.BuiltFrom q.given) ∧
      ∀ layout' : PipelineLayout, layout'.BuiltFrom q.given →
        q.shader.checkPipeline layout' = .ok () := by
  -- soundness is what every step keeps: it speaks of the entries, not of the layout built from them
  have hsound : q.Sound := by
    induction hsteps with
    | refl => exact sound_of_accepted hbuilt hok
    | tail _ hstep ih => exact hstep.sound ih
  exact ⟨PipelineLayout.exists_builtFrom hsound.nodup, fun layout' hbuilt' => hsound.accepted hbuilt'⟩

/-! ### A larger size, another group and a declaration less -/

open EntryPointMetadata (threeBuffers mixedEntries mixedLayout)

/-- `threeBuffers` with the entries of `mixedLayout`. -/
def mixedPairing : Pairing where
  shader := threeBuffers
  given group := (mixedLayout.group? group).map (·.entries)

theorem zero_lt_bindGroups : 0 < Limits.bindGroups := by decide

theorem one_lt_bindGroups : 1 < Limits.bindGroups := by decide

/-- The second one of `mixedEntries` pins 48 bytes, and there is a group 1 without entries.  The storage buffer
of the shader is only read, and binding 5 is not declared. -/
def relaxedPairing : Pairing :=
  let larger := mixedEntries.modify 1 fun second => { second with minSize := 48 }
  let reading : EntryPointMetadata := { threeBuffers with
    bindings := threeBuffers.bindings.set 0
      ((threeBuffers.group 0).insert 1 { kind := .readonlyStorageBuffer, minSize := 64 })
      zero_lt_bindGroups }
  { shader := { reading with
      bindings := reading.bindings.set 0 ((reading.group 0).erase 5) zero_lt_bindGroups }
    given := Function.update (Function.update mixedPairing.given ⟨0, zero_lt_bindGroups⟩ (some larger))
      ⟨1, one_lt_bindGroups⟩ (some []) }

theorem relaxed_accepted_mixed :
    mixedLayout.BuiltFrom mixedPairing.given ∧
    mixedPairing.shader.checkPipeline mixedLayout = .ok () ∧
    Relation.ReflTransGen Relaxes mixedPairing relaxedPairing ∧
    (∃ layout : PipelineLayout, layout.BuiltFrom relaxedPairing.given) ∧
    ∀ layout : PipelineLayout, layout.BuiltFrom relaxedPairing.given →
      relaxedPairing.shader.checkPipeline layout = .ok () := by
  have hbuilt : mixedLayout.BuiltFrom mixedPairing.given := mixedLayout.builtFrom_entries
  have hok : mixedPairing.shader.checkPipeline mixedLayout = .ok () := by decide +kernel
  obtain ⟨empty, hempty⟩ : ∃ empty, GroupLayout.ofEntries [] = .ok empty :=
    GroupLayout.exists_ofEntries_eq_ok List.nodup_nil
  let second : LayoutEntry :=
    { binding := 0, visibility := ⟨1⟩, kind := .uniformBuffer, minSize := 32 }
  have hlarger : second.Relaxes { second with minSize := 48 } := .grown 48 (by decide) (by decide)
  let weights : ShaderBinding := { kind := .storageBuffer, minSize := 64 }
  have hweights : threeBuffers.Declares 0 1 weights := rfl
  -- an entry grows, an empty group is added, a declaration only reads, and one is left out
  have hsteps : Relation.ReflTransGen Relaxes mixedPairing relaxedPairing := by
    refine .head (.entry ⟨0, zero_lt_bindGroups⟩ (mixedEntries.take 1) (mixedEntries.drop 2) rfl hlarger) ?_
    refine .head (.addGroup ⟨1, one_lt_bindGroups⟩ rfl hempty) ?_
    refine .head (.declaration ⟨0, zero_lt_bindGroups⟩ 1 hweights (.readonly rfl)) ?_
    exact .single (.removeDeclaration ⟨0, zero_lt_bindGroups⟩ 5)
  exact ⟨hbuilt, hok, hsteps, relaxed_accepted hbuilt hok hsteps⟩

end Pairing

end ShaderKit
