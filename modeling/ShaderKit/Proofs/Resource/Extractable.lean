import Mathlib.Data.List.Nodup
import ShaderKit.Proofs.Resource.Contents

/-!
# Which inventories have metadata

An inventory has metadata exactly if it is extractable: its execution model is a stage, it uses nothing
that is not supported, its declarations are sound and name different slots, and its interface has the
locations that the stage needs.  The metadata then holds one binding for each declaration and nothing
else.

## Key results

- `Declaration.requirement_eq_ok_iff`: which declarations have a requirement, and which
- `declarationDefects_eq_nil_iff`, `Inventory.defects_eq_nil_iff`: when nothing is wrong
- `Inventory.extract_exact`: which inventories have metadata, and which
-/

namespace ShaderKit

/-- The execution model that runs in a stage. -/
def Stage.model : Stage → ExecutionModel
  | .vertex => .vertex
  | .fragment => .fragment
  | .compute => .compute

/-- All bindings, each with its group and binding number. -/
def EntryPointMetadata.allBindings (m : EntryPointMetadata) : List ((Nat × Nat) × ShaderBinding) :=
  (List.range Limits.bindGroups).flatMap fun group =>
    (m.group group).entries.map fun (binding, shader) => ((group, binding), shader)

namespace EntryPointMetadata

/-- The bindings are what is found in the groups. -/
theorem mem_allBindings {m : EntryPointMetadata} {group binding : Nat} {shader : ShaderBinding} :
    ((group, binding), shader) ∈ m.allBindings ↔ (m.group group).find? binding = some shader := by
  rw [NumberMap.find?_eq_some_iff]
  simp only [allBindings, List.mem_flatMap, List.mem_range, List.mem_map, Prod.mk.injEq]
  constructor
  · rintro ⟨g, _, ⟨b, x⟩, hmem, ⟨rfl, rfl⟩, rfl⟩
    exact hmem
  · intro hmem
    have hlt : group < Limits.bindGroups := by
      by_contra hge
      simp [EntryPointMetadata.group, hge, NumberMap.empty] at hmem
    exact ⟨group, hlt, _, hmem, ⟨rfl, rfl⟩, rfl⟩

/-- No slot has two bindings. -/
theorem nodup_allBindings (m : EntryPointMetadata) : (m.allBindings.map (·.1)).Nodup := by
  simp only [allBindings, List.map_flatMap, List.map_map, List.nodup_flatMap]
  constructor
  · intro g _
    refine List.pairwise_map.2 ((m.group g).ascending.imp fun {a b} hab heq => ?_)
    simp only [Function.comp_apply, Prod.mk.injEq, true_and] at heq
    omega
  · refine List.nodup_range.imp fun {g g'} hne => ?_
    simp only [Function.onFun, List.disjoint_left, List.mem_map]
    rintro _ ⟨y, _, rfl⟩ ⟨y', _, heq⟩
    simp only [Function.comp_apply, Prod.mk.injEq] at heq
    exact hne heq.1.symm

end EntryPointMetadata

namespace Resource

/-! ## What a resource says of its binding -/

namespace Kind

/-- The kinds of resource that a class is made of. -/
inductive StandsIn : Kind → BindingKind → Prop
  | uniformBuffer (size : UInt64) (nonWritable : Bool) :
    StandsIn (.buffer size nonWritable) .uniformBuffer
  | storageBuffer (size : UInt64) (nonWritable : Bool) :
    StandsIn (.buffer size nonWritable) .storageBuffer
  | image (dim : ImageDim) (arrayed multisampled : Bool) (component : Texture.ComponentType) :
    StandsIn (.sampledImage dim arrayed multisampled component) .sampledTexture
  | sampler : StandsIn .sampler .sampler
  | storageImage (dim : ImageDim) (arrayed multisampled : Bool) (format : Option Texture.Format)
      (nonReadable nonWritable : Bool) :
    StandsIn (.storageImage dim arrayed multisampled format nonReadable nonWritable) .storageTexture

/-- The formats that may be stored to. -/
def storageFormats : List Texture.Format :=
  [.r32Float, .r32Uint, .r32Sint, .rg32Float, .rg32Uint, .rg32Sint, .rgba8Unorm, .rgba8Snorm, .rgba8Uint,
   .rgba8Sint, .rgba16Float, .rgba16Uint, .rgba16Sint, .rgba32Float, .rgba32Uint, .rgba32Sint]

/-- The table of formats says of these, and of no others, that they may be stored to. -/
theorem storage_iff {format : Texture.Format} : format.storage = true ↔ format ∈ storageFormats := by
  cases format <;> decide

/-- Sampled images are of numbers, and storage images have a format that may be stored to. -/
def Usable : Kind → Prop
  | .sampledImage _ _ _ component => component ≠ .other
  | .storageImage _ _ _ format _ _ => ∃ f ∈ storageFormats, format = some f
  | _ => True

/-- The kind of binding in a class: where storage cannot be written, or not be read, it says so. -/
def access (cls : BindingKind) : Kind → BindingKind
  | .buffer _ nonWritable =>
    if cls = .storageBuffer ∧ nonWritable then .readonlyStorageBuffer else cls
  | .storageImage _ _ _ _ nonReadable nonWritable =>
    if nonReadable then .writeonlyStorageTexture
    else if nonWritable then .readonlyStorageTexture else cls
  | _ => cls

/-- The size that a buffer declares.  Nothing else declares one. -/
def size : Kind → UInt64
  | .buffer size _ => size
  | _ => 0

/-- How an image is viewed: arrays of squares and of cubes as arrays, all others as single images. -/
def viewed (dim : ImageDim) (arrayed : Bool) : Texture.ViewDimension :=
  match dim with
  | .d1 => .d1
  | .d2 => if arrayed then .d2Array else .d2
  | .d3 => .d3
  | .cube => if arrayed then .cubeArray else .cube

theorem view_eq_viewed (dim : ImageDim) (arrayed : Bool) : dim.view arrayed = viewed dim arrayed := by
  cases dim <;> cases arrayed <;> rfl

/-- How a resource is viewed, if it is an image. -/
def view? : Kind → Option Texture.ViewDimension
  | .sampledImage dim arrayed _ _ | .storageImage dim arrayed _ _ _ _ => some (viewed dim arrayed)
  | _ => none

/-- The components that are sampled.  Nothing else than a sampled image has any. -/
def component : Kind → Texture.ComponentType
  | .sampledImage _ _ _ component => component
  | _ => .other

/-- The format of a storage image. -/
def format? : Kind → Option Texture.Format
  | .storageImage _ _ _ format _ _ => format
  | _ => none

/-- Whether a resource is a multisampled image. -/
def multisampled : Kind → Bool
  | .sampledImage _ _ multisampled _ => multisampled
  | .storageImage _ _ multisampled _ _ _ => multisampled
  | _ => false

/-- The binding of a resource that stands in a class. -/
def bindingIn (cls : BindingKind) (kind : Kind) : ShaderBinding where
  kind := kind.access cls
  minSize := kind.size
  view := kind.view?
  component := kind.component
  format := kind.format?
  multisampled := kind.multisampled

end Kind

/-- A declaration of class `cls` that is right by itself. -/
structure Declaration.Sound (d : Declaration) (cls : BindingKind) : Prop where
  set : ∃ group < Limits.bindGroups, d.set = some group
  binding : ∃ binding ≤ Limits.bindingNumber, d.binding = some binding
  kind : d.kind.StandsIn cls
  usable : d.kind.Usable

/-- A declaration has a requirement exactly if its kind stands in the class and is usable. -/
theorem Declaration.requirement_eq_ok_iff {d : Declaration} {cls : BindingKind} {x : ShaderBinding} :
    d.requirement cls = .ok x ↔
      d.kind.StandsIn cls ∧ d.kind.Usable ∧ x = d.kind.bindingIn cls := by
  constructor
  · intro h
    obtain ⟨name, set, binding, kind⟩ := d
    -- a class has a requirement for one kind of resource
    cases cls with
    | uniformBuffer => cases kind with
      | buffer size nonWritable =>
        cases h
        exact ⟨.uniformBuffer .., trivial, rfl⟩
      | _ => exact nomatch h
    | storageBuffer => cases kind with
      | buffer size nonWritable =>
        cases h
        refine ⟨.storageBuffer .., trivial, ?_⟩
        cases nonWritable <;> rfl
      | _ => exact nomatch h
    | sampledTexture => cases kind with
      | sampledImage dim arrayed multisampled component =>
        -- the component has to be one of numbers
        by_cases hother : component = .other
        · exact nomatch (if_pos hother).symm.trans h
        · cases (if_neg hother).symm.trans h
          refine ⟨.image .., hother, ?_⟩
          rw [Kind.view_eq_viewed]
          rfl
      | _ => exact nomatch h
    | sampler => cases kind with
      | sampler =>
        cases h
        exact ⟨.sampler, trivial, rfl⟩
      | _ => exact nomatch h
    | storageTexture => cases kind with
      | storageImage dim arrayed multisampled format nonReadable nonWritable =>
        cases format with
        | none => exact nomatch h
        | some format =>
          -- the format has to be one that can be stored to
          by_cases hstorage : format.storage = true
          · cases (if_pos hstorage).symm.trans h
            refine ⟨.storageImage .., ⟨format, Kind.storage_iff.1 hstorage, rfl⟩, ?_⟩
            rw [Kind.view_eq_viewed]
            cases nonReadable <;> cases nonWritable <;> rfl
          · exact nomatch (if_neg hstorage).symm.trans h
      | _ => exact nomatch h
    | _ => cases kind <;> exact nomatch h
  · rintro ⟨hkind, husable, rfl⟩
    obtain ⟨name, set, binding, kind⟩ := d
    dsimp only at hkind husable ⊢
    -- and for this kind the requirement says what the resource says
    cases hkind with
    | uniformBuffer size nonWritable => rfl
    | storageBuffer size nonWritable => cases nonWritable <;> rfl
    | image dim arrayed multisampled component =>
      refine (if_neg husable).trans ?_
      rw [Kind.view_eq_viewed]
      rfl
    | sampler => rfl
    | storageImage dim arrayed multisampled format nonReadable nonWritable =>
      obtain ⟨format, hstorage, rfl⟩ := husable
      unfold requirement
      dsimp only
      rw [if_pos (Kind.storage_iff.2 hstorage), Kind.view_eq_viewed]
      cases nonReadable <;> cases nonWritable <;> rfl

/-- Nothing is wrong with a declaration exactly if it is sound and its slot is not taken. -/
theorem Declaration.defect?_eq_none_iff {d : Declaration} {cls : BindingKind}
    {taken : List (Nat × Nat)} : d.defect? cls taken = none ↔
      d.Sound cls ∧ ∀ slot, d.slot? = some slot → slot ∉ taken := by
  constructor
  · intro h
    obtain ⟨binding, group, x, hbinding, hset, hx, hgroup, hle, hfree⟩ := of_defect?_eq_none h
    obtain ⟨hkind, husable, _⟩ := requirement_eq_ok_iff.1 hx
    refine ⟨⟨⟨group, hgroup, hset⟩, ⟨binding, hle, hbinding⟩, hkind, husable⟩, ?_⟩
    rintro slot hslot
    simp only [slot?, hset, hbinding, Option.some.injEq] at hslot
    exact hslot ▸ hfree
  · rintro ⟨⟨⟨group, hgroup, hset⟩, ⟨binding, hle, hbinding⟩, hkind, husable⟩, hfree⟩
    -- no check fails: there is a slot, it is within the limits and free, and the kind is usable
    have hslot : d.slot? = some (group, binding) := by simp [slot?, hset, hbinding]
    unfold defect?
    simp only [hbinding, hset]
    rw [if_neg (Nat.not_le.2 hgroup), if_neg (Nat.not_lt.2 hle), if_neg (hfree _ hslot),
      requirement_eq_ok_iff.2 ⟨hkind, husable, rfl⟩]

/-- Nothing is wrong with declarations exactly if each is sound and all their slots are different. -/
theorem declarationDefects_eq_nil_iff {ds : List (BindingKind × Declaration)}
    {taken : List (Nat × Nat)} : declarationDefects taken ds = [] ↔
      (∀ c ∈ ds, c.2.Sound c.1) ∧ (ds.map (·.2.slot?)).Nodup ∧
        ∀ c ∈ ds, ∀ slot, c.2.slot? = some slot → slot ∉ taken := by
  -- each declaration takes its slot from those after it
  induction ds generalizing taken with
  | nil => simp [declarationDefects]
  | cons c rest ih =>
    obtain ⟨cls, d⟩ := c
    simp only [declarationDefects, List.append_eq_nil_iff, Option.toList_eq_nil_iff,
      Declaration.defect?_eq_none_iff, ih, List.forall_mem_cons, List.map_cons, List.nodup_cons]
    constructor
    · rintro ⟨⟨hsound, hfree⟩, hrest, hnodup, hfresh⟩
      refine ⟨⟨hsound, hrest⟩, ⟨?_, hnodup⟩, hfree, fun c hc slot hslot htaken => ?_⟩
      · -- a sound declaration has a slot, which the later ones found taken
        obtain ⟨⟨group, _, hset⟩, ⟨binding, _, hbinding⟩, _⟩ := hsound
        have hslot : d.slot? = some (group, binding) := by simp [Declaration.slot?, hset, hbinding]
        rw [List.mem_map]
        rintro ⟨c, hc, hsame⟩
        exact hfresh c hc _ (hsame.trans hslot) (by simp [hslot])
      · exact hfresh c hc slot hslot (List.mem_append_right _ htaken)
    · rintro ⟨⟨hsound, hrest⟩, ⟨hnew, hnodup⟩, hfree, hfresh⟩
      refine ⟨⟨hsound, hfree⟩, hrest, hnodup, fun c hc slot hslot htaken => ?_⟩
      -- the slot of a later one is neither that of the first nor one that was taken
      rcases List.mem_append.1 htaken with hhead | htaken
      · rw [Option.mem_toList] at hhead
        exact hnew (List.mem_map.2 ⟨c, hc, hslot.trans hhead.symm⟩)
      · exact hfresh c hc slot hslot htaken

/-- Some varying has no location exactly if not all have one. -/
private theorem Varying.any_isNone_iff {vs : List Varying} :
    vs.any (·.location.isNone) = true ↔ ¬ ∀ v ∈ vs, v.location ≠ none := by
  simp

/-- What holds at each location holds for each varying, if all have locations. -/
private theorem Varying.forall_located_iff (vs : List Varying)
    (P : Nat → Texture.ComponentType → Prop) :
    ((∀ v ∈ vs, v.location ≠ none) ∧ ∀ p ∈ located vs, P p.1 p.2) ↔
      ∀ v ∈ vs, ∃ location, v.location = some location ∧ P location v.component := by
  constructor
  · rintro ⟨hall, hP⟩ v hv
    obtain ⟨location, hlocation⟩ := Option.ne_none_iff_exists'.1 (hall v hv)
    exact ⟨location, hlocation, hP (location, _) (mem_located.2 ⟨v, hv, hlocation, rfl⟩)⟩
  · intro h
    refine ⟨fun v hv hnone => ?_, fun ⟨location, component⟩ hp => ?_⟩
    · obtain ⟨location, hlocation, _⟩ := h v hv
      exact nomatch hnone.symm.trans hlocation
    -- what is located comes from a varying with this location
    · obtain ⟨v, hv, hlocation, rfl⟩ := mem_located.1 hp
      obtain ⟨location', hlocation', hP⟩ := h v hv
      obtain rfl : location' = location := Option.some.inj (hlocation'.symm.trans hlocation)
      exact hP

namespace Inventory

/-- The declared resources, each with the class of the list that it is declared in. -/
def resources (r : Inventory) : List (BindingKind × Declaration) :=
  r.uniformBuffers.map (.uniformBuffer, ·) ++ r.images.map (.sampledTexture, ·)
    ++ r.samplers.map (.sampler, ·) ++ r.storageBuffers.map (.storageBuffer, ·)
    ++ r.storageImages.map (.storageTexture, ·)

/-- These are what extraction goes through. -/
theorem classified_eq_resources (r : Inventory) : r.classified = r.resources := rfl

/-- The inventory meets every rule. -/
structure Extractable (r : Inventory) : Prop where
  model : r.model = .vertex ∨ r.model = .fragment ∨ r.model = .compute
  pushConstants : r.pushConstants = 0
  combinedSamplers : r.combinedSamplers = 0
  sound : ∀ c ∈ r.resources, c.2.Sound c.1
  /-- No two declarations, of one class or of two, name the same slot. -/
  slots : (r.resources.map (·.2.slot?)).Nodup
  vertexInput : r.model = .vertex →
    ∀ v ∈ r.inputs, ∃ location < Limits.vertexAttributes, v.location = some location
  vertexOutput : r.model = .vertex → ∀ v ∈ r.outputs, v.location ≠ none
  fragmentInput : r.model = .fragment → ∀ v ∈ r.inputs, v.location ≠ none
  fragmentOutput : r.model = .fragment → ∀ v ∈ r.outputs,
    (∃ location < Limits.colorAttachments, v.location = some location) ∧ v.component ≠ .other

/-- The metadata says what the inventory says, and nothing else. -/
structure Yields (r : Inventory) (m : EntryPointMetadata) : Prop where
  stage : r.model = m.stage.model
  /-- There is one binding for each declaration, at its slot, which says what the resource says. -/
  bindings : (m.allBindings.map fun y => (some y.1, y.2)).Perm
    (r.resources.map fun c => (c.2.slot?, c.2.kind.bindingIn c.1))
  attributes : ∀ location, m.attributes.contains location = true ↔
    r.model = .vertex ∧ ∃ v ∈ r.inputs, v.location = some location
  bounded : m.attributes.Bounded
  /-- Of several outputs at one location the last one counts. -/
  outputs : ∀ location (h : location < Limits.colorAttachments),
    m.outputs[location] = if r.model = .fragment then r.colorAt location else .other

variable {r : Inventory}

/-- Nothing is wrong with the interface of a vertex shader exactly if all its inputs and outputs have
locations, those of the inputs below the limit. -/
private theorem vertexDefects_eq_nil_iff : r.vertexDefects = [] ↔
    (∀ v ∈ r.inputs, ∃ location < Limits.vertexAttributes, v.location = some location) ∧
      ∀ v ∈ r.outputs, v.location ≠ none := by
  have hinputs := Varying.forall_located_iff r.inputs
    fun location _ => location < Limits.vertexAttributes
  simp only [vertexDefects, List.append_eq_nil_iff, ite_eq_right_iff, List.cons_ne_nil, imp_false,
    List.map_eq_nil_iff, List.filter_eq_nil_iff, decide_eq_true_eq, Nat.not_le,
    Varying.any_isNone_iff, not_not, hinputs, and_comm (a := _ = some _)]

/-- A color output without a defect is of numbers and goes to a color target. -/
private theorem colorDefect?_eq_none_iff {p : Nat × Texture.ComponentType} :
    colorDefect? p = none ↔ p.1 < Limits.colorAttachments ∧ p.2 ≠ .other := by
  obtain ⟨location, component⟩ := p
  by_cases hlocation : Limits.colorAttachments ≤ location
  · simp [colorDefect?, hlocation, Nat.not_lt.2 hlocation]
  · simp [colorDefect?, hlocation, Nat.not_le.1 hlocation]

/-- Nothing is wrong with the interface of a fragment shader exactly if all its inputs and outputs have
locations, and the outputs are of numbers and go to color targets. -/
private theorem fragmentDefects_eq_nil_iff : r.fragmentDefects = [] ↔
    (∀ v ∈ r.inputs, v.location ≠ none) ∧ ∀ v ∈ r.outputs,
      (∃ location < Limits.colorAttachments, v.location = some location) ∧ v.component ≠ .other := by
  have houtputs := Varying.forall_located_iff r.outputs
    fun location component => location < Limits.colorAttachments ∧ component ≠ .other
  simp only [fragmentDefects, List.append_eq_nil_iff, ite_eq_right_iff, List.cons_ne_nil, imp_false,
    List.filterMap_eq_nil_iff, colorDefect?_eq_none_iff, Varying.any_isNone_iff, not_not, and_assoc,
    houtputs]
  refine and_congr_right fun _ => forall₂_congr fun v _ => ?_
  rw [← exists_and_right]
  exact exists_congr fun location => by tauto

/-- The interface of an inventory is right exactly if it has what its stage needs. -/
private theorem interfaceDefects_eq_nil_iff : r.interfaceDefects = [] ↔
    (r.model = .vertex → r.vertexDefects = []) ∧ (r.model = .fragment → r.fragmentDefects = []) := by
  unfold interfaceDefects
  split <;> simp_all

/-- Nothing is wrong with an inventory exactly if it is extractable. -/
theorem defects_eq_nil_iff : r.defects = [] ↔ r.Extractable := by
  have hmodel : r.modelDefects = [] ↔
      r.model = .vertex ∨ r.model = .fragment ∨ r.model = .compute := by
    unfold modelDefects
    cases r.model <;> simp
  simp only [defects, featureDefects, List.append_eq_nil_iff, ite_eq_right_iff, List.cons_ne_nil,
    imp_false, Nat.not_lt, Nat.le_zero, hmodel, classified_eq_resources, declarationDefects_eq_nil_iff,
    interfaceDefects_eq_nil_iff, vertexDefects_eq_nil_iff, fragmentDefects_eq_nil_iff]
  -- both sides list the same rules
  constructor
  · rintro ⟨⟨⟨hmodel, hpush, hcombined⟩, hsound, hslots, _⟩, hvertex, hfragment⟩
    exact ⟨hmodel, hpush, hcombined, hsound, hslots, fun h => (hvertex h).1, fun h => (hvertex h).2,
      fun h => (hfragment h).1, fun h => (hfragment h).2⟩
  · intro h
    exact ⟨⟨⟨h.model, h.pushConstants, h.combinedSamplers⟩, h.sound, h.slots,
      fun _ _ _ _ => List.not_mem_nil⟩, fun hv => ⟨h.vertexInput hv, h.vertexOutput hv⟩,
      fun hf => ⟨h.fragmentInput hf, h.fragmentOutput hf⟩⟩

/-- What an extractable inventory puts on a slot is what its declarations say. -/
private theorem Extractable.requires_iff (h : r.Extractable) {group binding : Nat}
    {x : ShaderBinding} : r.Requires group binding x ↔
      ∃ c ∈ r.resources, c.2.slot? = some (group, binding) ∧ c.2.kind.bindingIn c.1 = x := by
  refine exists_congr fun c => and_congr_right fun hc => ?_
  obtain ⟨⟨group', _, hset⟩, ⟨binding', _, hbinding⟩, hkind, husable⟩ := h.sound c hc
  simp only [Declaration.Requires, Declaration.requirement_eq_ok_iff, Declaration.slot?, hset, hbinding,
    Option.some.injEq, Prod.mk.injEq, hkind, husable, true_and, and_assoc, eq_comm (a := x)]

/-- An execution model that is a stage. -/
private theorem stage_eq_ok_iff {stage : Stage} : r.stage = .ok stage ↔ r.model = stage.model := by
  unfold Inventory.stage
  cases r.model <;> cases stage <;> simp [Stage.model]

/-- The slots of metadata hold what an extractable inventory puts on them exactly if there is one binding
for each declaration. -/
private theorem Extractable.slot_iff_perm (h : r.Extractable) {m : EntryPointMetadata} :
    (∀ group binding x, (m.group group).find? binding = some x ↔ r.Requires group binding x) ↔
      (m.allBindings.map fun y => (some y.1, y.2)).Perm
        (r.resources.map fun c => (c.2.slot?, c.2.kind.bindingIn c.1)) := by
  have hdeclared : (r.resources.map fun c => (c.2.slot?, c.2.kind.bindingIn c.1)).Nodup := by
    refine List.Nodup.of_map Prod.fst ?_
    simpa only [List.map_map, Function.comp_def] using h.slots
  have hbound : (m.allBindings.map fun y => (some y.1, y.2)).Nodup := by
    refine m.nodup_allBindings.of_map.map fun y y' heq => ?_
    simp only [Prod.mk.injEq, Option.some.injEq] at heq
    exact Prod.ext heq.1 heq.2
  -- a sound declaration names a slot
  have hsome (x : ShaderBinding) : (none, x) ∉
      r.resources.map fun c => (c.2.slot?, c.2.kind.bindingIn c.1) := by
    simp only [List.mem_map, Prod.mk.injEq]
    rintro ⟨c, hc, hnone, _⟩
    obtain ⟨⟨group, _, hset⟩, ⟨binding, _, hbinding⟩, _⟩ := h.sound c hc
    simp [Declaration.slot?, hset, hbinding] at hnone
  have hmem (slot : Nat × Nat) (x : ShaderBinding) :
      (some slot, x) ∈ m.allBindings.map (fun y => (some y.1, y.2)) ↔ (slot, x) ∈ m.allBindings := by
    simp
  -- neither list has an element twice, so it is enough to compare members
  rw [List.perm_ext_iff_of_nodup hbound hdeclared]
  simp only [Prod.forall, Option.forall, hsome, hmem, EntryPointMetadata.mem_allBindings,
    h.requires_iff]
  simp

/-- Metadata describes an extractable inventory exactly if this yields it. -/
private theorem Extractable.describes_iff (h : r.Extractable) {m : EntryPointMetadata} :
    r.Describes m ↔ r.Yields m := by
  constructor
  · intro hm
    exact ⟨stage_eq_ok_iff.1 hm.stage, h.slot_iff_perm.1 hm.slot, hm.location, hm.bounded, hm.color⟩
  · intro hm
    exact ⟨stage_eq_ok_iff.2 hm.stage, h.slot_iff_perm.2 hm.bindings, hm.attributes, hm.bounded,
      hm.outputs⟩

/-- An inventory has metadata exactly if it is extractable, and then the metadata that it yields. -/
theorem extract_exact (r : Inventory) :
    ((∃ m, r.extract = .ok m) ↔ r.Extractable) ∧
    ∀ m, r.extract = .ok m ↔ r.Extractable ∧ r.Yields m := by
  have hexact (m : EntryPointMetadata) : r.extract = .ok m ↔ r.Extractable ∧ r.Yields m := by
    rw [extract_eq_ok_iff, defects_eq_nil_iff]
    exact and_congr_right fun h => h.describes_iff
  refine ⟨⟨fun ⟨m, hm⟩ => ((hexact m).1 hm).1, fun h => ?_⟩, hexact⟩
  cases hextract : r.extract with
  | ok m => exact ⟨m, rfl⟩
  | error e =>
    rw [extract_eq_error_iff, defects_eq_nil_iff.2 h] at hextract
    exact nomatch hextract

end Inventory

end Resource

end ShaderKit
