import Mathlib.Data.List.ReduceOption
import ShaderKit.Proofs.Ir.Flattening
import ShaderKit.Proofs.Reflection.TypedInventory
import ShaderKit.Reflection.Backend

/-!
# Faithful representations

The cross compiler takes the inventory from a module of the typed representation.  Where that module has a
global variable for each declared resource, in the order of each class, and the declared stage interface,
nothing else about it matters: its inventory has the metadata of the declared one.  Each variable of a
buffer or of a storage image finds its own declaration, so the types of buffers and the access flags of
storage images are not looked at.

## Key results

- `Module.Represents`: the globals and the first entry point are what is declared
- `Represents.declaredKind?_eq`: a global variable finds the declaration that it stands for
- `Module.inventory_of_represents`: the inventory of such a module has the declared metadata
-/

namespace ShaderKit

open Resource

/-! ## What is declared in a class -/

/-- The declarations of one class, with that class. -/
def Resource.Inventory.ofClass (r : Inventory) (cls : BindingKind) : List (BindingKind × Declaration) :=
  r.classified.filter (·.1 = cls)

/-- An inventory is known class by class. -/
theorem Resource.Inventory.classified_eq_ofClass (r : Inventory) : r.classified =
    r.ofClass .uniformBuffer ++ r.ofClass .sampledTexture ++ r.ofClass .sampler ++
      r.ofClass .storageBuffer ++ r.ofClass .storageTexture := by
  simp [Inventory.ofClass, Inventory.classified, List.filter_append, List.filter_map,
    Function.comp_def]

/-- In what can be extracted, a declaration is known by its slot. -/
theorem Resource.Inventory.Extractable.eq_of_slot {r : Inventory} (h : r.Extractable)
    {c c' : BindingKind × Declaration} (hc : c ∈ r.classified) (hc' : c' ∈ r.classified)
    (hset : c.2.set = c'.2.set) (hbinding : c.2.binding = c'.2.binding) : c = c' :=
  List.inj_on_of_nodup_map h.slots hc hc' (by simp only [Declaration.slot?, hset, hbinding])

namespace Ir

/-! ## Representing what is declared -/

/-- A global variable has the name, the set and the binding that a declaration gives. -/
structure GlobalVariable.Names (v : GlobalVariable) (d : Declaration) : Prop where
  name : d.name = v.name.getD unnamed
  set : d.set = v.binding.map (·.group)
  binding : d.binding = v.binding.map (·.binding)

/-- The dimension that images of a dimension are declared with. -/
inductive ImageDimension.DeclaredAs : ImageDimension → ImageDim → Prop
  | d1 : DeclaredAs .d1 .d1
  | d2 : DeclaredAs .d2 .d2
  | d3 : DeclaredAs .d3 .d3
  | cube : DeclaredAs .cube .cube

theorem ImageDimension.DeclaredAs.imageDim_eq {dim : ImageDimension} {declared : ImageDim}
    (h : dim.DeclaredAs declared) : dim.imageDim = declared := by
  cases h <;> rfl

/-- The formats that may be stored to, with those that they are declared with. -/
def storedAs : List (StorageFormat × Texture.Format) :=
  [(.r32Float, .r32Float), (.r32Uint, .r32Uint), (.r32Sint, .r32Sint), (.rg32Float, .rg32Float),
   (.rg32Uint, .rg32Uint), (.rg32Sint, .rg32Sint), (.rgba8Unorm, .rgba8Unorm),
   (.rgba8Snorm, .rgba8Snorm), (.rgba8Uint, .rgba8Uint), (.rgba8Sint, .rgba8Sint),
   (.rgba16Float, .rgba16Float), (.rgba16Uint, .rgba16Uint), (.rgba16Sint, .rgba16Sint),
   (.rgba32Float, .rgba32Float), (.rgba32Uint, .rgba32Uint), (.rgba32Sint, .rgba32Sint)]

/-- None of the formats is missing that may be stored to, so no image that can be extracted is left out. -/
theorem mem_storedAs_iff {format : StorageFormat} {stored : Texture.Format} :
    (format, stored) ∈ storedAs ↔
      format.textureFormat? = some stored ∧ stored ∈ Kind.storageFormats := by
  constructor
  · have hall : ∀ p ∈ storedAs,
        p.1.textureFormat? = some p.2 ∧ p.2 ∈ Kind.storageFormats := by decide
    exact hall (format, stored)
  · rintro ⟨hformat, hstored⟩
    revert hstored
    cases format <;> cases hformat <;> decide

/-- The execution model that a stage is declared with. -/
inductive ShaderStage.DeclaredAs : ShaderStage → ExecutionModel → Prop
  | vertex : DeclaredAs .vertex .vertex
  | fragment : DeclaredAs .fragment .fragment
  | compute : DeclaredAs .compute .compute

theorem ShaderStage.DeclaredAs.model_eq {stage : ShaderStage} {model : ExecutionModel}
    (h : stage.DeclaredAs model) : stage.model = model := by
  cases h <;> rfl

namespace Module

/-- The classes and kinds of resource that a global variable can stand for.  A buffer may have any type, and
a storage image any access flags. -/
inductive StandsFor (m : Module) (v : GlobalVariable) : BindingKind → Resource.Kind → Prop
  | uniformBuffer (size : UInt64) (nonWritable : Bool) (hspace : v.space = .uniform) :
    StandsFor m v .uniformBuffer (.buffer size nonWritable)
  | storageBuffer (size : UInt64) (nonWritable : Bool) {access : StorageAccess}
      (hspace : v.space = .storage access) :
    StandsFor m v .storageBuffer (.buffer size nonWritable)
  | sampler (hspace : v.space = .handle) {t : TypeId} (hinside : Inside m.types v.type t)
      {comparison : Bool} (ht : m.shape? t = some (.sampler comparison)) :
    StandsFor m v .sampler .sampler
  | sampledImage (hspace : v.space = .handle) {t : TypeId} (hinside : Inside m.types v.type t)
      {dim : ImageDimension} {arrayed multisampled : Bool} {kind : ScalarKind} {declared : ImageDim}
      {component : Texture.ComponentType}
      (ht : m.shape? t = some (.image dim arrayed (.sampled kind multisampled)))
      (hdim : dim.DeclaredAs declared) (hcomponent : kind.DeclaredAs component) :
    StandsFor m v .sampledTexture (.sampledImage declared arrayed multisampled component)
  | depthImage (hspace : v.space = .handle) {t : TypeId} (hinside : Inside m.types v.type t)
      {dim : ImageDimension} {arrayed multisampled : Bool} {declared : ImageDim}
      (ht : m.shape? t = some (.image dim arrayed (.depth multisampled)))
      (hdim : dim.DeclaredAs declared) :
    StandsFor m v .sampledTexture (.sampledImage declared arrayed multisampled .float)
  | storageImage (nonReadable nonWritable : Bool) (hspace : v.space = .handle) {t : TypeId}
      (hinside : Inside m.types v.type t) {dim : ImageDimension} {arrayed : Bool}
      {format : StorageFormat} {access : StorageAccess} {declared : ImageDim}
      {stored : Texture.Format}
      (ht : m.shape? t = some (.image dim arrayed (.storage format access)))
      (hdim : dim.DeclaredAs declared) (hformat : (format, stored) ∈ storedAs) :
    StandsFor m v .storageTexture
      (.storageImage declared arrayed false (some stored) nonReadable nonWritable)

/-- What a global variable shows: the declaration that it stands for, or nothing if it is not shared with
the outside. -/
inductive Shows (m : Module) (v : GlobalVariable) : Option (BindingKind × Declaration) → Prop
  | resource {cls : BindingKind} {d : Declaration} (hnames : v.Names d)
      (hkind : m.StandsFor v cls d.kind) : Shows m v (some (cls, d))
  | nothing (hspace : v.space = .private_ ∨ v.space = .workgroup ∨ v.space = .function) :
    Shows m v none

/-- An entry point has the declared stage, and takes and gives what is declared, in any order. -/
structure Offers (m : Module) (entry : EntryPoint) (declared : Inventory) : Prop where
  model : entry.stage.DeclaredAs declared.model
  inputs : ∃ slots : Argument → List (Option Nat × Texture.ComponentType),
    (∀ a ∈ entry.function.arguments, Flattens m.types a.binding a.type (slots a)) ∧
      (entry.function.arguments.flatMap slots).Perm (declared.inputs.map Varying.slot)
  outputs : ∃ slots : Result → List (Option Nat × Texture.ComponentType),
    (∀ x ∈ entry.function.result, Flattens m.types x.binding x.type (slots x)) ∧
      (entry.function.result.toList.flatMap slots).Perm (declared.outputs.map Varying.slot)

/-- A module represents what is declared: its globals show the declarations, those of each class in their
order, and its first entry point offers the declared interface. -/
structure Represents (m : Module) (declared : Inventory) : Prop where
  globals : ∃ shown, List.Forall₂ m.Shows m.globals shown ∧
    ∀ cls, shown.reduceOption.filter (·.1 = cls) = declared.ofClass cls
  entry : ∃ entry, m.entryPoints.head? = some entry ∧ m.Offers entry declared
  /-- No two outputs are declared at one location. -/
  locations : (declared.outputs.filterMap (·.location)).Nodup

variable {m : Module} {declared : Inventory} {v : GlobalVariable} {cls : BindingKind}
  {d : Declaration}

/-! ## Global variables -/

/-- The shape inside all arrays of bindings. -/
private theorem bindingShape?_of_inside {t : TypeId} (h : Inside m.types v.type t) :
    m.bindingShape? v = m.shape? t := by
  rw [bindingShape?, h.stripBindingArrays_eq]

/-- A global variable stands in the class of what it stands for. -/
theorem StandsFor.classOf?_eq {kind : Resource.Kind} (h : m.StandsFor v cls kind) :
    m.classOf? v = some cls := by
  cases h with
  | uniformBuffer size nonWritable hspace => simp only [classOf?, hspace]
  | storageBuffer size nonWritable hspace => simp only [classOf?, hspace]
  | sampler hspace hinside ht => simp only [classOf?, hspace, bindingShape?_of_inside hinside, ht]
  | sampledImage hspace hinside ht _ _ =>
    simp only [classOf?, hspace, bindingShape?_of_inside hinside, ht]
  | depthImage hspace hinside ht _ => simp only [classOf?, hspace, bindingShape?_of_inside hinside, ht]
  | storageImage nonReadable nonWritable hspace hinside ht _ _ =>
    simp only [classOf?, hspace, bindingShape?_of_inside hinside, ht]

/-- The declarations that a global variable is looked up among. -/
private theorem mem_counterparts : d ∈ declared.uniformBuffers ++ declared.storageBuffers ++
    declared.storageImages ↔ ∃ cls, (cls = .uniformBuffer ∨ cls = .storageBuffer ∨
      cls = .storageTexture) ∧ (cls, d) ∈ declared.classified := by
  simp [Inventory.classified, or_and_right, exists_or]

/-- Among these a global variable finds the one that it stands for. -/
theorem declaredKind?_eq (hdeclared : declared.Extractable) (hnames : v.Names d)
    (hd : (cls, d) ∈ declared.classified)
    (hcls : cls = .uniformBuffer ∨ cls = .storageBuffer ∨ cls = .storageTexture) :
    declaredKind? declared v = some d.kind := by
  -- something is found, as `d` itself would be, and what is found has the slot of `d`
  unfold declaredKind? counterpart?
  rw [← hnames.name, ← hnames.set, ← hnames.binding, Option.map_eq_some_iff]
  cases hfind : (declared.uniformBuffers ++ declared.storageBuffers ++ declared.storageImages).find?
      fun x => x.name == d.name && x.set == d.set && x.binding == d.binding with
  | none =>
    have hnone := List.find?_eq_none.1 hfind d (mem_counterparts.2 ⟨cls, hcls, hd⟩)
    exact absurd hnone (by simp)
  | some x =>
    -- two declarations with one slot are one declaration
    obtain ⟨cls', _, hx⟩ := mem_counterparts.1 (List.mem_of_find?_eq_some hfind)
    have hsame := List.find?_some hfind
    simp only [Bool.and_eq_true, beq_iff_eq] at hsame
    have heq := hdeclared.eq_of_slot hx hd hsame.1.2 hsame.2
    exact ⟨x, rfl, congrArg (·.2.kind) heq⟩

/-- What a global variable stands for is of the declared kind. -/
theorem StandsFor.kindOf_eq (h : m.StandsFor v cls d.kind) (hdeclared : declared.Extractable)
    (hnames : v.Names d) (hd : (cls, d) ∈ declared.classified) :
    m.kindOf declared v = .ok d.kind := by
  have hfind := declaredKind?_eq hdeclared hnames hd
  -- buffers and storage images take size and access from what is found, the others have neither
  generalize hkind : d.kind = kind at h hfind
  cases h with
  | uniformBuffer size nonWritable hspace =>
    simp only [kindOf, hspace, hfind (.inl rfl), bufferKind]
  | storageBuffer size nonWritable hspace =>
    simp only [kindOf, hspace, hfind (.inr (.inl rfl)), bufferKind]
  | sampler hspace hinside ht => simp only [kindOf, hspace, bindingShape?_of_inside hinside, ht]
  | sampledImage hspace hinside ht hdim hcomponent =>
    simp only [kindOf, hspace, bindingShape?_of_inside hinside, ht, imageKind, hdim.imageDim_eq,
      hcomponent.component_eq]
  | depthImage hspace hinside ht hdim =>
    simp only [kindOf, hspace, bindingShape?_of_inside hinside, ht, imageKind, hdim.imageDim_eq]
  | storageImage nonReadable nonWritable hspace hinside ht hdim hformat =>
    simp only [kindOf, hspace, bindingShape?_of_inside hinside, ht, imageKind, hdim.imageDim_eq,
      (mem_storedAs_iff.1 hformat).1, hfind (.inr (.inr rfl))]

/-- Push constants stand for nothing. -/
private theorem StandsFor.space_ne {kind : Resource.Kind} (h : m.StandsFor v cls kind) :
    v.space ≠ .pushConstant := by
  cases h <;> simp_all

/-- A variable that stands for a declaration is declared that way itself. -/
private theorem declarationOf_eq (hnames : v.Names d) : declarationOf v d.kind = d := by
  obtain ⟨name, set, binding, kind⟩ := d
  obtain ⟨rfl, rfl, rfl⟩ := hnames
  rfl

/-- A variable that shows nothing stands in no class. -/
private theorem classOf?_of_private
    (hspace : v.space = .private_ ∨ v.space = .workgroup ∨ v.space = .function) :
    m.classOf? v = none := by
  rcases hspace with hspace | hspace | hspace <;> simp only [classOf?, hspace]

variable {vs : List GlobalVariable} {shown : List (Option (BindingKind × Declaration))}

/-- In each class the inventory has what the variables stand for. -/
theorem shownIn_eq (hdeclared : declared.Extractable) (h : List.Forall₂ m.Shows vs shown)
    (hshown : ∀ c ∈ shown.reduceOption, c ∈ declared.classified) :
    m.shownIn declared cls vs = (shown.reduceOption.filter (·.1 = cls)).map (·.2) := by
  -- on the globals together with what each of them shows
  induction h with
  | nil => rfl
  | @cons v x vs shown hv _ ih =>
    cases hv with
    | nothing hspace =>
      -- what shows nothing is skipped in every class
      have hskip : m.shownIn declared cls (v :: vs) = m.shownIn declared cls vs :=
        List.filterMap_cons_none (by simp [classOf?_of_private hspace])
      rw [hskip, List.reduceOption_cons_of_none]
      exact ih hshown
    | @resource cls' d hnames hkind =>
      simp only [List.reduceOption_cons_of_some, List.forall_mem_cons] at hshown
      have hrest := ih hshown.2
      -- a resource is shown in its own class, with the declared kind
      have hkindOf : (m.kindOf declared v).toOption = some d.kind := by
        rw [hkind.kindOf_eq hdeclared hnames hshown.1]
        rfl
      rw [List.reduceOption_cons_of_some, shownIn, List.filterMap_cons, List.filter_cons]
      rw [shownIn] at hrest
      by_cases hcls : cls' = cls
      · simp [hkind.classOf?_eq, hcls, hkindOf, declarationOf_eq hnames, hrest]
      · simp [hkind.classOf?_eq, hcls, hrest]

/-- No variable lacks a size. -/
theorem sizeFault?_eq_none (hdeclared : declared.Extractable) (h : List.Forall₂ m.Shows vs shown)
    (hshown : ∀ c ∈ shown.reduceOption, c ∈ declared.classified) :
    ∀ v ∈ vs, m.sizeFault? declared v = none := by
  intro v hv
  obtain ⟨x, hx, hshows⟩ := h.exists_mem_right hv
  cases hshows with
  | nothing hspace => simp only [sizeFault?, classOf?_of_private hspace]
  | resource hnames hkind =>
    have hmem := hshown _ (List.reduceOption_mem_iff.2 hx)
    simp only [sizeFault?, hkind.classOf?_eq, hkind.kindOf_eq hdeclared hnames hmem]

/-- No variable is a push constant. -/
private theorem countP_pushConstant (h : List.Forall₂ m.Shows vs shown) :
    vs.countP (·.space = .pushConstant) = 0 := by
  rw [List.countP_eq_zero]
  intro v hv
  obtain ⟨x, hx, hshows⟩ := h.exists_mem_right hv
  cases hshows with
  | nothing hspace => rcases hspace with hspace | hspace | hspace <;> simp [hspace]
  | resource hnames hkind => simp [hkind.space_ne]

/-! ## The inventory -/

/-- What a representation shows is what is declared, resource by resource, with the varyings in some
order. -/
theorem Represents.shown_spec (h : m.Represents declared) (hdeclared : declared.Extractable) :
    ∃ r, m.inventory declared = .ok r ∧ r.classified = declared.classified ∧
      declared.Rearranged r := by
  obtain ⟨⟨shown, hshows, hclasses⟩, ⟨entry, hentry, hoffers⟩, _⟩ := h
  -- whatever is shown is declared in its class
  have hshown : ∀ c ∈ shown.reduceOption, c ∈ declared.classified := by
    intro c hc
    have hfilter : c ∈ shown.reduceOption.filter (·.1 = c.1) := List.mem_filter.2 ⟨hc, by simp⟩
    rw [hclasses] at hfilter
    exact (List.mem_filter.1 hfilter).1
  have hin (cls : BindingKind) :
      (m.shownIn declared cls m.globals).map (cls, ·) = declared.ofClass cls := by
    have hsame : ∀ c ∈ declared.ofClass cls, (cls, c.2) = c := by
      intro c hc
      obtain rfl : c.1 = cls := of_decide_eq_true (List.mem_filter.1 hc).2
      rfl
    rw [shownIn_eq hdeclared hshows hshown, hclasses, List.map_map]
    exact (List.map_congr_left hsame).trans (List.map_id _)
  -- class by class, what is shown is what is declared
  have hclassified : (m.shown declared entry).classified = declared.classified := by
    rw [declared.classified_eq_ofClass, ← hin, ← hin, ← hin, ← hin, ← hin]
    rfl
  obtain ⟨inputs, hinputs, hinputsPerm⟩ := hoffers.inputs
  obtain ⟨outputs, houtputs, houtputsPerm⟩ := hoffers.outputs
  refine ⟨m.shown declared entry, inventory_eq_ok_iff.2 ⟨entry, hentry,
    sizeFault?_eq_none hdeclared hshows hshown, rfl⟩, hclassified, ?_⟩
  exact {
    model := hoffers.model.model_eq
    pushConstants := by
      rw [hdeclared.pushConstants]
      exact (Nat.zero_add _).trans (countP_pushConstant hshows)
    combinedSamplers := rfl
    classified := .of_eq hclassified
    inputs := by
      have heq : (m.shown declared entry).inputs.map Varying.slot =
          entry.function.arguments.flatMap inputs := by
        simp only [Module.shown, shownWith, interfaceOf, List.map_flatMap]
        exact List.flatMap_congr fun a ha => (hinputs a ha).map_slot_varyingsFrom a.name
      rwa [heq]
    outputs := by
      have heq : (m.shown declared entry).outputs.map Varying.slot =
          entry.function.result.toList.flatMap outputs := by
        simp only [Module.shown, shownWith, interfaceOf, List.map_flatMap]
        exact List.flatMap_congr fun x hx =>
          (houtputs x (Option.mem_toList.1 hx)).map_slot_varyingsFrom none
      rwa [heq] }

/-- Outputs at different locations are of one component type at each. -/
theorem Represents.oneColorEach (h : m.Represents declared) : declared.OneColorEach := by
  intro _ v hv w hw location hlocation hsame
  -- different outputs have different locations, so only one can be at `location`
  have hpairwise : declared.outputs.Pairwise fun v w =>
      ∀ location, v.location = some location → w.location = some location →
        v.component = w.component := by
    refine (List.pairwise_filterMap.1 h.locations).imp fun {v w} hne location hv hw => ?_
    exact absurd rfl (hne location hv location hw)
  have hflip := hpairwise.imp fun {v w} hvw location hw hv => (hvw location hv hw).symm
  exact List.Pairwise.forall_of_forall_of_flip (fun _ _ _ _ _ => rfl) hpairwise hflip hv hw location
    hlocation hsame

/-- Where what words declare has metadata, every module that represents what they declare has an inventory with
the same resources and the same metadata.  If such a module is what the words are read as, that is the
inventory that the cross compiler finds. -/
theorem inventory_of_represents {words : List Spirv.Word} {metadata : EntryPointMetadata}
    (hdeclared : Spirv.declaredInventory words = .ok declared)
    (hmetadata : declared.extract = .ok metadata) (h : m.Represents declared) :
    ∃ r, m.inventory declared = .ok r ∧ r.extract = .ok metadata ∧
      r.classified = declared.classified ∧
      (Reflection.lift? words = .ok (some m) → Reflection.collect .crossCompiler words = .ok r) := by
  have hextractable := ((Inventory.extract_exact declared).1).1 ⟨metadata, hmetadata⟩
  obtain ⟨r, hr, hclassified, hrearranged⟩ := h.shown_spec hextractable
  refine ⟨r, hr, hrearranged.extract_eq_ok h.oneColorEach hmetadata, hclassified, fun hlift => ?_⟩
  simp [Reflection.collect, Reflection.crossCompiled, hdeclared, hlift, hr, bind, Except.bind]

/-! ### A shader and a representation of it -/

/-- A fragment shader with a uniform buffer, a storage image that it only writes, two inputs and a color. -/
def tinted : List Spirv.Word :=
  [0x07230203, 0x00010300, 7, 21, 0, 0x00020011, 1, 0x0003000e, 0, 1, 0x0008000f, 4, 1, 0x6e69616d,
   0, 4, 5, 6, 0x00030010, 1, 7, 0x00030005, 2, 0x006d6163, 0x00030005, 3, 0x00676d69, 0x00030005,
   4, 30325, 0x00030047, 13, 2, 0x00050048, 13, 0, 35, 0, 0x00040047, 2, 34, 0, 0x00040047, 2, 33,
   0, 0x00040047, 3, 34, 0, 0x00040047, 3, 33, 1, 0x00030047, 3, 25, 0x00040047, 4, 30, 1,
   0x00040047, 5, 30, 0, 0x00030047, 5, 14, 0x00040047, 6, 30, 0, 0x00020013, 7, 0x00030021, 8, 7,
   0x00030016, 9, 32, 0x00040017, 10, 9, 4, 0x00040017, 11, 9, 2, 0x00040015, 12, 32, 0, 0x0003001e,
   13, 10, 0x00040020, 14, 2, 13, 0x00090019, 15, 9, 1, 0, 0, 0, 2, 4, 0x00040020, 16, 0, 15,
   0x00040020, 17, 1, 11, 0x00040020, 18, 1, 12, 0x00040020, 19, 3, 10, 0x0004003b, 14, 2, 2,
   0x0004003b, 16, 3, 0, 0x0004003b, 17, 4, 1, 0x0004003b, 18, 5, 1, 0x0004003b, 19, 6, 3,
   0x00050036, 7, 1, 0, 8, 0x000200f8, 20, 0x000100fd, 0x00010038]

/-- Its uniform buffer. -/
def tintedCamera : Declaration := ⟨"cam", some 0, some 0, .buffer 16 true⟩

/-- Its storage image. -/
def tintedImage : Declaration :=
  ⟨"img", some 0, some 1, .storageImage .d2 false false (some .rgba8Unorm) true false⟩

/-- What it declares. -/
def tintedInventory : Inventory where
  model := .fragment
  uniformBuffers := [tintedCamera]
  storageImages := [tintedImage]
  inputs := [⟨"uv", some 1, .float⟩, ⟨"<unnamed>", some 0, .uint⟩]
  outputs := [⟨"<unnamed>", some 0, .float⟩]

theorem tintedInventory_extractable : tintedInventory.Extractable where
  model := by decide
  pushConstants := rfl
  combinedSamplers := rfl
  sound := List.forall_mem_cons.2 ⟨⟨⟨0, by decide, rfl⟩, ⟨0, by decide, rfl⟩, .uniformBuffer .., trivial⟩,
    List.forall_mem_singleton.2 ⟨⟨0, by decide, rfl⟩, ⟨1, by decide, rfl⟩, .storageImage ..,
      ⟨_, by decide, rfl⟩⟩⟩
  slots := by decide
  vertexInput := nofun
  vertexOutput := nofun
  fragmentInput _ := by decide
  fragmentOutput _ := by decide

/-- The members of a struct that holds one of its inputs. -/
def tintedLayer : List StructMember := [⟨some "layer", 3, some (.location 0 false (some .flat) none), 0⟩]

/-- The members of a struct that holds this one and the rest of its inputs. -/
def tintedVaryings : List StructMember := [⟨none, 5, some (.builtIn (.position false)), 0⟩, ⟨none, 6, none, 16⟩,
  ⟨some "uv", 4, some (.location 1 false none none), 24⟩]

/-- A representation of it in which the buffer is of a type without a size, the image is an array of bindings
that can be read and written, and one input is a member of a member. -/
def opaqueTinted : Module where
  types := [{ shape := .accelerationStructure },
    { shape := .image .d2 false (.storage .rgba8Unorm .readWrite) },
    { shape := .bindingArray 1 (.constant 1) },
    { shape := .scalar { kind := .uint, width := 4 } },
    { shape := .vector .two { kind := .float, width := 4 } },
    { shape := .vector .four { kind := .float, width := 4 } },
    { shape := .struct tintedLayer 4 },
    { shape := .struct tintedVaryings 32 }]
  globals := [{ name := some "img", space := .handle, binding := some ⟨0, 1⟩, type := 2 },
    { space := .private_, type := 3 },
    { name := some "cam", space := .uniform, binding := some ⟨0, 0⟩, type := 0 }]
  entryPoints := [{
    name := "main"
    stage := .fragment
    function := {
      arguments := [⟨none, 7, none⟩]
      result := some ⟨5, some (.location 0 false none none)⟩ } }]

theorem opaqueTinted_shows : List.Forall₂ opaqueTinted.Shows opaqueTinted.globals
    [some (.storageTexture, tintedImage), none, some (.uniformBuffer, tintedCamera)] := by
  refine .cons ?image (.cons ?color (.cons ?camera .nil))
  case image =>
    have hinside : Inside opaqueTinted.types 2 1 := .array (by rfl) (.self (by simp [opaqueTinted]))
    have hshape : opaqueTinted.shape? 1 =
        some (.image .d2 false (.storage .rgba8Unorm .readWrite)) := rfl
    exact .resource ⟨rfl, rfl, rfl⟩ (.storageImage true false rfl hinside hshape .d2 (by decide))
  case color => exact .nothing (.inl rfl)
  case camera => exact .resource ⟨rfl, rfl, rfl⟩ (.uniformBuffer 16 true rfl)

theorem opaqueTinted_inputs :
    Flattens opaqueTinted.types none 7 [(some 0, .uint), (some 1, .float)] := by
  have hlayer : HasComponent opaqueTinted.types 3 .uint :=
    .scalar (s := { kind := .uint, width := 4 }) rfl .uint
  have huv : HasComponent opaqueTinted.types 4 .float :=
    .vector (s := { kind := .float, width := 4 }) rfl .float
  have hinner : opaqueTinted.types[6]? = some ⟨none, .struct tintedLayer 4⟩ := rfl
  have houter : opaqueTinted.types[7]? = some ⟨none, .struct tintedVaryings 32⟩ := rfl
  -- the layer is in a struct of its own, inside the struct of varyings
  have hmember : Flattens opaqueTinted.types none 6 [(some 0, .uint)] :=
    .members hinner (fun _ => [(some 0, .uint)])
      (List.forall_mem_singleton.2 (.location _ _ _ _ hlayer))
  refine .members houter (fun m => match m.type with
    | 5 => []
    | 6 => [(some 0, .uint)]
    | _ => [(some 1, .float)]) ?_
  exact List.forall_mem_cons.2 ⟨.builtIn .., List.forall_mem_cons.2 ⟨hmember,
    List.forall_mem_singleton.2 (.location _ _ _ _ huv)⟩⟩

theorem opaqueTinted_color : Flattens opaqueTinted.types (some (.location 0 false none none)) 5
    [(some 0, .float)] :=
  .location _ _ _ _ (.vector (s := { kind := .float, width := 4 }) rfl .float)

theorem opaqueTinted_represents : opaqueTinted.Represents tintedInventory where
  globals := by
    refine ⟨_, opaqueTinted_shows, fun cls => ?_⟩
    cases cls <;> rfl
  entry := by
    refine ⟨_, rfl, .fragment, ?inputs, ?outputs⟩
    case inputs =>
      exact ⟨fun _ => [(some 0, .uint), (some 1, .float)],
        List.forall_mem_singleton.2 opaqueTinted_inputs, .swap ..⟩
    case outputs =>
      refine ⟨fun _ => [(some 0, .float)], fun x hx => ?_, .refl _⟩
      cases hx
      exact opaqueTinted_color
  locations := by decide

theorem inventory_of_represents_tinted : ∃ declared metadata r,
    Spirv.declaredInventory tinted = .ok declared ∧ declared.extract = .ok metadata ∧
    opaqueTinted.Represents declared ∧ opaqueTinted.inventory declared = .ok r ∧
    r.extract = .ok metadata ∧ r.classified = declared.classified := by
  -- the words declare the inventory that the opaque type and the arrays stand for
  obtain ⟨declared, hdeclared, rfl⟩ := Except.exists_eq_ok_of_decide
    (x := Spirv.declaredInventory tinted) (P := (· = tintedInventory)) (by decide +kernel)
  obtain ⟨metadata, hmetadata⟩ := (Inventory.extract_exact _).1.2 tintedInventory_extractable
  obtain ⟨r, hr, hextract, hclassified, _⟩ :=
    inventory_of_represents hdeclared hmetadata opaqueTinted_represents
  exact ⟨tintedInventory, metadata, r, hdeclared, hmetadata, opaqueTinted_represents, hr, hextract,
    hclassified⟩

end Module

end Ir

end ShaderKit
