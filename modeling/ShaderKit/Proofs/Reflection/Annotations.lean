import Mathlib.Data.List.Nodup
import ShaderKit.Proofs.Std.Except
import ShaderKit.Proofs.Std.List
import ShaderKit.Reflection.Backend

/-!
# The order of annotations and names

Of several names of an id the last one counts, and of several equal decorations the first one.  Where there are
not several, neither order counts: every question about names and decorations has the same answer, so every
step of the inventory does the same.

## Key results

- `Module.Distinct`: no id is named twice, and nothing is decorated twice in the same way
- `Definitions.Alike`: two tables with the same definitions and the same answers
- `Alike.addGlobal_eq`: what a global declares depends on these answers only
- `Module.inventory_of_perm`: annotations and names in another order leave the inventory as it is
-/

namespace ShaderKit.Spirv

/-- No id has a decoration twice, no struct member has one twice, and no id has two names. -/
structure Module.Distinct (m : Module) : Prop where
  decorations : ((m.annotations.filterMap (·.decorating?)).map fun d =>
    (d.target, d.decoration)).Nodup
  memberDecorations : ((m.annotations.filterMap (·.memberDecorating?)).map fun d =>
    (d.target, d.member, d.decoration)).Nodup
  names : ((m.names.filterMap (·.naming?)).map (·.1)).Nodup

namespace Definitions

/-- The same definitions, and the same answers about names and decorations. -/
structure Alike (d e : Definitions) : Prop where
  values : e.values = d.values
  name : e.name = d.name
  decoration? : e.decoration? = d.decoration?
  isEmpty_ofMembers : ∀ struct decoration,
    (e.ofMembers struct decoration).isEmpty = (d.ofMembers struct decoration).isEmpty
  memberHas : e.memberHas = d.memberHas
  memberLiteral? : e.memberLiteral? = d.memberLiteral?

/-- The same answers about types, constants and pointers, which read no names and no decorations. -/
structure SameTypes (d e : Definitions) : Prop where
  get : e.get = d.get
  find? : e.find? = d.find?
  walkFuel : e.walkFuel = d.walkFuel
  pointee : e.pointee = d.pointee
  element? : e.element? = d.element?
  scalarComponent : e.scalarComponent = d.scalarComponent
  memberCount : e.memberCount = d.memberCount
  lengthOf : e.lengthOf = d.lengthOf

/-! ## Annotations in another order -/

section Order

variable {m : Module} {annotations names : List Instruction}

/-- Decorations of an id are found in any order. -/
private theorem find?_decorations (hdistinct : m.Distinct)
    (h : annotations.Perm m.annotations) (id : Id) (decoration : Word) :
    (annotations.filterMap (·.decorating?)).find? (fun d => d.target == id && d.decoration == decoration) =
      (m.annotations.filterMap (·.decorating?)).find?
        (fun d => d.target == id && d.decoration == decoration) := by
  refine (h.filterMap _).find?_eq fun a ha b hb hpa hpb => ?_
  -- two that are found alike decorate the same id in the same way
  simp only [Bool.and_eq_true, beq_iff_eq] at hpa hpb
  refine List.inj_on_of_nodup_map hdistinct.decorations ha hb ?_
  rw [hpa.1, hpa.2, hpb.1, hpb.2]

/-- Decorations of a member are found in any order. -/
private theorem find?_memberDecorations (hdistinct : m.Distinct)
    (h : annotations.Perm m.annotations) (struct : Id) (member decoration : Word) :
    ((annotations.filterMap (·.memberDecorating?)).filter
        (fun d => d.target == struct && d.decoration == decoration)).find? (·.member == member) =
      ((m.annotations.filterMap (·.memberDecorating?)).filter
        (fun d => d.target == struct && d.decoration == decoration)).find? (·.member == member) := by
  refine ((h.filterMap _).filter _).find?_eq fun a ha b hb hpa hpb => ?_
  simp only [List.mem_filter, Bool.and_eq_true, beq_iff_eq] at ha hb hpa hpb
  refine List.inj_on_of_nodup_map hdistinct.memberDecorations ha.1 hb.1 ?_
  rw [ha.2.1, ha.2.2, hb.2.1, hb.2.2, hpa, hpb]

/-- Names are looked up in any order. -/
private theorem lookup_names (hdistinct : m.Distinct) (h : names.Perm m.names) (id : Id) :
    (names.reverse.filterMap (·.naming?)).lookup id =
      (m.names.reverse.filterMap (·.naming?)).lookup id := by
  have hperm : names.reverse.Perm m.names.reverse :=
    (names.reverse_perm.trans h).trans m.names.reverse_perm.symm
  refine (hperm.filterMap _).lookup_eq ?_ id
  exact ((m.names.reverse_perm.filterMap _).map _).nodup_iff.2 hdistinct.names

/-- Annotations and names in another order answer every question alike. -/
theorem alike_of_perm (hdistinct : m.Distinct) (hannotations : annotations.Perm m.annotations)
    (hnames : names.Perm m.names) :
    Alike (ofModule m) (ofModule { m with annotations := annotations, names := names }) where
  values := rfl
  -- of each id there is one name, and of each id or member one decoration of a kind
  name := by
    funext id
    exact congrArg (·.getD "<unnamed>") (lookup_names hdistinct hnames id)
  decoration? := by
    funext id decoration
    exact congrArg (Option.map _) (find?_decorations hdistinct hannotations id decoration)
  isEmpty_ofMembers struct decoration := ((hannotations.filterMap _).filter _).isEmpty_eq
  memberHas := by
    funext struct member decoration
    exact ((hannotations.filterMap _).filter _).any_eq
  memberLiteral? := by
    funext struct member decoration
    have hfind := find?_memberDecorations hdistinct hannotations struct member decoration
    simp only [memberLiteral?, ofMembers, ofModule, hfind]

end Order

/-! ## What the inventory reads -/

namespace Alike

variable {d e : Definitions}

theorem types (h : d.Alike e) : d.SameTypes e := by
  obtain ⟨values, _, _, _⟩ := d
  obtain ⟨values', _, _, _⟩ := e
  obtain rfl : values' = values := h.values
  exact ⟨rfl, rfl, rfl, rfl, rfl, rfl, rfl, rfl⟩

theorem stripArrays_eq (h : d.Alike e) : e.stripArrays = d.stripArrays := by
  have hfrom (fuel : Nat) : e.stripArraysFrom fuel = d.stripArraysFrom fuel := by
    induction fuel with
    | zero => rfl
    | succ fuel ih =>
      funext type
      simp only [stripArraysFrom, h.types.element?, ih]
  funext type
  simp only [stripArrays, h.types.walkFuel, hfrom]

theorem component_eq (h : d.Alike e) : e.component = d.component := by
  have hfrom (fuel : Nat) : e.componentFrom fuel = d.componentFrom fuel := by
    induction fuel with
    | zero => rfl
    | succ fuel ih =>
      funext type
      simp only [componentFrom, h.stripArrays_eq, h.types.find?, h.types.scalarComponent, ih]
  funext type
  simp only [component, h.types.walkFuel, hfrom]

theorem hasDecoration_eq (h : d.Alike e) : e.hasDecoration = d.hasDecoration := by
  funext id decoration
  simp only [hasDecoration, h.decoration?]

theorem literal?_eq (h : d.Alike e) : e.literal? = d.literal? := by
  funext id decoration
  simp only [literal?, h.decoration?]

theorem declaration_eq (h : d.Alike e) : e.declaration = d.declaration := by
  funext id kind
  simp only [declaration, h.name, h.literal?_eq]

theorem isBuiltin_eq (h : d.Alike e) : e.isBuiltin = d.isBuiltin := by
  funext var pointee
  simp only [isBuiltin, h.stripArrays_eq, h.hasDecoration_eq, h.isEmpty_ofMembers]

theorem isNonWritable_eq (h : d.Alike e) : e.isNonWritable = d.isNonWritable := by
  funext var block
  simp only [isNonWritable, h.types.memberCount, h.hasDecoration_eq, h.memberHas]

/-- The size of a block reads strides and offsets, which are decorations. -/
theorem blockSize_eq (h : d.Alike e) : e.blockSize = d.blockSize := by
  have hmatrix : e.matrixSize = d.matrixSize := by
    funext struct member matrix name
    simp only [matrixSize, h.types.get, h.memberLiteral?, h.memberHas]
  have hdefined : e.definedSize = d.definedSize := by
    funext name type measure inst
    simp only [definedSize, arraySize, runtimeArraySize, structSize, h.types.get, h.types.lengthOf,
      hmatrix, h.literal?_eq, h.memberLiteral?]
  -- each step of the walk asks the same and goes on with less fuel
  have hfrom (name : String) (fuel : Nat) : e.sizeFrom name fuel = d.sizeFrom name fuel := by
    induction fuel with
    | zero => rfl
    | succ fuel ih =>
      funext type
      simp only [sizeFrom, h.types.get, hdefined, ih]
  funext type name
  simp only [blockSize, h.types.walkFuel, hfrom]

theorem addHandle_eq (h : d.Alike e) : e.addHandle = d.addHandle := by
  have himage : e.addImage = d.addImage := by
    funext id image r
    simp only [addImage, h.name, h.declaration_eq, h.hasDecoration_eq, h.types.scalarComponent]
  funext id pointee r
  simp only [addHandle, h.types.get, h.stripArrays_eq, himage, h.declaration_eq]

theorem addBuffer_eq (h : d.Alike e) : e.addBuffer = d.addBuffer := by
  funext id pointee storageClass r
  simp only [addBuffer, h.stripArrays_eq, h.hasDecoration_eq, h.blockSize_eq, h.name, h.isNonWritable_eq,
    h.declaration_eq]

theorem addVarying_eq (h : d.Alike e) : e.addVarying = d.addVarying := by
  funext interface id pointee storageClass r
  simp only [addVarying, h.isBuiltin_eq, h.name, h.literal?_eq, h.component_eq]

/-- What a global instruction declares depends on these answers only. -/
theorem addGlobal_eq (h : d.Alike e) : e.addGlobal = d.addGlobal := by
  funext interface r inst
  simp only [addGlobal, h.types.pointee, h.addVarying_eq, h.addBuffer_eq, h.addHandle_eq]

end Alike

end Definitions

/-! ## The inventory -/

/-- Annotations and names in any other order leave what a module declares as it is, its failures included, if
nothing is decorated or named twice.  So it is for words that are read as a module and as the module with
the other order. -/
theorem Module.inventory_of_perm {m : Module} {annotations names : List Instruction}
    (hdistinct : m.Distinct) (hannotations : annotations.Perm m.annotations)
    (hnames : names.Perm m.names) :
    ({ m with annotations := annotations, names := names } : Module).inventory = m.inventory ∧
    ∀ words words', Module.ofWords words = .ok m →
      Module.ofWords words' = .ok { m with annotations := annotations, names := names } →
      Reflection.collect .reflectionService words' = Reflection.collect .reflectionService words := by
  -- the inventory only asks what a permutation answers alike
  have halike := Definitions.alike_of_perm hdistinct hannotations hnames
  have hinventory : ({ m with annotations := annotations, names := names } : Module).inventory =
      m.inventory := by
    simp only [Module.inventory, halike.addGlobal_eq]
  refine ⟨hinventory, fun words words' hm hm' => ?_⟩
  simp only [Reflection.collect, declaredInventory, hm, hm', Except.mapError]
  exact hinventory

/-! ### A storage buffer -/

instance (m : Module) : Decidable m.Distinct :=
  decidable_of_iff (_ ∧ _ ∧ _) ⟨fun ⟨h₁, h₂, h₃⟩ => ⟨h₁, h₂, h₃⟩, fun ⟨h₁, h₂, h₃⟩ => ⟨h₁, h₂, h₃⟩⟩

/-- A compute shader with a storage buffer of two words, with names and annotations in some order. -/
def storageWords (names annotations : List (List Word)) : List Word :=
  [0x07230203, 0x00010300, 7, 9, 0, 0x00020011, 1, 0x0003000e, 0, 1, 0x0005000f, 5, 3, 0x6e69616d, 0,
    0x00060010, 3, 17, 1, 1, 1] ++ names.flatten ++ annotations.flatten ++
  [0x00020013, 1, 0x00030021, 2, 1, 0x00040015, 5, 32, 0, 0x0004001e, 6, 5, 5, 0x00040020, 7, 12, 6,
    0x0004003b, 7, 8, 12, 0x00050036, 1, 3, 0, 2, 0x000200f8, 4, 0x000100fd, 0x00010038]

/-- The names of its block and of its buffer. -/
def storageNames : List (List Word) := [[0x00030005, 6, 0x006b6c42], [0x00030005, 8, 0x00667562]]

/-- The offsets of its words, and the set and binding of its buffer. -/
def storageAnnotations : List (List Word) :=
  [[0x00050048, 6, 0, 35, 0], [0x00050048, 6, 1, 35, 4], [0x00040048, 6, 1, 24], [0x00030047, 6, 2],
    [0x00040047, 8, 34, 0], [0x00040047, 8, 33, 1]]

theorem inventory_of_perm_reverse : ∃ m,
    Module.ofWords (storageWords storageNames storageAnnotations) = .ok m ∧ m.Distinct ∧
    Module.ofWords (storageWords storageNames.reverse storageAnnotations.reverse) =
      .ok { m with annotations := m.annotations.reverse, names := m.names.reverse } ∧
    m.annotations.length = 6 ∧
    Reflection.collect .reflectionService
        (storageWords storageNames.reverse storageAnnotations.reverse) =
      Reflection.collect .reflectionService (storageWords storageNames storageAnnotations) := by
  -- the module is what the words are read as
  obtain ⟨m, hm, hdistinct, hreversed, hlength⟩ := Except.exists_eq_ok_of_decide
    (x := Module.ofWords (storageWords storageNames storageAnnotations))
    (P := fun m => m.Distinct ∧
      Module.ofWords (storageWords storageNames.reverse storageAnnotations.reverse) =
        .ok { m with annotations := m.annotations.reverse, names := m.names.reverse } ∧
      m.annotations.length = 6)
    (by decide +kernel)
  have hcollect := (Module.inventory_of_perm hdistinct (List.reverse_perm _)
    (List.reverse_perm _)).2 _ _ hm hreversed
  exact ⟨m, hm, hdistinct, hreversed, hlength, hcollect⟩

end ShaderKit.Spirv
