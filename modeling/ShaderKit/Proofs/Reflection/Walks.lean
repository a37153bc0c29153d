import ShaderKit.Proofs.Std.Except
import ShaderKit.Proofs.Std.Walk
import ShaderKit.Reflection.Backend
import ShaderKit.Validation.Check

/-!
# Walks over type definitions

Reflection follows type definitions: from an array to its element, from a vector or matrix to its component,
and from a block to the last member that its size depends on.  Definitions may lead back to themselves, and
then a walk over them never ends.  The error `cyclicType` stands for exactly that: the bound on the steps is
never what stops a walk that ends.

## Key results

- `isSome_after?_walkFuel_iff`: the bound on the steps is more than any walk needs that ends
- `hangs_stripArrays_iff`, `hangs_component_iff`, `hangs_blockSize_iff`: each walk fails to end exactly where
  the definitions do not
- `hangs_addGlobal_iff`: the walks that a variable starts
- `collect_hangs_iff`: for which words reflection comes to no result
-/

namespace ShaderKit

open Spirv

/-- A computation that comes to no result, because it walks over types without end. -/
def Hangs {α : Type} (x : Except ReflectionError α) : Prop :=
  ∃ type, x = .error (.cyclicType type)

section Hangs

variable {α β : Type} {x : Except ReflectionError α} {f : α → Except ReflectionError β}

@[simp] theorem not_hangs_ok (a : α) : ¬ Hangs (.ok a) := nofun

@[simp] theorem not_hangs_pure (a : α) : ¬ Hangs (pure a) := nofun

@[simp] theorem hangs_error_iff (e : ReflectionError) :
    Hangs (.error e : Except ReflectionError α) ↔ ∃ type, e = .cyclicType type := by
  simp [Hangs]

@[simp] theorem hangs_throw_iff (e : ReflectionError) :
    Hangs (throw e : Except ReflectionError α) ↔ ∃ type, e = .cyclicType type :=
  hangs_error_iff e

/-- A chain hangs in its first part or in what follows. -/
@[simp] theorem hangs_bind_iff : Hangs (x >>= f) ↔ Hangs x ∨ ∃ a, x = .ok a ∧ Hangs (f a) := by
  cases x with
  | error e => simp [bind, Except.bind]
  | ok a => simp [bind, Except.bind]

@[simp] theorem hangs_map_iff (g : α → β) : Hangs (g <$> x) ↔ Hangs x := by
  cases x with
  | error e => simp [Functor.map, Except.map]
  | ok a => simp [Functor.map, Except.map]

/-- A size that does not fit in 64 bits is a result of its own. -/
@[simp] theorem not_hangs_byteSize (n : Nat) : ¬ Hangs (byteSize n) := by
  unfold byteSize
  split <;> simp

end Hangs

/-- The declaration of a variable: its id, its pointer type and its storage class. -/
def Spirv.Instruction.IsVariable (inst : Instruction) (id pointer : Id) (storageClass : Word) : Prop :=
  inst.opcode = Op.var ∧ inst.result = some id ∧ inst.resultType = some pointer ∧
    inst.operands.head? = some (.value .storageClass storageClass)

namespace Spirv.Definitions

open Walk

variable (defs : Definitions) {type : Id} {fuel : Nat}

@[simp] theorem not_hangs_get (type : Id) : ¬ Hangs (defs.get type) := by
  unfold get
  cases defs.find? type <;> simp

/-- As many steps as there are definitions are enough for a walk that ends. -/
theorem isSome_after?_walkFuel_iff {next? : Id → Option Id}
    (hnext : ∀ t u, next? t = some u → ∃ inst, defs.find? t = some inst) (type : Id) :
    (after? next? defs.walkFuel type).isSome = true ↔ Endless next? type := by
  refine ⟨fun hlong => ?_, fun h => h _⟩
  have hlength : defs.walkFuel = (defs.values.map (·.1)).length + 1 := by
    rw [List.length_map, walkFuel]
  rw [hlength] at hlong
  -- only types with a definition have a next one, so a longer walk comes to one type twice
  refine endless_of_length_lt (fun t u htu => ?_) hlong
  obtain ⟨inst, hinst⟩ := hnext t u htu
  obtain ⟨l₁, l₂, hl, _⟩ := List.lookup_eq_some_iff.1 hinst
  rw [hl]
  simp

/-! ### Arrays -/

theorem find?_of_element? {t u : Id} (h : defs.element? t = some u) :
    ∃ inst, defs.find? t = some inst := by
  unfold element? at h
  cases hfind : defs.find? t with
  | none =>
    rw [hfind] at h
    exact nomatch h
  | some inst => exact ⟨inst, rfl⟩

theorem hangs_stripArraysFrom_iff (fuel : Nat) (type : Id) :
    Hangs (defs.stripArraysFrom fuel type) ↔ (after? defs.element? fuel type).isSome = true := by
  -- each array takes a step of the walk and one of the fuel
  induction fuel generalizing type with
  | zero => simp [stripArraysFrom, after?]
  | succ fuel ih =>
    rw [stripArraysFrom, after?]
    cases defs.element? type with
    | none => simp
    | some element => exact ih element

/-- Stripping arrays does not end where the arrays do not. -/
theorem hangs_stripArrays_iff (type : Id) :
    Hangs (defs.stripArrays type) ↔ Endless defs.element? type :=
  (defs.hangs_stripArraysFrom_iff defs.walkFuel type).trans
    (defs.isSome_after?_walkFuel_iff (fun _ _ => defs.find?_of_element?) type)

/-- Else it ends with a type, at the end of the arrays. -/
theorem stripArraysFrom_of_not_hangs (h : ¬ Hangs (defs.stripArraysFrom fuel type)) :
    ∃ u n, defs.stripArraysFrom fuel type = .ok u ∧ after? defs.element? n type = some u ∧
      defs.element? u = none := by
  induction fuel generalizing type with
  | zero => exact absurd ⟨type, rfl⟩ h
  | succ fuel ih =>
    rw [stripArraysFrom] at h ⊢
    cases helement : defs.element? type with
    | none => exact ⟨type, 0, rfl, rfl, helement⟩
    | some element =>
      rw [helement] at h
      obtain ⟨u, n, hu, hn, hlast⟩ := ih h
      refine ⟨u, n + 1, hu, ?_, hlast⟩
      rw [after?, helement]
      exact hn

/-! ### Scalars -/

/-- The component type of a vector or matrix type. -/
def component? (type : Id) : Option Id :=
  (defs.find? type).bind fun inst =>
    if inst.opcode = Op.typeVector ∨ inst.opcode = Op.typeMatrix then
      match inst.operands with
      | .id component :: _ => some component
      | _ => none
    else none

/-- The type that the scalars of a type are to be found in. -/
def inner? (type : Id) : Option Id := (defs.element? type).or (defs.component? type)

theorem inner?_of_element? {t u : Id} (h : defs.element? t = some u) : defs.inner? t = some u := by
  rw [inner?, h]
  rfl

theorem find?_of_inner? {t u : Id} (h : defs.inner? t = some u) :
    ∃ inst, defs.find? t = some inst := by
  cases hfind : defs.find? t with
  | none => simp [inner?, element?, component?, hfind] at h
  | some inst => exact ⟨inst, rfl⟩

/-- The search for scalars goes through the arrays and then into a component. -/
theorem hangs_componentFrom_succ (fuel : Nat) (type : Id) :
    Hangs (defs.componentFrom (fuel + 1) type) ↔ Hangs (defs.stripArrays type) ∨
      ∃ u, defs.stripArrays type = .ok u ∧
        ∃ v, defs.component? u = some v ∧ Hangs (defs.componentFrom fuel v) := by
  rw [componentFrom, hangs_bind_iff]
  refine or_congr_right (exists_congr fun u => and_congr_right fun _ => ?_)
  rw [component?]
  cases defs.find? u with
  | none => simp
  | some inst =>
    dsimp only [Option.bind_some]
    -- only vectors and matrices have a component to go on with
    by_cases hcompound : inst.opcode = Op.typeVector ∨ inst.opcode = Op.typeMatrix
    · rw [if_pos hcompound, if_pos hcompound]
      cases inst.operands with
      | nil => simp
      | cons operand rest => cases operand <;> simp
    · rw [if_neg hcompound, if_neg hcompound]
      split <;> simp

/-- Inside the arrays of a type the search goes on with a component. -/
theorem inner?_of_stripArrays {t u : Id} (h : defs.stripArrays t = .ok u) :
    (∃ n, after? defs.inner? n t = some u) ∧ defs.inner? u = defs.component? u := by
  have hends : ¬ Hangs (defs.stripArrays t) := by simp [h]
  obtain ⟨v, n, hv, hn, hlast⟩ := defs.stripArraysFrom_of_not_hangs hends
  cases h.symm.trans hv
  refine ⟨⟨n, after?_of_imp (fun _ _ => defs.inner?_of_element?) hn⟩, ?_⟩
  rw [inner?, hlast, Option.none_or]

theorem isSome_of_hangs_componentFrom (h : Hangs (defs.componentFrom fuel type)) :
    (after? defs.inner? fuel type).isSome = true := by
  -- Each component costs fuel, and the arrays around it are further steps.
  induction fuel generalizing type with
  | zero => rfl
  | succ fuel ih =>
    rcases (defs.hangs_componentFrom_succ fuel type).1 h with harrays | ⟨u, hu, v, hv, hrest⟩
    · have hendless := (defs.hangs_stripArrays_iff type).1 harrays
      exact (hendless.of_imp fun _ _ => defs.inner?_of_element?) _
    · obtain ⟨⟨n, hn⟩, hinner⟩ := defs.inner?_of_stripArrays hu
      refine isSome_after?_of_le (Nat.le_add_left (fuel + 1) n) ?_
      rw [after?_add, hn, Option.bind_some, after?, hinner, hv]
      exact ih hrest

theorem hangs_componentFrom_of_endless (fuel : Nat) (h : Endless defs.inner? type) :
    Hangs (defs.componentFrom fuel type) := by
  induction fuel generalizing type with
  | zero => exact ⟨type, rfl⟩
  | succ fuel ih =>
    refine (defs.hangs_componentFrom_succ fuel type).2 (or_iff_not_imp_left.2 fun harrays => ?_)
    -- the arrays end, so the endless walk goes on behind them, with a component
    obtain ⟨u, _, hu, _⟩ := defs.stripArraysFrom_of_not_hangs harrays
    obtain ⟨⟨n, hn⟩, hinner⟩ := defs.inner?_of_stripArrays hu
    obtain ⟨v, hv, hrest⟩ := endless_iff_step.1 ((endless_iff_after hn).1 h)
    exact ⟨u, hu, v, hinner ▸ hv, ih hrest⟩

/-- The search for a component type does not end where the types do not. -/
theorem hangs_component_iff (type : Id) :
    Hangs (defs.component type) ↔ Endless defs.inner? type := by
  refine ⟨fun h => ?_, defs.hangs_componentFrom_of_endless _⟩
  exact (defs.isSome_after?_walkFuel_iff (fun _ _ => defs.find?_of_inner?) type).1
    (defs.isSome_of_hangs_componentFrom h)

/-! ### Sizes -/

/-- The type that the size of a type is computed from: the component of a vector, and the last member of
a struct, if its offset is known and it is no matrix. -/
def measured? (type : Id) : Option Id :=
  (defs.find? type).bind fun inst =>
    if inst.opcode = Op.typeVector then
      match inst.operands with
      | [.id component, .word _] => some component
      | _ => none
    else if inst.opcode = Op.typeStruct then
      match inst.operands.getLast? with
      | some (.id member) =>
        if (defs.memberLiteral? type (UInt32.ofNat (inst.operands.length - 1)) Decoration.offset).isSome ∧
            (defs.find? member).any (·.opcode ≠ Op.typeMatrix) then some member
        else none
      | _ => none
    else none

theorem not_hangs_lengthOf (id : Id) : ¬ Hangs (defs.lengthOf id) := by
  unfold lengthOf
  simp only [hangs_bind_iff, not_hangs_get, false_or, not_exists, not_and]
  intro inst _
  split <;> simp

theorem not_hangs_matrixSize (struct : Id) (member : Nat) (matrix : Id) (name : String) :
    ¬ Hangs (defs.matrixSize struct member matrix name) := by
  unfold matrixSize
  split
  · simp only [hangs_bind_iff, not_hangs_get, false_or, not_exists, not_and]
    intro inst _
    split
    · simp only [pure_bind]
      split
      · simp only [hangs_bind_iff, not_hangs_get, false_or, not_exists, not_and]
        intro column _
        split <;> simp
      · simp
    · simp
  · simp

/-- A vector is measured without end where its component is. -/
private theorem hangs_vectorSize_iff {name : String} {type : Id}
    {measure : Id → Except ReflectionError UInt64} {operands : List Operand} :
    Hangs (vectorSize name type measure operands) ↔ ∃ component count,
      operands = [.id component, .word count] ∧ Hangs (measure component) := by
  unfold vectorSize
  split
  · simp
  · rename_i hnone
    refine iff_of_false (by simp) ?_
    rintro ⟨component, count, rfl, _⟩
    exact hnone _ _ rfl

/-- A struct is measured without end where its last member is, if that has an offset and is no matrix. -/
private theorem hangs_structSize_iff {name : String} {type : Id}
    {measure : Id → Except ReflectionError UInt64} {members : List Operand} :
    Hangs (defs.structSize name type measure members) ↔ ∃ member,
      members.getLast? = some (.id member) ∧
      ((defs.memberLiteral? type (UInt32.ofNat (members.length - 1)) Decoration.offset).isSome ∧
        (defs.find? member).any (·.opcode ≠ Op.typeMatrix)) ∧ Hangs (measure member) := by
  unfold structSize
  cases hlast : members.getLast? with
  | none => simp
  | some last =>
    cases last with
    | id member =>
      dsimp only
      -- without an offset, or without a definition of the member, that is an error
      cases defs.memberLiteral? type (UInt32.ofNat (members.length - 1)) Decoration.offset with
      | none => simp
      | some offset =>
        simp only [get]
        cases hfind : defs.find? member with
        | none => simp [hfind]
        | some inst =>
          -- of a matrix only the stride counts, which is found at once
          by_cases hmatrix : inst.opcode = Op.typeMatrix
          · simp [hfind, hmatrix, not_hangs_matrixSize]
          · simp [hfind, hmatrix]
    | _ => simp

/-- What is neither a vector nor a struct is measured at once. -/
private theorem not_hangs_definedSize {name : String} {type : Id}
    {measure : Id → Except ReflectionError UInt64} {inst : Instruction}
    (hvector : inst.opcode ≠ Op.typeVector) (hstruct : inst.opcode ≠ Op.typeStruct) :
    ¬ Hangs (defs.definedSize name type measure inst) := by
  rw [definedSize, if_neg hvector, if_neg hstruct]
  -- numbers, arrays, runtime arrays, and whatever has no size
  split
  · unfold numberSize
    split <;> simp
  split
  · unfold arraySize
    split
    · split <;> simp [not_hangs_lengthOf]
    · simp
  split
  · unfold runtimeArraySize
    split <;> simp
  split <;> simp

/-- The size of a type is without end where that of the type is that it is computed from. -/
theorem hangs_sizeFrom_succ (name : String) (fuel : Nat) (type : Id) :
    Hangs (defs.sizeFrom name (fuel + 1) type) ↔
      ∃ u, defs.measured? type = some u ∧ Hangs (defs.sizeFrom name fuel u) := by
  rw [sizeFrom, measured?, get]
  cases hfind : defs.find? type with
  | none => simp
  | some inst =>
    simp only [Option.bind_some, hangs_bind_iff, not_hangs_ok, false_or, Except.ok.injEq,
      exists_eq_left']
    -- a vector is measured by its component, a struct by its last member
    by_cases hvector : inst.opcode = Op.typeVector
    · rw [definedSize_vector hvector, if_pos hvector, hangs_vectorSize_iff]
      split
      · rename_i component count hoperands
        simp [hoperands]
      · rename_i hnone
        refine iff_of_false ?_ (by simp)
        rintro ⟨component, count, hoperands, _⟩
        exact hnone component count hoperands
    by_cases hstruct : inst.opcode = Op.typeStruct
    · rw [definedSize_struct hstruct, if_neg hvector, if_pos hstruct, hangs_structSize_iff]
      split
      · rename_i member hlast
        simp [hlast]
      · rename_i hnone
        refine iff_of_false ?_ (by simp)
        rintro ⟨member, hlast, _⟩
        exact hnone member hlast
    · rw [if_neg hvector, if_neg hstruct]
      exact iff_of_false (defs.not_hangs_definedSize hvector hstruct) (by simp)

theorem find?_of_measured? {t u : Id} (h : defs.measured? t = some u) :
    ∃ inst, defs.find? t = some inst := by
  obtain ⟨inst, hinst, _⟩ := Option.bind_eq_some_iff.1 h
  exact ⟨inst, hinst⟩

theorem hangs_sizeFrom_iff (name : String) (fuel : Nat) (type : Id) :
    Hangs (defs.sizeFrom name fuel type) ↔ (after? defs.measured? fuel type).isSome = true := by
  induction fuel generalizing type with
  | zero => simp [sizeFrom, after?]
  | succ fuel ih =>
    rw [hangs_sizeFrom_succ, after?]
    cases defs.measured? type with
    | none => simp
    | some u => simpa using ih u

/-- The size of a block is not found where the types do not end that it is computed from. -/
theorem hangs_blockSize_iff (type : Id) (name : String) :
    Hangs (defs.blockSize type name) ↔ Endless defs.measured? type :=
  (defs.hangs_sizeFrom_iff name defs.walkFuel type).trans
    (defs.isSome_after?_walkFuel_iff (fun _ _ => defs.find?_of_measured?) type)

/-! ### Variables -/

/-- A walk over the types of a variable that does not end.  An input or output of the interface is looked
through for its scalars, unless it is a builtin; all others are looked at inside their arrays, and a buffer is
measured there. -/
inductive EndlessFrom (interface : List Id) (id pointee : Id) (storageClass : Word) : Prop
  | varying (hclass : storageClass = StorageClass.input ∨ storageClass = StorageClass.output)
      (hinterface : id ∈ interface) (hbuiltin : defs.hasDecoration id Decoration.builtIn = false)
      (hmembers : ∀ block, defs.stripArrays pointee = .ok block →
        defs.ofMembers block Decoration.builtIn = [])
      (hendless : Endless defs.inner? pointee)
  | arrays (hclass : storageClass = StorageClass.uniform ∨ storageClass = StorageClass.storageBuffer ∨
        storageClass = StorageClass.uniformConstant)
      (hendless : Endless defs.element? pointee)
  | block (hclass : storageClass = StorageClass.uniform ∨ storageClass = StorageClass.storageBuffer)
      (block : Id) (hblock : defs.stripArrays pointee = .ok block)
      (hendless : Endless defs.measured? block)

variable (interface : List Id) (id pointee : Id) (storageClass : Word) (r : Resource.Inventory)

theorem not_hangs_addImage (image : Instruction) : ¬ Hangs (defs.addImage id image r) := by
  unfold addImage
  split
  · split
    · split <;> simp
    · simp
  · simp

theorem hangs_addHandle_iff : Hangs (defs.addHandle id pointee r) ↔ Endless defs.element? pointee := by
  rw [addHandle, ← hangs_stripArrays_iff, hangs_bind_iff, or_iff_left]
  rintro ⟨type, _, h⟩
  rw [hangs_bind_iff] at h
  -- inside the arrays nothing is walked over any more
  rcases h with h | ⟨inst, _, h⟩
  · exact defs.not_hangs_get type h
  · revert h
    split
    · exact not_hangs_pure _
    · split
      · exact not_hangs_pure _
      · split
        · exact defs.not_hangs_addImage id r inst
        · exact not_hangs_pure _

theorem hangs_addBuffer_iff : Hangs (defs.addBuffer id pointee storageClass r) ↔
    Endless defs.element? pointee ∨
      ∃ block, defs.stripArrays pointee = .ok block ∧ Endless defs.measured? block := by
  rw [addBuffer, hangs_bind_iff, hangs_stripArrays_iff]
  refine or_congr_right (exists_congr fun block => and_congr_right fun _ => ?_)
  rw [hangs_bind_iff, hangs_blockSize_iff, or_iff_left]
  rintro ⟨size, _, h⟩
  revert h
  dsimp only
  split <;> exact not_hangs_pure _

theorem hangs_isBuiltin_iff : Hangs (defs.isBuiltin id pointee) ↔
    defs.hasDecoration id Decoration.builtIn = false ∧ Endless defs.element? pointee := by
  rw [isBuiltin, ← hangs_stripArrays_iff]
  cases defs.hasDecoration id Decoration.builtIn <;> simp

theorem isBuiltin_eq_false_iff : defs.isBuiltin id pointee = .ok false ↔
    defs.hasDecoration id Decoration.builtIn = false ∧
      ∃ block, defs.stripArrays pointee = .ok block ∧
        defs.ofMembers block Decoration.builtIn = [] := by
  rw [isBuiltin]
  cases defs.hasDecoration id Decoration.builtIn with
  | true => simp [pure, Except.pure]
  | false => simp [Except.bind_eq_ok_iff, pure, Except.pure]

theorem hangs_addVarying_iff : Hangs (defs.addVarying interface id pointee storageClass r) ↔
    id ∈ interface ∧ defs.hasDecoration id Decoration.builtIn = false ∧
      (∀ block, defs.stripArrays pointee = .ok block →
        defs.ofMembers block Decoration.builtIn = []) ∧ Endless defs.inner? pointee := by
  by_cases hinterface : id ∈ interface
  -- first it is found out whether it is a builtin, then the component is looked for
  · have hcollect : Hangs (defs.addVarying interface id pointee storageClass r) ↔
        Hangs (defs.isBuiltin id pointee) ∨
          defs.isBuiltin id pointee = .ok false ∧ Endless defs.inner? pointee := by
      rw [addVarying, ← hangs_component_iff]
      simp [hinterface]
    rw [hcollect, hangs_isBuiltin_iff, isBuiltin_eq_false_iff]
    constructor
    · rintro (⟨hbuiltin, hendless⟩ | ⟨⟨hbuiltin, block, hblock, hmembers⟩, hendless⟩)
      · -- where the arrays do not end, no block is found inside them
        refine ⟨hinterface, hbuiltin, fun block hblock => ?_, ?_⟩
        · have hhangs := (defs.hangs_stripArrays_iff pointee).2 hendless
          rw [hblock] at hhangs
          exact absurd hhangs (not_hangs_ok block)
        · exact hendless.of_imp fun _ _ => defs.inner?_of_element?
      · refine ⟨hinterface, hbuiltin, fun block' hblock' => ?_, hendless⟩
        cases hblock.symm.trans hblock'
        exact hmembers
    · rintro ⟨_, hbuiltin, hmembers, hendless⟩
      -- if the arrays end, the block inside them has no builtins, and the search for the component
      -- goes on
      by_cases harrays : Endless defs.element? pointee
      · exact .inl ⟨hbuiltin, harrays⟩
      · obtain ⟨block, _, hblock, _⟩ := defs.stripArraysFrom_of_not_hangs
          fun h => harrays ((defs.hangs_stripArrays_iff pointee).1 h)
        exact .inr ⟨⟨hbuiltin, block, hblock, hmembers block hblock⟩, hendless⟩
  · simp [addVarying, hinterface]

/-- The walk over a variable's types that does not end, by the storage class. -/
theorem endlessFrom_varying_iff
    (hclass : storageClass = StorageClass.input ∨ storageClass = StorageClass.output) :
    defs.EndlessFrom interface id pointee storageClass ↔
      id ∈ interface ∧ defs.hasDecoration id Decoration.builtIn = false ∧
        (∀ block, defs.stripArrays pointee = .ok block →
          defs.ofMembers block Decoration.builtIn = []) ∧ Endless defs.inner? pointee := by
  -- the storage classes exclude each other
  have hother : ¬ (storageClass = StorageClass.uniform ∨ storageClass = StorageClass.storageBuffer ∨
      storageClass = StorageClass.uniformConstant) := by
    rcases hclass with rfl | rfl <;> decide
  constructor
  · intro h
    cases h with
    | varying _ hinterface hbuiltin hmembers hendless =>
      exact ⟨hinterface, hbuiltin, hmembers, hendless⟩
    | arrays hclass' => exact absurd hclass' hother
    | block hclass' => exact absurd (hclass'.imp_right .inl) hother
  · rintro ⟨hinterface, hbuiltin, hmembers, hendless⟩
    exact .varying hclass hinterface hbuiltin hmembers hendless

theorem endlessFrom_buffer_iff
    (hclass : storageClass = StorageClass.uniform ∨ storageClass = StorageClass.storageBuffer) :
    defs.EndlessFrom interface id pointee storageClass ↔ Endless defs.element? pointee ∨
      ∃ block, defs.stripArrays pointee = .ok block ∧ Endless defs.measured? block := by
  have hother : ¬ (storageClass = StorageClass.input ∨ storageClass = StorageClass.output) := by
    rcases hclass with rfl | rfl <;> decide
  constructor
  · intro h
    cases h with
    | varying hclass' => exact absurd hclass' hother
    | arrays _ hendless => exact .inl hendless
    | block _ block hblock hendless => exact .inr ⟨block, hblock, hendless⟩
  -- inside the arrays of a buffer its block is measured
  · rintro (hendless | ⟨block, hblock, hendless⟩)
    · exact .arrays (hclass.imp_right .inl) hendless
    · exact .block hclass block hblock hendless

theorem endlessFrom_handle_iff (hclass : storageClass = StorageClass.uniformConstant) :
    defs.EndlessFrom interface id pointee storageClass ↔ Endless defs.element? pointee := by
  have hother : ¬ (storageClass = StorageClass.input ∨ storageClass = StorageClass.output) ∧
      ¬ (storageClass = StorageClass.uniform ∨ storageClass = StorageClass.storageBuffer) := by
    subst hclass
    decide
  constructor
  · intro h
    cases h with
    | varying hclass' => exact absurd hclass' hother.1
    | arrays _ hendless => exact hendless
    | block hclass' => exact absurd hclass' hother.2
  · exact .arrays (.inr (.inr hclass))

/-- In any other storage class there is nothing to walk over. -/
theorem not_endlessFrom (hclass :
    ¬ (storageClass = StorageClass.input ∨ storageClass = StorageClass.output) ∧
    ¬ (storageClass = StorageClass.uniform ∨ storageClass = StorageClass.storageBuffer) ∧
    storageClass ≠ StorageClass.uniformConstant) :
    ¬ defs.EndlessFrom interface id pointee storageClass := by
  obtain ⟨hvarying, hbuffer, hhandle⟩ := hclass
  intro h
  cases h with
  | varying hclass => exact hvarying hclass
  | arrays hclass => exact hbuffer (hclass.imp_right fun h => h.resolve_right hhandle)
  | block hclass => exact hbuffer hclass

theorem not_hangs_pointee (pointer : Id) : ¬ Hangs (defs.pointee pointer) := by
  unfold pointee
  simp only [hangs_bind_iff, not_hangs_get, false_or, not_exists, not_and]
  intro inst _
  split <;> simp

/-- What a variable declares is not collected exactly if a walk over its types does not end. -/
theorem hangs_addGlobal_iff (inst : Instruction) : Hangs (defs.addGlobal interface r inst) ↔
    ∃ id pointer storageClass pointee, inst.IsVariable id pointer storageClass ∧
      defs.pointee pointer = .ok pointee ∧ defs.EndlessFrom interface id pointee storageClass := by
  unfold addGlobal
  split
  · rename_i id pointer storageClass rest hopcode hresult hpointer hoperands
    have hvar : ∀ id' pointer' class', inst.IsVariable id' pointer' class' ↔
        id = id' ∧ pointer = pointer' ∧ storageClass = class' := by
      intro id' pointer' class'
      simp [Instruction.IsVariable, hresult, hpointer, hoperands, eq_of_beq hopcode]
    -- the variable is the one of this instruction
    have hone : (∃ id' pointer' class' pointee, inst.IsVariable id' pointer' class' ∧
        defs.pointee pointer' = .ok pointee ∧ defs.EndlessFrom interface id' pointee class') ↔
        ∃ pointee, defs.pointee pointer = .ok pointee ∧
          defs.EndlessFrom interface id pointee storageClass := by
      simp only [hvar, exists_and_left, and_assoc, exists_eq_left']
    rw [hone, hangs_bind_iff, or_iff_right (defs.not_hangs_pointee pointer)]
    refine exists_congr fun pointee => and_congr_right fun _ => ?_
    -- the storage class says which walks there are
    split
    · rename_i hclass
      rw [hangs_addVarying_iff, defs.endlessFrom_varying_iff _ _ _ _ hclass]
    · rename_i hvarying
      split
      · rename_i hclass
        refine iff_of_false (not_hangs_pure _) (defs.not_endlessFrom _ _ _ _ ?_)
        subst hclass
        decide
      · split
        · rename_i hclass
          rw [hangs_addBuffer_iff, defs.endlessFrom_buffer_iff _ _ _ _ hclass]
        · rename_i hbuffer
          split
          · rename_i hclass
            rw [hangs_addHandle_iff, defs.endlessFrom_handle_iff _ _ _ _ hclass]
          · rename_i hhandle
            exact iff_of_false (not_hangs_pure _)
              (defs.not_endlessFrom _ _ _ _ ⟨hvarying, hbuffer, hhandle⟩)
  · rename_i hnone
    refine iff_of_false (not_hangs_pure _) ?_
    rintro ⟨id, pointer, storageClass, pointee, ⟨hopcode, hresult, hpointer, hhead⟩, _⟩
    obtain ⟨rest, hoperands⟩ := List.head?_eq_some_iff.1 hhead
    exact hnone id pointer storageClass rest (by simp [hopcode]) hresult hpointer hoperands

end Spirv.Definitions

/-! ### Modules -/

/-- Collecting hangs at the first element where it does. -/
theorem hangs_foldlM_iff {α β : Type} (f : β → α → Except ReflectionError β) (l : List α) (b : β) :
    Hangs (l.foldlM f b) ↔ ∃ before x after c, l = before ++ x :: after ∧
      before.foldlM f b = .ok c ∧ Hangs (f c x) := by
  simp only [Hangs, Except.foldlM_eq_error_iff]
  constructor
  · rintro ⟨type, before, x, after, c, hl, hbefore, hx⟩
    exact ⟨before, x, after, c, hl, hbefore, type, hx⟩
  · rintro ⟨before, x, after, c, hl, hbefore, type, hx⟩
    exact ⟨type, before, x, after, c, hl, hbefore, hx⟩

namespace Spirv.Module

/-- Collecting what a module declares comes to a variable over whose types a walk does not end: all globals
before it are collected. -/
def StartsEndless (m : Module) : Prop :=
  ∃ entry model interface before inst after r id pointer storageClass pointee,
    m.entryPoints.head? = some entry ∧ entryInterface entry = some (model, interface) ∧
    m.globals = before ++ inst :: after ∧
    before.foldlM ((Definitions.ofModule m).addGlobal interface)
      { model := executionModel model } = .ok r ∧
    inst.IsVariable id pointer storageClass ∧
    (Definitions.ofModule m).pointee pointer = .ok pointee ∧
    (Definitions.ofModule m).EndlessFrom interface id pointee storageClass

/-- What a module declares is not collected exactly if it starts a walk that does not end. -/
theorem hangs_inventory_iff (m : Module) : Hangs m.inventory ↔ m.StartsEndless := by
  unfold inventory StartsEndless
  cases m.entryPoints.head? with
  | none => simp
  | some entry =>
    dsimp only
    cases hentry : entryInterface entry with
    | none => simp [hentry]
    | some found =>
      obtain ⟨model, interface⟩ := found
      dsimp only
      -- without an entry point there is no walk; with one, globals are collected one after another
      rw [hangs_foldlM_iff]
      simp only [Definitions.hangs_addGlobal_iff]
      constructor
      · rintro ⟨before, inst, after, r, hglobals, hbefore, id, pointer, storageClass, pointee, h⟩
        exact ⟨entry, model, interface, before, inst, after, r, id, pointer, storageClass, pointee,
          rfl, hentry, hglobals, hbefore, h⟩
      · rintro ⟨_, _, _, before, inst, after, r, id, pointer, storageClass, pointee, hhead, hfound,
          hglobals, hbefore, h⟩
        cases hhead
        cases hentry.symm.trans hfound
        exact ⟨before, inst, after, r, hglobals, hbefore, id, pointer, storageClass, pointee, h⟩

end Spirv.Module

namespace Reflection

/-- The reflection service comes to no result exactly for words that make a module which starts an
endless walk over its types. -/
theorem collect_hangs_iff (words : List Word) :
    Hangs (collect .reflectionService words) ↔
      ∃ m, Module.ofWords words = .ok m ∧ m.StartsEndless := by
  show Hangs (declaredInventory words) ↔ _
  simp only [declaredInventory, ← Module.hangs_inventory_iff]
  -- words that cannot be read are refused, which is a result
  cases Module.ofWords words with
  | error failure => simp [Except.mapError, bind, Except.bind]
  | ok m => simp [Except.mapError, bind, Except.bind]

/-- A compute shader with a storage buffer, whose type is a runtime array of itself. -/
def selfElement : List Word :=
  [0x07230203, 0x00010300, 7, 8, 0, 0x00020011, 1, 0x0003000e, 0, 1, 0x0005000f, 5, 6, 0x6e69616d, 0,
   0x00060010, 6, 17, 1, 1, 1, 0x00040047, 4, 34, 0, 0x00040047, 4, 33, 0, 0x00020013, 1,
   0x00030021, 5, 1, 0x0003001d, 2, 2, 0x00040020, 3, 12, 2, 0x0004003b, 3, 4, 12,
   0x00050036, 1, 6, 0, 5, 0x000200f8, 7, 0x000100fd, 0x00010038]

/-- The module check accepts it, but the walk from the array to its element never ends. -/
theorem selfElement_startsEndless : selfElement.length ≤ Limits.spirvWords ∧
    (Validation.check selfElement).isOk = true ∧
    ∃ m, Module.ofWords selfElement = .ok m ∧ m.StartsEndless := by
  -- the type is named in the error that stands for no result
  have hhangs : declaredInventory selfElement = .error (.cyclicType 2) := by decide +kernel
  refine ⟨by decide, by decide +kernel, ?_⟩
  unfold declaredInventory at hhangs
  cases hm : Module.ofWords selfElement with
  | error failure =>
    rw [hm] at hhangs
    exact nomatch hhangs
  | ok m =>
    rw [hm] at hhangs
    exact ⟨m, rfl, m.hangs_inventory_iff.1 ⟨2, hhangs⟩⟩

end Reflection

end ShaderKit
