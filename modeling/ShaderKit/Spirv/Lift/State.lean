import ShaderKit.Ir.Layout
import ShaderKit.Spirv.Lift.Decorations

/-!
# The state of lifting

What each id stands for in the module that is being built.  The tables are searched from the front, so
the last definition of an id is the one that counts.
-/

namespace ShaderKit.Spirv

open Ir (ConstantId Expression FunctionId GlobalId OverrideId TypeId TypeInfo Shape)

/-- A type id: the type, and the id of the component or pointee type. -/
structure TypeEntry where
  type : TypeId
  base : Option Id := none
  deriving DecidableEq

/-- What a constant of the module became. -/
inductive ConstantRef
  | constant (id : ConstantId)
  | overridden (id : OverrideId)
  deriving DecidableEq

/-- The expression for a constant. -/
def ConstantRef.expression : ConstantRef → Expression
  | constant c => .constant c
  | overridden o => .overridden o

/-- A constant id with the id of its type. -/
structure ConstantEntry where
  value : ConstantRef
  type : Id
  deriving DecidableEq

/-- What a variable is to the entry points that have it in their interface. -/
inductive VariableRole
  | global
  | input (argument : Ir.Argument)
  | output (result : Ir.Result)
  deriving DecidableEq

/-- What is known of a global variable. -/
structure VariableEntry where
  role : VariableRole
  global : GlobalId
  type : Id
  deriving DecidableEq

/-- The result and the parameters of a function type. -/
structure FunctionType where
  result : Id
  parameters : List Id
  deriving DecidableEq

/-- An entry point whose function has not been read. -/
structure PendingEntry where
  stage : Ir.ShaderStage
  name : String
  earlyDepthTest : Bool := false
  workgroupSize : Nat × Nat × Nat := (0, 0, 0)
  interface : List Id
  deriving DecidableEq

/-- How an image or sampler is used. -/
structure SamplingUse where
  regular : Bool := false
  comparison : Bool := false
  deriving DecidableEq

/-- What either uses. -/
def SamplingUse.union (a b : SamplingUse) : SamplingUse :=
  ⟨a.regular || b.regular, a.comparison || b.comparison⟩

/-- What is known of the module so far. -/
structure Lift where
  module : Ir.Module := {}
  /-- Rank of the section that has been reached. -/
  rank : Nat := 0
  decorations : List (Id × Decorations) := []
  memberDecorations : List ((Id × Word) × Decorations) := []
  /-- The id of the standard instruction set. -/
  standardSet : Option Id := none
  voidType : Option Id := none
  types : List (Id × TypeEntry) := []
  /-- Structs that make their variables storage buffers, with the access that their members allow. -/
  storageStructs : List (TypeId × Ir.StorageAccess) := []
  /-- The type ids of struct members, and whether they are stored by rows. -/
  members : List ((TypeId × Nat) × (Id × Bool)) := []
  constants : List (Id × ConstantEntry) := []
  globalVars : List (Id × VariableEntry) := []
  functionTypes : List (Id × FunctionType) := []
  entries : List (Id × PendingEntry) := []
  /-- Images and samplers whose use decides what they are. -/
  sampling : List (GlobalId × SamplingUse) := []
  /-- Builtin members that some access chain reaches. -/
  reachedBuiltIns : List Ir.BuiltIn := []
  /-- The place of each function in the module. -/
  functions : List (Id × FunctionId) := []
  /-- How the functions lifted so far use their image and sampler parameters. -/
  parameterUses : List (Id × List SamplingUse) := []
  /-- Whether a function is called that is not there. -/
  lacksFunction : Bool := false
  /-- Variables that atomic instructions reach. -/
  atomicGlobals : List GlobalId := []
  /-- Struct members on the way to what atomic instructions reach. -/
  atomicMembers : List (TypeId × Nat) := []

/-- An action on what is known of the module. -/
abbrev LiftM := StateT Lift (Except LiftError)

namespace LiftM

/-- What an id stands for, in one of the tables. -/
def find {α : Type} (table : Lift → List (Id × α)) (id : Id) : LiftM α := do
  match (table (← get)).lookup id with
  | some a => return a
  | none => throw (.undefinedId id)

/-- What is known of a type. -/
def typeEntry (id : Id) : LiftM TypeEntry := find (·.types) id

/-- The shape of a type. -/
def shapeOf (t : TypeId) : LiftM Shape := do
  match (← get).module.shape? t with
  | some shape => return shape
  | none => throw (.typing .undefined)

/-- The index of a type, which is added if it is new. -/
def intern (shape : Shape) (name : Option String := none) : LiftM TypeId := fun s =>
  let (types, id) := Ir.internType s.module.types { name, shape }
  .ok (id, { s with module := { s.module with types } })

/-- Notes a type. -/
def setType (id : Id) (entry : TypeEntry) : LiftM Unit :=
  modify fun s => { s with types := (id, entry) :: s.types }

/-- The decorations of an id.  They belong to its first definition only. -/
def takeDecorations (id : Id) : LiftM Decorations := fun s =>
  .ok ((s.decorations.lookup id).getD {},
    { s with decorations := s.decorations.filter (·.1 != id) })

/-- The decorations of a member, which are used up. -/
def takeMemberDecorations (id : Id) (member : Word) : LiftM Decorations := fun s =>
  .ok ((s.memberDecorations.lookup (id, member)).getD {},
    { s with memberDecorations := s.memberDecorations.filter (·.1 != (id, member)) })

/-- Replaces the decorations of an id by what `f` makes of them. -/
def updateDecorations (id : Id) (f : Decorations → Decorations) : LiftM Unit := do
  let d ← takeDecorations id
  modify fun s => { s with decorations := (id, f d) :: s.decorations }

/-- Changes the decorations of a member. -/
def updateMemberDecorations (id : Id) (member : Word) (f : Decorations → Decorations) :
    LiftM Unit := do
  let d ← takeMemberDecorations id member
  modify fun s => { s with memberDecorations := ((id, member), f d) :: s.memberDecorations }

/-- Adds a global expression. -/
def globalExpression (e : Expression) : LiftM Ir.ExprId := fun s =>
  let all := s.module.globalExpressions
  .ok (all.length, { s with module := { s.module with globalExpressions := all ++ [e] } })

/-- The extents of the types so far, all of which have one. -/
def extents : LiftM (List Ir.Extent) := do
  match Ir.extents? (← get).module.types with
  | some extents => return extents
  | none => throw (.rule .layout)

/-- The extent of a type. -/
def extent (t : TypeId) : LiftM Ir.Extent := do
  match (← extents)[t]? with
  | some e => return e
  | none => throw (.typing .undefined)

end LiftM

end ShaderKit.Spirv
