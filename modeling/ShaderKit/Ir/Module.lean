import ShaderKit.Ir.Expression

/-!
# Modules of the typed representation

Statements, functions, entry points and the module that holds them.
-/

namespace ShaderKit.Ir

/-- What an atomic operation does to a number in memory. -/
inductive AtomicFunction
  | add | subtract | and | exclusiveOr | inclusiveOr | min | max
  | exchange (compare : Option ExprId)
  deriving DecidableEq

/-- The value that a case of a switch is for. -/
inductive SwitchValue
  | i32 (value : Int32)
  | u32 (value : UInt32)
  | fallback
  deriving DecidableEq

/-- What a barrier orders. -/
structure Barrier where
  storage : Bool
  workGroup : Bool
  subGroup : Bool
  texture : Bool
  deriving DecidableEq

/-- What is done with a ray query. -/
inductive RayQueryFunction
  | start (structure_ descriptor : ExprId)
  | proceed (result : ExprId)
  | terminate
  deriving DecidableEq

/-- Operations on the values that the invocations of a subgroup have. -/
inductive SubgroupOperation
  | all | any | add | multiply | min | max | and | or | exclusiveOr
  deriving DecidableEq

/-- Which invocations an operation of a subgroup takes together. -/
inductive Collective
  | reduce | inclusiveScan | exclusiveScan
  deriving DecidableEq

/-- Which invocation of a subgroup a value is taken from. -/
inductive GatherMode
  | broadcastFirst
  | broadcast (index : ExprId)
  | shuffle (index : ExprId)
  | shuffleDown (delta : ExprId)
  | shuffleUp (delta : ExprId)
  | shuffleXor (mask : ExprId)
  deriving DecidableEq

/-- The expression that says which invocation a gather reads. -/
def GatherMode.index? : GatherMode → Option ExprId
  | broadcastFirst => none
  | broadcast e | shuffle e | shuffleDown e | shuffleUp e | shuffleXor e => some e

/-- Statements, which name the expressions that they take by number. -/
inductive Statement
  /-- Brings the expressions with index `first`, …, `last` into scope; an empty range names none. -/
  | emit (range : Option (ExprId × ExprId))
  | block (body : List Statement)
  | branch (condition : ExprId) (accept reject : List Statement)
  | switch (selector : ExprId) (cases : List (SwitchValue × List Statement × Bool))
  | loop (body continuing : List Statement) (breakIf : Option ExprId)
  | breakLoop
  | continueLoop
  | ret (value : Option ExprId)
  | kill
  | barrier (barrier : Barrier)
  | store (pointer value : ExprId)
  | imageStore (image coordinate : ExprId) (arrayIndex : Option ExprId) (value : ExprId)
  | atomic (pointer : ExprId) (function : AtomicFunction) (value : ExprId)
      (result : Option ExprId)
  | imageAtomic (image coordinate : ExprId) (arrayIndex : Option ExprId)
      (function : AtomicFunction) (value : ExprId)
  | workGroupUniformLoad (pointer result : ExprId)
  | call (function : FunctionId) (arguments : List ExprId) (result : Option ExprId)
  | rayQuery (query : ExprId) (function : RayQueryFunction)
  | subgroupBallot (result : ExprId) (predicate : Option ExprId)
  | subgroupCollective (operation : SubgroupOperation) (collective : Collective)
      (argument result : ExprId)
  | subgroupGather (mode : GatherMode) (argument result : ExprId)

/-- Where a resource is bound. -/
structure ResourceBinding where
  group : Nat
  binding : Nat
  deriving DecidableEq

/-- `init` is a global expression. -/
structure GlobalVariable where
  name : Option String := none
  space : AddressSpace
  binding : Option ResourceBinding := none
  type : TypeId
  init : Option ExprId := none
  deriving DecidableEq

/-- A constant of a module. -/
structure Constant where
  name : Option String := none
  type : TypeId
  init : ExprId
  deriving DecidableEq

/-- A constant whose value can be set when a pipeline is made. -/
structure Override where
  name : Option String := none
  id : Option Nat := none
  type : TypeId
  init : Option ExprId := none
  deriving DecidableEq

/-- An argument of a function; at an entry point it has a binding, or its members do. -/
structure Argument where
  name : Option String
  type : TypeId
  binding : Option IoBinding
  deriving DecidableEq

/-- The result of a function. -/
structure Result where
  type : TypeId
  binding : Option IoBinding
  deriving DecidableEq

/-- `init` is an expression of the function. -/
structure LocalVariable where
  name : Option String := none
  type : TypeId
  init : Option ExprId := none
  deriving DecidableEq

/-- A function: its expressions, and the statements that bring them into scope and use them. -/
structure Function where
  name : Option String := none
  arguments : List Argument := []
  result : Option Result := none
  locals : List LocalVariable := []
  expressions : List Expression := []
  body : List Statement := []

/-- The stages that entry points are for. -/
inductive ShaderStage
  | vertex | fragment | compute
  deriving DecidableEq

/-- A function that a stage of a pipeline can start at. -/
structure EntryPoint where
  name : String
  stage : ShaderStage
  earlyDepthTest : Bool := false
  workgroupSize : Nat × Nat × Nat := (0, 0, 0)
  function : Function

/-- A shader module, whose parts name each other by number. -/
structure Module where
  types : List TypeInfo := []
  constants : List Constant := []
  overrides : List Override := []
  globals : List GlobalVariable := []
  globalExpressions : List Expression := []
  functions : List Function := []
  entryPoints : List EntryPoint := []

namespace Module

/-- The shape of a type of the module. -/
def shape? (m : Module) (t : TypeId) : Option Shape := m.types[t]?.map (·.shape)

end Module

end ShaderKit.Ir
