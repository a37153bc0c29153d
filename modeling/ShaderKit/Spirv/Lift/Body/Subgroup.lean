import ShaderKit.Spirv.Lift.Body.State

/-!
# Lifting group instructions

The invocations of a subgroup can combine their values or hand them to each other.  No other scope can
be lifted.
-/

namespace ShaderKit.Spirv

open Ir (Collective ExprId GatherMode SubgroupOperation)

/-- Instructions that combine the values of all invocations, in a way that an operand chooses. -/
def collectiveOps : List (Nat × SubgroupOperation) :=
  [(349, .add), (350, .add), (351, .multiply), (352, .multiply), (353, .min), (354, .min),
   (355, .min), (356, .max), (357, .max), (358, .max), (359, .and), (360, .or), (361, .exclusiveOr),
   (362, .and), (363, .or), (364, .exclusiveOr)]

/-- Instructions that take a value from the invocation that an operand chooses. -/
def gatherOps : List (Nat × (ExprId → GatherMode)) :=
  [(337, .broadcast), (345, .shuffle), (346, .shuffleXor), (347, .shuffleUp), (348, .shuffleDown)]

/-- The way to combine values of that number. -/
def liftCollective (operation : Word) : Except LiftError Collective :=
  if operation = 0 then .ok .reduce
  else if operation = 1 then .ok .inclusiveScan
  else if operation = 2 then .ok .exclusiveScan
  else .error (.groupOperation operation)

namespace BodyM

/-- The value of a constant that names a scope or memory semantics. -/
def scopeConstant (id : Id) : BodyM UInt32 := do
  let m := (← getThe Lift).module
  match (← LiftM.find (·.constants) id).value with
  | .constant c => match m.constants[c]?.bind fun c => m.globalExpressions[c.init]? with
    | some (.literal (.u32 n)) => return n
    | some (.literal (.i32 n)) => return n.toUInt32
    | _ => throw (.scope id)
  | .overridden _ => throw (.scope id)

/-- The scope of all invocations of a subgroup. -/
def subgroupScope : UInt32 := 3

/-- The scope is that of a subgroup. -/
def checkSubgroup (scope : Id) : BodyM Unit := do
  if (← scopeConstant scope) ≠ subgroupScope then throw (.scope scope)

/-- Whether an id is the constant that is always true. -/
def isTrue (id : Id) : BodyM Bool := do
  let s ← getThe Lift
  let init : Option Ir.Expression := match s.constants.lookup id with
    | some ⟨.constant c, _⟩ => s.module.constants[c]?.bind fun c => s.module.globalExpressions[c.init]?
    | _ => none
  return init = some (.literal (.bool true))

/-- Which invocations a predicate holds in. -/
def ballot (type id scope predicate : Id) : BodyM Unit := do
  checkSubgroup scope
  let p ← if ← isTrue predicate then pure none else some <$> enclosedValue predicate
  let result ← push .subgroupBallotResult
  define id type result
  statement (.subgroupBallot result p)

/-- An operation on the values of a subgroup. -/
def collective (f : SubgroupOperation) (how : Collective) (type id scope argument : Id) :
    BodyM Unit := do
  let a ← enclosedValue argument
  checkSubgroup scope
  let result ← push (.subgroupResult (← typeOf type))
  define id type result
  statement (.subgroupCollective f how a result)

/-- The value of another invocation. -/
def gather (mode : BodyM GatherMode) (type id scope argument : Id) : BodyM Unit := do
  let a ← enclosedValue argument
  checkSubgroup scope
  let mode ← mode
  let result ← push (.subgroupResult (← typeOf type))
  define id type result
  statement (.subgroupGather mode a result)

/-- Lifts a group instruction, or says that it is none. -/
def subgroupInstruction? (op : Nat) (type id : Id) (operands : List Operand) : BodyM Bool := do
  match op, operands with
  | 334, [.scope scope, .id argument] => collective .all .reduce type id scope argument
  | 335, [.scope scope, .id argument] => collective .any .reduce type id scope argument
  | 338, [.scope scope, .id argument] => gather (pure .broadcastFirst) type id scope argument
  | 339, [.scope scope, .id predicate] => ballot type id scope predicate
  | _, [.scope scope, .value .groupOperation how, .id argument] =>
    match collectiveOps.lookup op with
    | some f => collective f (← (liftCollective how : Except _ _)) type id scope argument
    | none => return false
  | _, [.scope scope, .id argument, .id index] =>
    match gatherOps.lookup op with
    | some mode => gather (mode <$> enclosedValue index) type id scope argument
    | none => return false
  | _, _ => return false
  return true

end BodyM

end ShaderKit.Spirv
