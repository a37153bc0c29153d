import ShaderKit.Spirv.Emit.Code.Operator

/-!
# Emitting operations of subgroups

Each instruction names the scope of a subgroup, and its result has the type of its operand.
-/

namespace ShaderKit.Spirv.CodeM

open Ir (Collective ExprId GatherMode SubgroupOperation)

/-- The scope of a subgroup. -/
def subgroupScope : CodeM Id := EmitM.number 3

/-- The opcodes of an operation of a subgroup. -/
def subgroupOpcode : SubgroupOperation → OpcodeByKind
  | .all => { bool := some 334 }
  | .any => { bool := some 335 }
  | .add => ⟨some 350, some 349, some 349, none⟩
  | .multiply => ⟨some 352, some 351, some 351, none⟩
  | .min => ⟨some 355, some 353, some 354, none⟩
  | .max => ⟨some 358, some 356, some 357, none⟩
  | .and => { sint := some 359, uint := some 359 }
  | .or => { sint := some 360, uint := some 360 }
  | .exclusiveOr => { sint := some 361, uint := some 361 }

/-- The number of a way to combine values. -/
def Collective.word : Collective → Word
  | .reduce => 0
  | .inclusiveScan => 1
  | .exclusiveScan => 2

/-- A vote has no group operation; every other operation has one. -/
def subgroupCollective (operation : SubgroupOperation) (collective : Collective)
    (argument resultOf : ExprId) : CodeM Unit := do
  let isVote := operation == .all || operation == .any
  EmitM.require (if isVote then 62 else 63)
  let opcode ← opcodeFor (subgroupOpcode operation) (← kindOf argument)
  let type ← typeIdOf resultOf
  let operands := (if isVote then [] else [Collective.word collective]) ++ [← value argument]
  setValue resultOf (← result opcode type ((← subgroupScope) :: operands))

/-- Without a predicate every invocation that is active counts. -/
def subgroupBallot (resultOf : ExprId) (predicate : Option ExprId) : CodeM Unit := do
  EmitM.require 64
  let operand ← match predicate with
    | some e => value e
    | none => EmitM.literal (.bool true)
  setValue resultOf (← result 339 (← typeIdOf resultOf) [← subgroupScope, operand])

/-- The instruction of a mode, and the capability that it needs. -/
def gatherOpcode : GatherMode → Nat × Word
  | .broadcastFirst => (338, 64)
  | .broadcast _ => (337, 64)
  | .shuffle _ => (345, 65)
  | .shuffleXor _ => (346, 65)
  | .shuffleUp _ => (347, 66)
  | .shuffleDown _ => (348, 66)

/-- Reads a value of another invocation. -/
def subgroupGather (mode : GatherMode) (argument resultOf : ExprId) : CodeM Unit := do
  let (opcode, capability) := gatherOpcode mode
  EmitM.require capability
  let type ← typeIdOf resultOf
  let operand ← value argument
  let index ← mode.index?.mapM value
  setValue resultOf (← result opcode type ((← subgroupScope) :: operand :: index.toList))

end ShaderKit.Spirv.CodeM
