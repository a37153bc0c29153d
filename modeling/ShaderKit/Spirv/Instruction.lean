import ShaderKit.Spirv.Grammar.Enumeration

/-!
# Instructions

An instruction as read from the word stream: its opcode, result ids and operands.
-/

namespace ShaderKit.Spirv

/-- One operand.  Ids that name a scope or memory semantics are told apart from plain ones. -/
inductive Operand
  | id (id : Id)
  | scope (id : Id)
  | semantics (id : Id)
  | word (value : Word)
  | wide (value : UInt64)
  | text (value : String)
  | value (enumeration : Enumeration) (value : Word)
  | opcode (opcode : Nat)
  deriving DecidableEq

/-- An instruction with its operands taken apart. -/
structure Instruction where
  opcode : Nat
  resultType : Option Id := none
  result : Option Id := none
  operands : List Operand := []
  deriving DecidableEq

namespace Operand

/-- The id behind an operand of any id kind. -/
def anyId? : Operand → Option Id
  | id i | scope i | semantics i => some i
  | _ => none

/-- The id of a plain reference. -/
def ref? : Operand → Option Id
  | id i => some i
  | _ => none

end Operand

namespace Instruction

/-- The ids that a plain reference, the result or the result type names, in the order result, result
type, operands. -/
def plainIds (inst : Instruction) : List Id :=
  inst.result.toList ++ inst.resultType.toList ++ inst.operands.filterMap (·.ref?)

/-- Every id in the instruction. -/
def ids (inst : Instruction) : List Id :=
  inst.result.toList ++ inst.resultType.toList ++ inst.operands.filterMap (·.anyId?)

/-- Whether some operand at `i` is `operand`. -/
def hasOperand (inst : Instruction) (i : Nat) (operand : Operand) : Bool :=
  inst.operands[i]? == some operand

end Instruction

end ShaderKit.Spirv
