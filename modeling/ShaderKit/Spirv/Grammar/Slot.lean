import ShaderKit.Spirv.Grammar.Kind

/-!
# Short names for operand slots

The instruction tables are written with these.
-/

namespace ShaderKit.Spirv.Grammar.Slot

/-- The result type. -/
def ty : OperandSlot := ⟨.resultType, .once⟩

/-- The result id. -/
def res : OperandSlot := ⟨.result, .once⟩

/-- An id. -/
def ref : OperandSlot := ⟨.id, .once⟩

/-- An id that may be left out. -/
def refOpt : OperandSlot := ⟨.id, .optional⟩

/-- Any number of ids. -/
def refs : OperandSlot := ⟨.id, .repeated⟩

/-- The id of a scope. -/
def scp : OperandSlot := ⟨.scope, .once⟩

/-- The id of memory semantics. -/
def sem : OperandSlot := ⟨.semantics, .once⟩

/-- A word. -/
def lit : OperandSlot := ⟨.literal, .once⟩

/-- Any number of words. -/
def lits : OperandSlot := ⟨.literal, .repeated⟩

/-- A number as long as the type of the instruction says. -/
def typed : OperandSlot := ⟨.typedLiteral, .once⟩

/-- A text. -/
def str : OperandSlot := ⟨.string, .once⟩

/-- A text that may be left out. -/
def strOpt : OperandSlot := ⟨.string, .optional⟩

/-- An opcode with its operands. -/
def nest : OperandSlot := ⟨.nested, .once⟩

/-- A value of an enumeration. -/
def one (e : Enumeration) : OperandSlot := ⟨.value e, .once⟩

/-- A value of an enumeration that may be left out. -/
def opt (e : Enumeration) : OperandSlot := ⟨.value e, .optional⟩

/-- Any number of pairs. -/
def pairs (first second : OperandKind) : OperandSlot := ⟨.pair first second, .repeated⟩

end ShaderKit.Spirv.Grammar.Slot
