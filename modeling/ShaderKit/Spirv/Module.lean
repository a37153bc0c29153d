import ShaderKit.Spirv.Reader

/-!
# Modules

The instructions of a module by section.  Most opcodes have a section of their own wherever they stand;
the others must stand in a block of a function.
-/

namespace ShaderKit.Spirv

/-- A basic block: the label, then its instructions up to the terminator. -/
structure Block where
  label : Instruction
  instructions : List Instruction
  deriving DecidableEq

/-- A function: its definition, its parameters and its blocks. -/
structure Function where
  definition : Instruction
  parameters : List Instruction
  blocks : List Block
  finish : Instruction
  deriving DecidableEq

/-- A module, its instructions sorted by section. -/
structure Module where
  bound : Word
  capabilities : List Instruction := []
  extensions : List Instruction := []
  imports : List Instruction := []
  memoryModel : Option Instruction := none
  entryPoints : List Instruction := []
  executionModes : List Instruction := []
  sources : List Instruction := []
  names : List Instruction := []
  processed : List Instruction := []
  annotations : List Instruction := []
  /-- Types, constants and global variables. -/
  globals : List Instruction := []
  functions : List Function := []
  deriving DecidableEq

/-- Where an opcode belongs. -/
inductive Placement
  | capability | extension | externalSet | memoryModel | entryPoint | executionMode | source | name
  | processed | decorating | global
  /-- Line information belongs to the open block, if there is one, and else to the globals. -/
  | line
  /-- Variables belong to the open function, if there is one, and else to the globals. -/
  | var
  | function | functionEnd | parameter | label | terminator | body
  deriving DecidableEq

open Op in
/-- The opcodes of each placement; any opcode that is not listed belongs in a block. -/
def placements : List (Placement × List Nat) :=
  [(.capability, [capability]), (.extension, [extension]), (.externalSet, [extInstImport]),
   (.memoryModel, [memoryModel]), (.entryPoint, [entryPoint]),
   (.executionMode, [executionMode]),
   (.source, [string, sourceExtension, source, sourceContinued]),
   (.name, [name, memberName]), (.processed, [moduleProcessed]), (.line, [line, noLine]),
   (.decorating, [decorate, memberDecorate, decorationGroup, groupDecorate, groupMemberDecorate,
      decorateString, memberDecorateString]),
   (.global, [constantTrue, constantFalse, constant, constantComposite, constantSampler,
      constantNull, specConstantTrue, specConstantFalse, specConstant, specConstantComposite,
      specConstantOp]),
   (.var, [var, undef]), (.function, [function]), (.functionEnd, [functionEnd]),
   (.parameter, [functionParameter]), (.label, [label]),
   (.terminator, [branch, branchConditional, switch, kill, ret, returnValue, unreachable,
      terminateInvocation, ignoreIntersectionKHR, terminateRayKHR, emitMeshTasksEXT])]

/-- The opcodes that declare a type. -/
def typeOpcodes : List Nat :=
  (List.range 21).map (· + 19) ++ [322, 327, 4456, 4472, 5281, 5341, 5358, 5700, 5701, 5702, 5703,
    5704, 5705, 5706, 5707, 5708, 5709, 5710, 5711, 5712, 6086]

/-- The section that instructions of an opcode are in. -/
def Placement.ofOpcode (opcode : Nat) : Placement :=
  if typeOpcodes.contains opcode then .global
  else (placements.find? (·.2.contains opcode)).elim .body (·.1)

/-- A function whose end has not been read. -/
structure OpenFunction where
  definition : Instruction
  parameters : Array Instruction := #[]
  blocks : Array Block := #[]

/-- A block whose terminator has not been read. -/
structure OpenBlock where
  label : Instruction
  instructions : Array Instruction := #[]

/-- What has been read of a module. -/
structure Assembly where
  capabilities : Array Instruction := #[]
  extensions : Array Instruction := #[]
  imports : Array Instruction := #[]
  memoryModel : Option Instruction := none
  entryPoints : Array Instruction := #[]
  executionModes : Array Instruction := #[]
  sources : Array Instruction := #[]
  names : Array Instruction := #[]
  processed : Array Instruction := #[]
  annotations : Array Instruction := #[]
  globals : Array Instruction := #[]
  functions : Array Function := #[]
  function : Option OpenFunction := none
  block : Option OpenBlock := none

namespace Assembly

/-- The name of the instruction, as messages show it. -/
def formName (inst : Instruction) : String :=
  (Grammar.form? inst.opcode).elim "" (·.name)

/-- Adds a type, a constant or a global variable. -/
def addGlobal (a : Assembly) (inst : Instruction) : Assembly :=
  { a with globals := a.globals.push inst }

/-- Adds an instruction that must stand in a block. -/
def addBody (a : Assembly) (inst : Instruction) : Except StructureFailure Assembly :=
  match a.block with
  | none => .error (.detachedInstruction (formName inst))
  | some b => .ok { a with block := some { b with instructions := b.instructions.push inst } }

/-- Adds a terminator and closes its block. -/
def addTerminator (a : Assembly) (inst : Instruction) : Except StructureFailure Assembly :=
  match a.block, a.function with
  | some b, some f =>
    let closed : Block := ⟨b.label, (b.instructions.push inst).toList⟩
    .ok { a with block := none, function := some { f with blocks := f.blocks.push closed } }
  | _, _ => .error .mismatchedTerminator

/-- Closes the open function. -/
def closeFunction (a : Assembly) (inst : Instruction) : Except StructureFailure Assembly :=
  match a.function, a.block with
  | none, _ => .error .mismatchedFunctionEnd
  | some _, some _ => .error .unclosedBlock
  | some f, none =>
    let closed : Function := ⟨f.definition, f.parameters.toList, f.blocks.toList, inst⟩
    .ok { a with function := none, functions := a.functions.push closed }

/-- Adds the next instruction. -/
def add (a : Assembly) (inst : Instruction) : Except StructureFailure Assembly :=
  match Placement.ofOpcode inst.opcode with
  | .capability => .ok { a with capabilities := a.capabilities.push inst }
  | .extension => .ok { a with extensions := a.extensions.push inst }
  | .externalSet => .ok { a with imports := a.imports.push inst }
  | .memoryModel => .ok { a with memoryModel := some inst }
  | .entryPoint => .ok { a with entryPoints := a.entryPoints.push inst }
  | .executionMode => .ok { a with executionModes := a.executionModes.push inst }
  | .source => .ok { a with sources := a.sources.push inst }
  | .name => .ok { a with names := a.names.push inst }
  | .processed => .ok { a with processed := a.processed.push inst }
  | .decorating => .ok { a with annotations := a.annotations.push inst }
  | .global => .ok (a.addGlobal inst)
  | .line => if a.block.isSome then a.addBody inst else .ok (a.addGlobal inst)
  | .var => if a.function.isSome then a.addBody inst else .ok (a.addGlobal inst)
  | .function =>
    if a.function.isSome then .error .nestedFunction
    else .ok { a with function := some { definition := inst } }
  | .functionEnd => a.closeFunction inst
  | .parameter =>
    match a.function with
    | none => .error .detachedParameter
    | some f => .ok { a with function := some { f with parameters := f.parameters.push inst } }
  | .label =>
    if a.function.isNone then .error .detachedBlock
    else if a.block.isSome then .error .nestedBlock
    else .ok { a with block := some { label := inst } }
  | .terminator => a.addTerminator inst
  | .body => a.addBody inst

/-- The module, once its instructions are complete. -/
def finish (a : Assembly) (bound : Word) : Except StructureFailure Module :=
  if a.block.isSome then .error .unclosedBlock
  else if a.function.isSome then .error .unclosedFunction
  else .ok {
    bound
    capabilities := a.capabilities.toList
    extensions := a.extensions.toList
    imports := a.imports.toList
    memoryModel := a.memoryModel
    entryPoints := a.entryPoints.toList
    executionModes := a.executionModes.toList
    sources := a.sources.toList
    names := a.names.toList
    processed := a.processed.toList
    annotations := a.annotations.toList
    globals := a.globals.toList
    functions := a.functions.toList }

end Assembly

namespace Module

/-- Checks the first words and gives the id bound and the instruction words. -/
def readHeader : List Word → Except ReadFailure (Word × List Word)
  | magic :: _ :: _ :: bound :: _ :: rest =>
    if magic = magicNumber then .ok (bound, rest)
    else if magic = swappedMagicNumber then .error .endianness
    else .error .headerIncorrect
  | short => .error (.headerIncomplete short.length)

/-- The instructions of a module in the order in which they stand. -/
def instructionsOf (words : List Word) : Except ReadFailure (List Instruction) := do
  let (_, rest) ← readHeader words
  return (← foldInstructions (fun all inst => .ok (all.push inst)) rest.length [] 1 headerWords rest
    #[]).toList

/-- Reads a module. -/
def ofWords (words : List Word) : Except ReadFailure Module := do
  let (bound, rest) ← readHeader words
  let assembly ← foldInstructions (fun a inst => (a.add inst).mapError .malformed)
    rest.length [] 1 headerWords rest ({} : Assembly)
  (assembly.finish bound).mapError .malformed

/-- Every instruction of a function, in order. -/
def functionInstructions (f : Function) : List Instruction :=
  f.definition :: f.parameters ++ f.blocks.flatMap (fun b => b.label :: b.instructions)
    ++ [f.finish]

/-- Every instruction, section by section. -/
def instructions (m : Module) : List Instruction :=
  m.capabilities ++ m.extensions ++ m.imports ++ m.memoryModel.toList ++ m.entryPoints
    ++ m.executionModes ++ m.sources ++ m.names ++ m.processed ++ m.annotations ++ m.globals
    ++ m.functions.flatMap functionInstructions

end Module

end ShaderKit.Spirv
