import ShaderKit.Ir.Module
import ShaderKit.Spirv.Enumerants
import ShaderKit.Spirv.Opcode
import ShaderKit.Text.Utf8

/-!
# The state of emitting a module

A module is written section by section.  Types and constants are written once each, before the functions
that need them.
-/

namespace ShaderKit.Spirv

open Ir (ArraySize GlobalId Scalar TypeId VectorSize)

/-- An instruction that is to be written. -/
structure Line where
  opcode : Nat
  words : List Word
  deriving DecidableEq

/-- An instruction starts with its length and opcode. -/
def Line.encode (l : Line) : List Word :=
  UInt32.ofNat ((l.words.length + 1) * 65536 + l.opcode) :: l.words

/-- The words of a text: its bytes, a zero, and more zeros up to a full word. -/
def textWords (text : String) : List Word := go (text.toUTF8.toList ++ [0])
where
  go : List UInt8 → List Word
    | a :: b :: c :: d :: rest => ofBytes a b c d :: go rest
    | [a, b, c] => [ofBytes a b c 0]
    | [a, b] => [ofBytes a b 0 0]
    | [a] => [ofBytes a 0 0 0]
    | [] => []
  ofBytes (a b c d : UInt8) : Word :=
    a.toUInt32 ||| b.toUInt32 <<< 8 ||| c.toUInt32 <<< 16 ||| d.toUInt32 <<< 24

/-- Why a module cannot be emitted. -/
inductive EmitError
  /-- Values of overrides are not known yet. -/
  | overrides
  | entryPoint (name : String)
  | layout
  | unsupported (what : String)
  deriving DecidableEq

/-- The text of a failure. -/
def EmitError.message : EmitError → String
  | overrides => "overrides should not be present at this stage"
  | entryPoint name => s!"the module has no entry point `{name}`"
  | layout => "the module is not valid"
  | unsupported what => s!"{what} cannot be expressed"

/-- What is emitted. -/
structure EmitOptions where
  /-- Indices and texel coordinates are restricted to what is there. -/
  robust : Bool
  /-- The one entry point that is emitted; without it all are. -/
  entryPoint : Option (Ir.ShaderStage × String) := none
  deriving DecidableEq

/-- A type that is written once. -/
inductive TypeKey
  | void
  | scalar (scalar : Scalar)
  | vector (size : VectorSize) (scalar : Scalar)
  | matrix (columns rows : VectorSize) (scalar : Scalar)
  | named (type : TypeId)
  | pointer (storageClass : Word) (base : Id)
  | sampledImage (image : Id)
  | function (result : Id) (parameters : List Id)
  deriving DecidableEq

/-- A global variable with its id; a wrapped one is the only member of a block. -/
structure EmittedGlobal where
  id : Id
  wrapped : Bool
  deriving DecidableEq

/-- What has been written, and what was given ids. -/
structure Emit where
  module : Ir.Module
  options : EmitOptions
  nextId : Id := 1
  capabilities : List Word := [Capability.shader]
  extensions : List String := []
  entryPoints : Array Line := #[]
  modes : Array Line := #[]
  names : Array Line := #[]
  annotations : Array Line := #[]
  declarations : Array Line := #[]
  functionLines : Array Line := #[]
  types : List (TypeKey × Id) := []
  constants : List (Line × Id) := []
  globals : List (GlobalId × EmittedGlobal) := []
  /-- Structs that are decorated as blocks. -/
  blocks : List TypeId := []
  functions : List (Ir.FunctionId × Id) := []
  /-- The instruction set of the standard functions. -/
  standardSet : Id := 0

/-- An action that writes parts of a module. -/
abbrev EmitM := StateT Emit (Except EmitError)

namespace EmitM

/-- An id that is not in use. -/
def fresh : EmitM Id := modifyGet fun s => (s.nextId, { s with nextId := s.nextId + 1 })

/-- Adds a capability, if it is not there. -/
def require (capability : Word) : EmitM Unit := modify fun s =>
  if s.capabilities.contains capability then s
  else { s with capabilities := s.capabilities ++ [capability] }

/-- Adds an extension, if it is not there. -/
def useExtension (name : String) : EmitM Unit := modify fun s =>
  if s.extensions.contains name then s else { s with extensions := s.extensions ++ [name] }

/-- Writes an annotation. -/
def annotate (opcode : Nat) (words : List Word) : EmitM Unit :=
  modify fun s => { s with annotations := s.annotations.push ⟨opcode, words⟩ }

/-- Decorates an id. -/
def decorate (id : Id) (decoration : Word) (operands : List Word := []) : EmitM Unit :=
  annotate Op.decorate (id :: decoration :: operands)

/-- Decorates a member of a struct. -/
def decorateMember (id : Id) (member : Nat) (decoration : Word) (operands : List Word := []) :
    EmitM Unit :=
  annotate Op.memberDecorate (id :: UInt32.ofNat member :: decoration :: operands)

/-- Gives an id a name, if there is one. -/
def nameId (id : Id) (name : Option String) : EmitM Unit := do
  if let some n := name then
    modify fun s => { s with names := s.names.push ⟨Op.name, id :: textWords n⟩ }

/-- Names a member of a struct, if it has a name. -/
def nameMember (id : Id) (member : Nat) (name : Option String) : EmitM Unit := do
  if let some n := name then
    modify fun s => { s with
      names := s.names.push ⟨Op.memberName, id :: UInt32.ofNat member :: textWords n⟩ }

/-- Writes a type, a constant or a global variable. -/
def declare (opcode : Nat) (words : List Word) : EmitM Unit :=
  modify fun s => { s with declarations := s.declarations.push ⟨opcode, words⟩ }

/-- The id of a type, which `write` writes if it is new. -/
def typeOnce (key : TypeKey) (write : Id → EmitM Unit) : EmitM Id := do
  match (← get).types.lookup key with
  | some id => return id
  | none =>
    let id ← fresh
    modify fun s => { s with types := (key, id) :: s.types }
    write id
    return id

/-- The id of a constant of a type, which is written if it is new. -/
def constantOnce (opcode : Nat) (type : Id) (words : List Word) : EmitM Id := do
  let key : Line := ⟨opcode, type :: words⟩
  match (← get).constants.lookup key with
  | some id => return id
  | none =>
    let id ← fresh
    modify fun s => { s with constants := (key, id) :: s.constants }
    declare opcode (type :: id :: words)
    return id

end EmitM

end ShaderKit.Spirv
