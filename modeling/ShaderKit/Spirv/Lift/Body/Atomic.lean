import ShaderKit.Spirv.Lift.Body.State
import ShaderKit.Spirv.Opcode

/-!
# Lifting atomic instructions

In SPIR-V any memory can be used atomically; here it is of an atomic type.  What a pointer reaches is
noted while the functions are lifted, and `makeAtomic` changes the types of the variables afterwards.
-/

namespace ShaderKit.Spirv

open Ir (AtomicFunction ExprId Shape TypeId)

namespace BodyM

/-- Atomic instructions with a value operand. -/
def atomicOps : List (Nat × AtomicFunction) :=
  [(229, .exchange none), (234, .add), (235, .subtract), (236, .min), (237, .min), (238, .max),
   (239, .max), (240, .and), (241, .inclusiveOr), (242, .exclusiveOr), (Op.atomicFAdd, .add)]

/-- Takes note of the variable and of the struct members on the way to what a pointer points to, and
gives the type there.  A pointer comes after what it is made of, so `fuel` need not exceed the number of
expressions. -/
def notePointer : Nat → ExprId → BodyM TypeId
  | 0, _ => throw .atomicPointer
  | fuel + 1, pointer => do
    match ← expressionAt pointer with
    | .global g => do
      modifyThe Lift fun s => { s with atomicGlobals := g :: s.atomicGlobals }
      match (← getThe Lift).module.globals[g]? with
      | some v => return v.type
      | none => throw .atomicPointer
    | .access base _ => do
      match ← LiftM.shapeOf (← notePointer fuel base) with
      | .array element _ _ => return element
      | _ => throw (.rule .atomicPath)
    | .accessIndex base index => do
      let type ← notePointer fuel base
      match ← LiftM.shapeOf type with
      | .array element _ _ => return element
      | .struct members _ => do
        modifyThe Lift fun s => { s with atomicMembers := (type, index) :: s.atomicMembers }
        match members[index]? with
        | some m => return m.type
        | none => throw (.rule .atomicPath)
      | _ => throw (.rule .atomicPath)
    | _ => throw .atomicPointer

/-- What a pointer points to is used atomically. -/
def noteAtomic (pointer : ExprId) : BodyM Unit := do
  let _ ← notePointer (← get).expressions.size pointer

/-- A pointer, and the type that it points to. -/
def pointerValue (id : Id) : BodyM (ExprId × TypeId) := do
  let v ← entry id
  let p ← valueOf id v
  match (← LiftM.typeEntry v.type).base with
  | some base => return (p, ← typeOf base)
  | none => throw (.accessIndex v.type)

/-- An atomic read. -/
def atomicLoad (type id pointer : Id) : BodyM Unit := do
  let p ← value pointer
  define id type (← push (.load p))
  noteAtomic p

/-- An atomic write. -/
def atomicStore (pointer object : Id) : BodyM Unit := do
  let p ← value pointer
  statement (.store p (← value object))
  noteAtomic p

/-- Replaces what a pointer points to; the value is what was there before. -/
def atomic (f : AtomicFunction) (type id pointer operand : Id) : BodyM Unit := do
  let (p, pointee) ← pointerValue pointer
  let operand ← value operand
  let result ← push (.atomicResult pointee false)
  define id type result
  statement (.atomic p f operand (some result))
  noteAtomic p

/-- Counts up or down by one. -/
def atomicStep (f : AtomicFunction) (type id pointer : Id) : BodyM Unit := do
  let (p, pointee) ← pointerValue pointer
  let result ← push (.atomicResult pointee false)
  define id type result
  let one ← match ← kindOf? pointee with
    | some .uint => push (.literal (.u32 1))
    | some .sint => push (.literal (.i32 1))
    | _ => throw (.operandType type)
  statement (.atomic p f one (some result))
  noteAtomic p

/-- Replaces what a pointer points to if it equals the comparator.  The value is the first member of the
result, which never comes into scope. -/
def atomicCompareExchange (type id pointer object comparator : Id) : BodyM Unit := do
  let (p, pointee) ← pointerValue pointer
  let new ← value object
  let expected ← value comparator
  let .scalar s ← LiftM.shapeOf pointee | throw (.operandType type)
  let truth ← LiftM.intern (.scalar .bool)
  let info := Ir.exchangeResult s (← LiftM.intern (.scalar s)) truth
  let result ← push (.atomicResult (← LiftM.intern info.shape info.name) true)
  define id type (← pushDetached (.accessIndex result 0))
  statement (.atomic p (.exchange (some expected)) new (some result))
  noteAtomic p

/-- Lifts an atomic instruction with a result, or says that it is none. -/
def atomicInstruction? (op : Nat) (type id : Id) (operands : List Operand) : BodyM Bool := do
  match op, operands with
  | 227, [.id pointer, .scope _, .semantics _] => atomicLoad type id pointer
  | 230, [.id pointer, .scope _, .semantics _, .semantics _, .id object, .id comparator] =>
    atomicCompareExchange type id pointer object comparator
  | 232, [.id pointer, .scope _, .semantics _] => atomicStep .add type id pointer
  | 233, [.id pointer, .scope _, .semantics _] => atomicStep .subtract type id pointer
  | _, [.id pointer, .scope _, .semantics _, .id operand] =>
    match atomicOps.lookup op with
    | some f => atomic f type id pointer operand
    | none => return false
  | _, _ => return false
  return true

end BodyM

namespace LiftM

/-- The type in which what atomic instructions reach is atomic.  Parts of a type have a lower index, so
`fuel` need not exceed the number of types. -/
def atomicType : Nat → TypeId → LiftM TypeId
  | 0, _ => throw .atomicPointer
  | fuel + 1, type => do
    let info : Option Ir.TypeInfo := (← get).module.types[type]?
    match info with
    | some ⟨name, .scalar s⟩ => intern (.atomic s) name
    | some ⟨name, .pointer base space⟩ => do intern (.pointer (← atomicType fuel base) space) name
    | some ⟨name, .array base size stride⟩ => do
      intern (.array (← atomicType fuel base) size stride) name
    | some ⟨name, .bindingArray base size⟩ => do
      intern (.bindingArray (← atomicType fuel base) size) name
    | some ⟨name, .struct members span⟩ => do
      let chosen := (← get).atomicMembers
      if chosen.all (·.1 != type) then throw (.rule .atomicStruct)
      let members ← members.mapIdxM fun i m => do
        if chosen.contains (type, i) then return { m with type := ← atomicType fuel m.type }
        else return m
      intern (.struct members span) name
    | _ => return type

/-- Gives atomic types to the variables that atomic instructions reach. -/
def makeAtomic : LiftM Unit := do
  let s ← get
  let globals ← s.module.globals.mapIdxM fun i g => do
    if s.atomicGlobals.contains i then
      if g.init.isSome then throw .atomicInit
      return { g with type := ← atomicType s.module.types.length g.type }
    else return g
  modify fun s => { s with module := { s.module with globals } }

end LiftM

end ShaderKit.Spirv
