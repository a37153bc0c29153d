import ShaderKit.Ir.Typing
import ShaderKit.Wgsl.Value.Literal

/-!
# Values

Values that are known before the program runs.  A value has the type that it was made with, and nothing
says that its components fit that type: such values are refused when the module is checked.
-/

namespace ShaderKit.Wgsl

open Ir (Literal Scalar Shape TypeId TypeInfo TypingFault ValueType VectorSize)

/-- Values that are known before a program runs. -/
inductive Value
  | literal (value : Literal)
  /-- The zero of a type. -/
  | zero (type : TypeId)
  /-- A vector whose components are all the same. -/
  | splat (size : VectorSize) (component : Value)
  | compose (type : TypeId) (components : List Value)

/-- A computation on values, which may add types to those of the module. -/
abbrev Evaluation := StateT (List TypeInfo) (Except ValueFault)

namespace Evaluation

/-- The type with a shape and without a name. -/
def intern (shape : Shape) : Evaluation TypeId := modifyGet fun types =>
  let (types, id) := Ir.internType types { shape }
  (id, types)

/-- The shape of a type. -/
def shape? (t : TypeId) : Evaluation (Option Shape) := return (← get)[t]?.map (·.shape)

/-- The type of a value with this type. -/
def typeId : ValueType → Evaluation TypeId
  | .named t => return t
  | .shape shape => intern shape

end Evaluation

namespace Value

/-- The type of a value. -/
def type (types : List TypeInfo) : Value → Except TypingFault ValueType
  | literal l => .ok (.shape (.scalar l.scalar))
  | zero t | compose t _ => .ok (.named t)
  | splat n v => do
    match (← v.type types).shape? types with
    | some (.scalar s) => return .shape (.vector n s)
    | _ => throw .notScalar

mutual

/-- How deep a value is nested. -/
def depth : Value → Nat
  | literal _ | zero _ => 0
  | splat _ v => v.depth + 1
  | compose _ components => depthOfAll components + 1

/-- How deep the deepest of the values is. -/
def depthOfAll : List Value → Nat
  | [] => 0
  | v :: rest => max v.depth (depthOfAll rest)

end

/-- A literal as a value. -/
def ofLiteral (l : Except ValueFault Literal) : Evaluation Value := return literal (← l)

/-- The zero of a type, put together from the zeros of its parts, which are nested at most `fuel` deep. -/
def zeroParts : Nat → TypeId → Evaluation Value
  | 0, _ => throw .zero
  | fuel + 1, t => do
    match ← Evaluation.shape? t with
    | some (.scalar s) => match Literal.zero? s with
      | some l => return literal l
      | none => throw .zero
    | some (.vector n s) =>
      let part ← zeroParts fuel (← Evaluation.intern (.scalar s))
      return compose t (List.replicate n.toNat part)
    | some (.matrix columns rows s) =>
      let part ← zeroParts fuel (← Evaluation.intern (.vector rows s))
      return compose t (List.replicate columns.toNat part)
    | some (.array base (.constant n) _) =>
      return compose t (List.replicate n (← zeroParts fuel base))
    | some (.struct members _) =>
      return compose t (← members.mapM fun m => zeroParts fuel m.type)
    | _ => throw .zero

/-- A type comes after the types that it is made of, so they are nested less deep than there are types, but
for the parts of a vector or a matrix. -/
def zeroOf (t : TypeId) : Evaluation Value := do zeroParts ((← get).length + 3) t

/-- A zero is put together from its parts, and other values stay as they are. -/
def withoutZero : Value → Evaluation Value
  | zero t => zeroOf t
  | v => return v

/-- A vector of equal components. -/
def repeated (n : VectorSize) : Value → Evaluation Value
  | literal l => do
    return compose (← Evaluation.intern (.vector n l.scalar)) (List.replicate n.toNat (literal l))
  | zero t => do
    match ← Evaluation.shape? t with
    | some (.scalar s) => return zero (← Evaluation.intern (.vector n s))
    | _ => throw .splat
  | _ => throw .splat

/-- A zero or a repeated component is put together from its parts. -/
def composed : Value → Evaluation Value
  | zero t => zeroOf t
  | splat n v => repeated n v
  | v => return v

/-- The components of a component of a vector. -/
def spread : Value → List Value
  | compose _ components => components
  | v => [v]

/-- The components of a vector that has the same one everywhere. -/
def spreadSplat : Value → List Value
  | splat n v => List.replicate n.toNat v
  | v => [v]

/-- The components of a composed value.  Those of a vector may come in vectors, two levels deep. -/
def flattened (shape : Option Shape) (components : List Value) : List Value :=
  match shape with
  | some (.vector n _) =>
    (((components.flatMap spread).flatMap spread).flatMap spreadSplat).take n.toNat
  | _ => components

/-- How many parts the values of a type have. -/
def partCount? : Shape → Option Nat
  | .vector n _ => some n.toNat
  | .matrix columns _ _ => some columns.toNat
  | .array _ (.constant n) _ => some n
  | .struct members _ => some members.length
  | _ => none

/-- The type of a part. -/
def partType? (index : Nat) : Shape → Option ValueType
  | .vector _ s => some (.shape (.scalar s))
  | .matrix _ rows s => some (.shape (.vector rows s))
  | .array base (.constant _) _ => some (.named base)
  | .struct members _ => members[index]?.map (.named ·.type)
  | _ => none

/-- The part of a value with an index. -/
def part (index : Nat) : Value → Evaluation Value
  | zero t => do
    let shape ← Evaluation.shape? t
    match shape.bind partCount?, shape.bind (partType? index) with
    | some count, some part =>
      if index < count then return zero (← Evaluation.typeId part) else throw .access
    | _, _ => throw .access
  | splat n v => if index < n.toNat then return v else throw .access
  | compose t components => do
    let shape ← Evaluation.shape? t
    if (shape.bind partCount?).isNone then throw .access
    match (flattened shape components)[index]? with
    | some v => return v
    | none => throw .access
  | literal _ => throw .access

/-- The components of a vector that a pattern picks. -/
def swizzle (n : VectorSize) (pattern : List Nat) (v : Value) : Evaluation Value := do
  let typeOfResult (t : TypeId) : Evaluation TypeId := do
    match ← Evaluation.shape? t with
    | some (.vector _ s) => Evaluation.intern (.vector n s)
    | _ => throw .swizzle
  match v with
  | zero t => return zero (← typeOfResult t)
  | splat _ v => return splat n v
  | compose t components =>
    let result ← typeOfResult t
    match pattern.mapM ((flattened (← Evaluation.shape? t) components)[·]?) with
    | some picked => return compose result picked
    | none => throw .swizzle
  | literal _ => throw .swizzle

/-- The literal that a value is. -/
def literal? (types : List TypeInfo) : Value → Option Literal
  | literal l => some l
  | zero t => do
    match (← types[t]?).shape with
    | .scalar s => Literal.zero? s
    | _ => none
  | _ => none

/-- A whole number that can be an index. -/
def index? (types : List TypeInfo) (v : Value) : Option Nat := do
  Literal.index? (← v.literal? types)

end Value

end ShaderKit.Wgsl
