import ShaderKit.Ir.Layout
import ShaderKit.Ir.Check.Components
import ShaderKit.Wgsl.Value.Operator

/-!
# Conversions

How numbers without a type get one.  Only the scalar that a value is made of changes, and never the way it
is put together.
-/

namespace ShaderKit.Wgsl

open Ir (Scalar Shape TypeId TypeInfo)

namespace Scalar

/-- How far a number without a type can be converted without being asked to. -/
def convertsTo (source target : Scalar) : Bool :=
  source == target || match source.kind, target.kind with
    | .abstractInt, .sint | .abstractInt, .uint | .abstractInt, .float
    | .abstractInt, .abstractFloat | .abstractFloat, .float => true
    | _, _ => false

/-- The scalar that both convert to, if there is one; it is one of them. -/
def common? (a b : Scalar) : Option Scalar :=
  if convertsTo a b then some b else if convertsTo b a then some a else none

/-- The scalar that a value without a type gets. -/
def concrete (s : Scalar) : Scalar :=
  if s.kind = .abstractInt then .i32 else if s.kind = .abstractFloat then .f32 else s

end Scalar

namespace Shape

/-- The scalar that a scalar, a vector or a matrix is made of. -/
def scalarOf? : Shape → Option Scalar
  | .scalar s | .vector _ s | .matrix _ _ s => some s
  | _ => none

/-- The scalar that a value is made of, through arrays that are nested at most `fuel` deep. -/
def leafIn (types : List TypeInfo) : Nat → Shape → Option Scalar
  | fuel + 1, .array base .. => do leafIn types fuel (← types[base]?).shape
  | _, shape => scalarOf? shape

/-- The scalar that a value, or each element of an array, is made of. -/
def leaf? (types : List TypeInfo) (shape : Shape) : Option Scalar :=
  leafIn types types.length shape

/-- The scalar that a value changes to on the way to a type, through arrays that are nested at most `fuel`
deep. -/
def conversionIn (types : List TypeInfo) : Nat → Shape → Shape → Option Scalar
  | fuel + 1, .array a n _, .array b m _ => do
    if n ≠ m then none
    else conversionIn types fuel (← types[a]?).shape (← types[b]?).shape
  | _, source, goal => do
    let alike := match source, goal with
      | .scalar _, .scalar _ => true
      | .vector n _, .vector m _ => n == m
      | .matrix c r _, .matrix c' r' _ => c == c' && r == r'
      | _, _ => false
    let s ← scalarOf? source
    let target ← scalarOf? goal
    if alike && s != target && Scalar.convertsTo s target then some target else none

/-- The scalar that a value of one type changes to on the way to another, if it gets there without being
asked to. -/
def conversion? (types : List TypeInfo) (source goal : Shape) : Option Scalar :=
  conversionIn types types.length source goal

/-- The scalar that the place that a pointer leads to is made of. -/
def pointeeLeaf? (types : List TypeInfo) : Shape → Option Scalar
  | .pointer base _ => do leaf? types (← types[base]?).shape
  | .valuePointer _ s _ => some s
  | shape => leaf? types shape

end Shape

namespace Value

/-- A value with another scalar in it, where the value is nested less than `fuel` deep. -/
def castIn (target : Scalar) : Nat → Value → Evaluation Value
  | 0, _ => throw .cast
  | fuel + 1, v => do
    match ← withoutZero v with
    | literal l => ofLiteral (Literal.convert target l)
    | compose t components =>
      let shape ← match ← Evaluation.shape? t with
        | some (.vector n _) => pure (.vector n target)
        | some (.matrix c r _) => pure (.matrix c r target)
        | _ => throw .cast
      let components ← components.mapM (castIn target fuel)
      return compose (← Evaluation.intern shape) components
    | splat n v => return splat n (← castIn target fuel v)
    | zero _ => throw .cast

/-- A scalar, a vector or a matrix with another scalar in it. -/
def cast (target : Scalar) (v : Value) : Evaluation Value :=
  castIn target (v.depth + expansionDepth) v

/-- Like `cast`, for arrays too.  The elements of the new array have no gaps between them. -/
def castArrayIn (target : Scalar) : Nat → Value → Evaluation Value
  | 0, _ => throw .cast
  | fuel + 1, v => do
    let v ← withoutZero v
    match v with
    | compose t components =>
      match ← Evaluation.shape? t with
      | some (.array _ size _) =>
        let components ← components.mapM (castArrayIn target fuel)
        let types ← get
        match components.head?.map (type types) with
        | some (.ok element) =>
          let base ← Evaluation.typeId element
          let stride := ((← get)[base]?).elim 0 (·.shape.size)
          return compose (← Evaluation.intern (.array base size stride)) components
        | _ => throw .cast
      | _ => cast target v
    | v => cast target v

/-- A value with its scalars converted. -/
def castArray (target : Scalar) (v : Value) : Evaluation Value := do
  castArrayIn target (v.depth + (← get).length + expansionDepth) v

end Value

end ShaderKit.Wgsl
