import ShaderKit.Wgsl.Lower.Term

/-!
# Constructing values

What a constructor makes of its arguments.  One argument is converted, repeated in every component of a
vector, or the only part; several arguments are the parts, in order.
-/

namespace ShaderKit.Wgsl

open Ir (Scalar Shape TypeId VectorSize)

/-- What is constructed.  Where the component type is left open it is that of the arguments. -/
inductive Target
  | type (type : TypeId)
  | vector (size : VectorSize)
  | matrix (columns rows : VectorSize)
  | array

namespace Lower

/-- Parts of a list that have a given length, the last one apart. -/
def chunks {α : Type} (n : Nat) (xs : List α) : List (List α) :=
  (List.range ((xs.length + n - 1) / n)).map fun i => (xs.drop (i * n)).take n

/-- The type of an array of these elements, close together. -/
def arrayType (base : TypeId) (size : Ir.ArraySize) : Lower TypeId := do
  let some extent := Ir.extent? (← types) base | throw .notConstructible
  typeOfShape (.array base size extent.stride)

/-- The scalar that the arguments of a constructor without a component type have in common. -/
def commonOf (args : List Term) : Lower Scalar := do
  match ← common? args with
  | some s => return s
  | none => throw .components

/-- A scalar or a vector with the given scalar. -/
def convertComponent (s : Scalar) (t : Term) : Lower Term := do
  match ← shapeOfTerm t with
  | .scalar _ => convertTo (.scalar s) t
  | .vector n _ => convertTo (.vector n s) t
  | _ => throw .conversion

/-- A matrix of its elements, column by column. -/
def matrixOfElements (columns rows : VectorSize) (s : Scalar) (elements : List Term) :
    Lower Term := do
  let column ← typeOfShape (.vector rows s)
  let parts ← (chunks rows.toNat elements).mapM (compose column)
  compose (← typeOfShape (.matrix columns rows s)) parts

/-- An array as long as there are elements, which get a common scalar if they have one. -/
def arrayOf (elements : List Term) : Lower Term := do
  let elements ← match ← common? elements with
    | some s => elements.mapM (convertScalar s)
    | none => pure elements
  match elements with
  | [] => throw .notInferable
  | first :: _ =>
    let base ← typeId (← typeOfTerm first)
    compose (← arrayType base (.constant elements.length)) elements

/-- The value of a struct; arguments beyond its members stay as they are. -/
def structOf (type : TypeId) (members : List Ir.StructMember) (args : List Term) : Lower Term := do
  let converted ← (args.zip members).mapM fun (arg, m) => convertToType m.type arg
  compose type (converted ++ args.drop members.length)

/-- The value of a type that one argument gives. -/
def constructFromOne (type : TypeId) (arg : Term) : Lower Term := do
  match ← shapeOfType type, ← shapeOfTerm arg with
  | .scalar s, .scalar _ => conversion s arg
  | .vector n s, .vector m _ => if n = m then conversion s arg else throw .conversion
  | .matrix c r s, .matrix c' r' _ =>
    if c = c' ∧ r = r' then conversion s arg else throw .conversion
  | .vector n s, .scalar _ => do splat n (← convertScalar s arg)
  | .array base .., _ => compose type [← convertToType base arg]
  | .struct members _, _ => structOf type members [arg]
  | _, _ => throw .conversion

/-- The value of a type that several arguments give. -/
def constructFromMany (type : TypeId) (args : List Term) : Lower Term := do
  match ← shapeOfType type with
  | .scalar _ => throw .components
  | .vector _ s => compose type (← args.mapM (convertComponent s))
  | .matrix c r s =>
    if args.length = c.toNat * r.toNat then
      matrixOfElements c r s (← args.mapM (convertTo (.scalar s)))
    else compose type (← args.mapM (convertTo (.vector r s)))
  | .array base .. => compose type (← args.mapM (convertToType base))
  | .struct members _ => structOf type members args
  | _ => throw .notConstructible

/-- The value that a constructor makes of its arguments, which are loaded. -/
def construct (target : Target) (args : List Term) : Lower Term := do
  match target, args with
  | .type type, [] => return .value (.zero type)
  | _, [] => throw .notInferable
  | .type type, [arg] => constructFromOne type arg
  | .type type, args => constructFromMany type args
  | .vector n, [arg] =>
    match ← shapeOfTerm arg with
    | .scalar _ => splat n arg
    | .vector m _ => if n = m then return arg else throw .conversion
    | _ => throw .conversion
  | .vector n, args =>
    let s ← commonOf args
    let args ← args.mapM (convertScalar s)
    compose (← typeOfShape (.vector n s)) args
  | .matrix c r, [arg] =>
    match ← shapeOfTerm arg with
    | .matrix c' r' _ => if c = c' ∧ r = r' then return arg else throw .conversion
    | _ => throw .conversion
  | .matrix c r, args =>
    let s ← commonOf args
    if args.length = c.toNat * r.toNat then
      let s := (Scalar.common? s .abstractFloat).getD s
      matrixOfElements c r s (← args.mapM (convertScalar s))
    else
      let args ← args.mapM (convertScalar s)
      compose (← typeOfShape (.matrix c r s)) args
  | .array, args => arrayOf args

end Lower

end ShaderKit.Wgsl
