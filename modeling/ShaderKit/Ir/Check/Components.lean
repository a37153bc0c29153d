import ShaderKit.Ir.Check.Types

/-!
# Literals and composed values

When a literal is a proper value, and which components a value of a type is composed from.
-/

namespace ShaderKit.Ir

/-- Pointers to a type and to its shape are the same, where the shape can be pointed to by itself. -/
def Shape.canonical (types : List TypeInfo) : Shape → Shape
  | .pointer base space => match types[base]? with
    | some ⟨_, .scalar s⟩ => .valuePointer none s space
    | some ⟨_, .vector n s⟩ => .valuePointer (some n) s space
    | _ => .pointer base space
  | s => s

/-- Equal up to how pointers are written. -/
def Shape.isEquivalent (types : List TypeInfo) (a b : Shape) : Bool :=
  a.canonical types == b.canonical types

namespace Check

/-- Whether the bits of a float stand for a number: the exponent is not the highest one. -/
def isFinite32 (bits : UInt32) : Bool := bits &&& 0x7f800000 != 0x7f800000

/-- The exponent of a double is not that of infinities and of what is no number. -/
def isFinite64 (bits : UInt64) : Bool := bits &&& 0x7ff0000000000000 != 0x7ff0000000000000

/-- A literal has a width and is finite. -/
def checkLiteral (l : Literal) : Except Fault Unit := do
  checkWidth l.scalar
  let finite := match l with
    | .f32 bits => isFinite32 bits
    | .f64 bits | .abstractFloat bits => isFinite64 bits
    | _ => true
  if !finite then throw .literal

/-- How many components of a vector with scalar `s` a part supplies. -/
def componentsFrom (s : Scalar) : Shape → Except Fault Nat
  | .scalar t => if t = s then .ok 1 else .error .components
  | .vector n t => if t = s then .ok n.toNat else .error .components
  | _ => .error .components

/-- Values of `shape` are composed from parts of these shapes. -/
def checkCompose (types : List TypeInfo) (shape : Shape) (parts : List Shape) :
    Except Fault Unit := do
  let matchAll (expected : List (Option Shape)) : Except Fault Unit :=
    if expected.length = parts.length && (expected.zip parts).all fun (e, p) =>
        e.any (·.isEquivalent types p) then .ok ()
    else .error .components
  match shape with
  | .vector n s => do
    let counts ← parts.mapM (componentsFrom s)
    if counts.foldl Nat.add 0 ≠ n.toNat then throw .components
  | .matrix columns rows s => do
    if parts ≠ List.replicate columns.toNat (.vector rows s) then throw .components
  | .array base (.constant n) _ =>
    if n ≠ parts.length then throw .components
    matchAll (parts.map fun _ => types[base]?.map (·.shape))
  | .struct members _ => matchAll (members.map fun m => types[m.type]?.map (·.shape))
  | _ => throw .components

end Check

end ShaderKit.Ir
