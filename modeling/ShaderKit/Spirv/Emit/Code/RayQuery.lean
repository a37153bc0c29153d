import ShaderKit.Spirv.Emit.Code.Operator

/-!
# Emitting ray queries

A query is started with the members of a ray description, and asked for the parts of what the ray hits.
-/

namespace ShaderKit.Spirv.CodeM

open Ir (ExprId RayQueryFunction Shape)

/-- The instructions that ask for the members of what a ray hits, in their order. -/
def intersectionOpcodes : List Nat :=
  [4479, 6018, 6019, 6020, 6021, 6022, 6023, 6024, 6025, 6031, 6032]

/-- The members of a ray description, taken out one by one. -/
def descriptorParts (descriptor : ExprId) : CodeM (List Id) := do
  let whole ← value descriptor
  match ← shapeOf descriptor with
  | .struct members _ =>
    members.zipIdx.mapM fun (m, i) => do
      result Op.compositeExtract (← EmitM.typeId m.type) [whole, UInt32.ofNat i]
  | _ => throw .layout

/-- A step of a ray query. -/
def rayQuery (query : ExprId) (f : RayQueryFunction) : CodeM Unit := do
  let place ← pointer query
  match f with
  | .start structure_ descriptor => do
    match ← descriptorParts descriptor with
    | [flags, mask, least, greatest, origin, direction] =>
      emit 4473 [place, ← value structure_, flags, mask, origin, least, direction, greatest]
    | _ => throw .layout
  | .proceed resultOf => do
    setValue resultOf (← result 4477 (← EmitM.scalarType .bool) [place])
  | .terminate => emit 4474 [place]

/-- What a ray hits; parts other than the kind only have a meaning if it hits something. -/
def rayQueryIntersection (e query : ExprId) (committed : Bool) : CodeM Id := do
  let place ← pointer query
  let which ← EmitM.number (if committed then 1 else 0)
  match ← shapeOf e with
  | .struct members _ => do
    let parts ← (members.zip intersectionOpcodes).mapM fun (m, opcode) => do
      result opcode (← EmitM.typeId m.type) [place, which]
    result Op.compositeConstruct (← typeIdOf e) parts
  | _ => throw .layout

end ShaderKit.Spirv.CodeM
