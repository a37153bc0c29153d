import ShaderKit.Spirv.Emit.Code.Operator

/-!
# Emitting image instructions

Layers are the last component of a coordinate.  Depths are read as vectors, of which the first component
counts.
-/

namespace ShaderKit.Spirv.CodeM

open Ir (AtomicFunction ExprId ImageClass ImageDimension ImageQuery SampleLevel Scalar ScalarKind Shape VectorSize)

/-- The dimension, the layers and the class of an image. -/
def imageShape (e : ExprId) : CodeM (ImageDimension × Bool × ImageClass) := do
  match ← shapeOf e with
  | .image dim arrayed imageClass => return (dim, arrayed, imageClass)
  | _ => throw .layout

/-- A scalar or vector with a given number of components. -/
def shapeOfSize (n : Nat) (s : Scalar) : Shape :=
  match VectorSize.ofNat? n with
  | some n => .vector n s
  | none => .scalar s

/-- A coordinate with the layer behind it, and its shape. -/
def coordinate (place : ExprId) (layer : Option ExprId) : CodeM (Id × Shape) := do
  let shape ← shapeOf place
  let id ← value place
  match layer with
  | none => return (id, shape)
  | some layer =>
    let some s := shape.scalar? | throw .layout
    let some t := (← shapeOf layer).scalar? | throw .layout
    let l ← convertNumber (.scalar t) t s (← value layer)
    let count := match shape with
      | .vector n _ => n.toNat
      | _ => 1
    let whole := shapeOfSize (count + 1) s
    return (← result Op.compositeConstruct (← shapeType whole) [id, l], whole)

/-- The first component of a depth that was read as a vector. -/
def readTexel (imageClass : ImageClass) (e : ExprId) (read : Id → CodeM Id) : CodeM Id := do
  if imageClass.isDepth then
    let vector ← read (← EmitM.vectorType .four .f32)
    result Op.compositeExtract (← typeIdOf e) [vector, 0]
  else read (← typeIdOf e)

/-- A sample of an image at a place. -/
def sample (e image sampler : ExprId) (gather : Option Nat) (place : ExprId)
    (layer offset : Option ExprId) (level : SampleLevel) (depthRef : Option ExprId) :
    CodeM Id := do
  let (_, _, imageClass) ← imageShape image
  let imageType ← typeIdOf image
  let combined ← EmitM.typeOnce (.sampledImage imageType) fun id =>
    EmitM.declare Op.typeSampledImage [id, imageType]
  let imageId ← value image
  let sampled ← result Op.sampledImage combined [imageId, ← value sampler]
  let (at_, _) ← coordinate place layer
  let (isExplicit, mask, operands) : Bool × Word × List Id ← match level with
    | .auto => pure (false, 0, [])
    | .zero => do pure (true, 2, [← EmitM.literal (.f32 0)])
    | .exact l => do
      let id ← value l
      let id ← match (← shapeOf l).scalar? with
        | some s => convertNumber (.scalar s) s .f32 id
        | none => pure id
      pure (true, 2, [id])
    | .bias b => do pure (false, 1, [← value b])
    | .gradient x y => do pure (true, 4, [← value x, ← value y])
  let (mask, operands) ← match offset with
    | some o => do pure (mask ||| 8, operands ++ [← value o])
    | none => pure (mask, operands)
  let (mask, operands) := if gather.isSome then
      (mask &&& 8, if offset.isSome then operands.drop (operands.length - 1) else [])
    else (mask, operands)
  let tail := if mask = 0 then [] else mask :: operands
  match gather, depthRef with
  | some _, some d => do result 97 (← typeIdOf e) (sampled :: at_ :: (← value d) :: tail)
  | some c, none => do
    result 96 (← typeIdOf e) (sampled :: at_ :: (← EmitM.number c) :: tail)
  | none, some d => do
    result (if isExplicit then 90 else 89) (← typeIdOf e)
      (sampled :: at_ :: (← value d) :: tail)
  | none, none =>
    readTexel imageClass e fun type =>
      result (if isExplicit then 88 else 87) type (sampled :: at_ :: tail)

/-- The size of an image with its layers, in a given integer type. -/
def sizeQuery (type image : Id) (imageClass : ImageClass) (level : Option Id) : CodeM Id := do
  EmitM.require 50
  match imageClass, level with
  | .storage .., _ | .sampled _ true, _ | .depth true, _ => result Op.imageQuerySize type [image]
  | _, some l => result Op.imageQuerySizeLod type [image, l]
  | _, none => do result Op.imageQuerySizeLod type [image, ← EmitM.number 0]

/-- The smaller of a number and the greatest one below a bound. -/
def below (shape : Shape) (id bound : Id) : CodeM Id := do
  let type ← shapeType shape
  let some s := shape.scalar? | throw .layout
  let last ← result Op.iSub type [bound, ← everywhere shape (← oneOf s)]
  standard type leastUnsigned [id, last]

/-- A texel of an image, kept within bounds where that is asked for. -/
def load (e image place : ExprId) (layer sampleIndex level : Option ExprId) : CodeM Id := do
  let (_, _, imageClass) ← imageShape image
  let imageId ← value image
  let (at_, shape) ← coordinate place layer
  let robust ← robust
  let bounded (query : Nat) (e : ExprId) : CodeM Id := do
    let id ← value e
    if !robust then return id
    EmitM.require 50
    let shape ← shapeOf e
    below shape id (← result query (← shapeType shape) [imageId])
  let level ← level.mapM (bounded Op.imageQueryLevels)
  let sampleIndex ← sampleIndex.mapM (bounded Op.imageQuerySamples)
  let at_ ← if robust then do
      below shape at_ (← sizeQuery (← shapeType shape) imageId imageClass level)
    else pure at_
  let operands := match level, sampleIndex with
    | some l, _ => [2, l]
    | none, some i => [64, i]
    | none, none => []
  let opcode := match imageClass with
    | .storage .. => Op.imageRead
    | _ => Op.imageFetch
  readTexel imageClass e fun type => result opcode type (imageId :: at_ :: operands)

/-- Writes a texel. -/
def imageStore (image place : ExprId) (layer : Option ExprId) (texel : ExprId) : CodeM Unit := do
  let imageId ← value image
  let (at_, _) ← coordinate place layer
  emit Op.imageWrite [imageId, at_, ← value texel]

/-- The instruction of an atomic operation on a texel. -/
def texelOpcode (f : AtomicFunction) : OpcodeByKind :=
  let both (op : Nat) : OpcodeByKind := { sint := some op, uint := some op }
  match f with
  | .add => both 234
  | .subtract => both 235
  | .and => both 240
  | .inclusiveOr => both 241
  | .exclusiveOr => both 242
  | .min => { sint := some 236, uint := some 237 }
  | .max => { sint := some 238, uint := some 239 }
  | .exchange _ => both 229

/-- The variable of an image. -/
def imageVariable (image : ExprId) : CodeM Id := do
  match ← expressionAt image with
  | .global g => return (← globalEntry g).id
  | _ => pointer image

/-- Changes a texel atomically. -/
def imageAtomic (image place : ExprId) (layer : Option ExprId) (f : AtomicFunction)
    (operand : ExprId) : CodeM Unit := do
  let (_, _, imageClass) ← imageShape image
  let texel := imageClass.texel
  if texel.width = 8 then
    EmitM.require 5016
    EmitM.useExtension "SPV_EXT_shader_image_int64"
  let type ← EmitM.scalarType texel
  let var ← imageVariable image
  let (at_, _) ← coordinate place layer
  let texelPointer ← EmitM.pointerType StorageClass.image type
  let pointer ← result Op.imageTexelPointer texelPointer [var, at_, ← EmitM.number 0]
  let opcode ← opcodeFor (texelOpcode f) texel.kind
  let _ ← result opcode type [pointer, ← EmitM.number 5, ← EmitM.number 0, ← value operand]

/-- What is asked of an image. -/
def query (e image : ExprId) (query : ImageQuery) : CodeM Id := do
  EmitM.require 50
  let (dim, arrayed, imageClass) ← imageShape image
  let id ← value image
  let count := match dim with
    | .d1 => 1
    | .d2 | .cube => 2
    | .d3 => 3
  let whole := shapeOfSize (if arrayed then count + 1 else count) .u32
  let type ← typeIdOf e
  match query with
  | .size level => do
    let size ← sizeQuery (← shapeType whole) id imageClass (← level.mapM value)
    if !arrayed then return size
    if count = 1 then return ← result Op.compositeExtract type [size, 0]
    let places := (List.range count).map UInt32.ofNat
    result Op.vectorShuffle type (size :: size :: places)
  | .levels => result Op.imageQueryLevels type [id]
  | .samples => result Op.imageQuerySamples type [id]
  | .layers => do
    let size ← sizeQuery (← shapeType whole) id imageClass none
    result Op.compositeExtract type [size, UInt32.ofNat count]

end ShaderKit.Spirv.CodeM
