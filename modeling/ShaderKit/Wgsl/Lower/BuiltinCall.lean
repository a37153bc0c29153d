import ShaderKit.Wgsl.Lower.Construct

/-!
# Built-in functions

Calls of functions that every source has.  Arguments are taken in order when they are needed, and numbers
among them get a type.
-/

namespace ShaderKit.Wgsl

open Ir (AtomicFunction Barrier Collective DerivativeAxis DerivativeControl ExprId Expression
  GatherMode ImageClass ImageQuery MathFunction RelationalFunction SampleLevel Scalar Shape
  StructMember SubgroupOperation TypeId ValueType VectorSize)

namespace BuiltinCall

/-- Functions of numbers. -/
def mathFunctions : List (String × MathFunction) :=
  [("abs", .abs), ("min", .min), ("max", .max), ("clamp", .clamp), ("saturate", .saturate),
   ("cos", .cos), ("cosh", .cosh), ("sin", .sin), ("sinh", .sinh), ("tan", .tan), ("tanh", .tanh),
   ("acos", .acos), ("acosh", .acosh), ("asin", .asin), ("asinh", .asinh), ("atan", .atan),
   ("atanh", .atanh), ("atan2", .atan2), ("radians", .radians), ("degrees", .degrees),
   ("ceil", .ceil), ("floor", .floor), ("round", .round), ("fract", .fract), ("trunc", .trunc),
   ("modf", .modf), ("frexp", .frexp), ("ldexp", .ldexp), ("exp", .exp), ("exp2", .exp2),
   ("log", .log), ("log2", .log2), ("pow", .pow), ("dot", .dot), ("cross", .cross),
   ("distance", .distance), ("length", .length), ("normalize", .normalize),
   ("faceForward", .faceForward), ("reflect", .reflect), ("refract", .refract), ("sign", .sign),
   ("fma", .fma), ("mix", .mix), ("step", .step), ("smoothstep", .smoothStep), ("sqrt", .sqrt),
   ("inverseSqrt", .inverseSqrt), ("transpose", .transpose), ("determinant", .determinant),
   ("quantizeToF16", .quantizeToF16), ("countTrailingZeros", .countTrailingZeros),
   ("countLeadingZeros", .countLeadingZeros), ("countOneBits", .countOneBits),
   ("reverseBits", .reverseBits), ("extractBits", .extractBits), ("insertBits", .insertBits),
   ("firstTrailingBit", .firstTrailingBit), ("firstLeadingBit", .firstLeadingBit),
   ("pack4x8snorm", .pack4x8snorm), ("pack4x8unorm", .pack4x8unorm),
   ("pack2x16snorm", .pack2x16snorm), ("pack2x16unorm", .pack2x16unorm),
   ("pack2x16float", .pack2x16float), ("pack4xI8", .pack4xI8), ("pack4xU8", .pack4xU8),
   ("unpack4x8snorm", .unpack4x8snorm), ("unpack4x8unorm", .unpack4x8unorm),
   ("unpack2x16snorm", .unpack2x16snorm), ("unpack2x16unorm", .unpack2x16unorm),
   ("unpack2x16float", .unpack2x16float), ("unpack4xI8", .unpack4xI8),
   ("unpack4xU8", .unpack4xU8)]

/-- Tests by name. -/
def relationalFunctions : List (String × RelationalFunction) := [("all", .all), ("any", .any)]

/-- Derivatives by name. -/
def derivatives : List (String × DerivativeAxis × DerivativeControl) :=
  [("dpdx", .x, .none), ("dpdxCoarse", .x, .coarse), ("dpdxFine", .x, .fine),
   ("dpdy", .y, .none), ("dpdyCoarse", .y, .coarse), ("dpdyFine", .y, .fine),
   ("fwidth", .width, .none), ("fwidthCoarse", .width, .coarse), ("fwidthFine", .width, .fine)]

/-- Barriers by name. -/
def barriers : List (String × Barrier) :=
  [("storageBarrier", ⟨true, false, false, false⟩),
   ("workgroupBarrier", ⟨false, true, false, false⟩),
   ("subgroupBarrier", ⟨false, false, true, false⟩)]

/-- Atomic operations by name. -/
def atomics : List (String × AtomicFunction) :=
  [("atomicAdd", .add), ("atomicSub", .subtract), ("atomicAnd", .and),
   ("atomicXor", .exclusiveOr), ("atomicOr", .inclusiveOr), ("atomicMin", .min),
   ("atomicMax", .max), ("atomicExchange", .exchange none)]

/-- Atomic operations on texels by name. -/
def imageAtomics : List (String × AtomicFunction) :=
  [("textureAtomicMin", .min), ("textureAtomicMax", .max), ("textureAtomicAdd", .add),
   ("textureAtomicAnd", .and), ("textureAtomicOr", .inclusiveOr),
   ("textureAtomicXor", .exclusiveOr)]

/-- What images are asked for, by name. -/
def queries : List (String × ImageQuery) :=
  [("textureNumLevels", .levels), ("textureNumLayers", .layers), ("textureNumSamples", .samples)]

/-- What the invocations of a subgroup do together. -/
def collectives : List (String × SubgroupOperation × Collective) :=
  [("subgroupAll", .all, .reduce), ("subgroupAny", .any, .reduce), ("subgroupAdd", .add, .reduce),
   ("subgroupMul", .multiply, .reduce), ("subgroupMin", .min, .reduce),
   ("subgroupMax", .max, .reduce), ("subgroupAnd", .and, .reduce), ("subgroupOr", .or, .reduce),
   ("subgroupXor", .exclusiveOr, .reduce), ("subgroupExclusiveAdd", .add, .exclusiveScan),
   ("subgroupExclusiveMul", .multiply, .exclusiveScan),
   ("subgroupInclusiveAdd", .add, .inclusiveScan),
   ("subgroupInclusiveMul", .multiply, .inclusiveScan)]

/-- Ways to take a value from another invocation, whose number is the second argument. -/
def gathers : List (String × (ExprId → GatherMode)) :=
  [("subgroupBroadcast", .broadcast), ("subgroupShuffle", .shuffle),
   ("subgroupShuffleDown", .shuffleDown), ("subgroupShuffleUp", .shuffleUp),
   ("subgroupShuffleXor", .shuffleXor)]

/-- The functions that sample. -/
def samplers : List String :=
  ["textureSample", "textureSampleBias", "textureSampleCompare", "textureSampleCompareLevel",
   "textureSampleGrad", "textureSampleLevel", "textureGather", "textureGatherCompare"]

end BuiltinCall

namespace Lower

open BuiltinCall

/-- An argument of a call, before it is taken. -/
abbrev Pending := Lower Term

/-- A call with too many arguments, or too few. -/
def wrongCount {α : Type} (name : String) : Lower α := throw (.argumentCount name)

/-- The value of an argument, with a type. -/
def taken (a : Pending) : Lower Term := do concretize (← loaded (← a))

/-- The expression of an argument. -/
def takenExpression (a : Pending) : Lower ExprId := do expression (← taken a)

/-- Whether an image has layers, and its class. -/
def imageOf (e : ExprId) : Lower (Bool × ImageClass) := do
  match ← shapeOf e with
  | .image _ arrayed imageClass => return (arrayed, imageClass)
  | _ => throw .image

/-- The struct of the two parts that a float is split into. -/
def splitResult (f : MathFunction) (arg : Term) : Lower Unit := do
  let (size, s) ← match ← shapeOfTerm arg with
    | .scalar s => pure (none, s)
    | .vector n s => pure (some n, s)
    | _ => return
  let shape (s : Scalar) : Shape := size.elim (.scalar s) (.vector · s)
  let first ← typeOfShape (shape s)
  let second ← if f = .modf then pure first else typeOfShape (shape .i32)
  let width := (size.elim 1 VectorSize.toNat) * s.width
  let names := if f = .modf then ("fract", "whole") else ("fract", "exp")
  let members : List StructMember :=
    [Ir.plainMember names.1 first 0, Ir.plainMember names.2 second width]
  let _ ← intern { name := some (Ir.splitResultName f size s), shape := .struct members (2 * width) }

/-- The struct that a compared exchange returns. -/
def exchangeResult (s : Scalar) : Lower TypeId := do
  let truth ← typeOfShape (.scalar .bool)
  let old ← typeOfShape (.scalar s)
  intern (Ir.exchangeResult s old truth)

/-- The struct that describes a ray. -/
def rayDescription : Lower TypeId := do
  [Shape.scalar .u32, .scalar .f32, .vector .three .f32].forM fun s => do
    let _ ← typeOfShape s
  match Ir.rayDescription? (← types) with
  | some shape => intern { name := some Ir.rayDescriptionName, shape }
  | none => throw (.typing .undefined)

/-- The struct that says what a ray hits. -/
def rayIntersection : Lower TypeId := do
  [Shape.scalar .u32, .scalar .f32, .vector .two .f32, .scalar .bool,
    .matrix .four .three .f32].forM fun s => do
    let _ ← typeOfShape s
  match Ir.rayIntersection? (← types) with
  | some shape => intern { name := some Ir.rayIntersectionName, shape }
  | none => throw (.typing .undefined)

/-- A function of numbers.  Arguments that are missing are noticed later. -/
def mathCall (name : String) (f : MathFunction) (args : List Pending) : Lower Term := do
  if 4 < args.length then wrongCount name
  let args ← args.mapM taken
  match args with
  | [] => wrongCount name
  | first :: rest =>
    if f = .modf ∨ f = .frexp then splitResult f first
    let given (es : List ExprId) (i : Nat) : Option ExprId :=
      if i ≤ rest.length then es[i]? else none
    computed args (Value.math f) fun es =>
      .math f (operand es 0) (given es 1) (given es 2) (given es 3)

/-- The truth of one truth value is that value. -/
def relationalCall (f : RelationalFunction) (arg : Pending) : Lower Term := do
  let arg ← taken arg
  match f, ← shapeOfTerm arg with
  | .all, .scalar ⟨.bool, _⟩ | .any, .scalar ⟨.bool, _⟩ => return arg
  | _, _ => computed [arg] (fun _ => throw .unsupported) fun es => .relational f (operand es 0)

/-- A pointer to a type with a given shape. -/
def pointerTo (good : Shape → Bool) (fault : Fault) (a : Pending) : Lower ExprId := do
  let t ← taken a
  match ← shapeOfTerm t with
  | .pointer base _ => if good (← shapeOfType base) then expression t else throw fault
  | _ => throw fault

/-- A pointer to an atomic. -/
def atomicPointer : Pending → Lower ExprId :=
  pointerTo (fun | .atomic _ => true | _ => false) .atomicPointer

/-- A pointer to a ray query. -/
def rayQueryPointer : Pending → Lower ExprId := pointerTo (· == .rayQuery) .rayQueryPointer

/-- Whether nobody asks for the old value of an operation on 64 bits that can do without it. -/
def needsNoResult (f : AtomicFunction) (isStatement : Bool) : Shape → Bool
  | .scalar s => isStatement && s.width == 8 && (f == .min || f == .max)
  | _ => false

/-- A call of an atomic operation. -/
def atomicCall (f : AtomicFunction) (isStatement : Bool) (pointer value : Pending) :
    Lower (Option Term) := do
  let pointer ← atomicPointer pointer
  let value ← takenExpression value
  if needsNoResult f isStatement (← shapeOf value) then
    statement (.atomic pointer f value none)
    return none
  let type ← typeId (← typeOf value)
  let result ← push (.atomicResult type false)
  statement (.atomic pointer f value (some result))
  return some (.plain result)

/-- A call of an exchange of an expected value. -/
def exchangeCall (pointer compare value : Pending) : Lower Term := do
  let pointer ← atomicPointer pointer
  let compare ← takenExpression compare
  let value ← takenExpression value
  let type ← match ← shapeOf value with
    | .scalar s => exchangeResult s
    | _ => throw .scalarExpected
  let result ← push (.atomicResult type true)
  statement (.atomic pointer (.exchange (some compare)) value (some result))
  return .plain result

/-- A number that picks a component. -/
def gatherComponent (t : Term) : Lower Nat := do
  if (← deadline) ≠ .runtime then throw (.value .notConstant)
  match t.value?.bind (Value.index? (← types)) with
  | some i => if i < 4 then return i else throw (.value .index)
  | none => throw (.value .notConstant)

/-- Takes the layer from the front of the arguments, if the image has layers. -/
def takeLayer (name : String) (arrayed : Bool) (args : List Pending) :
    Lower (Option ExprId × List Pending) := do
  if !arrayed then return (none, args)
  match args with
  | layer :: rest => return (some (← takenExpression layer), rest)
  | [] => wrongCount name

/-- What the arguments after the place of a sample say: the level of detail, the depth to compare with,
and the arguments that are left. -/
def sampleLevel (name : String) (args : List Pending) :
    Lower (SampleLevel × Option ExprId × List Pending) := do
  match name, args with
  | "textureSample", rest => return (.auto, none, rest)
  | "textureSampleBias", bias :: rest => return (.bias (← takenExpression bias), none, rest)
  | "textureSampleCompare", depth :: rest =>
    return (.auto, some (← takenExpression depth), rest)
  | "textureSampleCompareLevel", depth :: rest =>
    return (.zero, some (← takenExpression depth), rest)
  | "textureSampleGrad", x :: y :: rest =>
    let x ← takenExpression x
    return (.gradient x (← takenExpression y), none, rest)
  | "textureSampleLevel", level :: rest => return (.exact (← takenExpression level), none, rest)
  | "textureGather", rest => return (.zero, none, rest)
  | "textureGatherCompare", depth :: rest =>
    return (.zero, some (← takenExpression depth), rest)
  | _, _ => wrongCount name

/-- The offset of a sample is a constant of the module. -/
def sampleOffset (name : String) : List Pending → Lower (Option ExprId)
  | [] => return none
  | [offset] => do some <$> expression (← atModuleScope (taken offset))
  | _ => wrongCount name

/-- A call of a function that samples. -/
def sampleAt (name : String) (gather : Option Nat) (image : ExprId) :
    List Pending → Lower Term
  | sampler :: coordinate :: rest => do
    let sampler ← takenExpression sampler
    let coordinate ← takenExpression coordinate
    let (arrayed, _) ← imageOf image
    let (layer, rest) ← takeLayer name arrayed rest
    let (level, depth, rest) ← sampleLevel name rest
    let offset ← sampleOffset name rest
    .plain <$> push (.imageSample image sampler gather coordinate layer offset level depth)
  | _ => wrongCount name

/-- A sample, or the components of four texels.  Depths have only one component. -/
def sampleCall (name : String) (args : List Pending) : Lower Term := do
  match args with
  | [] => wrongCount name
  | first :: rest =>
    let t ← taken first
    if name = "textureGather" then
      match ← shapeOfTerm t, rest with
      | .image _ _ (.depth _), _ => sampleAt name (some 0) (← expression t) rest
      | _, image :: rest =>
        let image ← takenExpression image
        sampleAt name (some (← gatherComponent t)) image rest
      | _, [] => wrongCount name
    else
      let gather := if name = "textureGatherCompare" then some 0 else none
      sampleAt name gather (← expression t) rest

/-- A call that loads a texel. -/
def loadCall (name : String) : List Pending → Lower Term
  | image :: coordinate :: rest => do
    let image ← takenExpression image
    let coordinate ← takenExpression coordinate
    let (arrayed, imageClass) ← imageOf image
    let (layer, rest) ← takeLayer name arrayed rest
    let operands ← rest.mapM takenExpression
    let multisampled := match imageClass with
      | .sampled _ multisampled | .depth multisampled => some multisampled
      | .storage .. => none
    match multisampled, operands with
    | none, [] => .plain <$> push (.imageLoad image coordinate layer none none)
    | some true, [sample] => .plain <$> push (.imageLoad image coordinate layer (some sample) none)
    | some false, [level] => .plain <$> push (.imageLoad image coordinate layer none (some level))
    | _, _ => wrongCount name
  | _ => wrongCount name

/-- The image, the place and the layer that a texel is written at, and the one argument that is left. -/
def texelArguments (name : String) : List Pending →
    Lower (ExprId × ExprId × Option ExprId × ExprId)
  | image :: coordinate :: rest => do
    let image ← takenExpression image
    let coordinate ← takenExpression coordinate
    let (arrayed, _) ← imageOf image
    let (layer, rest) ← takeLayer name arrayed rest
    match rest with
    | [value] => return (image, coordinate, layer, ← takenExpression value)
    | _ => wrongCount name
  | _ => wrongCount name

/-- A call that asks for the size of an image. -/
def dimensionsCall (name : String) (args : List Pending) : Lower Term := do
  match ← args.mapM takenExpression with
  | [image] => .plain <$> push (.imageQuery image (.size none))
  | [image, level] => .plain <$> push (.imageQuery image (.size (some level)))
  | _ => wrongCount name

/-- A call that loads workgroup memory for all invocations. -/
def uniformLoadCall (pointer : Pending) : Lower Term := do
  let pointer ← takenExpression pointer
  match ← shapeOf pointer with
  | .pointer base .workgroup =>
    let result ← push (.workGroupUniformLoadResult base)
    statement (.workGroupUniformLoad pointer result)
    return .plain result
  | _ => throw .notPointer

/-- A call that combines the values of a subgroup. -/
def collectiveCall (operation : SubgroupOperation) (collective : Collective) (arg : Pending) :
    Lower Term := do
  let e ← takenExpression arg
  let result ← push (.subgroupResult (← typeId (← typeOf e)))
  statement (.subgroupCollective operation collective e result)
  return .plain result

/-- A call that reads a value of another invocation. -/
def gatherCall (mode : Lower GatherMode) (arg : Pending) : Lower Term := do
  let e ← takenExpression arg
  let mode ← mode
  let result ← push (.subgroupResult (← typeId (← typeOf e)))
  statement (.subgroupGather mode e result)
  return .plain result

/-- A call that asks which invocations a condition holds for. -/
def ballotCall (predicate : Option Pending) : Lower Term := do
  let predicate ← predicate.mapM takenExpression
  let result ← push .subgroupBallotResult
  statement (.subgroupBallot result predicate)
  return .plain result

/-- What the built-in functions for rays do; none if there is no function of that name. -/
def rayCall? (name : String) (args : List Pending) : Option (Lower (Option Term)) :=
  let intersection (query : Pending) (committed : Bool) : Lower (Option Term) := do
    let query ← rayQueryPointer query
    let _ ← rayIntersection
    return some (.plain (← push (.rayQueryIntersection query committed)))
  match name, args with
  | "rayQueryInitialize", [query, structure_, descriptor] => some do
    let query ← rayQueryPointer query
    let structure_ ← takenExpression structure_
    let descriptor ← takenExpression descriptor
    let _ ← rayDescription
    statement (.rayQuery query (.start structure_ descriptor))
    return none
  | "rayQueryProceed", [query] => some do
    let query ← rayQueryPointer query
    let result ← push .rayQueryProceedResult
    statement (.rayQuery query (.proceed result))
    return some (.plain result)
  | "rayQueryGetCommittedIntersection", [query] => some (intersection query true)
  | "rayQueryGetCandidateIntersection", [query] => some (intersection query false)
  | "RayDesc", args => some do
    let type ← rayDescription
    return some (← construct (.type type) (← args.mapM fun a => do loaded (← a)))
  | _, _ => none

/-- A call of the built-in function `name`; a call without result gives none. -/
def builtinCall (name : String) (isStatement : Bool) (args : List Pending) :
    Lower (Option Term) := do
  if let some f := mathFunctions.lookup name then return some (← mathCall name f args)
  if let some f := relationalFunctions.lookup name then
    match args with
    | [arg] => return some (← relationalCall f arg)
    | _ => wrongCount name
  if let some (axis, control) := derivatives.lookup name then
    match args with
    | [arg] => return some (.plain (← push (.derivative axis control (← takenExpression arg))))
    | _ => wrongCount name
  if let some f := atomics.lookup name then
    match args with
    | [pointer, value] => return ← atomicCall f isStatement pointer value
    | _ => wrongCount name
  if let some f := imageAtomics.lookup name then
    let (image, coordinate, layer, value) ← texelArguments name args
    statement (.imageAtomic image coordinate layer f value)
    return none
  if let some barrier := barriers.lookup name then
    if !args.isEmpty then wrongCount name
    statement (.barrier barrier)
    return none
  if let some query := queries.lookup name then
    match args with
    | [image] => return some (.plain (← push (.imageQuery (← takenExpression image) query)))
    | _ => wrongCount name
  if let some (operation, collective) := collectives.lookup name then
    match args with
    | [arg] => return some (← collectiveCall operation collective arg)
    | _ => wrongCount name
  if let some mode := gathers.lookup name then
    match args with
    | [arg, index] => return some (← gatherCall (mode <$> takenExpression index) arg)
    | _ => wrongCount name
  if samplers.contains name then return some (← sampleCall name args)
  if let some result := rayCall? name args then return ← result
  match name, args with
  | "select", [reject, accept, condition] =>
    let reject ← taken reject
    let accept ← taken accept
    let condition ← taken condition
    return some (← computed [reject, accept, condition] (fun _ => throw .unsupported) fun es =>
      .select (operand es 2) (operand es 1) (operand es 0))
  | "arrayLength", [pointer] =>
    return some (← computed [← taken pointer] (fun _ => throw .argument) fun es =>
      .arrayLength (operand es 0))
  | "atomicLoad", [pointer] => return some (.plain (← push (.load (← atomicPointer pointer))))
  | "atomicStore", [pointer, value] =>
    let pointer ← atomicPointer pointer
    statement (.store pointer (← takenExpression value))
    return none
  | "atomicCompareExchangeWeak", [pointer, compare, value] =>
    return some (← exchangeCall pointer compare value)
  | "workgroupUniformLoad", [pointer] => return some (← uniformLoadCall pointer)
  | "textureLoad", args => return some (← loadCall name args)
  | "textureDimensions", args => return some (← dimensionsCall name args)
  | "textureStore", args =>
    let (image, coordinate, layer, value) ← texelArguments name args
    statement (.imageStore image coordinate layer value)
    return none
  | "subgroupBallot", [] => return some (← ballotCall none)
  | "subgroupBallot", [predicate] => return some (← ballotCall (some predicate))
  | "subgroupBroadcastFirst", [arg] =>
    return some (← gatherCall (return .broadcastFirst) arg)
  | name, _ => throw (.undefined name)

end Lower

end ShaderKit.Wgsl
