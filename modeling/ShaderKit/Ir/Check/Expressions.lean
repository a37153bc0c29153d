import ShaderKit.Ir.Check.Constants
import ShaderKit.Ir.Check.Operands

/-!
# Expressions of a function

Each expression has operands of suitable types.  Some can only be evaluated in some stages.
-/

namespace ShaderKit.Ir.Check

/-- The stages that something can run in. -/
structure Stages where
  vertex : Bool := true
  fragment : Bool := true
  compute : Bool := true
  deriving DecidableEq

namespace Stages

/-- The stages in both sets. -/
def meet (a b : Stages) : Stages :=
  ⟨a.vertex && b.vertex, a.fragment && b.fragment, a.compute && b.compute⟩

/-- The fragment stage alone. -/
def fragmentOnly : Stages := ⟨false, true, false⟩

/-- The compute stage alone. -/
def computeOnly : Stages := ⟨false, false, true⟩

/-- The stage is in the set. -/
def has (s : Stages) : ShaderStage → Bool
  | .vertex => s.vertex
  | .fragment => s.fragment
  | .compute => s.compute

end Stages

/-- What is known while a function is looked at. -/
structure Scope where
  facts : Facts
  function : Function
  /-- The types of the function's expressions. -/
  types : Array ValueType
  constness : Array Constness
  /-- The stages of the functions before this one. -/
  callees : Array Stages

namespace Scope

variable (s : Scope)

/-- The types of the module. -/
def moduleTypes : List TypeInfo := s.facts.module.types

/-- The shape of an expression, if its type is known. -/
def shape? (e : ExprId) : Option Shape := do s.facts.shape? (← s.types[e]?)

/-- The shape of an operand of expression `of`. -/
def shapeOf (of e : ExprId) : Except Fault Shape :=
  match s.shape? e with
  | some shape => .ok shape
  | none => .error (.expression of)

/-- The type of the image or sampler behind an expression. -/
def handleShape? (e : ExprId) : Option Shape := do
  let typeOfGlobal (g : GlobalId) : Option Shape := do
    s.facts.module.shape? (← s.facts.module.globals[g]?).type
  match ← s.function.expressions[e]? with
  | .global g => typeOfGlobal g
  | .argument i => s.facts.module.shape? (← s.function.arguments[i]?).type
  | .access base _ | .accessIndex base _ => match ← s.function.expressions[base]? with
    | .global g => match ← typeOfGlobal g with
      | .bindingArray element _ => s.facts.module.shape? element
      | _ => none
    | _ => none
  | _ => none

/-- The number of parts of a value that are known to be there. -/
def indexLimit? (shape : Shape) (throughPointer : Bool) : Option Nat :=
  match shape with
  | .vector n _ | .valuePointer (some n) _ _ => some n.toNat
  | .matrix columns _ _ => some columns.toNat
  | .array _ (.constant n) _ => some n
  | .array .. | .bindingArray .. => some (twoPow 32 - 1)
  | .struct members _ => some members.length
  | .pointer base _ => if throughPointer then match s.facts.module.shape? base with
      | some (.vector n _) | some (.valuePointer (some n) _ _) => some n.toNat
      | some (.matrix columns _ _) => some columns.toNat
      | some (.array _ (.constant n) _) => some n
      | some (.array ..) | some (.bindingArray ..) => some (twoPow 32 - 1)
      | some (.struct members _) => some members.length
      | _ => none
    else none
  | _ => none

/-- The value of an expression that is an integer literal or a constant with one.  The outer option says
whether it is known. -/
def indexValue? (e : ExprId) : Option Int :=
  let ofLiteral : Expression → Option Int
    | .literal (.u32 n) => some n.toNat
    | .literal (.i32 n) => some n.toInt
    | .zero t => match s.facts.module.shape? t with
      | some (.scalar _) => some 0
      | _ => none
    | _ => none
  match s.function.expressions[e]? with
  | some (.constant c) => do
    let c ← s.facts.module.constants[c]?
    ofLiteral (← s.facts.module.globalExpressions[c.init]?)
  | some e => ofLiteral e
  | none => none

/-- Access by an index that is computed: the base has elements, and a constant index is one of theirs. -/
def checkAccess (of base index : ExprId) : Except Fault Unit := do
  let shape ← s.shapeOf of base
  match shape with
  | .vector .. | .matrix .. | .array .. | .pointer .. | .valuePointer (some _) .. | .bindingArray .. =>
    pure ()
  | _ => throw (.expression of)
  if !isIndex (← s.shapeOf of index) then throw (.expression of)
  let length := match shape with
    | .array _ .dynamic _ | .bindingArray .. => none
    | _ => s.indexLimit? shape true
  match s.indexValue? index, length with
  | some i, some n => if i < 0 ∨ n ≤ i then throw (.expression of)
  | _, _ => return

/-- The number of texture coordinates that an image takes. -/
def coordinateCount : ImageDimension → Nat
  | .d1 => 1
  | .d2 => 2
  | .d3 | .cube => 3

/-- A scalar or vector with a given number of components. -/
def hasCount (count : Nat) (good : Scalar → Bool) : Shape → Bool
  | .scalar t => count == 1 && good t
  | .vector n t => n.toNat == count && good t
  | _ => false

/-- The kind of image that integer coordinates of a shape belong to. -/
def texelDimension? : Shape → Option ImageDimension
  | .scalar t => if isConcreteInteger t then some .d1 else none
  | .vector .two t => if isConcreteInteger t then some .d2 else none
  | .vector .three t => if isConcreteInteger t then some .d3 else none
  | _ => none

/-- Images of this class have several samples for each texel. -/
def ImageClass.isMultisampled : ImageClass → Bool
  | .sampled _ multisampled | .depth multisampled => multisampled
  | .storage .. => false

/-- Whether an image has levels of detail. -/
def ImageClass.isMipmapped : ImageClass → Bool
  | .sampled _ multisampled | .depth multisampled => !multisampled
  | .storage .. => false

/-- A layer index is given exactly for arrays of images. -/
def goodLayer (arrayed : Bool) (index : Option Shape) : Bool :=
  match index with
  | none => !arrayed
  | some shape => arrayed && isIndex shape

/-- A level or a sample is given exactly for images that have them. -/
def goodChoice (offered : Bool) (index : Option Shape) : Bool :=
  match index with
  | none => !offered
  | some shape => offered && isOf (·.kind == .sint) shape

/-- The optional operands' shapes. -/
def shapesOf (of : ExprId) (operands : List ExprId) : Except Fault (List Shape) :=
  operands.mapM (s.shapeOf of)

/-- The shape of an operand that need not be there. -/
def optionalShape (of : ExprId) : Option ExprId → Except Fault (Option Shape)
  | none => .ok none
  | some e => some <$> s.shapeOf of e

/-- Whether an image class can be sampled, and then whether it holds depths. -/
def sampledDepth? (gather : Bool) : ImageClass → Option Bool
  | .sampled .float false => some false
  | .sampled .uint false | .sampled .sint false => if gather then some false else none
  | .depth false => some true
  | _ => none

/-- The stages in which a sample at a level can be taken, if the level fits the image. -/
def checkLevel (of : ExprId) (isDepth takesBias : Bool) (count : Nat) : SampleLevel → Except Fault Stages
  | .auto => .ok .fragmentOnly
  | .zero => .ok {}
  | .exact e => do
    let shape ← s.shapeOf of e
    let good := if isDepth then isIndex shape else isScalarOf isConcreteFloat shape
    if good then return {} else throw (.expression of)
  | .bias e => do
    if takesBias && isScalarOf isConcreteFloat (← s.shapeOf of e) then return .fragmentOnly
    else throw (.expression of)
  | .gradient x y => do
    let good ← [x, y].allM fun e => return hasCount count isConcreteFloat (← s.shapeOf of e)
    if good then return {} else throw (.expression of)

/-- Sampling takes an image and a sampler that go together, coordinates of the image, and a level that the
sampler can use. -/
def checkSample (of image sampler : ExprId) (gather : Option Nat) (coordinate : ExprId)
    (arrayIndex offset : Option ExprId) (level : SampleLevel) (depthRef : Option ExprId) :
    Except Fault Stages := do
  let require (good : Bool) : Except Fault Unit :=
    if good then .ok () else .error (.expression of)
  let some (.image dim arrayed imageClass) := s.handleShape? image | throw (.image image)
  let some (.sampler comparison) := s.handleShape? sampler | throw (.image sampler)
  require (goodLayer arrayed (← s.optionalShape of arrayIndex))
  let some isDepth := sampledDepth? gather.isSome imageClass | throw (.image image)
  require (comparison == depthRef.isSome && (!comparison || isDepth))
  let count := coordinateCount dim
  require (hasCount count isConcreteFloat (← s.shapeOf of coordinate))
  if let some o := offset then
    require (hasCount count (·.kind == .sint) (← s.shapeOf of o))
    require (s.constness[o]? = some .constant)
  if let some r := depthRef then
    require (isScalarOf isConcreteFloat (← s.shapeOf of r))
    require (level = .auto || level = .zero)
  if let some component := gather then
    require (dim = .d2 || dim = .cube)
    require (component < if isDepth then 1 else 4)
    require (level = .zero)
  let takesBias := imageClass == .sampled .float false && dim != .d1
  s.checkLevel of isDepth takesBias count level

/-- Loading takes texel coordinates, and a layer, a sample and a level exactly if the image has them. -/
def checkImageLoad (of image coordinate : ExprId) (arrayIndex sample level : Option ExprId) :
    Except Fault Unit := do
  let require (good : Bool) : Except Fault Unit :=
    if good then .ok () else .error (.expression of)
  let some (.image dim arrayed imageClass) := s.handleShape? image | throw (.image image)
  require (texelDimension? (← s.shapeOf of coordinate) = some dim)
  require (goodLayer arrayed (← s.optionalShape of arrayIndex))
  require (goodChoice (ImageClass.isMultisampled imageClass) (← s.optionalShape of sample))
  require (goodChoice (ImageClass.isMipmapped imageClass) (← s.optionalShape of level))

/-- A query asks for what the image has. -/
def checkImageQuery (of image : ExprId) (query : ImageQuery) : Except Fault Unit := do
  let some (.image _ arrayed imageClass) := s.handleShape? image | throw (.image image)
  let good := match query with
    | .layers => arrayed
    | .samples => ImageClass.isMultisampled imageClass
    | .size none => true
    | .levels | .size (some _) => ImageClass.isMipmapped imageClass
  if !good then throw (.expression of)

/-- A value can be loaded through a pointer if its size is known. -/
def checkLoad (of pointer : ExprId) : Except Fault Unit := do
  match ← s.shapeOf of pointer with
  | .pointer base _ =>
    let f := s.facts.typeFacts base
    if !f.sized || !f.data then throw (.expression of)
  | .valuePointer .. => return
  | _ => throw (.expression of)

/-- The stages in which an expression can be evaluated. -/
def checkExpression (of : ExprId) (e : Expression) : Except Fault Stages := do
  let require (good : Bool) : Except Fault Stages :=
    if good then .ok {} else .error (.expression of)
  match e with
  | .literal l => do checkLiteral l; return {}
  | .constant _ | .overridden _ | .zero _ | .global _ | .localVar _ | .argument _
  | .atomicResult .. => return {}
  | .compose type components => do
    let some shape := s.facts.module.shape? type | throw .layout
    checkCompose s.moduleTypes shape (← s.shapesOf of components)
    return {}
  | .access base index => do s.checkAccess of base index; return {}
  | .accessIndex base index => do
    require ((s.indexLimit? (← s.shapeOf of base) true).any (index < ·))
  | .splat _ value => do require (isScalarOf (fun _ => true) (← s.shapeOf of value))
  | .swizzle _ vector pattern => do
    match ← s.shapeOf of vector with
    | .vector n _ => require (pattern.all (· < n.toNat))
    | _ => throw (.expression of)
  | .load pointer => do s.checkLoad of pointer; return {}
  | .imageSample image sampler gather coordinate arrayIndex offset level depthRef =>
    s.checkSample of image sampler gather coordinate arrayIndex offset level depthRef
  | .imageLoad image coordinate arrayIndex sample level => do
    s.checkImageLoad of image coordinate arrayIndex sample level
    return {}
  | .imageQuery image query => do s.checkImageQuery of image query; return {}
  | .unary op operand => do require (goodUnary op (← s.shapeOf of operand))
  | .binary op left right => do
    require (goodBinary op (← s.shapeOf of left) (← s.shapeOf of right))
  | .select condition accept reject => do
    require (goodSelect (← s.shapeOf of condition) (← s.shapeOf of accept)
      (← s.shapeOf of reject))
  | .derivative _ _ operand => do
    if isOf isConcreteFloat (← s.shapeOf of operand) then return .fragmentOnly
    else throw (.expression of)
  | .relational f argument => do require (goodRelational f (← s.shapeOf of argument))
  | .math f .. => do require (goodMath f (← s.shapesOf of e.operands))
  | .convert operand kind width => do
    match (← s.shapeOf of operand), (← s.shapeOf of operand).scalar? with
    | .atomic _, _ | .valuePointer .., _ | _, none => throw (.expression of)
    | _, some t => do
      checkWidth ⟨kind, width.getD t.width⟩
      return {}
  | .callResult f => match s.callees[f]? with
    | some stages => return stages
    | none => throw (.call f)
  | .workGroupUniformLoadResult type =>
    let f := s.facts.typeFacts type
    if f.sized && f.constructible then return .computeOnly else throw (.uniformLoad of)
  | .arrayLength array => do
    match ← s.shapeOf of array with
    | .pointer base _ => match s.facts.module.shape? base with
      | some (.array _ .dynamic _) => return {}
      | _ => throw (.expression of)
    | _ => throw (.expression of)
  | .rayQueryProceedResult | .subgroupBallotResult | .subgroupResult _ => return {}
  | .rayQueryIntersection query _ => do
    match ← s.shapeOf of query with
    | .pointer base .function => require (s.facts.module.shape? base = some .rayQuery)
    | _ => throw (.expression of)

/-- The stages in which all expressions can be evaluated. -/
def checkExpressions : Except Fault Stages :=
  s.function.expressions.zipIdx.foldlM (fun stages (e, i) =>
    return stages.meet (← s.checkExpression i e)) {}

end Scope

end ShaderKit.Ir.Check
