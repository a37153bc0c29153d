import ShaderKit.Spirv.Lift.Body.State
import ShaderKit.Spirv.Lift.Types

/-!
# Lifting image instructions

Sampled images are taken apart into image and sampler.  Coordinates are cut to what the image's
dimension needs; for arrayed images the component after that is the layer.
-/

namespace ShaderKit.Spirv

open Ir (ExprId Expression ImageClass ImageDimension SampleLevel Shape TypeId VectorSize)

/-- Bits of the image operands mask. -/
structure ImageOperandBits where
  bias : Bool
  lod : Bool
  grad : Bool
  constOffset : Bool
  /-- Some bit between those and `sample`. -/
  otherOffset : Bool
  sample : Bool

/-- The image operands that a mask names. -/
def ImageOperandBits.ofMask (mask : Word) : ImageOperandBits where
  bias := mask &&& 1 != 0
  lod := mask &&& 2 != 0
  grad := mask &&& 4 != 0
  constOffset := mask &&& 8 != 0
  otherOffset := mask &&& 0x30 != 0
  sample := mask &&& 0x40 != 0

/-- What is done with a coordinate component beyond those that the dimension needs. -/
inductive ExtraCoordinate
  | layer | divisor | unused
  deriving DecidableEq

/-- A kind of sampling instruction. -/
structure SampleForm where
  compare : Bool := false
  project : Bool := false

/-- Sampling instructions. -/
def sampleForms : List (Nat × SampleForm) :=
  [(87, {}), (88, {}), (89, { compare := true }), (90, { compare := true }),
   (91, { project := true }), (92, { project := true }),
   (93, { compare := true, project := true }), (94, { compare := true, project := true })]

/-- Components of coordinates, by dimension. -/
def coordinateSize : ImageDimension → Option VectorSize
  | .d1 => none
  | .d2 => some .two
  | .d3 | .cube => some .three

namespace BodyM

/-- What an image or sampler expression stands for: a variable, an element of a variable that is an array of
bindings, or a parameter. -/
inductive HandleSource
  | global (g : Ir.GlobalId)
  | element (g : Ir.GlobalId)
  | parameter (i : Nat)

/-- Where an image or a sampler comes from. -/
def handleSource (id : Id) (e : ExprId) : BodyM HandleSource := do
  match ← expressionAt e with
  | .global g => return .global g
  | .argument i => return .parameter i
  | .access base _ => match ← expressionAt base with
    | .global g => return .element g
    | _ => throw (.imageType id)
  | _ => throw (.imageType id)

/-- Takes note of how an image or sampler is used. -/
def noteUse (source : HandleSource) (use : SamplingUse) : BodyM Unit := do
  match source with
  | .global g | .element g => modifyThe Lift fun s => { s with
      sampling := s.sampling.map fun (h, u) => if h = g then (h, u.union use) else (h, u) }
  | .parameter i => modify fun b => { b with
      parameterUses := b.parameterUses.modify i (·.union use) }

/-- A variable that a sampler is taken from must be one whose use is noted. -/
def checkSampler (id : Id) (source : HandleSource) : BodyM Unit := do
  match source with
  | .global g | .element g =>
    if ((← getThe Lift).sampling.lookup g).isNone then throw (.rule (.sampler id))
  | .parameter _ => return

/-- The type of the variable or parameter behind an image or sampler. -/
def sourceType (id : Id) (source : HandleSource) : BodyM TypeId := do
  let type ← match source with
    | .global g | .element g => pure ((← getThe Lift).module.globals[g]?.map (·.type))
    | .parameter i => pure ((← get).arguments[i]?.map (·.type))
  match type with
  | some type => return type
  | none => throw (.imageType id)

/-- The shape of an image that is sampled. -/
def sampledShape (id : Id) (source : HandleSource) : BodyM Shape := do
  let shape ← LiftM.shapeOf (← sourceType id source)
  match source, shape with
  | .element _, .bindingArray base _ => LiftM.shapeOf base
  | .element _, _ => throw (.imageType id)
  | _, _ => return shape

/-- An image whose texels are read or written.  It cannot be an element of an array. -/
def texelImage (id : Id) (e : ExprId) : BodyM (ImageDimension × Bool × ImageClass) := do
  match ← LiftM.shapeOf (← sourceType id (← handleSource id e)) with
  | .image dim arrayed imageClass => return (dim, arrayed, imageClass)
  | _ => throw (.imageType id)

/-- The type of coordinates with scalars of a kind.  It must be one of the types of the module. -/
def coordinateType (n : VectorSize) (kind : Ir.ScalarKind) : BodyM TypeId := do
  match Ir.plainType? (← getThe Lift).module.types (.vector n ⟨kind, 4⟩) with
  | some type => return type
  | none => throw (.rule .coordinateType)

/-- The components that a dimension needs, each given by `part`. -/
def composeCoordinate (type : Option (VectorSize × TypeId)) (part : Nat → BodyM ExprId) :
    BodyM ExprId := do
  match type with
  | none => part 0
  | some (n, type) => push (.compose type (← (List.range n.toNat).mapM part))

/-- Splits a coordinate into what the dimension needs and the layer. -/
def splitCoordinate (dim : ImageDimension) (extra : ExtraCoordinate) (id : Id) (v : ValueEntry)
    (e : ExprId) : BodyM (ExprId × Option ExprId) := do
  let (given, kind) ← match ← shapeOfId v.type with
    | .scalar s => pure (none, s.kind)
    | .vector n s => pure (some n, s.kind)
    | _ => throw (.rule (.coordinate id))
  let needed := coordinateSize dim
  let type ← needed.mapM fun n => return (n, ← coordinateType n kind)
  let next := needed.elim 1 (·.toNat)
  match extra with
  | .layer => do
    let coordinate ← composeCoordinate type fun i => push (.accessIndex e i)
    let layer ← push (.accessIndex e next)
    return (coordinate, some (← push (.convert layer .sint (some 4))))
  | .divisor => do
    let divisor ← push (.accessIndex e next)
    let coordinate ← composeCoordinate type fun i => do
      push (.binary .divide (← push (.accessIndex e i)) divisor)
    return (coordinate, none)
  | .unused =>
    if given = needed then return (e, none)
    match needed with
    | none => return (← push (.accessIndex e 0), none)
    | some n => return (← push (.swizzle n e (List.range n.toNat)), none)

/-- The level that a sample is taken at.  A comparison is made at the first level, whatever is asked for, and
the level of a depth image is a whole number. -/
def sampleLevel (form : SampleForm) (isDepth : BodyM Bool) (bias lod grad : List Id) :
    BodyM SampleLevel := do
  let bias ← bias.mapM value
  let lod ← lod.mapM fun l => do
    let e ← value l
    if (← isDepth) && !form.compare then push (.convert e .sint (some 4)) else return e
  let grad ← grad.mapM value
  match grad, lod, bias with
  | [x, y], _, _ => return if form.compare then .zero else .gradient x y
  | _, [l], _ => return if form.compare then .zero else .exact l
  | _, _, [b] => return .bias b
  | _, _, _ => return .auto

/-- The image operands of a sampling instruction: level and offset. -/
def sampleOperands (form : SampleForm) (isDepth : BodyM Bool) (operands : List Operand) :
    BodyM (SampleLevel × Option ExprId) := do
  let .value .imageOperands mask :: rest := operands | return (.auto, none)
  let bits := ImageOperandBits.ofMask mask
  let take (wanted : Bool) (n : Nat) (ids : List Id) : List Id × List Id :=
    if wanted then ids.splitAt n else ([], ids)
  let (bias, ids) := take bits.bias 1 (rest.filterMap (·.ref?))
  let (lod, ids) := take bits.lod 1 ids
  let (grad, ids) := take bits.grad 2 ids
  let (offset, _) := take bits.constOffset 1 ids
  let level ← sampleLevel form isDepth bias lod grad
  match offset with
  | [o] => do
    let c ← LiftM.find (·.constants) o
    return (level, some (← push c.value.expression))
  | _ => return (level, none)

/-- The image and the sampler behind a sampled image. -/
def sampledPair (sampledImage : Id) : BodyM (ExprId × ExprId) := do
  match (← get).sampledImages.lookup sampledImage with
  | some pair => return pair
  | none => throw (.undefinedId sampledImage)

/-- Whether the image behind a sampled image is declared to hold depths. -/
def isDepthImage (sampledImage : Id) : BodyM Bool := do
  let (image, _) ← sampledPair sampledImage
  match ← LiftM.shapeOf (← sourceType sampledImage (← handleSource sampledImage image)) with
  | .image _ _ imageClass => return imageClass.isDepth
  | _ => return false

/-- A sample from an image.  A depth image gives one number, which all four components are. -/
def sample (form : SampleForm) (type id sampledImage coordinate : Id) (dref : Option Id)
    (operands : List Operand) : BodyM Unit := do
  let (level, offset) ← sampleOperands form (isDepthImage sampledImage) operands
  let (image, sampler) ← sampledPair sampledImage
  let v ← entry coordinate
  let e ← valueOf coordinate v
  let use : SamplingUse := { regular := !form.compare, comparison := form.compare }
  let imageSource ← handleSource sampledImage image
  noteUse imageSource use
  let imageShape ← sampledShape sampledImage imageSource
  let samplerSource ← handleSource sampledImage sampler
  checkSampler sampledImage samplerSource
  noteUse samplerSource use
  let .image dim arrayed imageClass := imageShape | throw (.imageType sampledImage)
  let extra := if form.project then .divisor else if arrayed then .layer else .unused
  let (place, layer) ← splitCoordinate dim extra coordinate v e
  let depthRef ← dref.mapM fun d => do
    let r ← value d
    if form.project then
      let divisor ← push (.accessIndex e ((coordinateSize dim).elim 1 (·.toNat)))
      push (.binary .divide r divisor)
    else return r
  let e ← push (.imageSample image sampler none place layer offset level depthRef)
  if imageClass.isDepth && !form.compare then define id type (← push (.splat .four e))
  else define id type e

/-- The level and the sample that a load names.  Operands after one that loads do not have are ignored. -/
def loadOperands (operands : List Operand) : BodyM (Option ExprId × Option ExprId) := do
  let .value .imageOperands mask :: rest := operands | return (none, none)
  let bits := ImageOperandBits.ofMask mask
  if bits.bias then return (none, none)
  let (lod, ids) := (rest.filterMap (·.ref?)).splitAt (if bits.lod then 1 else 0)
  let level ← lod.head?.mapM value
  if bits.grad || bits.constOffset || bits.otherOffset || !bits.sample then return (level, none)
  return (level, ← ids.head?.mapM value)

/-- A texel by coordinate.  A depth is repeated if the result is a vector. -/
def fetch (type id image coordinate : Id) (operands : List Operand) : BodyM Unit := do
  let (level, sample) ← loadOperands operands
  let i ← handle image
  let (dim, arrayed, imageClass) ← texelImage image i
  let v ← entry coordinate
  let e ← valueOf coordinate v
  let (place, layer) ← splitCoordinate dim (if arrayed then .layer else .unused) coordinate v e
  let texel ← push (.imageLoad i place layer sample level)
  match imageClass.isDepth, ← shapeOfId type with
  | true, .vector n _ => define id type (← push (.splat n texel))
  | _, _ => define id type texel

/-- Writes a texel. -/
def imageStore (image coordinate texel : Id) : BodyM Unit := do
  let i ← handle image
  let (dim, arrayed, _) ← texelImage image i
  let v ← entry coordinate
  let e ← valueOf coordinate v
  let (place, layer) ← splitCoordinate dim (if arrayed then .layer else .unused) coordinate v e
  let t ← value texel
  statement (.imageStore i place layer t)

/-- A property of an image; it is unsigned, and converted if the result is signed. -/
def imageQuery (type id image : Id) (query : Ir.ImageQuery) : BodyM Unit := do
  let i ← handle image
  let e ← push (.imageQuery i query)
  if (← kindOf? (← typeOf type)) = some .sint then
    define id type (← push (.convert e .sint (some 4)))
  else define id type e

/-- Lifts an image instruction with a result, or says that it is none. -/
def imageInstruction? (op : Nat) (type id : Id) (operands : List Operand) : BodyM Bool := do
  match op, operands with
  | 86, [.id image, .id sampler] =>
    let i ← handle image
    let s ← handle sampler
    modify fun b => { b with sampledImages := (id, (i, s)) :: b.sampledImages }
  | 100, [.id sampledImage] =>
    match (← get).sampledImages.lookup sampledImage with
    | some (image, _) => define id type image
    | none => throw (.undefinedId sampledImage)
  | 95, .id image :: .id coordinate :: rest => fetch type id image coordinate rest
  | 98, .id image :: .id coordinate :: rest => fetch type id image coordinate rest
  | 103, [.id image, .id level] => imageQuery type id image (.size (some (← value level)))
  | 104, [.id image] => imageQuery type id image (.size none)
  | 106, [.id image] => imageQuery type id image .levels
  | 107, [.id image] => imageQuery type id image .samples
  | _, .id sampledImage :: .id coordinate :: rest =>
    match sampleForms.lookup op, rest with
    | some form, .id dref :: rest => sample form type id sampledImage coordinate (some dref) rest
    | some form, rest => sample form type id sampledImage coordinate none rest
    | none, _ => return false
  | _, _ => return false
  return true

end BodyM

end ShaderKit.Spirv
