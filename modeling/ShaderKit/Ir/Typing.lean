import ShaderKit.Ir.Module

/-!
# Types of expressions

The type of an expression follows from the types of its operands.  It is either one of the module's
types, or a shape that need not be among them.
-/

namespace ShaderKit.Ir

/-- The type of a value. -/
inductive ValueType
  | named (type : TypeId)
  | shape (shape : Shape)
  deriving DecidableEq

/-- The shape of a type of expressions. -/
def ValueType.shape? (types : List TypeInfo) : ValueType → Option Shape
  | named t => types[t]?.map (·.shape)
  | shape s => some s

/-- What the names in a function stand for. -/
structure TypingScope where
  types : List TypeInfo
  constants : List Constant := []
  overrides : List Override := []
  globals : List GlobalVariable := []
  /-- What each function returns. -/
  results : List (Option Result) := []
  arguments : List Argument := []
  locals : List LocalVariable := []

/-- The scope of a module's global expressions. -/
def TypingScope.ofModule (m : Module) : TypingScope where
  types := m.types
  constants := m.constants
  overrides := m.overrides
  globals := m.globals
  results := m.functions.map (·.result)

/-- What the expressions of a function can refer to. -/
def TypingScope.ofFunction (m : Module) (f : Function) : TypingScope :=
  { TypingScope.ofModule m with arguments := f.arguments, locals := f.locals }

/-- Why an expression has no type. -/
inductive TypingFault
  | undefined
  | notIndexable
  | indexOutOfRange (index : Nat)
  | notScalar
  | notVector
  | notMatrix
  | notPointer
  | notImage
  | operands
  | returnsNothing
  | resultType (name : String)
  deriving DecidableEq

/-- The text of a fault. -/
def TypingFault.message : TypingFault → String
  | undefined => "an operand is not defined"
  | notIndexable => "a value of this type cannot be indexed"
  | indexOutOfRange index => s!"index {index} is out of range"
  | notScalar => "a scalar is expected"
  | notVector => "a vector is expected"
  | notMatrix => "a matrix is expected"
  | notPointer => "a pointer is expected"
  | notImage => "an image is expected"
  | operands => "the operand types do not fit each other"
  | returnsNothing => "the function returns nothing"
  | resultType name => s!"the module has no type {name}"

/-- The scalar kind that texels of a format are read as. -/
def StorageFormat.kind : StorageFormat → ScalarKind
  | r8Uint | r16Uint | rg8Uint | r32Uint | rg16Uint | rgba8Uint | rgb10a2Uint | rg32Uint
  | rgba16Uint | rgba32Uint | r64Uint => .uint
  | r8Sint | r16Sint | rg8Sint | r32Sint | rg16Sint | rgba8Sint | rg32Sint | rgba16Sint
  | rgba32Sint => .sint
  | _ => .float

/-- The scalar that texels of a format are read as. -/
def StorageFormat.scalar (f : StorageFormat) : Scalar := ⟨f.kind, if f = r64Uint then 8 else 4⟩

/-- The scalar that texels of an image are read as. -/
def ImageClass.texel : ImageClass → Scalar
  | sampled kind _ => ⟨kind, 4⟩
  | depth _ => .f32
  | storage format _ => format.scalar

namespace Shape

/-- The shape of a component, for what has scalar components. -/
def withScalar (s : Scalar) : Shape → Option Shape
  | scalar _ => some (.scalar s)
  | vector n _ => some (.vector n s)
  | _ => none

/-- A pointer to an element of what is pointed to. -/
def elementPointer (types : List TypeInfo) (base : TypeId) (space : AddressSpace)
    (index : Option Nat) : Except TypingFault Shape := do
  let some shape := types[base]?.map (·.shape) | throw .undefined
  let check (n : VectorSize) : Except TypingFault Unit :=
    match index with
    | some i => if i < n.toNat then return () else throw (.indexOutOfRange i)
    | none => return ()
  match shape with
  | .array element .. | .bindingArray element _ => return .pointer element space
  | .vector n s => do check n; return .valuePointer none s space
  | .matrix columns rows s => do check columns; return .valuePointer (some rows) s space
  | .struct members _ =>
    match index with
    | none => throw .notIndexable
    | some i =>
      match members[i]? with
      | some m => return .pointer m.type space
      | none => throw (.indexOutOfRange i)
  | _ => throw .notIndexable

/-- The element of a value, by a constant index or by one that is not known. -/
def element (types : List TypeInfo) (shape : Shape) (index : Option Nat) :
    Except TypingFault ValueType := do
  let check (n : VectorSize) : Except TypingFault Unit :=
    match index with
    | some i => if i < n.toNat then return () else throw (.indexOutOfRange i)
    | none => return ()
  match shape with
  | .array base .. | .bindingArray base _ => return .named base
  | .vector n s => do check n; return .shape (.scalar s)
  | .matrix columns rows s => do check columns; return .shape (.vector rows s)
  | .valuePointer (some n) s space => do check n; return .shape (.valuePointer none s space)
  | .pointer base space => return .shape (← elementPointer types base space index)
  | .struct members _ =>
    match index with
    | none => throw .notIndexable
    | some i =>
      match members[i]? with
      | some m => return .named m.type
      | none => throw (.indexOutOfRange i)
  | _ => throw .notIndexable

end Shape

/-- The type of a product. -/
def productType (left right : ValueType) (l r : Shape) : Except TypingFault ValueType :=
  match l, r with
  | .matrix _ rows s, .matrix columns _ _ => .ok (.shape (.matrix columns rows s))
  | .matrix _ rows s, .vector .. => .ok (.shape (.vector rows s))
  | .vector .., .matrix columns _ s => .ok (.shape (.vector columns s))
  | .scalar _, _ => .ok right
  | _, .scalar _ => .ok left
  | .vector .., .vector .. => .ok left
  | _, _ => .error .operands

/-- The name of the struct that a split into two parts returns. -/
def splitResultName (f : MathFunction) (size : Option VectorSize) (s : Scalar) : String :=
  let stem := if f = .modf then "modf" else "frexp"
  let kind := if s.width = 8 then "f64" else "f32"
  match size with
  | none => s!"__{stem}_result_{kind}"
  | some n => s!"__{stem}_result_vec{n.toNat}_{kind}"

/-- The type of a call of a built-in function. -/
def mathType (types : List TypeInfo) (f : MathFunction) (arg : ValueType) (a : Shape)
    (b : Option Shape) : Except TypingFault ValueType := do
  match f with
  | .modf | .frexp =>
    let (size, s) ← match a with
      | .scalar s => pure (none, s)
      | .vector n s => pure (some n, s)
      | _ => throw .notScalar
    let name := splitResultName f size s
    match types.findIdx? (·.name == some name) with
    | some t => return .named t
    | none => throw (.resultType name)
  | .dot => match a with
    | .vector _ s => return .shape (.scalar s)
    | _ => throw .notVector
  | .outer => match a, b with
    | .vector columns s, some (.vector rows _) => return .shape (.matrix columns rows s)
    | _, _ => throw .notVector
  | .distance | .length => match a with
    | .scalar s | .vector _ s => return .shape (.scalar s)
    | _ => throw .notVector
  | .transpose => match a with
    | .matrix columns rows s => return .shape (.matrix rows columns s)
    | _ => throw .notMatrix
  | .inverse => match a with
    | .matrix columns rows _ => if columns = rows then return arg else throw .notMatrix
    | _ => throw .notMatrix
  | .determinant => match a with
    | .matrix _ _ s => return .shape (.scalar s)
    | _ => throw .notMatrix
  | .countTrailingZeros | .countLeadingZeros | .countOneBits | .reverseBits | .extractBits
  | .insertBits | .firstTrailingBit | .firstLeadingBit => match a with
    | .scalar s | .vector _ s => if s.kind.isInteger then return arg else throw .notScalar
    | _ => throw .notScalar
  | .pack4x8snorm | .pack4x8unorm | .pack2x16snorm | .pack2x16unorm | .pack2x16float
  | .pack4xI8 | .pack4xU8 => return .shape (.scalar .u32)
  | .unpack4x8snorm | .unpack4x8unorm => return .shape (.vector .four .f32)
  | .unpack2x16snorm | .unpack2x16unorm | .unpack2x16float => return .shape (.vector .two .f32)
  | .unpack4xI8 => return .shape (.vector .four .i32)
  | .unpack4xU8 => return .shape (.vector .four .u32)
  | _ => return arg

/-- A member of a struct that is not part of an interface. -/
def plainMember (name : String) (type : TypeId) (offset : Nat) : StructMember :=
  ⟨some name, type, none, offset⟩

/-- The type with a shape and without a name, if there is one. -/
def plainType? (types : List TypeInfo) (shape : Shape) : Option TypeId :=
  types.findIdx? (· == { shape })

/-- The kind of a scalar, as it stands in the name of a type. -/
def ScalarKind.name : ScalarKind → String
  | sint => "Sint"
  | uint => "Uint"
  | float => "Float"
  | bool => "Bool"
  | abstractInt => "AbstractInt"
  | abstractFloat => "AbstractFloat"

/-- The struct that a compared exchange gives: the value before, and whether it was replaced. -/
def exchangeResult (s : Scalar) (old truth : TypeId) : TypeInfo where
  name := some ("__atomic_compare_exchange_result<" ++ s.kind.name ++ "," ++ toString s.width ++ ">")
  shape := .struct [plainMember "old_value" old 0, plainMember "exchanged" truth s.width] (2 * s.width)

/-- The name of the struct that describes a ray. -/
def rayDescriptionName : String := "RayDesc"

/-- The struct that describes a ray, if the module has the types that it is made of. -/
def rayDescription? (types : List TypeInfo) : Option Shape := do
  let u ← plainType? types (.scalar .u32)
  let f ← plainType? types (.scalar .f32)
  let v ← plainType? types (.vector .three .f32)
  return .struct [plainMember "flags" u 0, plainMember "cull_mask" u 4, plainMember "tmin" f 8,
    plainMember "tmax" f 12, plainMember "origin" v 16, plainMember "dir" v 32] 48

/-- The name of the struct that says what a ray hits. -/
def rayIntersectionName : String := "RayIntersection"

/-- The struct that says what a ray hits, if the module has the types that it is made of. -/
def rayIntersection? (types : List TypeInfo) : Option Shape := do
  let u ← plainType? types (.scalar .u32)
  let f ← plainType? types (.scalar .f32)
  let b ← plainType? types (.scalar .bool)
  let v ← plainType? types (.vector .two .f32)
  let m ← plainType? types (.matrix .four .three .f32)
  return .struct [plainMember "kind" u 0, plainMember "t" f 4,
    plainMember "instance_custom_data" u 8, plainMember "instance_index" u 12,
    plainMember "sbt_record_offset" u 16, plainMember "geometry_index" u 20,
    plainMember "primitive_index" u 24, plainMember "barycentrics" v 28,
    plainMember "front_face" b 36, plainMember "object_to_world" m 48,
    plainMember "world_to_object" m 112] 176

/-- The type of what is read from an image, by sampling or by coordinate. -/
def texelType (imageClass : ImageClass) : Shape :=
  match imageClass with
  | .depth _ => .scalar .f32
  | c => .vector .four c.texel

/-- The size of an image, by dimensionality. -/
def imageSizeType : ImageDimension → Shape
  | .d1 => .scalar .u32
  | .d2 | .cube => .vector .two .u32
  | .d3 => .vector .three .u32

namespace TypingScope

/-- The type of an expression whose operands have the types that `past` gives. -/
def typeOf (s : TypingScope) (past : ExprId → Option ValueType) (e : Expression) :
    Except TypingFault ValueType := do
  let typeAt (i : ExprId) : Except TypingFault ValueType :=
    match past i with
    | some t => .ok t
    | none => .error .undefined
  let shapeAt (i : ExprId) : Except TypingFault Shape := do
    match (← typeAt i).shape? s.types with
    | some shape => return shape
    | none => throw .undefined
  let find {α : Type} (o : Option α) : Except TypingFault α :=
    match o with
    | some a => .ok a
    | none => .error .undefined
  match e with
  | .literal l => return .shape (.scalar l.scalar)
  | .constant c => return .named (← find s.constants[c]?).type
  | .overridden o => return .named (← find s.overrides[o]?).type
  | .zero t | .compose t _ | .atomicResult t _ | .workGroupUniformLoadResult t
  | .subgroupResult t => return .named t
  | .access base _ => Shape.element s.types (← shapeAt base) none
  | .accessIndex base index => Shape.element s.types (← shapeAt base) (some index)
  | .splat n value => match ← shapeAt value with
    | .scalar sc => return .shape (.vector n sc)
    | _ => throw .notScalar
  | .swizzle n vector _ => match ← shapeAt vector with
    | .vector _ sc => return .shape (.vector n sc)
    | _ => throw .notVector
  | .argument i => return .named (← find s.arguments[i]?).type
  | .global g =>
    let v ← find s.globals[g]?
    return if v.space = .handle then .named v.type else .shape (.pointer v.type v.space)
  | .localVar l => return .shape (.pointer (← find s.locals[l]?).type .function)
  | .load pointer => match ← shapeAt pointer with
    | .pointer base _ => match ← find (s.types[base]?) with
      | ⟨_, .atomic sc⟩ => return .shape (.scalar sc)
      | _ => return .named base
    | .valuePointer (some n) sc _ => return .shape (.vector n sc)
    | .valuePointer none sc _ => return .shape (.scalar sc)
    | _ => throw .notPointer
  | .imageSample image _ gather .. => match ← shapeAt image with
    | .image _ _ c =>
      return .shape (if gather.isSome then .vector .four c.texel else texelType c)
    | _ => throw .notImage
  | .imageLoad image .. => match ← shapeAt image with
    | .image _ _ c => return .shape (texelType c)
    | _ => throw .notImage
  | .imageQuery image query => match query, ← shapeAt image with
    | .size _, .image dim _ _ => return .shape (imageSizeType dim)
    | .size _, _ => throw .notImage
    | _, _ => return .shape (.scalar .u32)
  | .unary _ operand | .derivative _ _ operand => typeAt operand
  | .select _ accept _ => typeAt accept
  | .binary op left right => match op with
    | .add | .subtract | .divide | .modulo | .and | .exclusiveOr | .inclusiveOr | .shiftLeft
    | .shiftRight => typeAt left
    | .multiply => productType (← typeAt left) (← typeAt right) (← shapeAt left) (← shapeAt right)
    | .equal | .notEqual | .less | .lessEqual | .greater | .greaterEqual | .logicalAnd
    | .logicalOr => match (← shapeAt left).withScalar .bool with
      | some shape => return .shape shape
      | none => throw .operands
  | .relational f argument => match f with
    | .all | .any => return .shape (.scalar .bool)
    | .isNan | .isInf => match (← shapeAt argument).withScalar .bool with
      | some shape => return .shape shape
      | none => throw .notVector
  | .math f arg arg1 _ _ =>
    let second ← match arg1 with
      | some b => some <$> shapeAt b
      | none => pure none
    mathType s.types f (← typeAt arg) (← shapeAt arg) second
  | .convert operand kind width => match ← shapeAt operand with
    | .scalar sc => return .shape (.scalar ⟨kind, width.getD sc.width⟩)
    | .vector n sc => return .shape (.vector n ⟨kind, width.getD sc.width⟩)
    | .matrix columns rows sc =>
      return .shape (.matrix columns rows (width.elim sc fun w => ⟨kind, w⟩))
    | _ => throw .notScalar
  | .callResult f => match ← find s.results[f]? with
    | some r => return .named r.type
    | none => throw .returnsNothing
  | .arrayLength _ => return .shape (.scalar .u32)
  | .rayQueryProceedResult => return .shape (.scalar .bool)
  | .rayQueryIntersection .. => match s.types.findIdx? (rayIntersection? s.types == some ·.shape) with
    | some t => return .named t
    | none => throw (.resultType rayIntersectionName)
  | .subgroupBallotResult => return .shape (.vector .four .u32)

/-- The types of a list of expressions, each typed after those before it.  On failure the index of
the expression is given too. -/
def typesOf (s : TypingScope) (expressions : List Expression) :
    Except (ExprId × TypingFault) (Array ValueType) :=
  expressions.foldlM (fun known e =>
    match s.typeOf (known[·]?) e with
    | .ok t => .ok (known.push t)
    | .error fault => .error (known.size, fault)) #[]

end TypingScope

end ShaderKit.Ir
