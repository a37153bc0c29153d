import ShaderKit.Spirv.Lift.Body.State

/-!
# Lifting access to parts of values

Access chains, and taking composite values apart and putting them together.
-/

namespace ShaderKit.Spirv.BodyM

open Ir (ExprId Expression Shape TypeId)

/-- The value of an index that is a constant of the module. -/
def constantIndex? (id : Id) (e : ExprId) : BodyM (Option Nat) := do
  match ← expressionAt e with
  | .constant c =>
    let m := (← getThe Lift).module
    match m.constants[c]?.bind fun c => m.globalExpressions[c.init]? with
    | some (.literal (.u32 n)) => return some n.toNat
    | some (.literal (.i32 n)) =>
      if n < 0 then throw (.indexType id) else return some n.toNatClampNeg
    | some (.zero t) => match m.shape? t with
      | some (.scalar ⟨.uint, 4⟩) | some (.scalar ⟨.sint, 4⟩) => return some 0
      | _ => throw (.indexType id)
    | _ => throw (.indexType id)
  | _ => return none

/-- The id of the type of a struct member, and whether the member is stored by rows. -/
def memberEntry (struct : Id) (type : TypeId) (index : Nat) : BodyM (Id × Bool) := do
  match (← getThe Lift).members.lookup (type, index) with
  | some entry => return entry
  | none => throw (.accessIndex struct)

/-- The id of the component type of a type that has one. -/
def componentType (type : Id) : BodyM Id := do
  match (← LiftM.typeEntry type).base with
  | some base => return base
  | none => throw (.accessIndex type)

/-- Where an access chain has got to: a pointer, the id of the type that it points to, and what is loaded
through it in place of that. -/
structure Reached where
  pointer : ExprId
  type : Id
  storedByRows : Option StoredByRows := none

/-- The matrix behind a pointer, transposed. -/
def loadTransposed (pointer : ExprId) : BodyM StoredByRows := do
  let loaded ← push (.load pointer)
  .transposed <$> push (.math .transpose loaded none none none)

/-- A step into a struct. -/
def memberStep (at_ : Reached) (type : TypeId) (members : List Ir.StructMember) (index : Nat) :
    BodyM Reached := do
  let (part, byRows) ← memberEntry at_.type type index
  let pointer ← push (.accessIndex at_.pointer index)
  let binding : Option Ir.IoBinding := members[index]?.bind (·.binding)
  if let some (.builtIn b) := binding then
    modifyThe Lift fun s => { s with reachedBuiltIns := b :: s.reachedBuiltIns }
  if !byRows then return { pointer, type := part }
  match ← shapeOfId part with
  | .matrix .. => return { pointer, type := part, storedByRows := some (← loadTransposed pointer) }
  | _ => return { pointer, type := part, storedByRows := some .array }

/-- One step of an access chain. -/
def accessStep (at_ : Reached) (index : Id) : BodyM Reached := do
  let v ← entry index
  let i ← valueOf index v
  let known ← constantIndex? index v.expression
  let type := (← LiftM.typeEntry at_.type).type
  match ← LiftM.shapeOf type with
  | .struct members _ =>
    match known with
    | some k => memberStep at_ type members k
    | none => throw (.indexType index)
  | .matrix .. =>
    let storedByRows ← match at_.storedByRows, known with
      | some (.transposed e), some k => do pure (some (.transposed (← push (.accessIndex e k))))
      | some (.transposed _), none => throw (.indexType index)
      | _, _ => pure none
    let pointer ← push (match known with
      | some k => .accessIndex at_.pointer k
      | none => .access at_.pointer i)
    return { pointer, type := ← componentType at_.type, storedByRows }
  | _ =>
    let pointer ← push (.access at_.pointer i)
    let storedByRows ← match at_.storedByRows with
      | some .array => some <$> loadTransposed pointer
      | some (.transposed e) => do pure (some (.transposed (← push (.access e i))))
      | none => pure none
    return { pointer, type := ← componentType at_.type, storedByRows }

/-- A pointer to a part, index by index. -/
def accessChain (type id base : Id) (indices : List Id) : BodyM Unit := do
  let v ← entry base
  let pointee ← match ← shapeOfId v.type with
    | .bindingArray .. => pure v.type
    | _ => componentType v.type
  let start : Reached :=
    { pointer := ← valueOf base v, type := pointee, storedByRows := (← get).storedByRows.lookup base }
  let reached ← indices.foldlM accessStep start
  if let some rows := reached.storedByRows then
    modify fun b => { b with storedByRows := (id, rows) :: b.storedByRows }
  define id type reached.pointer

/-- One step into a value: the part of a value of type `type` with a constant index. -/
def extractStep (at_ : ExprId × Id) (index : Nat) : BodyM (ExprId × Id) := do
  let (base, type) := at_
  let entry ← LiftM.typeEntry type
  let part ← match ← LiftM.shapeOf entry.type with
    | .struct .. => pure (← memberEntry type entry.type index).1
    | .array .. | .vector .. | .matrix .. => componentType type
    | _ => throw (.operandType type)
  return (← push (.accessIndex base index), part)

/-- A part of a value, index by index. -/
def compositeExtract (type id composite : Id) (indices : List Nat) : BodyM Unit := do
  let v ← entry composite
  let (e, _) ← indices.foldlM extractStep (← valueOf composite v, v.type)
  define id type e

/-- The number of parts of a value of type `type`, and the type of the part with an index. -/
def partOf (type : Id) (index : Nat) : BodyM (Nat × Id) := do
  let entry ← LiftM.typeEntry type
  match ← LiftM.shapeOf entry.type with
  | .struct members _ => return (members.length, (← memberEntry type entry.type index).1)
  | .array _ (.constant n) _ => return (n, ← componentType type)
  | .vector n _ | .matrix n _ _ => return (n.toNat, ← componentType type)
  | _ => throw (.accessIndex type)

/-- A copy of a value of type `type` in which the part behind the indices is `object`. -/
def insertInto (object base : ExprId) (type : Id) : List Nat → BodyM ExprId
  | [] => return object
  | index :: rest => do
    let (count, part) ← partOf type index
    let parts ← (List.range count).mapM fun i => push (.accessIndex base i)
    match parts[index]? with
    | none => throw (.rule (.componentIndex type))
    | some old => do
      let new ← insertInto object old part rest
      push (.compose (← typeOf type) (parts.set index new))

/-- The value has the type of the result. -/
def compositeInsert (type id object composite : Id) (indices : List Nat) : BodyM Unit := do
  let o ← value object
  let c ← value composite
  define id type (← insertInto o c type indices)

/-- A vector whose components are one and the same is that component, repeated. -/
def compositeConstruct (type id : Id) (parts : List Id) : BodyM Unit := do
  let components ← parts.mapM value
  let t ← typeOf type
  match components with
  | [] => throw (.rule (.noComponents id))
  | first :: rest =>
    let repeated (n : Ir.VectorSize) : Bool := components.length == n.toNat && rest.all (· == first)
    match ← LiftM.shapeOf t with
    | .vector n _ =>
      define id type (← push (if repeated n then .splat n first else .compose t components))
    | _ => define id type (← push (.compose t components))

/-- How many components vectors of a type have. -/
def vectorSize (type : Id) : BodyM Nat := do
  match ← shapeOfId type with
  | .vector n _ => return n.toNat
  | _ => throw (.innerType type)

/-- A vector made of components of two others: a swizzle, if those of the first are enough.  A component that
does not matter is the first one. -/
def vectorShuffle (type id first second : Id) (pattern : List Nat) : BodyM Unit := do
  let v ← entry first
  let n ← vectorSize v.type
  let a ← valueOf first v
  let w ← entry second
  let m ← vectorSize w.type
  let b ← valueOf second w
  let pattern := pattern.map fun i => if i = 0xffffffff then 0 else i
  if pattern.all (· < n) then
    let size := (Ir.VectorSize.ofNat? pattern.length).getD .four
    let padded := pattern ++ List.replicate (size.toNat - pattern.length) 0
    define id type (← push (.swizzle size a (padded.take size.toNat)))
  else
    let components ← pattern.mapM fun i =>
      let index := i % 256
      if index < n then push (.accessIndex a index)
      else if index < n + m then push (.accessIndex b (index - n))
      else throw (.accessIndex first)
    define id type (← push (.compose (← typeOf type) components))

/-- The number `k` as an index of the given type. -/
def indexLiteral (type : Id) (k : Nat) : BodyM ExprId := do
  match ← kindOf? (← typeOf type) with
  | some .uint => push (.literal (.u32 (UInt32.ofNat k)))
  | some .sint => push (.literal (.i32 (Int32.ofNat k)))
  | _ => throw (.indexType type)

/-- For each component of a vector, whether its number is the index, and the component. -/
def components (vector index : ExprId) (indexType : Id) (k : Nat) : BodyM (ExprId × ExprId) := do
  let number ← indexLiteral indexType k
  let component ← push (.access vector number)
  return (← push (.binary .equal number index), component)

/-- The component at an index, or else the first one. -/
def vectorExtract (type id composite index : Id) : BodyM Unit := do
  let v ← entry composite
  let a ← valueOf composite v
  let iv ← entry index
  let i ← valueOf index iv
  let n ← vectorSize v.type
  let first ← push (.access a (← indexLiteral iv.type 0))
  let rest := (List.range (n - 1)).map (· + 1)
  let e ← rest.foldlM (fun otherwise k => do
    let (isThis, component) ← components a i iv.type k
    push (.select isThis component otherwise)) first
  define id type e

/-- A vector in which the component at an index is replaced, component by component. -/
def vectorInsert (type id composite object index : Id) : BodyM Unit := do
  let o ← value object
  let v ← entry composite
  let a ← valueOf composite v
  let iv ← entry index
  let i ← valueOf index iv
  let n ← vectorSize v.type
  let parts ← (List.range n).mapM fun k => do
    let (isThis, component) ← components a i iv.type k
    push (.select isThis o component)
  define id type (← push (.compose (← typeOf v.type) parts))

/-- Images and samplers are not loaded; they are used as they are. -/
def load (type id pointer : Id) : BodyM Unit := do
  let v ← entry pointer
  let e ← valueOf pointer v
  match ← shapeOfId v.type, (← get).storedByRows.lookup pointer with
  | .image .., _ | .sampler _, _ => define id type e
  | _, some (.transposed part) => define id type part
  | _, _ => define id type (← push (.load e))

/-- A store. -/
def store (pointer object : Id) : BodyM Unit := do
  let p ← value pointer
  let o ← value object
  statement (.store p o)

/-- The number of elements of the runtime array that is a member of a struct. -/
def arrayLength (type id struct : Id) (member : Nat) : BodyM Unit := do
  let s ← value struct
  let array ← push (.accessIndex s member)
  define id type (← push (.arrayLength array))

end ShaderKit.Spirv.BodyM
