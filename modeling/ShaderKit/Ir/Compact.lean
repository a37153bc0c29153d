import ShaderKit.Ir.Module

/-!
# Leaving out what is not used

Making a module can leave expressions and types behind that nothing refers to.  They are left out, and
what is used keeps its order.  A function uses the expressions of its statements, the first values of its
variables and the expressions that have names, and whatever these are made of.  A type is used if it has a
name, if a declaration or an expression has it, or if a type that is used is made of it.
-/

namespace ShaderKit.Ir

/-- For each entry of a list, whether it is used. -/
abbrev Marks := Array Bool

namespace Marks

/-- The index is marked. -/
def has (m : Marks) (i : Nat) : Bool := m[i]?.getD false

/-- Marks the indices too. -/
def addAll (m : Marks) (is : List Nat) : Marks := is.foldl (fun m i => m.setIfInBounds i true) m

/-- The marks of those entries of a list that `roots` lead to.  An entry needs only entries before it. -/
def reached {α : Type} (entries : List α) (needs : α → List Nat) (roots : List Nat) : Marks :=
  entries.zipIdx.foldr (fun (a, i) m => if m.has i then m.addAll (needs a) else m)
    (addAll (Array.replicate entries.length false) roots)

/-- The entries that are used. -/
def kept {α : Type} (m : Marks) (entries : List α) : List α :=
  (entries.zipIdx.filter fun (_, i) => m.has i).map (·.1)

/-- How many entries are used before each, and in all. -/
def counts (m : Marks) : Array Nat :=
  m.foldl (fun counts used => counts.push (counts.back?.getD 0 + used.toNat)) #[0]

end Marks

namespace Expression

/-- An expression with other operands. -/
def mapOperands (f : ExprId → ExprId) : Expression → Expression
  | compose t components => compose t (components.map f)
  | access base index => access (f base) (f index)
  | accessIndex base index => accessIndex (f base) index
  | splat n value => splat n (f value)
  | swizzle n vector pattern => swizzle n (f vector) pattern
  | load pointer => load (f pointer)
  | imageSample image sampler gather coordinate arrayIndex offset level depthRef =>
    let level := match level with
      | .auto => .auto
      | .zero => .zero
      | .exact e => .exact (f e)
      | .bias e => .bias (f e)
      | .gradient x y => .gradient (f x) (f y)
    imageSample (f image) (f sampler) gather (f coordinate) (arrayIndex.map f) (offset.map f) level
      (depthRef.map f)
  | imageLoad image coordinate arrayIndex sample level =>
    imageLoad (f image) (f coordinate) (arrayIndex.map f) (sample.map f) (level.map f)
  | imageQuery image query =>
    let query := match query with
      | .size level => .size (level.map f)
      | query => query
    imageQuery (f image) query
  | unary op operand => unary op (f operand)
  | binary op left right => binary op (f left) (f right)
  | select condition accept reject => select (f condition) (f accept) (f reject)
  | derivative axis control operand => derivative axis control (f operand)
  | relational function e => relational function (f e)
  | math function arg arg1 arg2 arg3 => math function (f arg) (arg1.map f) (arg2.map f) (arg3.map f)
  | convert operand kind width => convert (f operand) kind width
  | arrayLength array => arrayLength (f array)
  | rayQueryIntersection query committed => rayQueryIntersection (f query) committed
  | e => e

/-- The types that an expression says that it has. -/
def types : Expression → List TypeId
  | zero t | compose t _ | atomicResult t _ | workGroupUniformLoadResult t | subgroupResult t => [t]
  | _ => []

/-- An expression with other types. -/
def mapTypes (f : TypeId → TypeId) : Expression → Expression
  | zero t => zero (f t)
  | compose t components => compose (f t) components
  | atomicResult t comparison => atomicResult (f t) comparison
  | workGroupUniformLoadResult t => workGroupUniformLoadResult (f t)
  | subgroupResult t => subgroupResult (f t)
  | e => e

end Expression

/-- A way through the expressions of statements. -/
structure Visitor (m : Type → Type) where
  expression : ExprId → m ExprId
  range : Option (ExprId × ExprId) → m (Option (ExprId × ExprId))

section Visitor

variable {m : Type → Type} [Monad m] (v : Visitor m)

/-- Goes over the operand of an atomic operation. -/
def AtomicFunction.visit : AtomicFunction → m AtomicFunction
  | .exchange compare => .exchange <$> compare.mapM v.expression
  | f => return f

/-- Goes over the operands of a step of a ray query. -/
def RayQueryFunction.visit : RayQueryFunction → m RayQueryFunction
  | .start structure_ descriptor => do
    return .start (← v.expression structure_) (← v.expression descriptor)
  | .proceed result => .proceed <$> v.expression result
  | .terminate => return .terminate

/-- Goes over the index that a gather takes. -/
def GatherMode.visit : GatherMode → m GatherMode
  | .broadcastFirst => return .broadcastFirst
  | .broadcast e => .broadcast <$> v.expression e
  | .shuffle e => .shuffle <$> v.expression e
  | .shuffleDown e => .shuffleDown <$> v.expression e
  | .shuffleUp e => .shuffleUp <$> v.expression e
  | .shuffleXor e => .shuffleXor <$> v.expression e

mutual

/-- Visits every expression that a statement refers to. -/
def Statement.visit : Statement → m Statement
  | .emit range => .emit <$> v.range range
  | .block body => .block <$> visitAll body
  | .branch condition accept reject => do
    return .branch (← v.expression condition) (← visitAll accept) (← visitAll reject)
  | .switch selector cases => do return .switch (← v.expression selector) (← visitCases cases)
  | .loop body continuing breakIf => do
    return .loop (← visitAll body) (← visitAll continuing) (← breakIf.mapM v.expression)
  | .breakLoop => return .breakLoop
  | .continueLoop => return .continueLoop
  | .ret value => .ret <$> value.mapM v.expression
  | .kill => return .kill
  | .barrier b => return .barrier b
  | .store pointer value => do return .store (← v.expression pointer) (← v.expression value)
  | .imageStore image coordinate arrayIndex value => do
    return .imageStore (← v.expression image) (← v.expression coordinate)
      (← arrayIndex.mapM v.expression) (← v.expression value)
  | .atomic pointer function value result => do
    return .atomic (← v.expression pointer) (← function.visit v) (← v.expression value)
      (← result.mapM v.expression)
  | .imageAtomic image coordinate arrayIndex function value => do
    return .imageAtomic (← v.expression image) (← v.expression coordinate)
      (← arrayIndex.mapM v.expression) (← function.visit v) (← v.expression value)
  | .workGroupUniformLoad pointer result => do
    return .workGroupUniformLoad (← v.expression pointer) (← v.expression result)
  | .call function arguments result => do
    return .call function (← arguments.mapM v.expression) (← result.mapM v.expression)
  | .rayQuery query function => do
    return .rayQuery (← v.expression query) (← function.visit v)
  | .subgroupBallot result predicate => do
    return .subgroupBallot (← v.expression result) (← predicate.mapM v.expression)
  | .subgroupCollective operation collective argument result => do
    return .subgroupCollective operation collective (← v.expression argument) (← v.expression result)
  | .subgroupGather mode argument result => do
    return .subgroupGather (← mode.visit v) (← v.expression argument) (← v.expression result)

/-- Goes over statements in order. -/
def Statement.visitAll : List Statement → m (List Statement)
  | [] => return []
  | s :: rest => do
    let s ← s.visit
    return s :: (← visitAll rest)

/-- Goes over the bodies of the cases in order. -/
def Statement.visitCases : List (SwitchValue × List Statement × Bool) →
    m (List (SwitchValue × List Statement × Bool))
  | [] => return []
  | (value, body, fallsThrough) :: rest => do
    let body ← visitAll body
    return (value, body, fallsThrough) :: (← visitCases rest)

end

end Visitor

/-- The expressions that statements refer to, the last first. -/
def Statement.references (body : List Statement) : List ExprId :=
  let collect : Visitor (StateM (List ExprId)) :=
    { expression := fun e => do modify (e :: ·); return e
      range := fun r => return r }
  ((Statement.visitAll collect body).run []).2

/-- Statements that refer to other expressions. -/
def Statement.renamed (f : ExprId → ExprId)
    (range : Option (ExprId × ExprId) → Option (ExprId × ExprId)) (body : List Statement) :
    List Statement :=
  Id.run (Statement.visitAll ⟨fun e => pure (f e), fun r => pure (range r)⟩ body)

/-- A function without the expressions that neither its statements nor its variables nor those in `named`
lead to. -/
def Function.compact (f : Function) (named : List ExprId) : Function :=
  let roots := named ++ f.locals.filterMap (·.init) ++ Statement.references f.body
  let used := Marks.reached f.expressions Expression.operands roots
  let counts := used.counts
  let place (e : ExprId) : ExprId := counts[e]?.getD 0
  let range : Option (ExprId × ExprId) → Option (ExprId × ExprId)
    | some (first, last) =>
      if place first < place (last + 1) then some (place first, place (last + 1) - 1) else none
    | none => none
  { f with
    locals := f.locals.map fun l => { l with init := l.init.map place }
    expressions := (used.kept f.expressions).map (·.mapOperands place)
    body := Statement.renamed place range f.body }

namespace Shape

/-- The types that a type is made of. -/
def parts : Shape → List TypeId
  | pointer base _ | array base _ _ | bindingArray base _ => [base]
  | struct members _ => members.map (·.type)
  | _ => []

/-- A type made of other types. -/
def mapTypes (f : TypeId → TypeId) : Shape → Shape
  | pointer base space => pointer (f base) space
  | array base size stride => array (f base) size stride
  | bindingArray base size => bindingArray (f base) size
  | struct members span => struct (members.map fun m => { m with type := f m.type }) span
  | s => s

end Shape

namespace Function

/-- The types that a function refers to. -/
def types (f : Function) : List TypeId :=
  f.arguments.map (·.type) ++ f.result.toList.map (·.type) ++ f.locals.map (·.type)
    ++ f.expressions.flatMap (·.types)

/-- The function with its types renamed. -/
def mapTypes (f : Function) (g : TypeId → TypeId) : Function :=
  { f with
    arguments := f.arguments.map fun a => { a with type := g a.type }
    result := f.result.map fun r => { r with type := g r.type }
    locals := f.locals.map fun l => { l with type := g l.type }
    expressions := f.expressions.map (·.mapTypes g) }

end Function

/-- A module without the types that it does not use. -/
def Module.compactTypes (m : Module) : Module :=
  let named := (m.types.zipIdx.filter fun (t, _) => t.name.isSome).map (·.2)
  let functions := m.functions ++ m.entryPoints.map (·.function)
  let roots := named ++ m.constants.map (·.type) ++ m.overrides.map (·.type)
    ++ m.globals.map (·.type) ++ m.globalExpressions.flatMap (·.types)
    ++ functions.flatMap (·.types)
  let used := Marks.reached m.types (·.shape.parts) roots
  let counts := used.counts
  let place (t : TypeId) : TypeId := counts[t]?.getD 0
  { types := (used.kept m.types).map fun t => { t with shape := t.shape.mapTypes place }
    constants := m.constants.map fun c => { c with type := place c.type }
    overrides := m.overrides.map fun o => { o with type := place o.type }
    globals := m.globals.map fun g => { g with type := place g.type }
    globalExpressions := m.globalExpressions.map (·.mapTypes place)
    functions := m.functions.map (·.mapTypes place)
    entryPoints := m.entryPoints.map fun e => { e with function := e.function.mapTypes place } }

end ShaderKit.Ir
