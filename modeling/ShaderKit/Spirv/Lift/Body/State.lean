import ShaderKit.Spirv.Lift.State

/-!
# The state of lifting a function

A function's blocks are collected into regions.  A region is a list of fragments in structured control
flow: blocks, branches, loops and switches, whose parts are regions again.  Values can be used in the
region that defines them and in regions inside it; elsewhere they go through a local variable.
-/

namespace ShaderKit.Spirv

open Ir (ExprId Expression LocalId Statement)

/-- What a branch to a label means where the label ends some construct. -/
inductive Merge
  | loopContinue | loopMerge | selectionMerge | switchMerge
  deriving DecidableEq

/-- An element of a region; parts are given by region index. -/
inductive Fragment
  | block (label : Id)
  | branch (condition : ExprId) (accept reject : Nat)
  | loop (body continuing : Nat) (breakIf : Option ExprId)
  | switch (selector : ExprId) (cases : List (Int32 × Nat)) (fallback : Nat)
  | leave
  | again
  deriving DecidableEq

/-- A region of the control flow inside another one: its fragments run one after another. -/
structure Region where
  parent : Nat
  fragments : Array Fragment := #[]

/-- A value id: its expression, its type id and the block that defines it.  Values from outside the
function have no block. -/
structure ValueEntry where
  expression : ExprId
  type : Id
  block : Option Id := none
  deriving DecidableEq

/-- What is loaded through a pointer in place of what it points to: parts of matrices that are stored by rows
are taken from the transposed matrix. -/
inductive StoredByRows
  /-- An array of such matrices, which is not indexed yet. -/
  | array
  /-- The transposed matrix, or a part of it. -/
  | transposed (e : ExprId)

/-- A variable that blocks store to before they branch: a value for each predecessor. -/
structure Transfer where
  variable_ : LocalId
  sources : List (Id × Id)

/-- What is known of a function body. -/
structure Body where
  expressions : Array Expression := #[]
  locals : Array Ir.LocalVariable := #[]
  arguments : List Ir.Argument := []
  values : List (Id × ValueEntry) := []
  /-- Image and sampler behind each sampled image. -/
  sampledImages : List (Id × (ExprId × ExprId)) := []
  /-- Pointers into matrices that are stored by rows. -/
  storedByRows : List (Id × StoredByRows) := []
  transfers : Array Transfer := #[]
  finished : List (Id × Array Statement) := []
  regions : Array Region := #[⟨0, #[]⟩]
  regionOf : List (Id × Nat) := []
  merges : List (Id × Merge) := []
  /-- How image and sampler parameters are used. -/
  parameterUses : List SamplingUse := []
  /-- Whether a block is open. -/
  isOpen : Bool := false
  /-- The merge block that the open block has named for a selection. -/
  selection : Option Id := none
  /-- The block being lifted. -/
  label : Id := 0
  region : Nat := 0
  statements : Array Statement := #[]
  pending : Option ExprId := none

/-- The region in which a value is defined. -/
def Body.definingRegion (b : Body) (v : ValueEntry) : Nat :=
  (v.block.bind fun label => b.regionOf.lookup label).getD 0

/-- An action that adds to a function body. -/
abbrev BodyM := StateT Body LiftM

namespace BodyM

/-- Brings pending expressions into scope. -/
def flush : BodyM Unit := modify fun b =>
  match b.pending with
  | none => b
  | some first =>
    { b with pending := none
             statements := b.statements.push (.emit (some (first, b.expressions.size - 1))) }

/-- Adds an expression that is not brought into scope. -/
def pushDetached (e : Expression) : BodyM ExprId := do
  flush
  modifyGet fun b => (b.expressions.size, { b with expressions := b.expressions.push e })

/-- Adds an expression that is brought into scope with those around it. -/
def pushPending (e : Expression) : BodyM ExprId := do
  modify fun b => { b with pending := some (b.pending.getD b.expressions.size) }
  modifyGet fun b => (b.expressions.size, { b with expressions := b.expressions.push e })

/-- Adds an expression, and brings it into scope if it is not in scope on its own. -/
def push (e : Expression) : BodyM ExprId :=
  if e.isPreEmitted || e.isStatementResult then pushDetached e else pushPending e

/-- Adds a statement after everything before it is in scope. -/
def statement (s : Statement) : BodyM Unit := do
  flush
  modify fun b => { b with statements := b.statements.push s }

/-- Adds a local variable. -/
def addLocal (l : Ir.LocalVariable) : BodyM LocalId :=
  modifyGet fun b => (b.locals.size, { b with locals := b.locals.push l })

/-- Adds a region inside another. -/
def addRegion (parent : Nat) (fragments : Array Fragment := #[]) : BodyM Nat :=
  modifyGet fun b => (b.regions.size, { b with regions := b.regions.push ⟨parent, fragments⟩ })

/-- Adds a fragment at the end of a region. -/
def addFragment (region : Nat) (f : Fragment) : BodyM Unit := modify fun b =>
  { b with regions := b.regions.modify region fun r =>
      { r with fragments := r.fragments.push f } }

/-- Says which region a label belongs to, unless that is known. -/
def placeLabel (label : Id) (region : Nat) : BodyM Unit := modify fun b =>
  if (b.regionOf.lookup label).isSome then b
  else { b with regionOf := (label, region) :: b.regionOf }

/-- Says anew which region a label belongs to. -/
def moveLabel (label : Id) (region : Nat) : BodyM Unit := modify fun b =>
  { b with regionOf := (label, region) :: b.regionOf }

/-- Notes what a label ends, if nothing is noted for it. -/
def addMerge (label : Id) (m : Merge) : BodyM Unit := modify fun b =>
  if (b.merges.lookup label).isSome then b else { b with merges := (label, m) :: b.merges }

/-- Whether `region` is `outer` or lies inside it. -/
def isInside (regions : Array Region) (outer : Nat) : Nat → Nat → Bool
  | 0, _ => false
  | fuel + 1, region =>
    region == outer ||
      (region != 0 && isInside regions outer fuel ((regions[region]?).elim 0 (·.parent)))

/-- What is known of a value. -/
def entry (id : Id) : BodyM ValueEntry := do
  match (← get).values.lookup id with
  | some v => return v
  | none => throw (.undefinedId id)

/-- The value of an id in the current region.  A value from a region that does not enclose this one is
stored to a variable where it is defined, and loaded here. -/
def valueOf (id : Id) (v : ValueEntry) : BodyM ExprId := do
  let b ← get
  if isInside b.regions (b.definingRegion v) b.regions.size b.region then return v.expression
  let type := (← LiftM.typeEntry v.type).type
  let var ← addLocal { type }
  let pointer ← push (.localVar var)
  let loaded ← push (.load pointer)
  let source := (id, v.block.getD 0)
  modify fun b => { b with transfers := b.transfers.push ⟨var, [source]⟩ }
  return loaded

/-- The expression of a value. -/
def value (id : Id) : BodyM ExprId := do valueOf id (← entry id)

/-- The value of an id that must be defined in a region around the current one. -/
def enclosedValue (id : Id) : BodyM ExprId := do
  let v ← entry id
  let b ← get
  if isInside b.regions (b.definingRegion v) b.regions.size b.region then return v.expression
  throw (.rule (.operand id))

/-- An image or sampler.  It is never stored, so it is the same everywhere. -/
def handle (id : Id) : BodyM ExprId := return (← entry id).expression

/-- Gives an id the value of an expression. -/
def define (id type : Id) (e : ExprId) : BodyM Unit := modify fun b =>
  { b with values := (id, ⟨e, type, some b.label⟩) :: b.values }

/-- The expression of that number. -/
def expressionAt (e : ExprId) : BodyM Expression := do
  match (← get).expressions[e]? with
  | some x => return x
  | none => throw (.typing .undefined)

/-- The type behind a type id. -/
def typeOf (id : Id) : BodyM Ir.TypeId := do return (← LiftM.typeEntry id).type

/-- The shape of a type. -/
def shapeOfId (id : Id) : BodyM Ir.Shape := do LiftM.shapeOf (← typeOf id)

/-- The kind of the scalars that a type is made of. -/
def kindOf? (type : Ir.TypeId) : BodyM (Option Ir.ScalarKind) := do
  return (← LiftM.shapeOf type).scalar?.map (·.kind)

/-- The kind of the scalars that a type must be made of. -/
def kindOfId (id : Id) : BodyM Ir.ScalarKind := do
  match ← kindOf? (← typeOf id) with
  | some kind => return kind
  | none => throw (.rule (.scalarType id))

end BodyM

end ShaderKit.Spirv
