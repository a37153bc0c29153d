import ShaderKit.Spirv.Lift.Body.Block

/-!
# Putting a function's body together

When all blocks are lifted, each one that goes on to a block with phis stores their values, and the
regions become nested statements.
-/

namespace ShaderKit.Spirv.BodyM

open Ir (ExprId Expression Statement SwitchValue)

/-- Adds statements at the end of the block with this label. -/
def appendToBlock (label : Id) (more : Array Statement) : BodyM Unit := do
  if ((← get).finished.lookup label).isNone then throw (.rule (.block label))
  modify fun b => { b with
    finished := b.finished.map fun (l, s) => if l = label then (l, s ++ more) else (l, s) }

/-- The value of a source at the end of a predecessor.  If it is not in scope there, it goes through a
variable that the defining block stores to. -/
def sourceValue (v : ValueEntry) (predecessor : Id) : BodyM ExprId := do
  let b ← get
  let some region := b.regionOf.lookup predecessor | throw (.rule (.block predecessor))
  if isInside b.regions (b.definingRegion v) b.regions.size region then return v.expression
  let var ← addLocal { type := (← LiftM.typeEntry v.type).type }
  let pointer ← pushDetached (.localVar var)
  let loaded ← pushDetached (.load pointer)
  appendToBlock predecessor #[.emit (some (loaded, loaded))]
  if let some label := v.block then appendToBlock label #[.store pointer v.expression]
  return loaded

/-- Stores a value into the variable of a phi, at the end of each block that it can come from. -/
def applyTransfer (t : Transfer) : BodyM Unit := do
  let pointer ← pushDetached (.localVar t.variable_)
  t.sources.forM fun (source, predecessor) => do
    let some v := (← get).values.lookup source | throw (.rule (.value source))
    let e ← sourceValue v predecessor
    appendToBlock predecessor #[.store pointer e]

/-- Whether control cannot get past a statement. -/
def isTerminator : Statement → Bool
  | .breakLoop | .continueLoop | .ret _ | .kill => true
  | _ => false

/-- Whether control reaches the end of a list of statements. -/
def fallsThrough (body : List Statement) : Bool :=
  match body.getLast? with
  | some s => !isTerminator s
  | none => true

/-- The statements of a region.  The parts of a fragment are regions with a higher index, so `fuel` need
not exceed the number of regions. -/
def regionStatements (b : Body) : Nat → Nat → List Statement
  | 0, _ => []
  | fuel + 1, region =>
    let part := regionStatements b fuel
    let fragments := (b.regions[region]?).elim #[] (·.fragments)
    fragments.toList.flatMap fun
      | .block label => ((b.finished.lookup label).getD #[]).toList
      | .branch condition accept reject => [.branch condition (part accept) (part reject)]
      | .loop body continuing breakIf => [.loop (part body) (part continuing) breakIf]
      | .switch selector cases fallback =>
        let cases := cases.map fun (value, region) =>
          let body := part region
          (SwitchValue.i32 value, body, fallsThrough body)
        [.switch selector (cases ++ [(.fallback, part fallback, false)])]
      | .leave => [.breakLoop]
      | .again => [.continueLoop]

/-- The statements of the whole function. -/
def assemble : BodyM (List Statement) := do
  (← get).transfers.forM applyTransfer
  let b ← get
  return regionStatements b b.regions.size 0

end ShaderKit.Spirv.BodyM
