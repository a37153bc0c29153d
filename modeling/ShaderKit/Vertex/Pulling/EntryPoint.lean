import ShaderKit.Vertex.Pulling.Builder

/-!
# Vertex pulling

`pull` makes a vertex entry point fetch its inputs from storage buffers.  Vertex buffer
`i` becomes a read-only array of words at binding `i` of the pulling group.  The entry function becomes a
plain function, and a new entry function, which takes the vertex and instance index only, rebuilds each
input from the buffers and calls it.
-/

namespace ShaderKit.Vertex

open Ir

/-- The kind of scalar that a component is in the shader. -/
def ComponentKind.scalarKind : ComponentKind → ScalarKind
  | .float => .float
  | .uint => .uint
  | .sint => .sint

namespace PullingScope

variable (s : PullingScope)

/-- Components and scalar of an input type that attributes can feed. -/
def inputComponents? : Shape → Option (Nat × Scalar)
  | .scalar scalar => some (1, scalar)
  | .vector size scalar => some (size.toNat, scalar)
  | _ => none

/-- The value of the input of type `type` at a location. -/
def pullAttribute (location : Nat) (type : TypeId) (shape : Shape) :
    StateT Builder (Except PullingError) ExprId := do
  let some (count, scalar) := inputComponents? shape | throw (.inputShape location shape)
  let some p := s.layout.attributes.lookup location | throw (.attributeMissing location)
  if scalar.kind ≠ p.format.kind.scalarKind ∨ scalar.width ≠ 4 then
    throw (.formatMismatch location p.format)
  let some words := p.words? | throw (.wordOverflow location)
  let build : Build ExprId := do
    let values ← Build.fit scalar.kind count (← Build.fetch s p words)
    if count = 1 then return values.headD 0
    else Builder.push (.compose type values)
  fun b => .ok (build b)

/-- The value that the input of type `type` had.  Structs are taken apart; `fuel` bounds how deep. -/
def inputValue : Nat → Option IoBinding → TypeId → StateT Builder (Except PullingError) ExprId
  | _, some (.builtIn .vertexIndex), _ => return s.vertexIndex
  | _, some (.builtIn .instanceIndex), _ => return s.instanceIndex
  | _, some (.builtIn b), _ => throw (.builtIn b)
  | _, some (.location location ..), type =>
    match s.types[type]? with
    | some info => s.pullAttribute location type info.shape
    | none => throw .unboundInput
  | 0, none, _ => throw .unboundInput
  | fuel + 1, none, type =>
    match s.types[type]? with
    | some ⟨_, .struct members _⟩ => do
      let components ← members.mapM fun m => inputValue fuel m.binding m.type
      fun b => .ok (Builder.push (.compose type components) b)
    | _ => throw .unboundInput

end PullingScope

/-- The statements that call `inner` and return what it returns, after everything else. -/
def Builder.finish (b : Builder) (inner : FunctionId) (arguments : List ExprId)
    (hasResult : Bool) : Builder :=
  let b := b.flush
  let result := if hasResult then some b.expressions.length else none
  { b with
    expressions := if hasResult then b.expressions ++ [.callResult inner] else b.expressions
    body := b.body ++ [.call inner arguments result, .ret result] }

/-- The global variable that holds the words of vertex buffer `slot`. -/
def bufferGlobal (group : Nat) (wordsType : TypeId) (slot : Nat) : GlobalVariable where
  name := some s!"vertex_pulling_buffer_{slot}"
  space := .storage .readOnly
  binding := some ⟨group, slot⟩
  type := wordsType

/-- The function behind an entry point that no stage interface belongs to any more. -/
def demote (entryPoint : String) (f : Function) : Function :=
  { f with
    name := some s!"{entryPoint}_inner"
    arguments := f.arguments.map fun a => { a with binding := none }
    result := f.result.map fun r => { r with binding := none } }

/-- The index inputs of a pulling entry function. -/
def indexArguments (wordType : TypeId) : List Argument :=
  [⟨some "vertex_index", wordType, some (.builtIn .vertexIndex)⟩,
   ⟨some "instance_index", wordType, some (.builtIn .instanceIndex)⟩]

/-- The entry point of that name, which must be of the vertex stage. -/
def pullingTarget (m : Module) (entryPoint : String) :
    Except PullingError (Nat × EntryPoint) :=
  match m.entryPoints.findIdx? (·.name == entryPoint) with
  | none => .error (.entryPointMissing entryPoint)
  | some i =>
    match m.entryPoints[i]? with
    | none => .error (.entryPointMissing entryPoint)
    | some e => if e.stage = .vertex then .ok (i, e) else .error (.notVertexStage entryPoint)

/-- Checks that the group can be used and that no global variable is in it. -/
def checkPullingGroup (m : Module) (group : Nat) : Except PullingError Unit :=
  if Limits.bindGroups ≤ group then .error (.groupOverLimit group)
  else match m.globals.find? fun g => g.binding.any (·.group == group) with
    | some g => .error (.groupTaken group g.name)
    | none => .ok ()

/-- Makes the entry point fetch its inputs from buffers in `group`. -/
def pull (m : Module) (state : State) (entryPoint : String) (group : Nat) :
    Except PullingError Module := do
  let (index, entry) ← pullingTarget m entryPoint
  checkPullingGroup m group
  let layout ← WordLayout.ofState state
  let (types, wordType) := internType m.types { shape := .scalar .u32 }
  let (types, wordsType) := internType types { shape := .array wordType .dynamic 4 }
  let scope : PullingScope :=
    { types, layout, firstBuffer := m.globals.length, vertexIndex := 0, instanceIndex := 1 }
  let start : Builder := { expressions := [.argument 0, .argument 1] }
  let (arguments, built) ← (entry.function.arguments.mapM fun a =>
    scope.inputValue (types.length + 1) a.binding a.type).run start
  let built := built.finish m.functions.length arguments entry.function.result.isSome
  let function : Function := {
    name := some entryPoint
    arguments := indexArguments wordType
    result := entry.function.result
    expressions := built.expressions
    body := built.body }
  return { m with
    types
    globals := m.globals
      ++ (List.range state.length).map (bufferGlobal group wordsType)
    functions := m.functions ++ [demote entryPoint entry.function]
    entryPoints := m.entryPoints.set index { entry with function } }

end ShaderKit.Vertex
