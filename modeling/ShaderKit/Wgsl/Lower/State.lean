import ShaderKit.Ir.Check.Constants
import ShaderKit.Wgsl.Value.Conversion
import ShaderKit.Wgsl.Value.Math

/-!
# The state of giving a source its meaning

Declarations are taken one after the other.  Each adds to the module and gives its name a meaning.
Expressions of a function go to the function, and those outside of functions to the module.
-/

namespace ShaderKit.Wgsl

open Ir (ConstantId ExprId Expression FunctionId GlobalId OverrideId Shape TypeId TypeInfo
  TypingFault TypingScope ValueType)
open Ir.Check (Constness)

/-- What an expression of a source stands for. -/
inductive Term
  /-- A value that is known before the program runs. -/
  | value (value : Value)
  /-- A constant of the module, inside a function. -/
  | constant (constant : ConstantId) (value : Value)
  /-- The value of an expression. -/
  | plain (e : ExprId)
  /-- What is in memory where the pointer says. -/
  | reference (pointer : ExprId)

/-- The value of a term that is known already. -/
def Term.value? : Term → Option Value
  | value v | constant _ v => some v
  | plain _ | reference _ => none

/-- What a global name stands for. -/
inductive Meaning
  | type (type : TypeId)
  | constant (constant : ConstantId) (value : Value)
  | overridden (override : OverrideId)
  | variable_ (global : GlobalId)
  | function (function : FunctionId)
  | entryPoint

/-- Expressions, with their types and when their values are known.  Types are known up to the first
expression that has none. -/
structure Arena where
  expressions : Array Expression := #[]
  types : Array ValueType := #[]
  fault : Option TypingFault := none
  constness : Array Constness := #[]

/-- The function that is being taken. -/
structure Draft where
  arguments : List Ir.Argument := []
  result : Option Ir.Result := none
  locals : Array Ir.LocalVariable := #[]
  arena : Arena := {}
  /-- Expressions that have a name of their own. -/
  named : List ExprId := []
  /-- The statements of the innermost block so far. -/
  statements : Array Ir.Statement := #[]
  /-- The first of the expressions that are not in scope yet. -/
  pending : Option ExprId := none
  inLoop : Bool := false

/-- What is known while a source is lowered. -/
structure LowerState where
  /-- The module so far, without its global expressions. -/
  module : Ir.Module := {}
  arena : Arena := {}
  meanings : List (String × Meaning) := []
  draft : Option Draft := none
  /-- When values have to be known. -/
  deadline : Constness := .constant
  /-- Local names, innermost scope first. -/
  scopes : List (List (String × Term)) := []

/-- An action on what is known. -/
abbrev Lower := StateT LowerState (Except Fault)

namespace Lower

/-- The types so far. -/
def types : Lower (List TypeInfo) := return (← get).module.types

/-- Adds a type to the module. -/
def intern (t : TypeInfo) : Lower TypeId := modifyGet fun s =>
  let (types, id) := Ir.internType s.module.types t
  (id, { s with module := { s.module with types } })

/-- The type with a shape and without a name. -/
def typeOfShape (shape : Shape) : Lower TypeId := intern { shape }

/-- The shape of a type. -/
def shapeOfType (t : TypeId) : Lower Shape := do
  match (← types)[t]? with
  | some t => return t.shape
  | none => throw (.typing .undefined)

/-- The number of a type of expressions. -/
def typeId : ValueType → Lower TypeId
  | .named t => return t
  | .shape shape => typeOfShape shape

/-- By when values have to be known here. -/
def deadline : Lower Constness := return (← get).deadline

/-- Computes with values.  A fault leaves the types of the module as they are. -/
def evaluate {α : Type} (x : Evaluation α) : Lower (Except ValueFault α) := do
  let s ← get
  match x.run s.module.types with
  | .ok (a, types) =>
    set { s with module := { s.module with types } }
    return .ok a
  | .error fault => return .error fault

/-- Computes with values, which has to succeed. -/
def evaluated {α : Type} (x : Evaluation α) : Lower α := do
  match ← evaluate x with
  | .ok a => return a
  | .error fault => throw (.value fault)

/-- The expressions that are added to. -/
def arena : Lower Arena := do
  let s ← get
  return s.draft.elim s.arena (·.arena)

/-- What expressions can refer to here. -/
def typingScope : Lower TypingScope := do
  let s ← get
  let scope := TypingScope.ofModule s.module
  return match s.draft with
  | some d => { scope with arguments := d.arguments, locals := d.locals.toList }
  | none => scope

/-- Changes the function that is being lowered, if there is one. -/
def modifyDraft (f : Draft → Draft) : Lower Unit :=
  modify fun s => { s with draft := s.draft.map f }

/-- The function that is being taken; outside of functions nothing is known to run. -/
def draft : Lower Draft := do
  match (← get).draft with
  | some d => return d
  | none => throw (.value .notConstant)

/-- Brings pending expressions into scope. -/
def flush : Lower Unit := modifyDraft fun d =>
  match d.pending with
  | none => d
  | some first =>
    { d with pending := none
             statements := d.statements.push
               (.emit (some (first, d.arena.expressions.size - 1))) }

/-- Adds a statement after everything before it is in scope. -/
def statement (s : Ir.Statement) : Lower Unit := do
  if (← deadline) ≠ .runtime then throw (.value .notConstant)
  flush
  modifyDraft fun d => { d with statements := d.statements.push s }

/-- The arena with one more expression. -/
def Arena.push (a : Arena) (scope : TypingScope) (e : Expression) (constness : Constness) : Arena :=
  let grown := { a with expressions := a.expressions.push e, constness := a.constness.push constness }
  if a.fault.isSome then grown
  else match scope.typeOf (a.types[·]?) e with
    | .ok t => { grown with types := a.types.push t }
    | .error fault => { grown with fault := some fault }

/-- Adds an expression whose value is known at the given time, which must be in time. -/
def pushKnown (constness : Constness) (e : Expression) : Lower ExprId := do
  let deadline ← deadline
  if constness = .runtime ∧ deadline ≠ .runtime then throw (.value .notConstant)
  if constness = .pipeline ∧ deadline = .constant then throw (.value .overridden)
  let a ← arena
  let added := Arena.push a (← typingScope) e constness
  if (← get).draft.isNone then modify fun s => { s with arena := added }
  else
    if e.isPreEmitted || e.isStatementResult then flush
    else modifyDraft fun d => { d with pending := some (d.pending.getD a.expressions.size) }
    modifyDraft fun d => { d with arena := added }
  return a.expressions.size

/-- Adds an expression. -/
def push (e : Expression) : Lower ExprId := do
  pushKnown (Constness.ofExpression (← arena).constness e) e

/-- Everything so far has a type. -/
def checkTyped : Lower Unit := do
  if let some fault := (← arena).fault then throw (.typing fault)

/-- The type of an expression. -/
def typeOf (e : ExprId) : Lower ValueType := do
  checkTyped
  match (← arena).types[e]? with
  | some t => return t
  | none => throw (.typing .undefined)

/-- The shape of the type of an expression. -/
def shapeOf (e : ExprId) : Lower Shape := do
  match (← typeOf e).shape? (← types) with
  | some shape => return shape
  | none => throw (.typing .undefined)

/-- Takes what follows as a constant of the module. -/
def atModuleScope {α : Type} (x : Lower α) : Lower α := do
  let before ← get
  modify fun s => { s with draft := none, deadline := .constant }
  let a ← x
  modify fun s => { s with draft := before.draft, deadline := before.deadline }
  return a

/-- Takes what follows as something that has to be known at the given time. -/
def knownBy {α : Type} (deadline : Constness) (x : Lower α) : Lower α := do
  let before := (← get).deadline
  modify fun s => { s with deadline }
  let a ← x
  modify fun s => { s with deadline := before }
  return a

/-- Takes what follows with local names of its own. -/
def inScope {α : Type} (x : Lower α) : Lower α := do
  modify fun s => { s with scopes := [] :: s.scopes }
  let a ← x
  modify fun s => { s with scopes := s.scopes.drop 1 }
  return a

/-- Gives a local name a meaning; in one scope no name has two. -/
def declare (name : String) (t : Term) : Lower Unit := do
  match (← get).scopes with
  | [] => modify fun s => { s with scopes := [[(name, t)]] }
  | scope :: rest =>
    if (scope.lookup name).isSome then throw (.redefined name)
    modify fun s => { s with scopes := ((name, t) :: scope) :: rest }

/-- The meaning of a local name. -/
def local? (name : String) : Lower (Option Term) :=
  return (← get).scopes.findSome? (·.lookup name)

/-- Remembers that an expression has a name. -/
def nameExpression (e : ExprId) : Lower Unit :=
  modifyDraft fun d => { d with named := e :: d.named }

/-- What is bound to a name is only known when the program runs. -/
def hideValue (e : ExprId) : Lower Unit := modifyDraft fun d =>
  { d with arena := { d.arena with constness := d.arena.constness.setIfInBounds e .runtime } }

/-- What a name stands for here. -/
def meaning? (name : String) : Lower (Option Meaning) := return (← get).meanings.lookup name

/-- Gives a name a meaning. -/
def define (name : String) (m : Meaning) : Lower Unit :=
  modify fun s => { s with meanings := (name, m) :: s.meanings }

/-- Takes what follows as a block of its own, and gives its statements too. -/
def block {α : Type} (x : Lower α) : Lower (α × List Ir.Statement) := do
  flush
  let before := (← draft).statements
  modifyDraft fun d => { d with statements := #[] }
  let a ← x
  flush
  let inner := (← draft).statements
  modifyDraft fun d => { d with statements := before }
  return (a, inner.toList)

/-- Takes what follows as the inside of a loop. -/
def insideLoop {α : Type} (x : Lower α) : Lower α := do
  let before := (← draft).inLoop
  modifyDraft fun d => { d with inLoop := true }
  let a ← x
  modifyDraft fun d => { d with inLoop := before }
  return a

/-- Adds a local variable. -/
def addLocal (l : Ir.LocalVariable) : Lower Ir.LocalId := do
  let id := (← draft).locals.size
  modifyDraft fun d => { d with locals := d.locals.push l }
  return id

/-- Changes the module. -/
def modifyModule (f : Ir.Module → Ir.Module) : Lower Unit :=
  modify fun s => { s with module := f s.module }

end Lower

end ShaderKit.Wgsl
