import ShaderKit.Ir.Module

/-!
# How functions use global variables

A function reads, writes or asks about a variable, itself or in the functions that it calls.  Reading and
writing through a pointer counts for the variable that the pointer leads to.
-/

namespace ShaderKit.Ir

/-- What is done with a global variable. -/
structure Usage where
  read : Bool := false
  write : Bool := false
  query : Bool := false
  atomic : Bool := false
  deriving DecidableEq

namespace Usage

/-- What is done by either. -/
def union (a b : Usage) : Usage :=
  ⟨a.read || b.read, a.write || b.write, a.query || b.query, a.atomic || b.atomic⟩

/-- Nothing is done. -/
def isEmpty (u : Usage) : Bool := u == {}

/-- Whether `b` allows all of `a`. -/
def isWithin (a b : Usage) : Bool := a.union b == b

end Usage

/-- The usage of each global variable. -/
abbrev GlobalUsage := List (GlobalId × Usage)

namespace GlobalUsage

/-- All that is done with one variable. -/
def of (u : GlobalUsage) (g : GlobalId) : Usage :=
  u.foldl (fun total (h, use) => if h = g then total.union use else total) {}

end GlobalUsage

/-- The global variable that each expression points to or is. -/
def referencedGlobals (expressions : List Expression) : Array (Option GlobalId) :=
  expressions.foldl (fun known e => known.push (match e with
    | .global g => some g
    | .access base _ | .accessIndex base _ => (known[base]?).join
    | _ => none)) #[]

/-- The operands of an expression together with what it does to each.  The base of an access is only
passed on. -/
def Expression.uses : Expression → List (ExprId × Usage)
  | .access _ index => [(index, { read := true })]
  | .accessIndex .. => []
  | .imageQuery image query => (image, { query := true }) :: match query with
    | .size (some level) => [(level, { read := true })]
    | _ => []
  | .arrayLength array => [(array, { query := true })]
  | e => e.operands.map (·, { read := true })

mutual

/-- The operands of a statement together with what it does to each. -/
def Statement.uses : Statement → List (ExprId × Usage)
  | .emit _ | .breakLoop | .continueLoop | .kill | .barrier _ => []
  | .block body => usesOfAll body
  | .branch condition accept reject =>
    (condition, { read := true }) :: usesOfAll accept ++ usesOfAll reject
  | .switch selector cases => (selector, { read := true }) :: usesOfCases cases
  | .loop body continuing breakIf =>
    usesOfAll body ++ usesOfAll continuing ++ breakIf.toList.map (·, { read := true })
  | .ret value => value.toList.map (·, { read := true })
  | .store pointer value => [(pointer, { write := true }), (value, { read := true })]
  | .imageStore image coordinate arrayIndex value =>
    (image, { write := true })
      :: (coordinate :: value :: arrayIndex.toList).map (·, { read := true })
  | .atomic pointer _ value _ =>
    [(pointer, { read := true, write := true }), (value, { read := true })]
  | .imageAtomic image coordinate arrayIndex _ value =>
    (image, { atomic := true })
      :: (coordinate :: value :: arrayIndex.toList).map (·, { read := true })
  | .workGroupUniformLoad pointer _ => [(pointer, { read := true })]
  | .call _ arguments _ => arguments.map (·, { read := true })
  | .rayQuery query f => match f with
    | .start structure_ descriptor =>
      [query, structure_, descriptor].map (·, { read := true })
    | .proceed _ | .terminate => [(query, { read := true })]
  | .subgroupBallot _ predicate => predicate.toList.map (·, { read := true })
  | .subgroupCollective _ _ argument _ => [(argument, { read := true })]
  | .subgroupGather mode argument _ =>
    (argument :: mode.index?.toList).map (·, { read := true })

/-- What statements do with expressions. -/
def Statement.usesOfAll : List Statement → List (ExprId × Usage)
  | [] => []
  | s :: rest => s.uses ++ usesOfAll rest

/-- What the cases of a switch do with expressions. -/
def Statement.usesOfCases : List (SwitchValue × List Statement × Bool) → List (ExprId × Usage)
  | [] => []
  | (_, body, _) :: rest => usesOfAll body ++ usesOfCases rest

end

mutual

/-- The functions that a statement calls. -/
def Statement.callees : Statement → List FunctionId
  | .call f _ _ => [f]
  | .block body => calleesOfAll body
  | .branch _ accept reject => calleesOfAll accept ++ calleesOfAll reject
  | .switch _ cases => calleesOfCases cases
  | .loop body continuing _ => calleesOfAll body ++ calleesOfAll continuing
  | _ => []

/-- The functions that statements call. -/
def Statement.calleesOfAll : List Statement → List FunctionId
  | [] => []
  | s :: rest => s.callees ++ calleesOfAll rest

/-- The functions that the cases of a switch call. -/
def Statement.calleesOfCases : List (SwitchValue × List Statement × Bool) → List FunctionId
  | [] => []
  | (_, body, _) :: rest => calleesOfAll body ++ calleesOfCases rest

end

/-- How a function uses the global variables, given how the functions before it do. -/
def Function.usage (f : Function) (known : Array GlobalUsage) : GlobalUsage :=
  let globals := referencedGlobals f.expressions
  let own := (f.expressions.flatMap (·.uses) ++ Statement.usesOfAll f.body).filterMap
    fun (e, use) => ((globals[e]?).join).map (·, use)
  own ++ (Statement.calleesOfAll f.body).flatMap fun c => (known[c]?).getD []

end ShaderKit.Ir
