import ShaderKit.Wgsl.Fault
import ShaderKit.Wgsl.Syntax

/-!
# Names

Declarations may come in any order, but none may need itself.  `inOrder` puts each after the ones that it
mentions.
-/

namespace ShaderKit.Wgsl

/-- A use of a name. -/
structure Mention where
  name : String
  /-- Whether the name is that of a value, which a local declaration can hide. -/
  isValue : Bool
  deriving DecidableEq

mutual

/-- The names that a type mentions. -/
def TypeSyntax.mentions : TypeSyntax → List Mention
  | .scalar _ | .atomic _ | .image .. | .sampler _ | .accelerationStructure | .rayQuery
  | .rayDescription | .rayIntersection => []
  | .vector _ t | .matrix _ _ t | .pointer t _ => t.mentions
  | .array t none | .bindingArray t none => t.mentions
  | .array t (some e) | .bindingArray t (some e) => t.mentions ++ e.mentions
  | .named n => [⟨n, false⟩]

/-- The names that a constructor mentions. -/
def Constructor.mentions : Constructor → List Mention
  | .type t => t.mentions
  | .vector _ | .matrix .. | .array => []

/-- The names that an expression mentions. -/
def Expr.mentions : Expr → List Mention
  | .literal _ => []
  | .name n => [⟨n, true⟩]
  | .construct c args => c.mentions ++ mentionsOfAll args
  | .unary _ e | .addressOf e | .dereference e | .member e _ => e.mentions
  | .binary _ a b | .index a b => a.mentions ++ b.mentions
  | .call f args => ⟨f, false⟩ :: mentionsOfAll args
  | .bitcast t e => t.mentions ++ e.mentions

/-- The names that expressions mention. -/
def mentionsOfAll : List Expr → List Mention
  | [] => []
  | e :: rest => e.mentions ++ mentionsOfAll rest

end

/-- The global names among mentions, where the names in `locals` are hidden. -/
def globalNames (locals : List String) (mentions : List Mention) : List String :=
  (mentions.filter fun m => !m.isValue || !locals.contains m.name).map (·.name)

/-- The mentions of a type and a value that may be missing. -/
def mentionsOf (t : Option TypeSyntax) (e : Option Expr) : List Mention :=
  t.elim [] TypeSyntax.mentions ++ e.elim [] Expr.mentions

namespace Statement

/-- The name that a statement declares. -/
def declared : Statement → List String
  | letValue name _ _ | constValue name _ _ | var name _ _ => [name]
  | _ => []

mutual

/-- The global names in a statement. -/
def names (locals : List String) : Statement → List String
  | block body => namesOfAll locals body
  | letValue _ t e | constValue _ t e => globalNames locals (mentionsOf t (some e))
  | var _ t e => globalNames locals (mentionsOf t e)
  | branch condition accept reject =>
    globalNames locals condition.mentions ++ namesOfAll locals accept ++ namesOfAll locals reject
  | switch selector cases => globalNames locals selector.mentions ++ namesOfCases locals cases
  | loop body continuing breakIf =>
    let inner := locals ++ body.flatMap declared
    namesOfAll locals body ++ namesOfAll inner continuing
      ++ globalNames (inner ++ continuing.flatMap declared) (breakIf.elim [] Expr.mentions)
  | breakLoop | continueLoop | discard => []
  | ret e => globalNames locals (e.elim [] Expr.mentions)
  | call f args => f :: globalNames locals (mentionsOfAll args)
  | assign target _ e => globalNames locals (target.mentions ++ e.mentions)
  | step e _ | phony e | constAssert e => globalNames locals e.mentions

/-- The global names that statements mention, where these names are local. -/
def namesOfAll (locals : List String) : List Statement → List String
  | [] => []
  | s :: rest => names locals s ++ namesOfAll (locals ++ s.declared) rest

/-- The global names that the cases of a switch mention. -/
def namesOfCases (locals : List String) :
    List (Option Expr × List Statement × Bool) → List String
  | [] => []
  | (value, body, _) :: rest =>
    globalNames locals (value.elim [] Expr.mentions) ++ namesOfAll locals body
      ++ namesOfCases locals rest

end

end Statement

/-- The names that a binding mentions. -/
def BindingSyntax.mentions : BindingSyntax → List Mention
  | builtIn _ => []
  | location l _ _ _ => l.mentions

namespace Declaration

/-- The global names that a declaration mentions. -/
def names : Declaration → List String
  | struct _ members => members.flatMap fun m =>
    globalNames [] (m.type.mentions ++ m.binding.elim [] BindingSyntax.mentions
      ++ m.size.elim [] Expr.mentions ++ m.alignment.elim [] Expr.mentions)
  | typeAlias _ t => globalNames [] t.mentions
  | constant _ t e => globalNames [] (mentionsOf t (some e))
  | overridden _ id t init => globalNames [] (id.elim [] Expr.mentions ++ mentionsOf t init)
  | var v =>
    globalNames [] (v.binding.elim [] (fun (g, b) => g.mentions ++ b.mentions)
      ++ mentionsOf v.type v.init)
  | function f =>
    let types := f.parameters.flatMap fun p =>
      p.type.mentions ++ p.binding.elim [] BindingSyntax.mentions
    let result := f.result.elim [] fun (t, b) => t.mentions ++ b.elim [] BindingSyntax.mentions
    let sizes := f.entry.elim [] fun e => (e.workgroupSize.getD []).flatMap Expr.mentions
    globalNames [] (types ++ result ++ sizes)
      ++ Statement.namesOfAll (f.parameters.map (·.name)) f.body
  | constAssert e => globalNames [] e.mentions

/-- No two declarations have the same name. -/
def checkNames : List Declaration → Except Fault Unit
  | [] => .ok ()
  | d :: rest => do
    if let some name := d.name? then
      if rest.any (·.name? = some name) then throw (.redefined name)
    checkNames rest

/-- Adds a declaration to those that are `done`, after the ones that it mentions.  `path` holds the
declarations that led here; there are at most `fuel` others. -/
def visit (all : List Declaration) : Nat → List Nat → List Nat → Nat → Except Fault (List Nat)
  | 0, _, done, _ => .ok done
  | fuel + 1, path, done, i => do
    if done.contains i then return done
    let some d := all[i]? | return done
    if path.contains i then throw (.cyclic (d.name?.getD ""))
    let needed := d.names.filterMap fun n => all.findIdx? (·.name? = some n)
    return (← needed.foldlM (visit all fuel (i :: path)) done) ++ [i]

/-- The declarations in an order in which each comes after the ones that it mentions. -/
def inOrder (all : List Declaration) : Except Fault (List Declaration) := do
  checkNames all
  let order ← (List.range all.length).foldlM (visit all (all.length + 1) []) []
  return order.filterMap (all[·]?)

end Declaration

end ShaderKit.Wgsl
