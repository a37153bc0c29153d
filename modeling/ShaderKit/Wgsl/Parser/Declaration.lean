import ShaderKit.Wgsl.Parser.Statement

/-!
# Reading declarations

A source is a list of directives and then of declarations, each with attributes before it.
-/

namespace ShaderKit.Wgsl

open Ir (BuiltIn Interpolation Sampling ShaderStage)

/-- The attributes of a value that crosses the stage's interface, each given at most once. -/
structure InterfaceAttributes where
  location : Option Expr := none
  builtIn : Option BuiltIn := none
  interpolation : Option (Interpolation × Option Sampling) := none
  invariant : Bool := false
  secondBlendSource : Bool := false

/-- What the attributes say together; `none` in the result means that there are none. -/
def InterfaceAttributes.binding? (a : InterfaceAttributes) :
    Except Fault (Option BindingSyntax) :=
  match a with
  | ⟨none, none, none, false, _⟩ => .ok none
  | ⟨some location, none, interpolation, false, secondBlendSource⟩ =>
    .ok (some (.location location secondBlendSource (interpolation.map (·.1))
      (interpolation.bind (·.2))))
  | ⟨none, some (.position _), none, invariant, _⟩ =>
    .ok (some (.builtIn (.position invariant)))
  | ⟨none, some builtIn, none, false, _⟩ => .ok (some (.builtIn builtIn))
  | _ => .error .inconsistentBinding

/-- The attributes of a member of a struct. -/
structure MemberAttributes where
  interface : InterfaceAttributes := {}
  size : Option Expr := none
  alignment : Option Expr := none

/-- The attributes of a declaration. -/
structure DeclarationAttributes where
  group : Option Expr := none
  binding : Option Expr := none
  id : Option Expr := none
  stage : Option ShaderStage := none
  workgroupSize : Option (List Expr) := none
  earlyDepthTest : Bool := false
  filters : List Parser.DiagnosticFilter := []

/-- The group and binding of a variable, which come together. -/
def DeclarationAttributes.resource? (a : DeclarationAttributes) :
    Except Fault (Option (Expr × Expr)) :=
  match a.group, a.binding with
  | some group, some binding => .ok (some (group, binding))
  | some _, none => .error (.missingAttribute "binding")
  | none, some _ => .error (.missingAttribute "group")
  | none, none => .ok none

namespace Parser

/-- Sets an attribute that has no value yet. -/
def setOnce {α : Type} (name : String) (old : Option α) (value : α) : Parser (Option α) :=
  if old.isSome then throw (.repeatedAttribute name) else return some value

/-- Sets an attribute without an argument. -/
def flagOnce (name : String) (old : Bool) : Parser Bool :=
  if old then throw (.repeatedAttribute name) else return true

/-- Reads the attribute of an interface value that is called `name`. -/
def interfaceAttribute (fuel : Nat) (name : String) (a : InterfaceAttributes) :
    Parser InterfaceAttributes := do
  match name with
  | "location" => do
    let e ← attributeArgument fuel
    return { a with location := ← setOnce name a.location e }
  | "builtin" => do
    expect "("
    let builtIn ← wordIn "builtin" Words.builtIns
    expect ")"
    return { a with builtIn := ← setOnce name a.builtIn builtIn }
  | "interpolate" => do
    expect "("
    let interpolation ← wordIn "interpolation" Words.interpolations
    let sampling ← if ← skip "," then some <$> wordIn "sampling" Words.samplings else pure none
    expect ")"
    return { a with interpolation := ← setOnce name a.interpolation (interpolation, sampling) }
  | "invariant" => return { a with invariant := ← flagOnce name a.invariant }
  | "second_blend_source" =>
    return { a with secondBlendSource := ← flagOnce name a.secondBlendSource }
  | _ => throw (.unknownWord "attribute" name)

/-- The attributes of an input or output. -/
def interfaceAttributes : Nat → InterfaceAttributes → Parser (Option BindingSyntax)
  | 0, _ => outOfFuel
  | fuel + 1, a => do
    if ← skip "@" then
      let name ← identifierOrType
      interfaceAttributes fuel (← interfaceAttribute fuel name a)
    else a.binding?

/-- The attributes of a member of a struct. -/
def memberAttributes : Nat → MemberAttributes → Parser MemberAttributes
  | 0, _ => outOfFuel
  | fuel + 1, a => do
    if ← skip "@" then
      let name ← identifierOrType
      let a ← match name with
        | "size" => do
          let e ← attributeArgument fuel
          pure { a with size := ← setOnce name a.size e }
        | "align" => do
          let e ← attributeArgument fuel
          pure { a with alignment := ← setOnce name a.alignment e }
        | _ => pure { a with interface := ← interfaceAttribute fuel name a.interface }
      memberAttributes fuel a
    else return a

/-- Members of a struct, up to the closing brace. -/
def members : Nat → Parser (List MemberSyntax)
  | 0 => outOfFuel
  | fuel + 1 => do
    if ← skip "\x7d" then return []
    let a ← memberAttributes fuel {}
    let binding ← a.interface.binding?
    let name ← identifier
    expect ":"
    let t ← type fuel
    let m : MemberSyntax := ⟨name, t, binding, a.size, a.alignment⟩
    if ← skip "," then
      return m :: (← members fuel)
    expect "\x7d"
    return [m]

/-- Parameters of a function, up to the closing parenthesis. -/
def parameters : Nat → Parser (List ParameterSyntax)
  | 0 => outOfFuel
  | fuel + 1 => do
    if ← skip ")" then return []
    let binding ← interfaceAttributes fuel {}
    let name ← identifier
    expect ":"
    let t ← type fuel
    if ← skip "," then return ⟨name, t, binding⟩ :: (← parameters fuel)
    expect ")"
    return [⟨name, t, binding⟩]

/-- At least one size and at most `count + 1`, up to the closing parenthesis. -/
def workgroupSizes (fuel : Nat) : Nat → Parser (List Expr)
  | 0 => do
    let e ← expression fuel
    expect ")"
    return [e]
  | count + 1 => do
    let e ← expression fuel
    if ← skip ")" then return [e]
    expect ","
    return e :: (← workgroupSizes fuel count)

/-- Reads the attribute of a declaration that is called `name`. -/
def declarationAttribute (fuel : Nat) (name : String) (a : DeclarationAttributes) :
    Parser DeclarationAttributes := do
  match name with
  | "group" => do
    let e ← attributeArgument fuel
    return { a with group := ← setOnce name a.group e }
  | "binding" => do
    let e ← attributeArgument fuel
    return { a with binding := ← setOnce name a.binding e }
  | "id" => do
    let e ← attributeArgument fuel
    return { a with id := ← setOnce name a.id e }
  | "vertex" => return { a with stage := ← setOnce name a.stage .vertex }
  | "fragment" => return { a with stage := ← setOnce name a.stage .fragment }
  | "compute" => return { a with stage := ← setOnce name a.stage .compute }
  | "workgroup_size" => do
    expect "("
    let sizes ← workgroupSizes fuel 2
    return { a with workgroupSize := ← setOnce name a.workgroupSize sizes }
  | "early_depth_test" => do
    if ← skip "(" then
      wordIn "depth test" [("greater_equal", ()), ("less_equal", ()), ("unchanged", ())]
      expect ")"
    return { a with earlyDepthTest := ← flagOnce name a.earlyDepthTest }
  | "diagnostic" => do
    let filter ← diagnosticFilter
    if a.filters.any (·.rule == filter.rule) then throw (.repeatedAttribute name)
    return { a with filters := filter :: a.filters }
  | _ => throw (.unknownWord "attribute" name)

/-- The attributes of a declaration. -/
def declarationAttributes : Nat → DeclarationAttributes → Parser DeclarationAttributes
  | 0, _ => outOfFuel
  | fuel + 1, a => do
    if ← skip "@" then
      let name ← identifierOrType
      declarationAttributes fuel (← declarationAttribute fuel name a)
    else return a

/-- A function, after its first word. -/
def function (fuel : Nat) (a : DeclarationAttributes) : Parser FunctionSyntax := do
  let name ← identifier
  expect "("
  let parameters ← parameters fuel
  let result ← if ← skip "->" then do
      let binding ← interfaceAttributes fuel {}
      let t ← type fuel
      pure (some (t, binding))
    else pure none
  expect "\x7b"
  let body ← statements fuel 1
  let entry ← match a.stage with
    | none => pure none
    | some stage => do
      if stage = .compute ∧ a.workgroupSize.isNone then throw (.missingAttribute "workgroup_size")
      pure (some ⟨stage, a.earlyDepthTest, a.workgroupSize⟩)
  return ⟨name, parameters, result, body, entry⟩

/-- A variable, after its first word. -/
def variableDeclaration (fuel : Nat) (binding : Option (Expr × Expr)) :
    Parser VariableSyntax := do
  let space ← if ← skip "<" then do
      let space ← withAccess (← wordIn "address space" Words.spaces)
      expect ">"
      pure space
    else pure .handle
  let (name, t, init) ← declaredVariable fuel
  return ⟨name, space, binding, t, init⟩

/-- The declaration that starts with the word `w`, which has been read, up to its end. -/
def declarationFrom (fuel : Nat) (a : DeclarationAttributes) (w : String) :
    Parser Declaration := do
  let binding ← a.resource?
  if binding.isSome ∧ w ≠ "var" then throw .inconsistentBinding
  if !a.filters.isEmpty ∧ w ≠ "fn" then throw (.unknownWord "attribute" "diagnostic")
  match w with
  | "struct" => do
    let name ← identifier
    expect "\x7b"
    return .struct name (← members fuel)
  | "fn" => return .function (← function fuel a)
  | _ =>
    let d ← match w with
      | "alias" => do
        let name ← identifier
        expect "="
        pure (.typeAlias name (← type fuel))
      | "const" => do
        let (name, t, e) ← declaredValue fuel
        pure (.constant name t e)
      | "override" => do
        let (name, t, init) ← declaredVariable fuel
        pure (.overridden name a.id t init)
      | "var" => .var <$> variableDeclaration fuel binding
      | "const_assert" => .constAssert <$> assertion fuel
      | _ => throw (.expected "a declaration")
    expect ";"
    return d

/-- Directives come first; nothing can be enabled or required.  A rule keeps the severity that the filters
before gave it. -/
def directives : Nat → List DiagnosticFilter → Parser Unit
  | 0, _ => outOfFuel
  | fuel + 1, filters => do
    if ← skipWord "enable" then throw (.directive "enable")
    if ← skipWord "requires" then throw (.directive "requires")
    if ← skipWord "diagnostic" then
      let filter ← diagnosticFilter
      if filters.any fun f => f.rule == filter.rule && f.severity != filter.severity then
        throw (.repeatedAttribute "diagnostic")
      expect ";"
      directives fuel (filter :: filters)

/-- Declarations up to the end. -/
def declarations : Nat → Parser (List Declaration)
  | 0 => outOfFuel
  | fuel + 1 => do
    let a ← declarationAttributes fuel {}
    let binding ← a.resource?
    match ← next with
    | none => return []
    | some (.symbol ";") =>
      if binding.isSome ∨ !a.filters.isEmpty then throw .inconsistentBinding
      declarations fuel
    | some (.word w) =>
      let d ← declarationFrom fuel a w
      return d :: (← declarations fuel)
    | _ => throw (.expected "a declaration")

end Parser

/-- The declarations of a source. -/
def parse (source : String) : Except Fault (List Declaration) := do
  let tokens := Token.scan source
  let read : Parser (List Declaration) := do
    let fuel := Parser.fuelFor tokens
    Parser.directives fuel []
    Parser.declarations fuel
  read.run' tokens

end ShaderKit.Wgsl
