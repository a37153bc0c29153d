import ShaderKit.Wgsl.Parser.Basic

/-!
# Reading types and expressions

Types and expressions refer to each other: an array type has a length, and a constructor call has a type.
Every function takes fuel; `Parser.fuelFor` gives enough of it for a list of tokens.
-/

namespace ShaderKit.Wgsl

open Ir (AddressSpace BinaryOp ImageClass StorageAccess UnaryOp)

/-- Which operators an expression may use without parentheses. -/
inductive OperatorSet
  | all
  /-- A closing angle bracket ends the expression. -/
  | template
  deriving DecidableEq

namespace BinaryOp

/-- Operators that are symbols of their own, with how tightly they bind. -/
def ofSymbol? : String → Option (BinaryOp × Nat)
  | "||" => some (.logicalOr, 1)
  | "&&" => some (.logicalAnd, 2)
  | "|" => some (.inclusiveOr, 3)
  | "^" => some (.exclusiveOr, 4)
  | "&" => some (.and, 5)
  | "==" => some (.equal, 6)
  | "!=" => some (.notEqual, 6)
  | "+" => some (.add, 9)
  | "-" => some (.subtract, 9)
  | "*" => some (.multiply, 10)
  | "/" => some (.divide, 10)
  | "%" => some (.modulo, 10)
  | _ => none

/-- The operator at the front, how tightly it binds, and how many tokens it is made of. -/
def read? (set : OperatorSet) : List Lexeme → Option (BinaryOp × Nat × Nat)
  | ⟨.symbol "<", true⟩ :: ⟨.symbol "<", glued⟩ :: rest =>
    if glued ∧ rest.head?.map (·.token) = some (.symbol "=") then none
    else some (.shiftLeft, 8, 2)
  | ⟨.symbol "<", true⟩ :: ⟨.symbol "=", _⟩ :: _ => some (.lessEqual, 7, 2)
  | ⟨.symbol "<", _⟩ :: _ => if set = .all then some (.less, 7, 1) else none
  | ⟨.symbol ">", true⟩ :: ⟨.symbol ">", glued⟩ :: rest =>
    if set = .template ∨ (glued ∧ rest.head?.map (·.token) = some (.symbol "=")) then none
    else some (.shiftRight, 8, 2)
  | ⟨.symbol ">", true⟩ :: ⟨.symbol "=", _⟩ :: _ =>
    if set = .all then some (.greaterEqual, 7, 2) else none
  | ⟨.symbol ">", _⟩ :: _ => if set = .all then some (.greater, 7, 1) else none
  | ⟨.symbol s, _⟩ :: _ => (ofSymbol? s).map fun (op, level) => (op, level, 1)
  | _ => none

/-- The operator of a compound assignment at the front, and how many tokens it is made of. -/
def readAssigning? : List Lexeme → Option (BinaryOp × Nat)
  | ⟨.symbol "<", true⟩ :: ⟨.symbol "<", true⟩ :: ⟨.symbol "=", _⟩ :: _ => some (.shiftLeft, 3)
  | ⟨.symbol ">", true⟩ :: ⟨.symbol ">", true⟩ :: ⟨.symbol "=", _⟩ :: _ => some (.shiftRight, 3)
  | ⟨.symbol s, _⟩ :: _ =>
    (([("+=", .add), ("-=", .subtract), ("*=", .multiply), ("/=", .divide), ("%=", .modulo),
      ("&=", .and), ("|=", .inclusiveOr), ("^=", .exclusiveOr)] :
      List (String × BinaryOp)).lookup s).map (·, 1)
  | _ => none

end BinaryOp

namespace Parser

/-- Nesting uses up fuel, and so does every element of a list; both take a token, in a few steps. -/
def fuelFor (tokens : List Lexeme) : Nat := 8 * tokens.length + 16

/-- What is left when fuel is out; `fuelFor` keeps it from happening. -/
def outOfFuel {α : Type} : Parser α := throw (.expected "less nesting")

/-- What may be done with storage. -/
def storageAccess : Parser StorageAccess := wordIn "access" Words.accesses

/-- An address space, with the access that follows it if it is storage; without one storage is read
only. -/
def withAccess (space : AddressSpace) : Parser AddressSpace := do
  if space ≠ .storage .readOnly then return space
  if ← skip "," then AddressSpace.storage <$> storageAccess else return space

/-- The image class that an image type names in its angle brackets. -/
def imageClass : Words.ImageKind → Parser ImageClass
  | .depth multisampled => return .depth multisampled
  | .sampled multisampled => do
    expect "<"
    let s ← wordIn "scalar type" Words.scalars
    expect ">"
    if s ∈ [.f32, .i32, .u32, .u64] then return .sampled s.kind multisampled else throw .sampleType
  | .storage => do
    expect "<"
    let format ← wordIn "storage format" Words.formats
    expect ","
    let access ← storageAccess
    expect ">"
    return .storage format access

/-- Words that start a type of which no value can be constructed. -/
def isOpaqueType (w : String) : Bool :=
  w = "atomic" || w = "binding_array" || (Words.samplers.lookup w).isSome
    || (Words.images.lookup w).isSome

mutual

/-- A type. -/
def type : Nat → Parser TypeSyntax
  | 0 => outOfFuel
  | fuel + 1 => do
    let w ← identifierOrType
    if let some s := Words.scalars.lookup w then return .scalar s
    if let some (size, s) := Words.vectorTypes.lookup w then return .vector size (.scalar s)
    if let some size := Words.vectors.lookup w then return .vector size (← templateType fuel)
    if let some (columns, rows) := Words.matrixTypes.lookup w then
      return .matrix columns rows (.scalar .f32)
    if let some (columns, rows) := Words.matrices.lookup w then
      return .matrix columns rows (← templateType fuel)
    if let some comparison := Words.samplers.lookup w then return .sampler comparison
    if let some image := Words.images.lookup w then
      return .image image.dim image.arrayed (← imageClass image.kind)
    match w with
    | "atomic" =>
      expect "<"
      let s ← wordIn "scalar type" Words.scalars
      expect ">"
      return .atomic s
    | "array" => do
      let (element, length) ← arrayType fuel
      return .array element length
    | "binding_array" => do
      expect "<"
      let element ← type fuel
      let length ← if ← skip "," then some <$> unary fuel else pure none
      expect ">"
      return .bindingArray element length
    | "acceleration_structure" => return .accelerationStructure
    | "ray_query" => return .rayQuery
    | "RayDesc" => return .rayDescription
    | "RayIntersection" => return .rayIntersection
    | "ptr" =>
      expect "<"
      let space ← wordIn "address space" Words.spaces
      expect ","
      let base ← type fuel
      let space ← withAccess space
      expect ">"
      return .pointer base space
    | w => return .named w

/-- A single type in angle brackets. -/
def templateType : Nat → Parser TypeSyntax
  | 0 => outOfFuel
  | fuel + 1 => do
    expect "<"
    let t ← type fuel
    expect ">"
    return t

/-- The element type and the length of an array, in angle brackets. -/
def arrayType : Nat → Parser (TypeSyntax × Option Expr)
  | 0 => outOfFuel
  | fuel + 1 => do
    expect "<"
    let element ← type fuel
    let length ← if ← skip "," then some <$> expr fuel .template 1 else pure none
    expect ">"
    return (element, length)

/-- An expression whose operators bind at least as tightly as `level`. -/
def expr : Nat → OperatorSet → Nat → Parser Expr
  | 0, _, _ => outOfFuel
  | fuel + 1, set, level => do exprFrom fuel set level (← unary fuel)

/-- The rest of an expression that starts with `left`. -/
def exprFrom : Nat → OperatorSet → Nat → Expr → Parser Expr
  | 0, _, _, _ => outOfFuel
  | fuel + 1, set, level, left => do
    match BinaryOp.read? set (← get) with
    | some (op, own, count) =>
      if own < level then return left
      modify (·.drop count)
      let right ← expr fuel set (own + 1)
      exprFrom fuel set level (.binary op left right)
    | none => return left

/-- An expression that binds tighter than operators on two values. -/
def unary : Nat → Parser Expr
  | 0 => outOfFuel
  | fuel + 1 => do
    if ← skip "-" then return .unary .negate (← unary fuel)
    if ← skip "!" then return .unary .logicalNot (← unary fuel)
    if ← skip "~" then return .unary .bitwiseNot (← unary fuel)
    if ← skip "*" then return .dereference (← unary fuel)
    if ← skip "&" then return .addressOf (← unary fuel)
    selected fuel (← primary fuel)

/-- Members and elements of a value. -/
def selected : Nat → Expr → Parser Expr
  | 0, _ => outOfFuel
  | fuel + 1, base => do
    if ← skip "." then return ← selected fuel (.member base (← identifier))
    if ← skip "[" then
      let index ← expr fuel .all 1
      expect "]"
      return ← selected fuel (.index base index)
    return base

/-- An expression without operators, or one in parentheses. -/
def primary : Nat → Parser Expr
  | 0 => outOfFuel
  | fuel + 1 => do
    match ← next with
    | some (.symbol "(") =>
      let e ← expr fuel .all 1
      expect ")"
      return e
    | some (.number value) => return .literal value
    | some (.badNumber fault) => throw (.number fault)
    | some (.word "true") => return .literal (.bool true)
    | some (.word "false") => return .literal (.bool false)
    | some (.word "RAY_FLAG_NONE") => return .literal (.u32 0)
    | some (.word "RAY_FLAG_TERMINATE_ON_FIRST_HIT") => return .literal (.u32 4)
    | some (.word "RAY_QUERY_INTERSECTION_NONE") => return .literal (.u32 0)
    | some (.word w) =>
      match ← constructor_ fuel w with
      | some c => return .construct c (← arguments fuel)
      | none =>
        if ← at_ "(" then return .call w (← arguments fuel)
        if w = "bitcast" then
          expect "<"
          let t ← type fuel
          expect ">"
          expect "("
          let e ← expr fuel .all 1
          let _ ← skip ","
          expect ")"
          return .bitcast t e
        return .name w
    | _ => throw (.expected "an expression")

/-- What the word `w`, which has been read, constructs. -/
def constructor_ : Nat → String → Parser (Option Constructor)
  | 0, _ => outOfFuel
  | fuel + 1, w => do
    if let some s := Words.scalars.lookup w then return some (.type (.scalar s))
    if let some (size, s) := Words.vectorTypes.lookup w then
      return some (.type (.vector size (.scalar s)))
    if let some size := Words.vectors.lookup w then
      if ← at_ "<" then return some (.type (.vector size (← templateType fuel)))
      return some (.vector size)
    if let some (columns, rows) := Words.matrixTypes.lookup w then
      return some (.type (.matrix columns rows (.scalar .f32)))
    if let some (columns, rows) := Words.matrices.lookup w then
      if ← at_ "<" then return some (.type (.matrix columns rows (← templateType fuel)))
      return some (.matrix columns rows)
    if w = "array" then
      if ← at_ "<" then
        let (element, length) ← arrayType fuel
        return some (.type (.array element length))
      return some .array
    if isOpaqueType w then throw .notConstructible
    return none

/-- Arguments in parentheses; a comma may follow the last. -/
def arguments : Nat → Parser (List Expr)
  | 0 => outOfFuel
  | fuel + 1 => do
    expect "("
    argumentsFrom fuel

/-- The arguments up to a closing parenthesis. -/
def argumentsFrom : Nat → Parser (List Expr)
  | 0 => outOfFuel
  | fuel + 1 => do
    if ← skip ")" then return []
    let e ← expr fuel .all 1
    if ← skip "," then return e :: (← argumentsFrom fuel)
    expect ")"
    return [e]

end

/-- An expression with any operators. -/
def expression (fuel : Nat) : Parser Expr := expr fuel .all 1

/-- An expression in parentheses that is the argument of an attribute. -/
def attributeArgument (fuel : Nat) : Parser Expr := do
  expect "("
  let e ← expression fuel
  expect ")"
  return e

/-- A type after a colon, if there is one. -/
def typeAnnotation (fuel : Nat) : Parser (Option TypeSyntax) := do
  if ← skip ":" then some <$> type fuel else return none

/-- An initial value after an equals sign, if there is one. -/
def initializer (fuel : Nat) : Parser (Option Expr) := do
  if ← skip "=" then some <$> expression fuel else return none

/-- A filter of diagnostics: how severe what a rule finds is. -/
structure DiagnosticFilter where
  severity : String
  /-- The name of the rule, with a part after a point if it has one. -/
  rule : String × Option String
  deriving DecidableEq

/-- How serious a diagnostic filter can take something. -/
def severities : List String := ["error", "warning", "info", "off"]

/-- The rest of a filter of diagnostics. -/
def diagnosticFilter : Parser DiagnosticFilter := do
  expect "("
  let severity ← identifierOrType
  if !severities.contains severity then
    throw (.unknownWord "severity" severity)
  expect ","
  let rule ← identifierOrType
  let part ← if ← skip "." then some <$> identifierOrType else pure none
  let _ ← skip ","
  expect ")"
  return ⟨severity, rule, part⟩

end Parser

end ShaderKit.Wgsl
