import ShaderKit.Wgsl.Parser.Expression

/-!
# Reading statements

Loops of every kind become the one loop of the syntax.  A loop with a condition starts its body by
leaving unless the condition holds; a counting loop is a block with its first statement before the loop.
-/

namespace ShaderKit.Wgsl

namespace Statement

/-- What a loop with a condition starts its body with. -/
def leaveUnless (condition : Expr) : Statement := .branch condition [] [.breakLoop]

/-- Whether a counting loop can start with this statement. -/
def isLoopStart : Statement → Bool
  | call .. | assign .. | letValue .. | constValue .. | var .. => true
  | _ => false

end Statement

namespace Parser

/-- Whether a compound statement comes next. -/
def atCompound : Parser Bool := return (← at_ "\x7b") || (← at_ "@")

/-- How deep braces can be nested. -/
def braceLimit : Nat := 127

/-- An opening brace inside of `level` others, and the level inside of it. -/
def openBrace (level : Nat) : Parser Nat := do
  expect "\x7b"
  if braceLimit ≤ level then throw .braces
  return level + 1

/-- The name, type and value of a declaration of a value. -/
def declaredValue (fuel : Nat) : Parser (String × Option TypeSyntax × Expr) := do
  let name ← identifier
  let t ← typeAnnotation fuel
  expect "="
  let e ← expression fuel
  return (name, t, e)

/-- A name, type and initial value, of which the last two may be missing. -/
def declaredVariable (fuel : Nat) : Parser (String × Option TypeSyntax × Option Expr) := do
  let name ← identifier
  let t ← typeAnnotation fuel
  let init ← initializer fuel
  return (name, t, init)

/-- The condition of an assertion; parentheses around it are optional. -/
def assertion (fuel : Nat) : Parser Expr := do
  let enclosed ← skip "("
  let e ← expression fuel
  if enclosed then expect ")"
  return e

/-- An assignment, without the semicolon. -/
def assignment (fuel : Nat) : Parser Statement := do
  let target ← expression fuel
  if ← skip "=" then return .assign target none (← expression fuel)
  if ← skip "++" then return .step target true
  if ← skip "--" then return .step target false
  match BinaryOp.readAssigning? (← get) with
  | some (op, count) =>
    modify (·.drop count)
    return .assign target (some op) (← expression fuel)
  | none => throw (.expected "an assignment")

/-- A call or an assignment, without the semicolon. -/
def callOrAssignment (fuel : Nat) : Parser Statement := do
  match ← get with
  | ⟨.word f, _⟩ :: ⟨.symbol "(", glued⟩ :: rest =>
    set (⟨.symbol "(", glued⟩ :: rest)
    return .call f (← arguments fuel)
  | _ => assignment fuel

/-- A value of a case; none stands for the default. -/
def caseValue (fuel : Nat) : Parser (Option Expr) := do
  if ← skipWord "default" then return none else some <$> expression fuel

/-- The values of one case. -/
def caseValues : Nat → Parser (List (Option Expr))
  | 0 => outOfFuel
  | fuel + 1 => do
    let value ← caseValue fuel
    if ← skip "," then
      if (← at_ ":") || (← atCompound) then return [value]
      return value :: (← caseValues fuel)
    return [value]

/-- A simple statement that starts with `w`, which has been read; none if `w` starts no such
statement. -/
def simpleStatement (fuel : Nat) (w : String) : Parser (Option Statement) := do
  let s ← match w with
    | "_" => do
      expect "="
      .phony <$> expression fuel
    | "let" => do
      let (name, t, e) ← declaredValue fuel
      pure (.letValue name t e)
    | "const" => do
      let (name, t, e) ← declaredValue fuel
      pure (.constValue name t e)
    | "var" => do
      let (name, t, init) ← declaredVariable fuel
      pure (.var name t init)
    | "return" => do
      if ← at_ ";" then pure (.ret none) else .ret <$> some <$> expression fuel
    | "break" => do
      if ← skipWord "if" then throw .breakIf
      pure .breakLoop
    | "continue" => pure .continueLoop
    | "discard" => pure .discard
    | "const_assert" => .constAssert <$> assertion fuel
    | _ => return none
  expect ";"
  return some s

mutual

/-- The statements at the front, each as a list: an empty statement is none.  The braces of a nested block
count twice. -/
def statement : Nat → Nat → Parser (List Statement)
  | 0, _ => outOfFuel
  | fuel + 1, level => do
    if ← skip ";" then return []
    if ← atCompound then return [.block (← block fuel (level + 1))]
    match ← peek with
    | some (.word "if") => do
      let _ ← next
      return [← branch fuel level]
    | some (.word "switch") => do
      let _ ← next
      let selector ← expression fuel
      let inner ← openBrace level
      return [.switch selector (← cases fuel inner)]
    | some (.word "loop") => do
      let _ ← next
      let inner ← openBrace level
      let (body, continuing, breakIf) ← loopBody fuel inner
      return [.loop body continuing breakIf]
    | some (.word "while") => do
      let _ ← next
      let condition ← expression fuel
      let body ← block fuel level
      return [.loop [Statement.leaveUnless condition, .block body] [] none]
    | some (.word "for") => do
      let _ ← next
      expect "("
      let start ← if ← skip ";" then pure [] else statement fuel level
      if start.any (!·.isLoopStart) then throw .forInitializer
      let condition ← if ← at_ ";" then pure none else some <$> expression fuel
      expect ";"
      let update ← if ← at_ ")" then pure [] else (fun s => [s]) <$> callOrAssignment fuel
      expect ")"
      let body ← block fuel level
      return [.block (start ++
        [.loop ((condition.map Statement.leaveUnless).toList ++ [.block body]) update none])]
    | some (.word w) => do
      let before ← get
      let _ ← next
      match ← simpleStatement fuel w with
      | some s => return [s]
      | none =>
        set before
        let s ← callOrAssignment fuel
        expect ";"
        return [s]
    | _ => do
      let s ← assignment fuel
      expect ";"
      return [s]

/-- Statements up to a closing brace. -/
def statements : Nat → Nat → Parser (List Statement)
  | 0, _ => outOfFuel
  | fuel + 1, level => do
    if ← skip "\x7d" then return []
    let first ← statement fuel level
    return first ++ (← statements fuel level)

/-- Statements in braces. -/
def block : Nat → Nat → Parser (List Statement)
  | 0, _ => outOfFuel
  | fuel + 1, level => do
    let inner ← openBrace level
    statements fuel inner

/-- The condition and the branches of an `if`. -/
def branch : Nat → Nat → Parser Statement
  | 0, _ => outOfFuel
  | fuel + 1, level => do
    let condition ← expression fuel
    let accept ← block fuel level
    if !(← skipWord "else") then return .branch condition accept []
    if ← skipWord "if" then return .branch condition accept [← branch fuel level]
    return .branch condition accept (← block fuel level)

/-- The cases of a switch, up to its closing brace.  A case with several values is a case for each,
of which all but the last are empty and fall through. -/
def cases : Nat → Nat → Parser (List (Option Expr × List Statement × Bool))
  | 0, _ => outOfFuel
  | fuel + 1, level => do
    if ← skip "\x7d" then return []
    let values ← if ← skipWord "default" then pure [none]
      else if ← skipWord "case" then caseValues fuel
      else throw (.expected "a case")
    let _ ← skip ":"
    let body ← block fuel level
    let empty := values.dropLast.map fun v => (v, [], true)
    let last := (values.getLast?.getD none, body, false)
    return empty ++ last :: (← cases fuel level)

/-- The body of a loop, its continuing block, and the condition that leaves it there. -/
def loopBody : Nat → Nat → Parser (List Statement × List Statement × Option Expr)
  | 0, _ => outOfFuel
  | fuel + 1, level => do
    if ← skipWord "continuing" then
      let inner ← openBrace level
      let (continuing, breakIf) ← continuingBody fuel inner
      expect "\x7d"
      return ([], continuing, breakIf)
    if ← skip "\x7d" then return ([], [], none)
    let first ← statement fuel level
    let (body, continuing, breakIf) ← loopBody fuel level
    return (first ++ body, continuing, breakIf)

/-- The end of a loop body, with the condition that ends the loop. -/
def continuingBody : Nat → Nat → Parser (List Statement × Option Expr)
  | 0, _ => outOfFuel
  | fuel + 1, level => do
    if ← skipWord "break" then
      if !(← skipWord "if") then throw .breakIf
      let condition ← expression fuel
      expect ";"
      expect "\x7d"
      return ([], some condition)
    if ← skip "\x7d" then return ([], none)
    let first ← statement fuel level
    let (rest, breakIf) ← continuingBody fuel level
    return (first ++ rest, breakIf)

end

end Parser

end ShaderKit.Wgsl
