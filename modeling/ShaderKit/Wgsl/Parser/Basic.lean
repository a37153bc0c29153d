import ShaderKit.Wgsl.Fault
import ShaderKit.Wgsl.Syntax
import ShaderKit.Wgsl.Token
import ShaderKit.Wgsl.Words

/-!
# Reading tokens

A parser takes tokens from the front of a list.
-/

namespace ShaderKit.Wgsl

/-- An action that reads tokens. -/
abbrev Parser := StateT (List Lexeme) (Except Fault)

namespace Parser

/-- The next token, which is not taken. -/
def peek : Parser (Option Token) := return (← get).head?.map (·.token)

/-- Takes the next token. -/
def next : Parser (Option Token) := do
  match ← get with
  | [] => return none
  | l :: rest => set rest; return some l.token

/-- Takes the next token if it is `t`. -/
def skipToken (t : Token) : Parser Bool := do
  if (← peek) = some t then
    modify (·.drop 1)
    return true
  else return false

/-- Takes a symbol, if it is next. -/
def skip (symbol : String) : Parser Bool := skipToken (.symbol symbol)

/-- Takes a word, if it is next. -/
def skipWord (word : String) : Parser Bool := skipToken (.word word)

/-- Takes a symbol, which has to be next. -/
def expect (symbol : String) : Parser Unit := do
  if !(← skip symbol) then throw (.expected symbol)

/-- Any word. -/
def word : Parser String := do
  match ← next with
  | some (.word w) => return w
  | _ => throw (.expected "a word")

/-- A word that can be a name. -/
def identifier : Parser String := do
  let w ← word
  if w = "_" ∨ w.startsWith "__" ∨ Words.reserved.contains w then throw (.reservedWord w)
  return w

/-- A word that can name a type; unlike other names it may be reserved. -/
def identifierOrType : Parser String := do
  let w ← word
  if w = "_" ∨ w.startsWith "__" then throw (.reservedWord w)
  return w

/-- A word with a meaning. -/
def wordIn {α : Type} (role : String) (table : List (String × α)) : Parser α := do
  let w ← word
  match table.lookup w with
  | some a => return a
  | none => throw (.unknownWord role w)

/-- Whether the next token is `symbol`. -/
def at_ (symbol : String) : Parser Bool := return (← peek) = some (.symbol symbol)

end Parser

end ShaderKit.Wgsl
