import ShaderKit.Text.Identifier
import ShaderKit.Wgsl.Number

/-!
# Tokens

Source text as a list of words, numbers and symbols.  Angle brackets are always tokens of their own,
because only the parser can tell whether they are operators; `glued` says what they are written
together with.
-/

namespace ShaderKit.Wgsl

/-- What a source is made of. -/
inductive Token
  | word (text : String)
  | number (value : Ir.Literal)
  | badNumber (fault : NumberFault)
  | symbol (text : String)
  /-- A character that starts no token. -/
  | stray (char : Char)
  deriving DecidableEq

/-- A token, and whether the next one follows without a gap. -/
structure Lexeme where
  token : Token
  glued : Bool
  deriving DecidableEq

namespace Token

/-- Characters between tokens. -/
def isGap (c : Char) : Bool :=
  c == ' ' || ('\t' ≤ c && c ≤ '\r') || c == '\u0085' || c == '\u200e' || c == '\u200f'
    || c == '\u2028' || c == '\u2029'

/-- Characters that end a line comment. -/
def isLineEnd (c : Char) : Bool :=
  ('\n' ≤ c && c ≤ '\r') || c == '\u0085' || c == '\u2028' || c == '\u2029'

/-- Skips a block comment, whose opening has been read; block comments nest. -/
def skipBlock : Nat → List Char → List Char
  | _, [] => []
  | depth, '/' :: '*' :: rest => skipBlock (depth + 1) rest
  | depth, '*' :: '/' :: rest => if depth = 0 then rest else skipBlock (depth - 1) rest
  | depth, _ :: rest => skipBlock depth rest

/-- Symbols of more than one character. -/
def longSymbols : List String :=
  ["->", "++", "--", "&&", "||", "==", "!=", "+=", "-=", "*=", "/=", "%=", "&=", "|=", "^="]

/-- Symbols of one character. -/
def shortSymbols : List Char := "()[]{}<>;:,.@+-*/%&|^!~=".toList

/-- A word can start with the character. -/
def startsWord (c : Char) : Bool := c == '_' || Text.startsIdentifier c

/-- Reads the token that starts with `c`. -/
def read (c : Char) (rest : List Char) : Token × List Char :=
  if c.isDigit || (c == '.' && (rest.head?).any Char.isDigit) then
    match Number.read (c :: rest) with
    | (.ok value, rest) => (.number value, rest)
    | (.error fault, rest) => (.badNumber fault, rest)
  else if startsWord c then
    (.word (String.ofList (c :: rest.takeWhile Text.continuesIdentifier)),
      rest.dropWhile Text.continuesIdentifier)
  else match longSymbols.find? fun s => s.toList.isPrefixOf (c :: rest) with
    | some s => (.symbol s, rest.drop (s.toList.length - 1))
    | none => if shortSymbols.contains c then (.symbol (String.singleton c), rest) else (.stray c, rest)

/-- Whether a gap or the end comes first. -/
def atGap : List Char → Bool
  | [] => true
  | '/' :: '/' :: _ | '/' :: '*' :: _ => true
  | c :: _ => isGap c

/-- The tokens of a text.  Every step takes a character, so `fuel` need not exceed their number. -/
def scanFrom : Nat → List Char → List Lexeme
  | 0, _ => []
  | _, [] => []
  | fuel + 1, '/' :: '/' :: rest => scanFrom fuel (rest.dropWhile (!isLineEnd ·))
  | fuel + 1, '/' :: '*' :: rest => scanFrom fuel (skipBlock 0 rest)
  | fuel + 1, c :: rest =>
    if isGap c then scanFrom fuel rest
    else
      let (token, rest) := read c rest
      ⟨token, !atGap rest⟩ :: scanFrom fuel rest

/-- The tokens of a source. -/
def scan (source : String) : List Lexeme := scanFrom source.toList.length source.toList

end Token

end ShaderKit.Wgsl
