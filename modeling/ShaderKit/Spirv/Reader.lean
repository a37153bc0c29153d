import ShaderKit.Spirv.Grammar.Table
import ShaderKit.Spirv.Instruction
import ShaderKit.Spirv.Opcode
import ShaderKit.Spirv.ReadFailure

/-!
# Reading instructions from words

`Cursor` is a place in the word stream together with the number of words that the current instruction
may still take.  `readInstruction` reads one instruction by its form; `foldInstructions` hands instructions
to a consumer until the words end or one cannot be read.
-/

namespace ShaderKit.Spirv

/-- The first word of every module. -/
def magicNumber : Word := 0x07230203

/-- The magic number with its bytes in the other order. -/
def swappedMagicNumber : Word := 0x03022307

/-- Words of the module header. -/
def headerWords : Nat := 5

/-- A place in the word stream. -/
structure Cursor where
  rest : List Word
  /-- Words before `rest`. -/
  position : Nat
  /-- Words that the instruction being read may still take. -/
  limit : Nat

/-- The byte that the cursor is at. -/
def Cursor.offset (c : Cursor) : Nat := 4 * c.position

/-- A width that literals can have: the widths declared for integer and for float types. -/
inductive NumericType
  | int (width : Word)
  | float (width : Word)
  deriving DecidableEq

/-- The numeric types seen so far, latest first.  An id stands for the type it declares, or for the
type of the value that it names. -/
abbrev NumericTypes := List (Id × NumericType)

namespace NumericTypes

/-- The numeric type behind an id. -/
def find? (types : NumericTypes) (id : Id) : Option NumericType := types.lookup id

/-- Takes note of an instruction's result. -/
def track (types : NumericTypes) (inst : Instruction) : NumericTypes :=
  match inst.result with
  | none => types
  | some id =>
    if inst.opcode = Op.typeInt then
      match inst.operands with
      | [.word width, .word _] => (id, .int width) :: types
      | _ => types
    else if inst.opcode = Op.typeFloat then
      match inst.operands with
      | .word width :: _ => (id, .float width) :: types
      | _ => types
    else match inst.resultType.bind types.find? with
      | some type => (id, type) :: types
      | none => types

end NumericTypes

/-- A step of reading: it may move the cursor, or fail. -/
abbrev Reader := StateT Cursor (Except ReadFailure)

namespace Reader

/-- No word of the instruction is left. -/
def atLimit : Reader Bool := return (← get).limit == 0

/-- The byte that the reader is at. -/
def offset : Reader Nat := return (← get).offset

/-- One word of the instruction. -/
def word : Reader Word := fun c =>
  if c.limit = 0 then .error (.operand (.limitReached c.offset))
  else match c.rest with
    | [] => .error (.operand (.streamEnd c.offset))
    | w :: rest => .ok (w, ⟨rest, c.position + 1, c.limit - 1⟩)

/-- Two words, the low one first. -/
def doubleWord : Reader UInt64 := do
  let low ← word
  let high ← word
  return low.toUInt64 ||| high.toUInt64 <<< (32 : UInt64)

/-- A value that the enumeration knows.  A missing one counts as the end of the stream. -/
def value (e : Enumeration) : Reader Word := fun c =>
  match c.limit, c.rest with
  | 0, _ | _, [] => .error (.operand (.streamEnd c.offset))
  | limit + 1, w :: rest =>
    if e.knows w then .ok (w, ⟨rest, c.position + 1, limit⟩)
    else .error (.operand (.unknownValue e w c.offset))

/-- The four bytes of a word, lowest first. -/
def bytesOf (w : Word) : List UInt8 :=
  [w.toUInt8, (w >>> 8).toUInt8, (w >>> 16).toUInt8, (w >>> 24).toUInt8]

/-- Bytes up to a zero byte, which must come within the limit.  The rest of the word with the zero byte
is skipped. -/
def text : Reader String := fun c =>
  let window := c.rest.take c.limit
  let bytes := window.flatMap bytesOf
  let body := bytes.takeWhile (· != 0)
  if body.length = bytes.length then
    .error (.operand (.limitReached (c.offset + bytes.length)))
  else match Text.decodeUtf8 body with
    | .error e => .error (.operand (.badText c.offset e))
    | .ok text =>
      let words := body.length / 4 + 1
      .ok (text, ⟨c.rest.drop words, c.position + words, c.limit - words⟩)

/-- An operand without the parameters that its value may have. -/
def operand : OperandKind → Reader Operand
  | .id => Operand.id <$> word
  | .scope => Operand.scope <$> word
  | .semantics => Operand.semantics <$> word
  | .literal => Operand.word <$> word
  | .string => Operand.text <$> text
  | .value e => Operand.value e <$> value e
  | .resultType | .result | .typedLiteral | .nested | .pair .. => throw .nestedForm

/-- An operand with its parameters. -/
def operands : OperandKind → Reader (List Operand)
  | .value e => do
    let v ← value e
    return .value e v :: (← (e.parameters v).mapM operand)
  | .pair first second => return [← operand first, ← operand second]
  | kind => return [← operand kind]

/-- A literal of the width that its type has; one word where the type is unknown. -/
def typedLiteral (types : NumericTypes) (index : Nat) (type : Id) : Reader Operand := do
  let narrow : Reader Operand := Operand.word <$> word
  let long : Reader Operand := Operand.wide <$> doubleWord
  match types.find? type with
  | none => narrow
  | some (.int width) =>
    if width = 8 ∨ width = 16 ∨ width = 32 then narrow
    else if width = 64 then long
    else throw (.unsupportedType (← offset) index)
  | some (.float width) =>
    if width = 16 ∨ width = 32 then narrow
    else if width = 64 then long
    else throw (.unsupportedType (← offset) index)

/-- A nested opcode with one of each of its operands, result ids left out. -/
def nested (index : Nat) : Reader (List Operand) := do
  let opcode := (← word).toNat % 65536
  match Grammar.form? opcode with
  | none => throw (.nestedOpcode (← offset) index)
  | some form =>
    let kinds := (form.slots.map (·.kind)).filter fun k => k != .resultType && k != .result
    return .opcode opcode :: (← kinds.mapM operands).flatten

/-- Reads what stands at one slot into the instruction.  The literals of a switch are as wide as its
selector. -/
def slot (types : NumericTypes) (index : Nat) (inst : Instruction) :
    OperandKind → Reader Instruction
  | .resultType => return { inst with resultType := some (← word) }
  | .result => return { inst with result := some (← word) }
  | .typedLiteral => do
    let literal ← typedLiteral types index (inst.resultType.getD 0)
    return { inst with operands := inst.operands ++ [literal] }
  | .nested => return { inst with operands := inst.operands ++ (← nested index) }
  | .pair .literal second => do
    let selector := inst.operands.head?.bind (·.ref?)
    let literal ← typedLiteral types index (selector.getD 0)
    return { inst with operands := inst.operands ++ [literal, ← operand second] }
  | kind => return { inst with operands := inst.operands ++ (← operands kind) }

/-- Reads a repeated slot until the limit; each turn takes a word, so `fuel` can be the limit. -/
def repeatSlot (types : NumericTypes) (index : Nat) (kind : OperandKind) :
    Nat → Instruction → Reader Instruction
  | 0, inst => return inst
  | fuel + 1, inst => do
    if ← atLimit then return inst
    repeatSlot types index kind fuel (← slot types index inst kind)

/-- Reads the slots of a form in order.  Where the limit is used up, a required slot is an error and
any other ends the instruction. -/
def slots (types : NumericTypes) (index : Nat) :
    List OperandSlot → Instruction → Reader Instruction
  | [], inst => return inst
  | s :: rest, inst => do
    if ← atLimit then
      match s.quantifier with
      | .once => throw (.operandExpected (← offset) index)
      | .optional | .repeated => return inst
    match s.quantifier with
    | .once | .optional => slots types index rest (← slot types index inst s.kind)
    | .repeated =>
      slots types index rest (← repeatSlot types index s.kind (← get).limit inst)

end Reader

/-- Reads the instruction that starts with the word `first` at `position`; `rest` follows. -/
def readInstruction (types : NumericTypes) (index position : Nat) (first : Word)
    (rest : List Word) : Except ReadFailure (Instruction × Cursor) :=
  let count := (first >>> 16).toNat
  let opcode := (first &&& 0xffff).toNat
  if count = 0 then .error (.zeroWordCount (4 * position) index)
  else match Grammar.form? opcode with
    | none => .error (.unknownOpcode (4 * position) index opcode)
    | some form => do
      let (inst, c) ← (Reader.slots types index form.slots { opcode }).run
        ⟨rest, position + 1, count - 1⟩
      if c.limit = 0 then return (inst, c) else throw (.operandExceeded c.offset index)

/-- Reads instructions one after the other, handing each to `step`, until the words end or something
fails.  Every instruction takes a word, so as many turns as words are enough. -/
def foldInstructions {σ : Type} (step : σ → Instruction → Except ReadFailure σ) :
    Nat → NumericTypes → (index position : Nat) → List Word → σ → Except ReadFailure σ
  | _, _, _, _, [], state => .ok state
  | 0, _, _, _, _ :: _, state => .ok state
  | fuel + 1, types, index, position, first :: rest, state =>
    match readInstruction types index position first rest with
    | .error e => .error e
    | .ok (inst, c) =>
      match step state inst with
      | .error e => .error e
      | .ok state =>
        foldInstructions step fuel (types.track inst) (index + 1) c.position c.rest state

end ShaderKit.Spirv
