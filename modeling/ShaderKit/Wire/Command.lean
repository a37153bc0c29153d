/-!
# Commands on the wire

A command is 16 bytes, all fields little-endian: command id (4 bytes), module id (4), request
serial (8).
-/

namespace ShaderKit.Wire

/-- What a client asks of the server. -/
inductive Command
  | getCompilationInfo (moduleId : UInt32) (serial : UInt64)
  deriving DecidableEq

/-- Why the server cannot handle a buffer of commands. -/
inductive WireError
  | truncated (expected got : Nat)
  | unknownCommand (id : UInt32)
  | unknownObject (id : UInt32)
  deriving DecidableEq

/-- The text of a failure. -/
def WireError.message : WireError → String
  | truncated expected got => s!"command truncated: need {expected} bytes, have {got}"
  | unknownCommand id => s!"unknown command id {id}"
  | unknownObject id => s!"shader module {id} does not exist on the server"

/-- The four bytes of a word, lowest first. -/
def bytes32 (w : UInt32) : List UInt8 :=
  [w.toUInt8, (w >>> 8).toUInt8, (w >>> 16).toUInt8, (w >>> 24).toUInt8]

/-- The eight bytes of a double word, lowest first. -/
def bytes64 (w : UInt64) : List UInt8 :=
  bytes32 w.toUInt32 ++ bytes32 (w >>> 32).toUInt32

/-- The word that the first four bytes make, and the bytes after it. -/
def read32? : List UInt8 → Option (UInt32 × List UInt8)
  | a :: b :: c :: d :: rest =>
    some (a.toUInt32 ||| b.toUInt32 <<< 8 ||| c.toUInt32 <<< 16 ||| d.toUInt32 <<< 24, rest)
  | _ => none

namespace Command

/-- The module that a command is about. -/
def moduleId : Command → UInt32
  | getCompilationInfo moduleId _ => moduleId

/-- Bytes of an encoded command. -/
def encodedSize : Nat := 16

/-- The command id of `getCompilationInfo`. -/
def getCompilationInfoId : UInt32 := 1

/-- The bytes of a command. -/
def encode : Command → List UInt8
  | getCompilationInfo moduleId serial =>
    bytes32 getCompilationInfoId ++ bytes32 moduleId ++ bytes64 serial

/-- Reads the command at the front of `bytes`, with the bytes after it. -/
def decode (bytes : List UInt8) : Except WireError (Command × List UInt8) :=
  match read32? bytes with
  | none => .error (.truncated 4 bytes.length)
  | some (id, fields) =>
    if id = getCompilationInfoId then
      let fields? := do
        let (moduleId, rest) ← read32? fields
        let (low, rest) ← read32? rest
        let (high, rest) ← read32? rest
        return (getCompilationInfo moduleId (low.toUInt64 ||| high.toUInt64 <<< 32), rest)
      match fields? with
      | some found => .ok found
      | none => .error (.truncated encodedSize bytes.length)
    else .error (.unknownCommand id)

end Command

/-- Encoded commands that wait to be taken, in order. -/
structure CommandBuffer where
  bytes : List UInt8
  deriving DecidableEq

namespace CommandBuffer

/-- A buffer without commands. -/
def empty : CommandBuffer := ⟨[]⟩

/-- Adds a command at the end. -/
def push (buffer : CommandBuffer) (command : Command) : CommandBuffer :=
  ⟨buffer.bytes ++ command.encode⟩

/-- Decodes commands until no byte is left; each takes at least one byte, so as many steps as bytes
are enough. -/
def decodeAll : Nat → List UInt8 → Except WireError (List Command)
  | _, [] => .ok []
  | 0, _ :: _ => .ok []
  | steps + 1, bytes => do
    let (command, rest) ← Command.decode bytes
    return command :: (← decodeAll steps rest)

/-- Empties the buffer and decodes what it held. -/
def take (buffer : CommandBuffer) : Except WireError (List Command) × CommandBuffer :=
  (decodeAll buffer.bytes.length buffer.bytes, empty)

end CommandBuffer

end ShaderKit.Wire
