import ShaderKit.ShaderModule.Basic
import ShaderKit.Wire.Client

/-!
# The server

How the server answers commands about the modules it has.
-/

namespace ShaderKit.Wire

/-- The answer about a module: what was found out when it was created, if its creation succeeded. -/
def Reply.ofModule (m : ShaderModule) (serial : UInt64) : Reply :=
  if m.isValid then ⟨serial, .success, some m.info⟩ else ⟨serial, .error, none⟩

/-- Answers a command; `modules` knows the modules of the server. -/
def handle (modules : UInt32 → Option ShaderModule) : Command → Except WireError Reply
  | .getCompilationInfo id serial => match modules id with
    | some m => .ok (.ofModule m serial)
    | none => .error (.unknownObject id)

end ShaderKit.Wire
