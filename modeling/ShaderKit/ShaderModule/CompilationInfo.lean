import ShaderKit.Validation.Report

/-!
# Compilation info

What was found out about a module when it was created.
-/

namespace ShaderKit

/-- How serious a message is. -/
inductive CompilationMessageKind
  | error | warning | info
  deriving DecidableEq

namespace CompilationMessageKind

/-- The name of a kind. -/
def name : CompilationMessageKind → String
  | error => "Error"
  | warning => "Warning"
  | info => "Info"

/-- The kind of that name. -/
def ofName? (text : String) : Option CompilationMessageKind :=
  [error, warning, info].find? (·.name == text)

/-- The kind of message that a diagnostic becomes. -/
def ofLevel : Validation.Level → CompilationMessageKind
  | .error => .error
  | .warning => .warning
  | .info => .info

end CompilationMessageKind

/-- A message about the source of a module. -/
structure CompilationMessage where
  kind : CompilationMessageKind
  /-- 0 when the message has no position. -/
  line : Nat
  text : String
  deriving DecidableEq

/-- All messages about the source of a module. -/
structure CompilationInfo where
  messages : List CompilationMessage := []
  deriving DecidableEq

/-- The message that a diagnostic becomes. -/
def CompilationMessage.ofDiagnostic (d : Validation.Diagnostic) : CompilationMessage :=
  ⟨.ofLevel d.level, d.position.getD 0, d.message⟩

namespace CompilationInfo

/-- One message for each diagnostic. -/
def ofReport (r : Validation.Report) : CompilationInfo := ⟨r.diagnostics.map .ofDiagnostic⟩

/-- The one message of a module that could not be created. -/
def ofReason (reason : String) : CompilationInfo := ⟨[⟨.error, 0, reason⟩]⟩

end CompilationInfo

end ShaderKit
