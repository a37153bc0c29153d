/-!
# Diagnostics

What checking a module has to say: a report is a list of diagnostics in the order in which they were
found.
-/

namespace ShaderKit.Validation

/-- How serious a diagnostic is. -/
inductive Level
  | error | warning | info
  deriving DecidableEq

/-- The name of a level. -/
def Level.name : Level → String
  | error => "error"
  | warning => "warning"
  | info => "info"

/-- One thing that a check found. -/
structure Diagnostic where
  level : Level
  /-- Index of the word that the diagnostic is about, where it is known. -/
  position : Option Nat
  message : String
  deriving DecidableEq

/-- A diagnostic as one line of text. -/
def Diagnostic.render (d : Diagnostic) : String :=
  match d.position with
  | some position => s!"{d.level.name}: line {position}: {d.message}"
  | none => s!"{d.level.name}: {d.message}"

/-- What checks found, in order. -/
structure Report where
  diagnostics : List Diagnostic := []
  deriving DecidableEq

namespace Report

/-- A report of one error. -/
def error (position : Option Nat) (message : String) : Report := ⟨[⟨.error, position, message⟩]⟩

/-- A report of one warning. -/
def warning (position : Option Nat) (message : String) : Report :=
  ⟨[⟨.warning, position, message⟩]⟩

/-- A report of one piece of information. -/
def info (position : Option Nat) (message : String) : Report := ⟨[⟨.info, position, message⟩]⟩

/-- What the first checks found, and then the others. -/
def append (a b : Report) : Report := ⟨a.diagnostics ++ b.diagnostics⟩

instance : Append Report := ⟨append⟩

/-- `r` if the condition holds, and nothing otherwise. -/
def when (condition : Bool) (r : Report) : Report := if condition then r else {}

/-- There is an error among what was found. -/
def hasErrors (r : Report) : Bool := r.diagnostics.any (·.level == .error)

/-- Nothing was found. -/
def isEmpty (r : Report) : Bool := r.diagnostics.isEmpty

/-- One line for each diagnostic. -/
def render (r : Report) : String := "\n".intercalate (r.diagnostics.map (·.render))

/-- A further stage, which runs only if there is no error so far.  It may fail to have anything to say. -/
def andThen {ε : Type} (r : Report) (next : Unit → Except ε Report) : Except ε Report :=
  if r.hasErrors then .ok r else (r ++ ·) <$> next ()

end Report

end ShaderKit.Validation
