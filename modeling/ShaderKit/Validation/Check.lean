import ShaderKit.Limits
import ShaderKit.Validation.Header
import ShaderKit.Validation.Structure
import ShaderKit.Ir.Check.Module
import ShaderKit.Spirv.Lift.Module

/-!
# Checking a module

`check` runs the stages one after the other: size, header, reading, structure, semantics.  A stage runs
only if no stage before it found an error, and the report keeps what every stage had to say.
-/

namespace ShaderKit.Validation

open Spirv (Word)

/-- Why a module is refused.  Only a report has something to say about the module; the other failures are of
modules that cannot be looked at. -/
inductive CheckFailure
  | tooLarge (words : Nat)
  | nestedForm
  | broken (rule : Spirv.BrokenRule)
  | report (report : Report)
  deriving DecidableEq

/-- The text of a failure. -/
def CheckFailure.message : CheckFailure → String
  | tooLarge words =>
    s!"SPIR-V module of {words} words exceeds the maximum of {Limits.spirvWords} words"
  | nestedForm => Spirv.ReadFailure.nestedForm.message
  | broken rule => rule.message
  | report r => "SPIRV Validation failure:\n" ++ r.render

/-- What the typed representation of the module has to say.  A module that has none is not refused. -/
def semanticReport (words : List Word) : Except CheckFailure Report :=
  match Spirv.Module.instructionsOf words with
  | .error _ => .ok {}
  | .ok instructions => match Spirv.liftInstructions instructions with
    | .error (.rule rule) => .error (.broken rule)
    | .error e => .ok <| .warning none
        ("semantic validation skipped, naga could not represent the module: " ++ e.message)
    | .ok m => match m.check with
      | .error fault => .ok (.error none fault.message)
      | .ok _ => .ok {}

/-- The stages after the header. -/
def bodyReport (words : List Word) : Except CheckFailure Report :=
  match Spirv.Module.ofWords words with
  | .error .nestedForm => .error .nestedForm
  | .error failure => .ok (.error failure.position? s!"failed to parse module: {failure.message}")
  | .ok m => (structureReport m).andThen fun _ => semanticReport words

/-- The report of all stages. -/
def fullReport (words : List Word) : Except CheckFailure Report :=
  (headerReport words).andThen fun _ => bodyReport words

/-- Accepts a module whose report has no error. -/
def check (words : List Word) : Except CheckFailure Report := do
  if Limits.spirvWords < words.length then throw (.tooLarge words.length)
  let report ← fullReport words
  if report.hasErrors then throw (.report report)
  return report

end ShaderKit.Validation
