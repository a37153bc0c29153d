import ShaderKit.Config
import ShaderKit.Reflection.Declared
import ShaderKit.Reflection.Typed
import ShaderKit.Spirv.Lift.Module

/-!
# Reflection

A module's inventory by either backend, and the entry point metadata that follows from it.
-/

namespace ShaderKit.Reflection

open Spirv (Word)
open Resource (Inventory)

/-- The typed representation of a word sequence, if it has one. -/
def lift? (words : List Word) : Except ReflectionError (Option Ir.Module) :=
  match Spirv.Module.instructionsOf words with
  | .error _ => .ok none
  | .ok instructions => match Spirv.liftInstructions instructions with
    | .error (.rule rule) => .error (.broken rule)
    | .error _ => .ok none
    | .ok m => .ok (some m)

/-- The inventory through the typed representation.  Where a module has none, what it declares is its
inventory. -/
def crossCompiled (words : List Word) : Except ReflectionError Inventory := do
  let declared ← Spirv.declaredInventory words
  match ← lift? words with
  | some m => m.inventory declared
  | none => return declared

/-- The inventory of a word sequence, as the backend sees it. -/
def collect (backend : ReflectionBackend) (words : List Word) : Except ReflectionError Inventory :=
  match backend with
  | .crossCompiler => crossCompiled words
  | .reflectionService => Spirv.declaredInventory words

/-- The metadata of the first entry point.  Words over the size limit are not looked at. -/
def reflect (backend : ReflectionBackend) (words : List Word) :
    Except ReflectionError EntryPointMetadata := do
  if Limits.spirvWords < words.length then throw (.tooLarge words.length)
  (← collect backend words).extract.mapError .extraction

end ShaderKit.Reflection
