import ShaderKit.Spirv.Grammar.Kind

/-!
# Descriptors

What a module is made from: a label and a chain of links, exactly one of which must be there and carry
a source.
-/

namespace ShaderKit

open Spirv (Word)

/-- What a module's code was given as. -/
inductive SourceKind
  | spirv | wgsl
  deriving DecidableEq

/-- The name of a kind of source. -/
def SourceKind.name : SourceKind → String
  | spirv => "SPIR-V"
  | wgsl => "WGSL"

/-- The source of a module. -/
inductive ModuleSource
  | spirv (words : List Word)
  | wgsl (source : String)
  deriving DecidableEq

/-- The kind of a source. -/
def ModuleSource.kind : ModuleSource → SourceKind
  | spirv _ => .spirv
  | wgsl _ => .wgsl

/-- One link of a descriptor's chain. -/
inductive DescriptorLink
  | source (source : ModuleSource)
  | unknown (type : UInt32)
  deriving DecidableEq

/-- What a module is created from: a label, and a chain in which the source is one link. -/
structure ModuleDescriptor where
  label : Option String := none
  chain : List DescriptorLink := []
  deriving DecidableEq

/-- Why a descriptor has no source. -/
inductive DescriptorError
  | missingLink
  | severalLinks
  | unknownLink (type : UInt32)
  deriving DecidableEq

/-- The text of a failure. -/
def DescriptorError.message : DescriptorError → String
  | missingLink => "Shader module descriptor missing chained descriptor"
  | severalLinks => "Shader module descriptor chained nextInChain must be nullptr"
  | unknownLink type => s!"Unsupported sType 0x{String.ofList (Nat.toDigits 16 type.toNat)}"

/-- The source of a descriptor with exactly one link, of a known type. -/
def ModuleDescriptor.source (d : ModuleDescriptor) : Except DescriptorError ModuleSource :=
  match d.chain with
  | [] => .error .missingLink
  | [.source source] => .ok source
  | [.unknown type] => .error (.unknownLink type)
  | _ :: _ :: _ => .error .severalLinks

end ShaderKit
