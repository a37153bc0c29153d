/-!
# Shader stages
-/

namespace ShaderKit

/-- Set of stages that may see a layout entry: bit 0 vertex, bit 1 fragment, bit 2 compute.  Other
bits carry no meaning and are kept. -/
structure StageSet where
  bits : UInt32
  deriving DecidableEq

/-- The one pipeline stage that an entry point runs in. -/
inductive Stage
  | vertex | fragment | compute
  deriving DecidableEq

namespace Stage

/-- All stages. -/
def all : List Stage := [vertex, fragment, compute]

/-- The name of a stage in descriptors. -/
def name : Stage → String
  | vertex => "vertex"
  | fragment => "fragment"
  | compute => "compute"

/-- The stage of that name. -/
def ofName? (text : String) : Option Stage :=
  all.find? (·.name == text)

/-- The set that holds this stage alone. -/
def bit : Stage → StageSet
  | vertex => ⟨1⟩
  | fragment => ⟨2⟩
  | compute => ⟨4⟩

end Stage

namespace StageSet

/-- Whether every stage of `other` is in `set`. -/
def contains (set other : StageSet) : Bool := set.bits &&& other.bits == other.bits

/-- The stages of either set. -/
def union (set other : StageSet) : StageSet := ⟨set.bits ||| other.bits⟩

end StageSet

end ShaderKit
