import ShaderKit.Limits

/-!
# Index masks

Small sets of vertex attribute locations and of bind groups, each packed into one word.  An index at
or over the limit is never a member, and inserting it changes nothing.
-/

namespace ShaderKit

/-- Set of vertex attribute locations. -/
structure AttributeMask where
  bits : UInt32
  deriving DecidableEq

namespace AttributeMask

/-- No location. -/
def empty : AttributeMask := ⟨0⟩

/-- The set with `location`, or nothing where `location` is over the limit. -/
def insert? (mask : AttributeMask) (location : Nat) : Option AttributeMask :=
  if location < Limits.vertexAttributes then
    some ⟨mask.bits ||| (1 <<< UInt32.ofNat location)⟩
  else none

/-- The location is in the set. -/
def contains (mask : AttributeMask) (location : Nat) : Bool :=
  location < Limits.vertexAttributes && mask.bits &&& (1 <<< UInt32.ofNat location) != 0

/-- No location is in the set. -/
def isEmpty (mask : AttributeMask) : Bool := mask.bits == 0

/-- The members, ascending. -/
def toList (mask : AttributeMask) : List Nat :=
  (List.range Limits.vertexAttributes).filter mask.contains

end AttributeMask

/-- Set of bind group indices. -/
structure GroupMask where
  bits : UInt8
  deriving DecidableEq

namespace GroupMask

/-- No group. -/
def empty : GroupMask := ⟨0⟩

/-- The set with `group`, or nothing where `group` is over the limit. -/
def insert? (mask : GroupMask) (group : Nat) : Option GroupMask :=
  if group < Limits.bindGroups then some ⟨mask.bits ||| (1 <<< UInt8.ofNat group)⟩ else none

/-- The set with `group`, unchanged where `group` is over the limit. -/
def insert (mask : GroupMask) (group : Nat) : GroupMask := (mask.insert? group).getD mask

/-- The group is in the set. -/
def contains (mask : GroupMask) (group : Nat) : Bool :=
  group < Limits.bindGroups && mask.bits &&& (1 <<< UInt8.ofNat group) != 0

/-- The members, ascending. -/
def toList (mask : GroupMask) : List Nat :=
  (List.range Limits.bindGroups).filter mask.contains

/-- The groups that satisfy `p`. -/
def ofPred (p : Nat → Bool) : GroupMask :=
  ((List.range Limits.bindGroups).filter p).foldl insert empty

end GroupMask

end ShaderKit
