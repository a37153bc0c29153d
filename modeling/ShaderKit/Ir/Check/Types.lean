import ShaderKit.Ir.Check.Fault
import ShaderKit.Ir.Layout

/-!
# What can be done with values of a type

Facts about each type of a module: where its values can live, and whether their layout suits buffers.
-/

namespace ShaderKit.Ir.Check

/-- Facts about a type. -/
structure TypeFacts where
  /-- Values can be held in variables. -/
  data : Bool := false
  /-- The size is known. -/
  sized : Bool := false
  /-- Values can be copied. -/
  copy : Bool := false
  /-- Values can pass between stages. -/
  ioShareable : Bool := false
  /-- Values can be shared with the host. -/
  hostShareable : Bool := false
  /-- Values can be passed to functions. -/
  argument : Bool := false
  /-- Values can be constructed. -/
  constructible : Bool := false
  /-- The alignment that values need in a uniform buffer; none if they cannot be there. -/
  uniform : Option Nat := none
  /-- The alignment that values need in a storage buffer; none if they cannot be there. -/
  storage : Option Nat := none
  deriving DecidableEq

/-- The alignment of structs and of array elements in uniform buffers. -/
def uniformAlignment : Nat := 16

namespace TypeFacts

/-- What holds of both. -/
def meet (a b : TypeFacts) : TypeFacts := { a with
  data := a.data && b.data
  sized := a.sized && b.sized
  copy := a.copy && b.copy
  ioShareable := a.ioShareable && b.ioShareable
  hostShareable := a.hostShareable && b.hostShareable
  argument := a.argument && b.argument
  constructible := a.constructible && b.constructible }

/-- Facts about plain values with the given alignment. -/
def plain (alignment : Nat) (shareable : Bool) : TypeFacts where
  data := true
  sized := true
  copy := true
  ioShareable := shareable
  hostShareable := shareable
  argument := true
  constructible := true
  uniform := some alignment
  storage := some alignment

end TypeFacts

/-- The widths that scalars of each kind can have.  Abstract kinds have none. -/
def checkWidth (s : Scalar) : Except Fault Unit :=
  let good := match s.kind with
    | .bool => s.width == 1
    | .sint | .uint | .float => s.width == 4 || s.width == 8
    | .abstractInt | .abstractFloat => false
  if good then .ok () else .error (.width s)

/-- Kinds of scalars that atomics can have. -/
def checkAtomic (s : Scalar) : Except Fault Unit :=
  match s.kind with
  | .sint | .uint => if s.width == 4 || s.width == 8 then .ok () else .error (.width s)
  | .float => if s.width == 4 then .ok () else .error (.width s)
  | _ => .error (.width s)

/-- The alignment of an array whose elements need `element`, if the stride respects it. -/
def arrayAlignment (element : Option Nat) (least stride : Nat) : Option Nat := do
  let alignment := max (← element) least
  if isAligned alignment stride then some alignment else none

/-- The alignment of a struct up to a member at `offset` that needs `member`. -/
def memberAlignment (sofar member : Option Nat) (offset : Nat) : Option Nat := do
  let a ← sofar
  let m ← member
  if isAligned m offset then some (max a m) else none

/-- A struct while its members are looked at. -/
structure StructScan where
  facts : TypeFacts := { TypeFacts.plain 1 true with uniform := some uniformAlignment }
  /-- The end of the member before. -/
  least : Nat := 0
  /-- Span and offset of the member before, if it is a struct. -/
  previous : Option (Nat × Nat) := none

/-- The offsets of a struct in a uniform buffer leave room for a struct before them. -/
def leavesRoom (previous : Option (Nat × Nat)) (offset : Nat) : Bool :=
  match previous with
  | some (span, start) => start + alignUp uniformAlignment span ≤ offset
  | none => true

/-- Looks at the next member, whose type has the shape and the facts given. -/
def StructScan.member (count span : Nat) (s : StructScan) (m : StructMember) (shape : Shape)
    (f : TypeFacts) (index : Nat) : Except Fault StructScan := do
  if !f.data then throw (.memberType index)
  if m.offset < s.least ∧ m.offset ≠ 0 then throw (.memberOverlap index)
  let least := (m.offset + shape.size) % twoPow 32
  if span < least then throw (.memberOutside index)
  let isArray := match shape with
    | .array .. => true
    | _ => false
  if !f.sized && (!isArray || index + 1 ≠ count) then throw (.unsizedMember index)
  let shared := f.hostShareable
  let uniform := if shared && f.sized && leavesRoom s.previous m.offset
    then memberAlignment s.facts.uniform f.uniform m.offset else none
  let storage := if shared then memberAlignment s.facts.storage f.storage m.offset else none
  let met := s.facts.meet f
  let facts := { met with
    hostShareable := met.hostShareable && s.least ≤ m.offset
    uniform
    storage }
  let previous := match shape with
    | .struct _ inner => some (inner, m.offset)
    | _ => none
  return { facts, least, previous }

/-- Facts about a type, given those about the types before it. -/
def typeFacts (types : List TypeInfo) (extents : List Extent) (known : Array TypeFacts) :
    Shape → Except Fault TypeFacts
  | .scalar s => do
    checkWidth s
    return TypeFacts.plain s.width s.kind.isNumeric
  | .vector n s => do
    checkWidth s
    return TypeFacts.plain (n.slots * s.width) s.kind.isNumeric
  | .matrix _ rows s => do
    if s.kind ≠ .float then throw .integerMatrix
    checkWidth s
    return { TypeFacts.plain (rows.slots * s.width) true with ioShareable := false }
  | .atomic s => do
    checkAtomic s
    return {
      data := true
      sized := true
      hostShareable := true
      uniform := some s.width
      storage := some s.width }
  | .pointer base space => do
    let some f := known[base]? | throw .layout
    if !f.data then throw .pointee
    let inStorage := match space with
      | .storage _ => true
      | _ => false
    if !f.sized && !inStorage then throw .unsizedPointee
    return {
      sized := true
      copy := true
      argument := space = .function || space = .private_
      uniform := some 1
      storage := some 1 }
  | .valuePointer _ s space => do
    checkWidth s
    return {
      sized := true
      copy := true
      argument := space = .function || space = .private_
      uniform := some 1
      storage := some 1 }
  | .array base size stride => do
    let some f := known[base]? | throw .layout
    let some e := extents[base]? | throw .layout
    if !f.data || !f.sized then throw .arrayElement
    let mask : TypeFacts := match size with
      | .constant _ => TypeFacts.plain 1 true
      | .pending _ => { TypeFacts.plain 1 true with hostShareable := false, constructible := false }
      | .dynamic => { data := true, copy := true, hostShareable := true }
    return { f.meet mask with
      ioShareable := false
      uniform := arrayAlignment f.uniform (max e.alignment uniformAlignment) stride
      storage := arrayAlignment f.storage e.alignment stride }
  | .struct members span => do
    if members.isEmpty then throw .emptyStruct
    let scan ← members.zipIdx.foldlM (fun (s : StructScan) (m, i) => do
      let some f := known[m.type]? | throw .layout
      let some t := types[m.type]? | throw .layout
      s.member members.length span m t.shape f i) {}
    let alignment := (extents[known.size]?).elim 1 (·.alignment)
    if isAligned alignment span then return scan.facts
    else return { scan.facts with uniform := none, storage := none }
  | .image dim arrayed _ => do
    if arrayed && dim = .d3 then throw .arrayedVolume
    return { argument := true, uniform := some 1, storage := some 1 }
  | .sampler _ => return { argument := true, uniform := some 1, storage := some 1 }
  | .accelerationStructure => return { argument := true, uniform := some 1, storage := some 1 }
  | .rayQuery => return {
      data := true
      sized := true
      constructible := true
      uniform := some 1
      storage := some 1 }
  | .bindingArray base size => do
    let some f := known[base]? | throw .layout
    let some t := types[base]? | throw .layout
    let isStruct := match t.shape with
      | .struct .. => true
      | _ => false
    if f.data && !isStruct then throw .bindingArrayElement
    return {
      sized := f.sized && size ≠ .dynamic
      hostShareable := f.hostShareable
      uniform := some 1
      storage := some 1 }

/-- Facts about all types of a module, in order. -/
def allTypeFacts (types : List TypeInfo) : Except Fault (Array TypeFacts) := do
  let some extents := extents? types | throw .layout
  types.foldlM (fun known t => return known.push (← typeFacts types extents known t.shape)) #[]

end ShaderKit.Ir.Check
