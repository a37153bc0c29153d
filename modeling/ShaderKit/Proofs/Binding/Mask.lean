import Mathlib.Data.Nat.Bitwise
import ShaderKit.Binding.Mask
import ShaderKit.Proofs.Std.List

/-!
# Members of index masks

A checked mask is a set of the indices below a limit, packed into one word, every shift of which is checked: an
operation that would shift by the width of the word or by more has no result.  Where the limit is not over the
width every operation has one, and the bits of the word are the members.

An index mask does what the checked mask with the same word does.  `contains` is the view of an attribute mask:
insertion adds one member, and two masks without bits over the limit are equal when they have the same members.

## Key results

- `CheckedMask.contains_eq`: membership is a bit of the word
- `CheckedMask.getLsbD_insert`: insertion adds the bit of an index below the limit, and no other
- `AttributeMask.checked_insert`, `AttributeMask.checked_contains`: what an attribute mask does has a result
  where shifts are checked, and the same one; `GroupMask.checked_insert`, `GroupMask.checked_contains`
- `AttributeMask.contains_insert?`: insertion adds exactly the inserted location
- `AttributeMask.ext_contains`: a mask is its set of members
- `AttributeMask.insert?_eq_none_iff`: insertion is refused exactly over the limit
-/

namespace ShaderKit

/-! ### Masks with checked shifts -/

/-- A set of the indices below `limit`, as a word of `width` bits. -/
structure CheckedMask (limit width : Nat) where
  word : BitVec width

namespace CheckedMask

variable {limit width : Nat}

/-- A set with no members. -/
def empty : CheckedMask limit width := ⟨BitVec.ofNat width 0⟩

/-- A one shifted left, unless by the width or more. -/
def bit? (width amount : Nat) : Option (BitVec width) :=
  if amount < width then some (BitVec.ofNat width 1 <<< amount) else none

/-- Whether the index is taken, and the set afterwards. -/
def insert (mask : CheckedMask limit width) (index : Nat) : Option (Bool × CheckedMask limit width) :=
  if index < limit then do
    let bit ← bit? width index
    return (true, ⟨mask.word ||| bit⟩)
  else return (false, mask)

/-- Whether the index is a member.  One that is not below the limit never is. -/
def contains (mask : CheckedMask limit width) (index : Nat) : Option Bool :=
  if index < limit then do
    let bit ← bit? width index
    return mask.word &&& bit != BitVec.ofNat width 0
  else return false

/-- The members, ascending. -/
def toList (mask : CheckedMask limit width) : Option (List Nat) :=
  (List.range limit).filterM mask.contains

/-- The set after one insertion for each index, in this order. -/
def insertAll (mask : CheckedMask limit width) (indices : List Nat) : Option (CheckedMask limit width) :=
  indices.foldlM (fun mask index => (mask.insert index).map (·.2)) mask

theorem insertAll_concat (mask : CheckedMask limit width) (indices : List Nat) (index : Nat) :
    mask.insertAll (indices ++ [index]) =
      (mask.insertAll indices).bind fun mask => (mask.insert index).map (·.2) := by
  simp only [insertAll, List.foldlM_append, List.foldlM_cons, List.foldlM_nil, bind_pure]
  rfl

theorem bit?_of_lt {amount : Nat} (h : amount < width) :
    bit? width amount = some (BitVec.twoPow width amount) := by
  rw [bit?, if_pos h, BitVec.twoPow_eq]

/-- A word is tested for one bit. -/
theorem and_twoPow_bne_zero (word : BitVec width) {index : Nat} (h : index < width) :
    (word &&& BitVec.twoPow width index != BitVec.ofNat width 0) = word.getLsbD index := by
  have hbit : BitVec.twoPow width index ≠ BitVec.ofNat width 0 := fun hzero => by
    have := congrArg (·.getLsbD index) hzero
    simp [h] at this
  rw [BitVec.and_twoPow]
  cases word.getLsbD index <;> simp [hbit]

section

variable (mask : CheckedMask limit width) {index : Nat}

theorem insert_of_lt (hlimit : limit ≤ width) (h : index < limit) :
    mask.insert index = some (true, ⟨mask.word ||| BitVec.twoPow width index⟩) := by
  rw [insert, if_pos h, bit?_of_lt (Nat.lt_of_lt_of_le h hlimit)]
  rfl

theorem insert_of_le (h : limit ≤ index) : mask.insert index = some (false, mask) :=
  if_neg (Nat.not_lt.2 h)

/-- Insertion answers whether the index is below the limit. -/
theorem insert_answer (hlimit : limit ≤ width) {taken : Bool} {next : CheckedMask limit width}
    (h : mask.insert index = some (taken, next)) : taken = decide (index < limit) := by
  by_cases hindex : index < limit
  · rw [mask.insert_of_lt hlimit hindex] at h
    cases h
    exact (decide_eq_true hindex).symm
  · rw [mask.insert_of_le (Nat.not_lt.1 hindex)] at h
    cases h
    exact (decide_eq_false hindex).symm

/-- Below the limit the word is tested for the bit. -/
theorem contains_of_test (hlimit : limit ≤ width) {test : Bool}
    (h : index < limit → (mask.word &&& BitVec.twoPow width index != BitVec.ofNat width 0) = test) :
    mask.contains index = some (decide (index < limit) && test) := by
  by_cases hindex : index < limit
  · rw [contains, if_pos hindex, bit?_of_lt (Nat.lt_of_lt_of_le hindex hlimit), decide_eq_true hindex,
      Bool.true_and, ← h hindex]
    rfl
  · rw [contains, if_neg hindex, decide_eq_false hindex, Bool.false_and]
    rfl

/-- Membership is a bit of the word. -/
theorem contains_eq (hlimit : limit ≤ width) (index : Nat) :
    mask.contains index = some (decide (index < limit) && mask.word.getLsbD index) :=
  mask.contains_of_test hlimit fun h => and_twoPow_bne_zero mask.word (Nat.lt_of_lt_of_le h hlimit)

/-- Insertion adds the bit of an index below the limit, and no other. -/
theorem getLsbD_insert (hlimit : limit ≤ width) {taken : Bool} {next : CheckedMask limit width}
    (h : mask.insert index = some (taken, next)) (other : Nat) :
    next.word.getLsbD other = true ↔
      other = index ∧ index < limit ∨ mask.word.getLsbD other = true := by
  by_cases hindex : index < limit
  · rw [mask.insert_of_lt hlimit hindex] at h
    cases h
    have hwidth : index < width := Nat.lt_of_lt_of_le hindex hlimit
    simp only [BitVec.getLsbD_or, BitVec.getLsbD_twoPow, hwidth, hindex, decide_true, Bool.true_and,
      Bool.or_eq_true, decide_eq_true_eq, and_true]
    rw [or_comm, eq_comm]
  · rw [mask.insert_of_le (Nat.not_lt.1 hindex)] at h
    cases h
    simp [hindex]

/-- The indices for which the mask is asked and says yes are listed. -/
theorem toList_eq {p : Nat → Bool} (h : ∀ index, mask.contains index = some (p index)) :
    mask.toList = some ((List.range limit).filter p) := by
  rw [toList, funext h]
  exact List.filterM_pure p _

end

end CheckedMask

/-! ### Attribute masks -/

namespace AttributeMask

/-- The word of the mask, with shifts checked. -/
def checked (mask : AttributeMask) : CheckedMask Limits.vertexAttributes 32 := ⟨mask.bits.toBitVec⟩

/-- The bit of a location below the limit is not shifted out of its word. -/
private theorem toBitVec_bit {location : Nat} (h : location < Limits.vertexAttributes) :
    ((1 : UInt32) <<< UInt32.ofNat location).toBitVec = BitVec.twoPow 32 location := by
  -- a word takes the amount modulo its width
  have hamount : location % 32 = location := Nat.mod_eq_of_lt (Nat.lt_trans h (by decide))
  simp [UInt32.toBitVec_shiftLeft, BitVec.shiftLeft_eq', BitVec.twoPow_eq, hamount]

/-- Insertion does not shift by the width. -/
theorem checked_insert (mask : AttributeMask) (location : Nat) :
    mask.checked.insert location =
      some ((mask.insert? location).isSome, ((mask.insert? location).getD mask).checked) := by
  by_cases h : location < Limits.vertexAttributes
  · rw [mask.checked.insert_of_lt (by decide) h, insert?, if_pos h, ← toBitVec_bit h]
    rfl
  · rw [mask.checked.insert_of_le (Nat.not_lt.1 h), insert?, if_neg h]
    rfl

/-- Asking for a location does not shift by the width. -/
theorem checked_contains (mask : AttributeMask) (location : Nat) :
    mask.checked.contains location = some (mask.contains location) := by
  refine mask.checked.contains_of_test (by decide) fun h => ?_
  have hzero (word : UInt32) : (word.toBitVec != 0#32) = (word != 0) := by
    rw [Bool.eq_iff_iff, bne_iff_ne, bne_iff_ne, Ne, Ne, ← UInt32.toBitVec_inj]
    rfl
  rw [checked, ← toBitVec_bit h, ← UInt32.toBitVec_and, hzero]

theorem contains_eq (mask : AttributeMask) (location : Nat) :
    mask.contains location =
      (decide (location < Limits.vertexAttributes) && mask.bits.toBitVec.getLsbD location) :=
  Option.some.inj ((mask.checked_contains location).symm.trans (mask.checked.contains_eq (by decide) _))

/-- No bit stands for a location over the limit. -/
def Bounded (mask : AttributeMask) : Prop := mask.bits.toNat < 2 ^ Limits.vertexAttributes

theorem empty_bounded : empty.Bounded := by
  unfold Bounded
  decide

theorem bounded_iff {mask : AttributeMask} :
    mask.Bounded ↔ ∀ i, Limits.vertexAttributes ≤ i → mask.bits.toBitVec.getLsbD i = false :=
  ⟨fun h _ hi => Nat.testBit_lt_two_pow (Nat.lt_of_lt_of_le h (Nat.pow_le_pow_right (by decide) hi)),
    fun h => Nat.lt_pow_two_of_testBit _ h⟩

@[simp] theorem contains_empty (location : Nat) : empty.contains location = false := by
  simp [contains, empty]

theorem insert?_eq_none_iff (mask : AttributeMask) (location : Nat) :
    mask.insert? location = none ↔ Limits.vertexAttributes ≤ location := by
  simp [insert?]

/-- Insertion adds the bit of the location, and no other. -/
private theorem getLsbD_insert? {mask mask' : AttributeMask} {location : Nat}
    (h : mask.insert? location = some mask') (other : Nat) :
    mask'.bits.toBitVec.getLsbD other = true ↔
      other = location ∧ location < Limits.vertexAttributes ∨ mask.bits.toBitVec.getLsbD other = true := by
  have hinsert := mask.checked_insert location
  rw [h] at hinsert
  exact mask.checked.getLsbD_insert (by decide) hinsert other

theorem bounded_insert? {mask mask' : AttributeMask} {location : Nat} (hb : mask.Bounded)
    (h : mask.insert? location = some mask') : mask'.Bounded := by
  refine bounded_iff.2 fun i hi => Bool.eq_false_iff.2 fun hbit => ?_
  rcases (getLsbD_insert? h i).1 hbit with ⟨rfl, hlt⟩ | hold
  · exact Nat.not_lt.2 hi hlt
  · exact Bool.eq_false_iff.1 (bounded_iff.1 hb i hi) hold

/-- Insertion adds exactly the inserted location. -/
theorem contains_insert? {mask mask' : AttributeMask} {location : Nat}
    (h : mask.insert? location = some mask') (other : Nat) :
    mask'.contains other = true ↔ other = location ∨ mask.contains other = true := by
  have hlocation : location < Limits.vertexAttributes :=
    Nat.not_le.1 (mt (mask.insert?_eq_none_iff location).2 (by simp [h]))
  simp only [contains_eq, Bool.and_eq_true, decide_eq_true_eq, getLsbD_insert? h]
  constructor
  · rintro ⟨hlt, ⟨rfl, -⟩ | hold⟩
    · exact .inl rfl
    · exact .inr ⟨hlt, hold⟩
  -- the location itself is a member because it is below the limit, not only because its bit is set
  · rintro (rfl | ⟨hlt, hold⟩)
    · exact ⟨hlocation, .inl ⟨rfl, hlocation⟩⟩
    · exact ⟨hlt, .inr hold⟩

/-- A mask is its set of members. -/
theorem ext_contains {a b : AttributeMask} (ha : a.Bounded) (hb : b.Bounded)
    (h : ∀ location, a.contains location = true ↔ b.contains location = true) : a = b := by
  have hbits : a.bits.toBitVec = b.bits.toBitVec := by
    refine BitVec.eq_of_getLsbD_eq fun i _ => ?_
    -- below the limit a bit is membership, and over it there is none
    by_cases hi : i < Limits.vertexAttributes
    · have hmember := Bool.eq_iff_iff.2 (h i)
      rwa [contains_eq, contains_eq, decide_eq_true hi, Bool.true_and, Bool.true_and] at hmember
    · rw [bounded_iff.1 ha i (Nat.not_lt.1 hi), bounded_iff.1 hb i (Nat.not_lt.1 hi)]
  obtain ⟨abits⟩ := a
  obtain ⟨bbits⟩ := b
  exact congrArg AttributeMask.mk (UInt32.toBitVec_inj.1 hbits)

end AttributeMask

/-! ### Group masks -/

namespace GroupMask

/-- The word of the mask, with shifts checked. -/
def checked (mask : GroupMask) : CheckedMask Limits.bindGroups 8 := ⟨mask.bits.toBitVec⟩

/-- The bit of a group below the limit is not shifted out of its word. -/
private theorem toBitVec_bit {group : Nat} (h : group < Limits.bindGroups) :
    ((1 : UInt8) <<< UInt8.ofNat group).toBitVec = BitVec.twoPow 8 group := by
  -- a word takes the amount modulo its width
  have hamount : group % 8 = group := Nat.mod_eq_of_lt (Nat.lt_trans h (by decide))
  simp [UInt8.toBitVec_shiftLeft, BitVec.shiftLeft_eq', BitVec.twoPow_eq, hamount]

/-- Insertion does not shift by the width. -/
theorem checked_insert (mask : GroupMask) (group : Nat) :
    mask.checked.insert group =
      some ((mask.insert? group).isSome, ((mask.insert? group).getD mask).checked) := by
  by_cases h : group < Limits.bindGroups
  · rw [mask.checked.insert_of_lt (by decide) h, insert?, if_pos h, ← toBitVec_bit h]
    rfl
  · rw [mask.checked.insert_of_le (Nat.not_lt.1 h), insert?, if_neg h]
    rfl

/-- Asking for a group does not shift by the width. -/
theorem checked_contains (mask : GroupMask) (group : Nat) :
    mask.checked.contains group = some (mask.contains group) := by
  refine mask.checked.contains_of_test (by decide) fun h => ?_
  have hzero (word : UInt8) : (word.toBitVec != 0#8) = (word != 0) := by
    rw [Bool.eq_iff_iff, bne_iff_ne, bne_iff_ne, Ne, Ne, ← UInt8.toBitVec_inj]
    rfl
  rw [checked, ← toBitVec_bit h, ← UInt8.toBitVec_and, hzero]

end GroupMask

end ShaderKit
