import Mathlib.Tactic.IntervalCases
import ShaderKit.Proofs.Ir.Evaluation
import ShaderKit.Vertex.Format

/-!
# Attributes in memory

What the bytes of a vertex buffer mean: each component of an attribute is a little-endian number of one,
two or four bytes, which its format turns into a scalar.

## Key results

- `Format.stored_of_word`: a component lies in one word, at an offset that its number gives
- `Format.component_word_lt`: the components of an attribute lie in the words that it covers
-/

namespace ShaderKit.Vertex

open Ir (ScalarConversions Value wordBytes wordHalves bitField)

/-- The bytes of a buffer. -/
def bytesOf (words : List UInt32) : List UInt8 := words.flatMap wordBytes

/-- The number that bytes stand for, lowest byte first. -/
def littleEndian (bytes : List UInt8) : Nat := bytes.foldr (fun b n => b.toNat + 256 * n) 0

/-- A number of `width` bits as a signed one of 32. -/
def signExtended (width n : Nat) : UInt32 := ⟨(BitVec.ofNat width n).signExtend 32⟩

namespace Format

/-- What the number `n` stands for as a component of a format. -/
def decode (c : ScalarConversions) (n : Nat) : Format → Value
  | uint8x2 | uint8x4 | uint16x2 | uint16x4 | uint32 | uint32x2 | uint32x3 | uint32x4 =>
    .scalar .uint (UInt32.ofNat n)
  | sint8x2 | sint8x4 => .scalar .sint (signExtended 8 n)
  | sint16x2 | sint16x4 => .scalar .sint (signExtended 16 n)
  | sint32 | sint32x2 | sint32x3 | sint32x4 => .scalar .sint (UInt32.ofNat n)
  | float32 | float32x2 | float32x3 | float32x4 => .scalar .float (UInt32.ofNat n)
  | unorm8x2 | unorm8x4 => .scalar .float (c.unorm8 (UInt8.ofNat n))
  | snorm8x2 | snorm8x4 => .scalar .float (c.snorm8 (UInt8.ofNat n))
  | unorm16x2 | unorm16x4 => .scalar .float (c.unorm16 (UInt16.ofNat n))
  | snorm16x2 | snorm16x4 => .scalar .float (c.snorm16 (UInt16.ofNat n))
  | float16x2 | float16x4 => .scalar .float (c.float16 (UInt16.ofNat n))

/-- The number of component `i` of an attribute that starts at byte `start`. -/
def stored (f : Format) (bytes : List UInt8) (start i : Nat) : Nat :=
  littleEndian ((bytes.drop (start + i * f.componentBytes)).take f.componentBytes)

/-- Component `i` of an attribute that starts at byte `start`. -/
def component (f : Format) (c : ScalarConversions) (bytes : List UInt8) (start i : Nat) : Value :=
  f.decode c (f.stored bytes start i)

end Format

private theorem bytesOf_cons (w : UInt32) (words : List UInt32) :
    bytesOf (w :: words) = wordBytes w ++ bytesOf words :=
  List.flatMap_cons

/-- Every word has four bytes. -/
theorem drop_bytesOf (words : List UInt32) (k : Nat) :
    (bytesOf words).drop (4 * k) = bytesOf (words.drop k) := by
  induction k generalizing words with
  | zero => rfl
  | succ k ih =>
    cases words with
    | nil => simp [bytesOf]
    | cons w rest =>
      have hlen : (wordBytes w).length = 4 := rfl
      rw [bytesOf_cons, Nat.mul_add, Nat.mul_one, Nat.add_comm, ← List.drop_drop,
        List.drop_left' hlen, List.drop_succ_cons, ih]

/-- The bytes of one word. -/
private theorem take_drop_bytesOf {words : List UInt32} {q : Nat} {w : UInt32}
    (hw : words[q]? = some w) {first count : Nat} (h : first + count ≤ 4) :
    ((bytesOf words).drop (4 * q + first)).take count = ((wordBytes w).drop first).take count := by
  obtain ⟨hq, rfl⟩ := List.getElem?_eq_some_iff.1 hw
  have hlen : (wordBytes words[q]).length = 4 := rfl
  rw [← List.drop_drop, drop_bytesOf, List.drop_eq_getElem_cons hq, bytesOf_cons,
    List.drop_append_of_le_length (by omega),
    List.take_append_of_le_length (by rw [List.length_drop]; omega)]

/-- The number that some bytes of a word stand for. -/
private theorem littleEndian_wordBytes (w : UInt32) {first count : Nat} (h : first + count ≤ 4) :
    littleEndian (((wordBytes w).drop first).take count) =
      w.toNat / 2 ^ (8 * first) % 2 ^ (8 * count) := by
  have hw := w.toNat_lt
  have hfirst : first ≤ 4 := by omega
  have hcount : count ≤ 4 := by omega
  interval_cases first <;> interval_cases count <;>
    simp [littleEndian, wordBytes, Nat.shiftRight_eq_div_pow] at h ⊢ <;> omega

/-- Components are as long as a word, a half of it or a quarter. -/
theorem Format.componentBytes_cases (f : Format) :
    f.componentBytes = 1 ∨ f.componentBytes = 2 ∨ f.componentBytes = 4 := by
  cases f <;> simp [componentBytes]

/-- A component lies in one word, at an offset that its number gives. -/
theorem Format.stored_of_word {f : Format} {words : List UInt32} {i : Nat} {w : UInt32}
    (hw : words[i * f.componentBytes / 4]? = some w) :
    f.stored (bytesOf words) 0 i =
      w.toNat / 2 ^ (8 * (i * f.componentBytes % 4)) % 2 ^ (8 * f.componentBytes) := by
  have hfit : i * f.componentBytes % 4 + f.componentBytes ≤ 4 := by
    rcases f.componentBytes_cases with h | h | h <;> rw [h] <;> omega
  rw [stored, Nat.zero_add, ← Nat.div_add_mod (i * f.componentBytes) 4, take_drop_bytesOf hw hfit,
    Nat.div_add_mod, littleEndian_wordBytes w hfit]

/-- A component of words in the middle of a buffer. -/
theorem Format.stored_drop (f : Format) (words : List UInt32) (k i : Nat) :
    f.stored (bytesOf words) (4 * k) i = f.stored (bytesOf (words.drop k)) 0 i := by
  rw [stored, stored, ← List.drop_drop, drop_bytesOf, Nat.zero_add]

/-- The components of an attribute lie in the words that it covers. -/
theorem Format.component_word_lt {f : Format} {i : Nat} (h : i < f.components) :
    i * f.componentBytes / 4 < f.words := by
  have hle : (i + 1) * f.componentBytes ≤ f.bytes := Nat.mul_le_mul_right _ h
  rw [Nat.add_mul, Nat.one_mul] at hle
  have hpos : 0 < f.componentBytes := by
    rcases f.componentBytes_cases with h | h | h <;> omega
  unfold words
  omega

/-- The bytes of a word, by their numbers. -/
theorem getElem?_wordBytes (w : UInt32) {i : Nat} (h : i < 4) :
    (wordBytes w)[i]? = some (UInt8.ofNat (w.toNat / 2 ^ (8 * i) % 2 ^ 8)) := by
  interval_cases i <;> simp only [wordBytes, List.getElem?_cons_zero, List.getElem?_cons_succ,
    Option.some.injEq] <;> apply UInt8.toNat_inj.1 <;> simp [Nat.shiftRight_eq_div_pow]

/-- The halves of a word, by their numbers. -/
theorem getElem?_wordHalves (w : UInt32) {i : Nat} (h : i < 2) :
    (wordHalves w)[i]? = some (UInt16.ofNat (w.toNat / 2 ^ (16 * i) % 2 ^ 16)) := by
  interval_cases i <;> simp only [wordHalves, List.getElem?_cons_zero, List.getElem?_cons_succ,
    Option.some.injEq] <;> apply UInt16.toNat_inj.1 <;> simp [Nat.shiftRight_eq_div_pow]

/-- A field of bits is the number that its bits stand for. -/
theorem bitField_eq (signed : Bool) (w : UInt32) {offset count : UInt32}
    (h : offset.toNat + count.toNat ≤ 32) :
    bitField signed w offset count =
      if signed then signExtended count.toNat (w.toNat / 2 ^ offset.toNat % 2 ^ count.toNat)
      else UInt32.ofNat (w.toNat / 2 ^ offset.toNat % 2 ^ count.toNat) := by
  -- the field lies within the word, so neither its start nor its length is cut
  have hfirst : min offset.toNat 32 = offset.toNat := by omega
  have hcount : min count.toNat (32 - offset.toNat) = count.toNat := by omega
  have hfield : w.toBitVec.extractLsb' offset.toNat count.toNat =
      BitVec.ofNat count.toNat (w.toNat / 2 ^ offset.toNat % 2 ^ count.toNat) := by
    apply BitVec.eq_of_toNat_eq
    simp [Nat.shiftRight_eq_div_pow]
  rw [bitField, hfirst, hcount, hfield]
  cases signed with
  | true => rfl
  | false =>
    have hwide : (BitVec.ofNat count.toNat (w.toNat / 2 ^ offset.toNat % 2 ^ count.toNat)).setWidth 32
        = BitVec.ofNat 32 (w.toNat / 2 ^ offset.toNat % 2 ^ count.toNat) := by
      apply BitVec.eq_of_toNat_eq
      simp
    exact congrArg UInt32.ofBitVec hwide

end ShaderKit.Vertex
