import Mathlib.Data.List.Infix
import ShaderKit.Proofs.Spirv.Reading

/-!
# Where reading fails

Reading goes from instruction to instruction by their word counts and fails inside of one.  `FailsAt` says for
each kind of failure at which word that is; its offset in bytes is part of the failure.

The cursor never leaves the instruction that is being read: its place in the words and its limit together make
up the word count (`Cursor.Inside`).  Every step of reading keeps that, or fails at a word that follows from it.

## Key results

- `Reader.slots_stays`: reading the slots of a form stays inside the instruction
- `readInstruction_located`: an instruction is read up to its word count, or reading it fails at a word
- `Module.ofWords_located`: a module that cannot be read has an instruction that cannot be read, or its
  instructions are in no order
- `FailsAt.position?_eq`: the position of a failure is the word at which it is, unless a value is not known
-/

namespace ShaderKit.Spirv

/-- Going by the word counts, an instruction starts at the word. -/
inductive StartsAt (words : List Word) : Nat → Prop
  | header : StartsAt words headerWords
  | next {start : Nat} {first : Word} (hstart : StartsAt words start)
    (hfirst : words[start]? = some first) : StartsAt words (start + (first >>> 16).toNat)

/-- There are literals of this width. -/
def NumericType.HasLiterals : NumericType → Prop
  | .int width => width = 8 ∨ width = 16 ∨ width = 32 ∨ width = 64
  | .float width => width = 16 ∨ width = 32 ∨ width = 64

/-- Reading an instruction with `count` words, which starts at the word `start`, fails at a word. -/
inductive FailsAt (words : List Word) (start count : Nat) : Nat → ReadFailure → Prop
  | zeroWordCount {index : Nat} (hcount : count = 0) :
    FailsAt words start count start (.zeroWordCount (4 * start) index)
  | unknownOpcode {index : Nat} {first : Word} (hfirst : words[start]? = some first)
    (hform : Grammar.form? (first &&& 0xffff).toNat = none) :
    FailsAt words start count start (.unknownOpcode (4 * start) index (first &&& 0xffff).toNat)
  /-- An operand is missing behind the last word. -/
  | operandExpected {index : Nat} :
    FailsAt words start count (start + count) (.operandExpected (4 * (start + count)) index)
  /-- The operands that the instruction can have end before the word. -/
  | operandExceeded {index : Nat} {types : NumericTypes} {first : Word} {form : InstructionForm}
    {inst : Instruction} {c : Cursor} (hfirst : words[start]? = some first)
    (hform : Grammar.form? (first &&& 0xffff).toNat = some form)
    (hslots : (Reader.slots types index form.slots { opcode := (first &&& 0xffff).toNat }).run
      ⟨words.drop (start + 1), start + 1, count - 1⟩ = .ok (inst, c))
    (hstart : start < c.position) (hend : c.position < start + count) :
    FailsAt words start count c.position (.operandExceeded (4 * c.position) index)
  /-- A value is missing, or the words end. -/
  | streamEnd {k : Nat} (hend : k = min (start + count) words.length) :
    FailsAt words start count k (.operand (.streamEnd (4 * k)))
  | limitReached {k : Nat} (hend : k = min (start + count) words.length) :
    FailsAt words start count k (.operand (.limitReached (4 * k)))
  | unknownValue {k : Nat} {e : Enumeration} {value : Word} (hstart : start < k) (hend : k < start + count)
    (hvalue : words[k]? = some value) (hknows : e.knows value = false) :
    FailsAt words start count k (.operand (.unknownValue e value (4 * k)))
  /-- The text that starts at the word is none. -/
  | badText {k : Nat} {body : List UInt8} {error : Text.Utf8Error} (hstart : start < k)
    (hend : k < start + count) (hbody : body <+: (words.drop k).flatMap Reader.bytesOf)
    (htext : Text.decodeUtf8 body = .error error) :
    FailsAt words start count k (.operand (.badText (4 * k) error))
  /-- A literal would start at the word, but its type has none. -/
  | unsupportedType {k index : Nat} {types : NumericTypes} {type : Id} {numeric : NumericType}
    (hstart : start < k) (hend : k ≤ start + count) (htype : types.find? type = some numeric)
    (hwidth : ¬ numeric.HasLiterals) :
    FailsAt words start count k (.unsupportedType (4 * k) index)
  /-- A nested opcode is already read when it turns out to be unknown. -/
  | nestedOpcode {k index : Nat} {opcode : Word} (hstart : start < k) (hend : k < start + count)
    (hopcode : words[k]? = some opcode) (hform : Grammar.form? (opcode.toNat % 65536) = none) :
    FailsAt words start count (k + 1) (.nestedOpcode (4 * (k + 1)) index)

/-- An operand has a value that its enumeration does not know. -/
def ReadFailure.IsUnknownValue (failure : ReadFailure) : Prop :=
  ∃ e value offset, failure = .operand (.unknownValue e value offset)

section Positions

variable {words : List Word} {start count k : Nat} {failure : ReadFailure}

/-- The position of a failure is the word at which it is, unless a value is not known.  Then it has none. -/
theorem FailsAt.position?_eq (h : FailsAt words start count k failure) :
    (¬ failure.IsUnknownValue → failure.position? = some k) ∧
      (failure.IsUnknownValue → failure.position? = none) := by
  constructor
  · intro hknown
    -- every failure keeps its offset, which is four times the word, except for the unknown value
    cases h with
    | @unknownValue k e value => exact absurd ⟨e, value, 4 * k, rfl⟩ hknown
    | _ => exact congrArg some (by omega)
  · rintro ⟨e, value, offset, rfl⟩
    rfl

end Positions

/-! ### Inside an instruction -/

variable {words : List Word} {start count : Nat} {c c' : Cursor} {α β : Type}

/-- The cursor stands in the instruction with `count` words that starts at the word `start`. -/
structure Cursor.Inside (words : List Word) (start count : Nat) (c : Cursor) : Prop where
  rest : c.rest = words.drop c.position
  limit : c.position + c.limit = start + count
  start : start < c.position
  position : c.position ≤ words.length

/-- What comes of reading on inside an instruction: a cursor that stands in it, or a failure at a word.  The
reader may also give up. -/
def Located (words : List Word) (start count : Nat) : Except ReadFailure (α × Cursor) → Prop
  | .ok (_, c) => c.Inside words start count
  | .error failure => failure = .nestedForm ∨ ∃ k ≤ words.length, FailsAt words start count k failure

namespace Cursor.Inside

/-- Words that are taken from an instruction leave the cursor in it. -/
theorem advance (h : c.Inside words start count) {n : Nat} (hlimit : n ≤ c.limit)
    (hlength : n ≤ c.rest.length) :
    Cursor.Inside words start count ⟨c.rest.drop n, c.position + n, c.limit - n⟩ := by
  have hrest : c.rest.length = words.length - c.position := by rw [h.rest, List.length_drop]
  have hposition := h.position
  constructor
  · show c.rest.drop n = words.drop (c.position + n)
    rw [h.rest, List.drop_drop]
  · show c.position + n + (c.limit - n) = start + count
    have hsum := h.limit
    omega
  · exact Nat.lt_of_lt_of_le h.start (Nat.le_add_right _ _)
  · show c.position + n ≤ words.length
    omega

theorem getElem? (h : c.Inside words start count) {w : Word} {rest : List Word}
    (hrest : c.rest = w :: rest) : words[c.position]? = some w := by
  have hhead : (words.drop c.position)[0]? = some w := by rw [← h.rest, hrest]; rfl
  rwa [List.getElem?_drop, Nat.add_zero] at hhead

/-- Where the words or the instruction end. -/
theorem position_eq_min (h : c.Inside words start count) (hend : c.limit = 0 ∨ c.rest = []) :
    c.position = min (start + count) words.length := by
  have hlimit := h.limit
  have hposition := h.position
  -- the limit counts to the end of the instruction, the rest to the end of the words
  rcases hend with hzero | hnil
  · omega
  · have hlength : words.length ≤ c.position := by
      rw [← List.drop_eq_nil_iff, ← h.rest, hnil]
    omega

end Cursor.Inside

namespace Reader

variable {r : Reader α} {f : α → Reader β}

/-- Reading on inside an instruction stays in it, or fails at a word. -/
def Stays (words : List Word) (start count : Nat) (r : Reader α) : Prop :=
  ∀ c, c.Inside words start count → Located words start count (r.run c)

theorem located_bind (hr : Located words start count (r.run c))
    (hf : ∀ a c', r.run c = .ok (a, c') → c'.Inside words start count →
      Located words start count ((f a).run c')) : Located words start count ((r >>= f).run c) := by
  rw [StateT.run_bind]
  cases hrun : r.run c with
  | error failure =>
    rw [hrun] at hr
    exact hr
  | ok result =>
    rw [hrun] at hr
    exact hf result.1 result.2 hrun hr

theorem Stays.pure {a : α} : (pure a : Reader α).Stays words start count := fun _ h => h

theorem Stays.bind (hr : r.Stays words start count) (hf : ∀ a, (f a).Stays words start count) :
    (r >>= f).Stays words start count :=
  fun c h => located_bind (hr c h) fun a c' _ h' => hf a c' h'

theorem Stays.map {g : α → β} (hr : r.Stays words start count) : (g <$> r).Stays words start count := by
  rw [map_eq_pure_bind]
  exact hr.bind fun _ => .pure

theorem Stays.mapM {f : α → Reader β} {l : List α} (hf : ∀ a ∈ l, (f a).Stays words start count) :
    (l.mapM f).Stays words start count := by
  induction l with
  | nil => exact .pure
  | cons a l ih =>
    rw [List.mapM_cons]
    have hrest := ih fun a' ha' => hf a' (List.mem_cons_of_mem _ ha')
    exact (hf a List.mem_cons_self).bind fun _ => hrest.bind fun _ => .pure

/-- A reader that gives up is not held to anything. -/
theorem Stays.giveUp : (throw .nestedForm : Reader α).Stays words start count := fun _ _ => .inl rfl

theorem word_stays : word.Stays words start count := by
  intro c h
  show Located words start count (word c)
  unfold word
  -- a word is missing where the instruction ends, or where the words do
  by_cases hzero : c.limit = 0
  · rw [if_pos hzero]
    exact .inr ⟨c.position, h.position, .limitReached (h.position_eq_min (.inl hzero))⟩
  rw [if_neg hzero]
  cases hrest : c.rest with
  | nil => exact .inr ⟨c.position, h.position, .streamEnd (h.position_eq_min (.inr hrest))⟩
  | cons w rest =>
    have hadvance := h.advance (n := 1) (by omega) (by simp [hrest])
    rwa [hrest] at hadvance

/-- A word that is read stands where the cursor stood. -/
theorem getElem?_of_word (h : c.Inside words start count) {w : Word} (hword : word.run c = .ok (w, c')) :
    words[c.position]? = some w ∧ c.position < start + count ∧ c'.position = c.position + 1 := by
  replace hword : word c = .ok (w, c') := hword
  unfold word at hword
  split at hword
  · exact nomatch hword
  split at hword
  · exact nomatch hword
  rename_i hlimit _ w' rest hrest
  cases hword
  have hsum := h.limit
  exact ⟨h.getElem? hrest, by omega, rfl⟩

theorem doubleWord_stays : doubleWord.Stays words start count :=
  word_stays.bind fun _ => word_stays.bind fun _ => .pure

theorem value_stays (e : Enumeration) : (value e).Stays words start count := by
  intro c h
  show Located words start count (value e c)
  unfold value
  split
  case h_1 _ _ hzero =>
    exact .inr ⟨c.position, h.position, .streamEnd (h.position_eq_min (.inl hzero))⟩
  case h_2 _ _ hnil _ =>
    exact .inr ⟨c.position, h.position, .streamEnd (h.position_eq_min (.inr hnil))⟩
  case h_3 _ _ limit w rest hlimit hrest =>
    -- a value is there; it is taken if the enumeration knows it, and left in place otherwise
    have hsum := h.limit
    split
    · have hadvance := h.advance (n := 1) (by omega) (by simp [hrest])
      rwa [hrest, hlimit] at hadvance
    · rename_i hknows
      exact .inr ⟨c.position, h.position, .unknownValue h.start (by omega) (h.getElem? hrest)
        (by simpa using hknows)⟩

theorem length_flatMap_bytesOf (l : List Word) : (l.flatMap bytesOf).length = 4 * l.length := by
  induction l with
  | nil => rfl
  | cons w l ih =>
    rw [List.flatMap_cons, List.length_append, ih, List.length_cons]
    have hword : (bytesOf w).length = 4 := rfl
    omega

theorem text_stays : text.Stays words start count := by
  intro c h
  show Located words start count (text c)
  have hrest : c.rest.length = words.length - c.position := by rw [h.rest, List.length_drop]
  have hposition := h.position
  have hlimit := h.limit
  unfold text
  dsimp only
  -- the words in which the text must end
  generalize hwindow : c.rest.take c.limit = window
  have hlength : window.length = min c.limit c.rest.length := by rw [← hwindow, List.length_take]
  have hbytes := length_flatMap_bytesOf window
  generalize hbody : (window.flatMap bytesOf).takeWhile (· != 0) = body
  have hprefix : body <+: window.flatMap bytesOf := hbody ▸ List.takeWhile_prefix _
  have hshort := hprefix.length_le
  split
  · -- no zero byte: the text goes on to where the instruction or the words end
    have hoffset : c.offset + (window.flatMap bytesOf).length = 4 * (c.position + window.length) := by
      rw [hbytes, Cursor.offset]
      omega
    rw [hoffset]
    exact .inr ⟨c.position + window.length, by omega, .limitReached (by omega)⟩
  rename_i hzero
  cases htext : Text.decodeUtf8 body with
  | error e =>
    have hwhole : body <+: (words.drop c.position).flatMap bytesOf := by
      refine hprefix.trans (List.IsPrefix.flatMap ?_ bytesOf)
      rw [← hwindow, h.rest]
      exact List.take_prefix ..
    exact .inr ⟨c.position, h.position, .badText h.start (by omega) hwhole htext⟩
  | ok t => exact h.advance (by omega) (by omega)

theorem operand_stays (kind : OperandKind) : (operand kind).Stays words start count := by
  cases kind with
  | id => exact word_stays.map
  | scope => exact word_stays.map
  | semantics => exact word_stays.map
  | literal => exact word_stays.map
  | string => exact text_stays.map
  | value e => exact (value_stays e).map
  | _ => exact .giveUp

theorem operands_stays (kind : OperandKind) : (operands kind).Stays words start count := by
  unfold operands
  split
  · exact (value_stays _).bind fun _ => Stays.bind (.mapM fun kind _ => operand_stays kind) fun _ => .pure
  · exact (operand_stays _).bind fun _ => (operand_stays _).bind fun _ => .pure
  · exact (operand_stays _).bind fun _ => .pure

theorem unsupportedType_stays {types : NumericTypes} {index : Nat} {type : Id} {numeric : NumericType}
    (htype : types.find? type = some numeric) (hwidth : ¬ numeric.HasLiterals) :
    (offset >>= fun o => throw (.unsupportedType o index) : Reader α).Stays words start count := by
  intro c h
  have hlimit := h.limit
  exact .inr ⟨c.position, h.position, .unsupportedType h.start (by omega) htype hwidth⟩

theorem typedLiteral_stays (types : NumericTypes) (index : Nat) (type : Id) :
    (typedLiteral types index type).Stays words start count := by
  -- a literal of up to 32 bits takes a word, one of 64 bits takes two; other widths have none
  have hnarrow : (Operand.word <$> word).Stays words start count := word_stays.map
  have hlong : (Operand.wide <$> doubleWord).Stays words start count := doubleWord_stays.map
  unfold typedLiteral
  dsimp only
  split
  · exact hnarrow
  · rename_i width htype
    split
    · exact hnarrow
    split
    · exact hlong
    · rename_i hnotnarrow hnotlong
      have hwidth : ¬ (NumericType.int width).HasLiterals := by
        simp only [NumericType.HasLiterals]
        tauto
      exact unsupportedType_stays htype hwidth
  · rename_i width htype
    split
    · exact hnarrow
    split
    · exact hlong
    · rename_i hnotnarrow hnotlong
      have hwidth : ¬ (NumericType.float width).HasLiterals := by
        simp only [NumericType.HasLiterals]
        tauto
      exact unsupportedType_stays htype hwidth

theorem nested_stays (index : Nat) : (nested index).Stays words start count := by
  intro c h
  refine located_bind (word_stays c h) fun w c' hword h' => ?_
  -- the failure has the offset behind the opcode, so that is where the cursor stands
  obtain ⟨hw, hbefore, hnext⟩ := getElem?_of_word h hword
  dsimp only
  cases hform : Grammar.form? (w.toNat % 65536) with
  | none =>
    refine .inr ⟨c'.position, h'.position, ?_⟩
    show FailsAt words start count c'.position (.nestedOpcode (4 * c'.position) index)
    rw [hnext]
    exact .nestedOpcode h.start hbefore hw hform
  | some form =>
    exact Stays.bind (.mapM fun kind _ => operands_stays kind) (fun _ => .pure) c' h'

variable {types : NumericTypes} {index : Nat}

theorem slot_stays (inst : Instruction) (kind : OperandKind) :
    (slot types index inst kind).Stays words start count := by
  unfold slot
  split
  · exact word_stays.bind fun _ => .pure
  · exact word_stays.bind fun _ => .pure
  · exact (typedLiteral_stays _ _ _).bind fun _ => .pure
  · exact (nested_stays index).bind fun _ => .pure
  · exact (typedLiteral_stays _ _ _).bind fun _ => (operand_stays _).bind fun _ => .pure
  · exact (operands_stays _).bind fun _ => .pure

theorem atLimit_stays : atLimit.Stays words start count := fun _ h => h

theorem repeatSlot_stays (kind : OperandKind) (fuel : Nat) (inst : Instruction) :
    (repeatSlot types index kind fuel inst).Stays words start count := by
  induction fuel generalizing inst with
  | zero => exact .pure
  | succ fuel ih =>
    refine atLimit_stays.bind fun done => ?_
    split
    · exact .pure
    · exact (slot_stays inst kind).bind ih

/-- Reading the slots of a form stays inside the instruction. -/
theorem slots_stays (l : List OperandSlot) (inst : Instruction) :
    (slots types index l inst).Stays words start count := by
  induction l generalizing inst with
  | nil => exact .pure
  | cons s rest ih =>
    intro c h
    have honce : (slot types index inst s.kind >>= slots types index rest).Stays words start count :=
      (slot_stays inst s.kind).bind ih
    have hrepeated : Located words start count
        ((repeatSlot types index s.kind c.limit inst >>= slots types index rest).run c) :=
      (repeatSlot_stays s.kind c.limit inst).bind ih c h
    unfold slots
    -- not `Stays.bind`: where an operand is missing, it matters that the limit is used up
    refine located_bind h fun done c' hdone _ => ?_
    cases hdone
    cases hzero : c.limit == 0 with
    | true =>
      have hend : c.position = start + count := by
        have hlimit := h.limit
        have hempty : c.limit = 0 := by simpa using hzero
        omega
      cases s.quantifier with
      | once =>
        refine .inr ⟨c.position, h.position, ?_⟩
        show FailsAt words start count c.position (.operandExpected (4 * c.position) index)
        rw [hend]
        exact .operandExpected
      | optional => exact h
      | repeated => exact h
    | false =>
      cases s.quantifier with
      | once => exact honce c h
      | optional => exact honce c h
      | repeated => exact hrepeated

end Reader

/-! ### Instruction by instruction -/

variable {types : NumericTypes} {index position : Nat} {first : Word} {rest : List Word}
  {inst : Instruction} {failure : ReadFailure}

/-- An instruction is read within its word count, or reading it fails at a word. -/
theorem readInstruction_located (hrest : words.drop position = first :: rest) :
    Located words position (first >>> 16).toNat (readInstruction types index position first rest) := by
  have hlength : (words.drop position).length = rest.length + 1 := by rw [hrest, List.length_cons]
  rw [List.length_drop] at hlength
  have hfirst : words[position]? = some first := by
    rw [← List.head?_drop, hrest, List.head?_cons]
  unfold readInstruction
  dsimp only
  split
  · rename_i hcount
    exact .inr ⟨position, by omega, .zeroWordCount hcount⟩
  rename_i hcount
  cases hform : Grammar.form? (first &&& 0xffff).toNat with
  | none => exact .inr ⟨position, by omega, .unknownOpcode hfirst hform⟩
  | some form =>
    obtain rfl : rest = words.drop (position + 1) := by
      rw [← List.tail_drop, hrest, List.tail_cons]
    -- behind the first word the cursor stands in the instruction
    have hinside : Cursor.Inside words position (first >>> 16).toNat
        ⟨words.drop (position + 1), position + 1, (first >>> 16).toNat - 1⟩ := by
      constructor
      · rfl
      · show position + 1 + ((first >>> 16).toNat - 1) = _
        omega
      · exact Nat.lt_succ_self _
      · show position + 1 ≤ words.length
        omega
    have hslots : Located words position (first >>> 16).toNat
        ((Reader.slots types index form.slots { opcode := (first &&& 0xffff).toNat }).run
          ⟨words.drop (position + 1), position + 1, (first >>> 16).toNat - 1⟩) :=
      Reader.slots_stays form.slots _ _ hinside
    cases hrun : (Reader.slots types index form.slots { opcode := (first &&& 0xffff).toNat }).run
        ⟨words.drop (position + 1), position + 1, (first >>> 16).toNat - 1⟩ with
    | error failure =>
      rw [hrun] at hslots
      simp only [hrun, bind, Except.bind]
      exact hslots
    | ok result =>
      obtain ⟨inst, c⟩ := result
      rw [hrun] at hslots
      replace hslots : c.Inside words position (first >>> 16).toNat := hslots
      simp only [hrun, bind, Except.bind]
      split
      · exact hslots
      · have hlimit := hslots.limit
        exact .inr ⟨c.position, hslots.position,
          .operandExceeded hfirst hform hrun hslots.start (by omega)⟩

/-- Nothing of an instruction that is read is left over. -/
theorem limit_of_readInstruction
    (h : readInstruction types index position first rest = .ok (inst, c)) : c.limit = 0 := by
  unfold readInstruction at h
  dsimp only at h
  split at h
  · exact nomatch h
  split at h
  · exact nomatch h
  obtain ⟨⟨inst', c'⟩, _, h⟩ := Except.bind_eq_ok_iff.1 h
  dsimp only at h
  split at h
  · rename_i hlimit
    cases h
    exact hlimit
  · exact nomatch h

/-- Reading the words fails at the word `k`, in an instruction that starts where the word counts say. -/
def Misread (words : List Word) (failure : ReadFailure) (k : Nat) : Prop :=
  ∃ start first, StartsAt words start ∧ words[start]? = some first ∧
    FailsAt words start (first >>> 16).toNat k failure

/-- A failure is that of the consumer, the reader gives up, or it is at a word. -/
theorem foldInstructions_located {σ : Type} {step : σ → Instruction → Except ReadFailure σ} {fuel : Nat}
    {s : σ} (hstart : StartsAt words position) (hposition : position ≤ words.length)
    (h : foldInstructions step fuel types index position (words.drop position) s = .error failure) :
    (∃ s inst, step s inst = .error failure) ∨ failure = .nestedForm ∨
      ∃ k ≤ words.length, Misread words failure k := by
  induction fuel generalizing types index position s with
  | zero =>
    cases hrest : words.drop position <;> rw [hrest] at h <;> exact nomatch h
  | succ fuel ih =>
    cases hrest : words.drop position with
    | nil =>
      rw [hrest] at h
      exact nomatch h
    | cons first rest =>
      rw [hrest, foldInstructions] at h
      have hfirst : words[position]? = some first := by
        rw [← List.head?_drop, hrest, List.head?_cons]
      -- the failure is that of this instruction, that of the consumer, or one further on
      have hlocated : Located words position (first >>> 16).toNat
          (readInstruction types index position first rest) := readInstruction_located hrest
      cases hread : readInstruction types index position first rest with
      | error e =>
        rw [hread] at h hlocated
        cases h
        rcases hlocated with hnested | ⟨k, hk, hfails⟩
        · exact .inr (.inl hnested)
        · exact .inr (.inr ⟨k, hk, position, first, hstart, hfirst, hfails⟩)
      | ok result =>
        obtain ⟨inst, c⟩ := result
        have hlimit := limit_of_readInstruction hread
        rw [hread] at h hlocated
        replace hlocated : c.Inside words position (first >>> 16).toNat := hlocated
        dsimp only at h
        split at h
        · rename_i e hstep
          cases h
          exact .inl ⟨s, inst, hstep⟩
        · -- the next instruction starts behind the word count of this one
          have hnext : c.position = position + (first >>> 16).toNat := by
            have hsum := hlocated.limit
            omega
          rw [hlocated.rest] at h
          exact ih (hnext ▸ hstart.next hfirst) hlocated.position h

/-- A module whose header is read, and that cannot be read, has its instructions in no order, has an operand on
which the reader gives up, or has an instruction that reading fails in. -/
theorem Module.ofWords_located (hlength : headerWords ≤ words.length)
    (hmagic : words[0]? = some magicNumber) (h : Module.ofWords words = .error failure) :
    (∃ fault, failure = .malformed fault) ∨ failure = .nestedForm ∨
      ∃ k ≤ words.length, Misread words failure k := by
  -- five words and the magic number make a header
  obtain ⟨bound, hheader⟩ : ∃ bound, readHeader words = .ok (bound, words.drop headerWords) := by
    match words with
    | magic :: _ :: _ :: bound :: _ :: rest =>
      cases hmagic
      exact ⟨bound, rfl⟩
    | [] | [_] | [_, _] | [_, _, _] | [_, _, _, _] => simp [headerWords] at hlength
  simp only [ofWords, hheader, bind, Except.bind] at h
  split at h
  · rename_i e hfold
    cases h
    rcases foldInstructions_located .header hlength hfold with ⟨a, inst, hadd⟩ | hfails
    · obtain ⟨fault, _, hfault⟩ := Except.mapError_eq_error_iff.1 hadd
      exact .inl ⟨fault, hfault⟩
    · exact .inr hfails
  · obtain ⟨fault, _, hfault⟩ := Except.mapError_eq_error_iff.1 h
    exact .inl ⟨fault, hfault⟩

end ShaderKit.Spirv
