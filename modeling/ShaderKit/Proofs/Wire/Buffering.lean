import Mathlib.Data.List.DropRight
import ShaderKit.Proofs.Wire.Codec

/-!
# Commands that wait in a buffer

Commands are pushed into a buffer, and taken out of it all at once, in any order of pushing and taking.  The
buffer holds bytes only, and taking empties it before they are decoded, so a command would be lost for good if
decoding failed.  It never does: the bytes are always those of the commands that were pushed since the last
take.

## Key results

- `Command.length_of_decode`: a command takes its bytes away, so decoding one after another ends
- `CommandBuffer.decodes_iff`: as many steps as bytes are enough to decode whatever is in a buffer
- `Buffered.Inv.step`: what pushing and taking keep
- `Buffered.run_lossless`: each take gives what was pushed since the one before, and nothing gets lost
-/

namespace ShaderKit.Wire

/-- A command takes its own bytes away, and no others. -/
theorem Command.length_of_decode {bytes rest : List UInt8} {command : Command}
    (h : decode bytes = .ok (command, rest)) : bytes.length = encodedSize + rest.length := by
  rw [decode_eq_ok_iff.1 h, List.length_append, length_encode]

namespace CommandBuffer

/-- Decoding command after command until no byte is left comes to an end, and gives this. -/
inductive Decodes : List UInt8 → Except WireError (List Command) → Prop
  | done : Decodes [] (.ok [])
  | failed {bytes : List UInt8} {e : WireError} (hbytes : bytes ≠ [])
      (hdecode : Command.decode bytes = .error e) : Decodes bytes (.error e)
  | turn {bytes rest : List UInt8} {command : Command} {result : Except WireError (List Command)}
      (hbytes : bytes ≠ []) (hdecode : Command.decode bytes = .ok (command, rest))
      (hrest : Decodes rest result) : Decodes bytes (result.map (command :: ·))

theorem decodeAll_nil (steps : Nat) : decodeAll steps [] = .ok [] := by
  cases steps <;> rfl

theorem decodeAll_of_error {bytes : List UInt8} {e : WireError} (steps : Nat) (hbytes : bytes ≠ [])
    (hdecode : Command.decode bytes = .error e) : decodeAll (steps + 1) bytes = .error e := by
  rw [decodeAll, hdecode]
  · rfl
  · exact hbytes

/-- Decoding always comes to an end, and as many steps as there are bytes are enough. -/
theorem decodes_decodeAll {steps : Nat} {bytes : List UInt8} (hsteps : bytes.length ≤ steps) :
    Decodes bytes (decodeAll steps bytes) := by
  -- a command takes bytes, so behind it one step less is enough
  induction steps generalizing bytes with
  | zero =>
    obtain rfl : bytes = [] := List.length_eq_zero_iff.1 (Nat.le_zero.1 hsteps)
    exact .done
  | succ steps ih =>
    by_cases hbytes : bytes = []
    · rw [hbytes, decodeAll_nil]
      exact .done
    cases hdecode : Command.decode bytes with
    | error e =>
      rw [decodeAll_of_error steps hbytes hdecode]
      exact .failed hbytes hdecode
    | ok found =>
      obtain ⟨command, rest⟩ := found
      have hlength := Command.length_of_decode hdecode
      have hrest : rest.length ≤ steps := by
        have hsize : Command.encodedSize = 16 := rfl
        omega
      rw [decodeAll_turn steps hbytes hdecode]
      exact .turn hbytes hdecode (ih hrest)

/-- There is only one end. -/
theorem Decodes.unique {bytes : List UInt8} {result result' : Except WireError (List Command)}
    (h : Decodes bytes result) (h' : Decodes bytes result') : result = result' := by
  -- one case for each way to end: whether bytes are left and what reading a command gives decide
  -- which it is
  induction h generalizing result' with
  | done =>
    cases h' with
    | done => rfl
    | failed hbytes => exact absurd rfl hbytes
    | turn hbytes => exact absurd rfl hbytes
  | failed hbytes hdecode =>
    cases h' with
    | done => exact absurd rfl hbytes
    | failed _ hdecode' => exact congrArg _ (Except.error.inj (hdecode.symm.trans hdecode'))
    | turn _ hdecode' => exact nomatch hdecode.symm.trans hdecode'
  | turn hbytes hdecode _ ih =>
    cases h' with
    | done => exact absurd rfl hbytes
    | failed _ hdecode' => exact nomatch hdecode.symm.trans hdecode'
    | turn _ hdecode' hrest' =>
      cases hdecode.symm.trans hdecode'
      rw [ih hrest']

/-- What taking gives is what decoding everything in the buffer ends with. -/
theorem decodes_iff {buffer : CommandBuffer} {result : Except WireError (List Command)} :
    Decodes buffer.bytes result ↔ buffer.take.1 = result :=
  have hends : Decodes buffer.bytes buffer.take.1 := decodes_decodeAll (Nat.le_refl _)
  ⟨hends.unique, fun h => h ▸ hends⟩

end CommandBuffer

/-! ## Pushing and taking -/

/-- One use of a buffer. -/
inductive BufferStep
  | push (command : Command)
  | take
  deriving DecidableEq

namespace BufferStep

/-- The command that a step pushes. -/
def command? : BufferStep → Option Command
  | push command => some command
  | take => none

/-- The commands that some steps push. -/
def pushed (steps : List BufferStep) : List Command := steps.filterMap (·.command?)

/-- The commands that some steps push after the last of them that takes. -/
def waiting (steps : List BufferStep) : List Command := pushed (steps.rtakeWhile (· ≠ .take))

theorem pushed_push (steps : List BufferStep) (command : Command) :
    pushed (steps ++ [push command]) = pushed steps ++ [command] := by
  rw [pushed, pushed, List.filterMap_append]
  rfl

theorem pushed_take (steps : List BufferStep) : pushed (steps ++ [take]) = pushed steps := by
  rw [pushed, pushed, List.filterMap_append]
  exact List.append_nil _

theorem waiting_push (steps : List BufferStep) (command : Command) :
    waiting (steps ++ [push command]) = waiting steps ++ [command] := by
  rw [waiting, waiting, List.rtakeWhile_concat_pos _ _ _ (by simp), pushed_push]

theorem waiting_take (steps : List BufferStep) : waiting (steps ++ [take]) = [] := by
  rw [waiting, List.rtakeWhile_concat_neg _ _ _ (by decide)]
  rfl

end BufferStep

/-- A buffer in use, and what each take gave. -/
structure Buffered where
  buffer : CommandBuffer := .empty
  taken : List (Except WireError (List Command)) := []

namespace Buffered

open BufferStep (pushed waiting pushed_push pushed_take waiting_push waiting_take)

/-- A push goes to the end of the buffer; a take empties it, and what it gave is kept. -/
def step (b : Buffered) : BufferStep → Buffered
  | .push command => { b with buffer := b.buffer.push command }
  | .take => ⟨b.buffer.take.2, b.taken ++ [b.buffer.take.1]⟩

/-- The buffer is empty at first. -/
def run (steps : List BufferStep) : Buffered := steps.foldl step {}

variable {b : Buffered} {steps : List BufferStep}

/-- The buffer has what was pushed since the last take, and the takes gave everything before. -/
structure Inv (b : Buffered) (steps : List BufferStep) : Prop where
  has : b.buffer.Has (waiting steps)
  taken : ∃ batches : List (List Command), b.taken = batches.map .ok ∧
    batches.flatten ++ waiting steps = pushed steps

theorem inv_start : ({} : Buffered).Inv [] := ⟨CommandBuffer.has_empty, [], rfl, rfl⟩

theorem Inv.step (h : b.Inv steps) (s : BufferStep) : (b.step s).Inv (steps ++ [s]) := by
  obtain ⟨batches, hbatches, hpushed⟩ := h.taken
  cases s with
  | push command =>
    have hmore : batches.flatten ++ waiting (steps ++ [.push command]) =
        pushed (steps ++ [.push command]) := by
      rw [waiting_push, pushed_push, ← hpushed, List.append_assoc]
    refine ⟨?_, batches, hbatches, hmore⟩
    rw [waiting_push]
    exact h.has.push command
  | take =>
    -- what waits becomes one more batch, and nothing waits any more
    have hall : (batches ++ [waiting steps]).flatten ++ waiting (steps ++ [.take]) =
        pushed (steps ++ [.take]) := by
      rw [waiting_take, pushed_take, ← hpushed, List.flatten_concat, List.append_nil]
    refine ⟨?_, batches ++ [waiting steps], ?_, hall⟩
    · rw [waiting_take]
      exact CommandBuffer.has_empty
    · show b.taken ++ [b.buffer.take.1] = _
      rw [h.has.take_eq, hbatches, List.map_append, List.map_singleton]

theorem run_concat (steps : List BufferStep) (s : BufferStep) :
    run (steps ++ [s]) = (run steps).step s := by
  rw [run, run, List.foldl_append]
  rfl

theorem inv_run (steps : List BufferStep) : (run steps).Inv steps := by
  -- from the last step, as the invariant speaks of all steps so far
  induction steps using List.reverseRecOn with
  | nil => exact inv_start
  | append_singleton steps s ih =>
    rw [run_concat]
    exact ih.step s

/-- In every run a take gives the commands that were pushed since the take before, in order, and leaves the
buffer empty.  Decoding them comes to an end.  No take has failed, and what all of them gave, with what is in the
buffer, are the commands that were pushed. -/
theorem run_lossless (steps : List BufferStep) :
    run (steps ++ [.take]) = ⟨.empty, (run steps).taken ++ [.ok (waiting steps)]⟩ ∧
    CommandBuffer.Decodes (run steps).buffer.bytes (.ok (waiting steps)) ∧
    ∃ batches : List (List Command), (run steps).taken = batches.map .ok ∧
      batches.flatten ++ waiting steps = pushed steps := by
  have hinv := inv_run steps
  have htake : (run steps).buffer.take = (.ok (waiting steps), .empty) := hinv.has.take_eq
  refine ⟨?_, ?_, hinv.taken⟩
  · rw [run_concat]
    show (⟨(run steps).buffer.take.2, _ ++ [(run steps).buffer.take.1]⟩ : Buffered) = _
    rw [htake]
  · rw [CommandBuffer.decodes_iff, htake]

/-- Two commands are pushed and taken, and a third waits. -/
example : (run [.push (.getCompilationInfo 1 3), .push (.getCompilationInfo 1 4), .take,
      .push (.getCompilationInfo 2 5)]).taken =
    [.ok [.getCompilationInfo 1 3, .getCompilationInfo 1 4]] := by decide

end Buffered

end ShaderKit.Wire
