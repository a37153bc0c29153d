import ShaderKit.Proofs.Spirv.Failures
import ShaderKit.Proofs.Validation.Stages

/-!
# Where a module that cannot be read is said to fail

The report on such a module has one error, whose position is the word at which reading fails.  An operand with a
value that its enumeration does not know is the exception: its failure has the offset of the word too, but the
error has no position.

## Key results

- `fullReport_of_unread`: the report is that on the header and one error
- `check_positioned`: which position the error has
-/

namespace ShaderKit.Validation

open Spirv (Word Module ReadFailure)

namespace Report

/-- The errors of a report. -/
def errors (r : Report) : List Diagnostic := r.diagnostics.filter (·.level == .error)

theorem errors_append (a b : Report) : (a ++ b).errors = a.errors ++ b.errors :=
  List.filter_append ..

theorem errors_of_passes {r : Report} (h : r.hasErrors = false) : r.errors = [] := by
  refine List.filter_eq_nil_iff.2 fun d hd => ?_
  have hany := List.any_eq_false.1 h d hd
  exact hany

end Report

variable {words : List Word} {failure : ReadFailure}

/-- What the error on a module that cannot be read says. -/
def unreadMessage (failure : ReadFailure) : String := s!"failed to parse module: {failure.message}"

/-- The report on a module that cannot be read is that on its header and one error. -/
theorem fullReport_of_unread (hheader : GoodHeader words) (hread : Module.ofWords words = .error failure)
    (hnested : failure ≠ .nestedForm) :
    fullReport words =
      .ok (headerReport words ++ .error failure.position? (unreadMessage failure)) := by
  have hbody : bodyReport words = .ok (.error failure.position? (unreadMessage failure)) := by
    rw [bodyReport_of_unread hread]
    unfold CheckStage.report
    rw [hread]
    -- every other failure is reported as one error
    cases failure with
    | nestedForm => exact absurd rfl hnested
    | _ => rfl
  rw [fullReport, Report.andThen_of_no_errors (headerReport_passes_iff.2 hheader), hbody]
  rfl

/-- A module with an accepted header whose instructions cannot be read has one error, and reading fails at one of
its words or behind the last one.  The position of the error is that word, unless an operand has a value that is
not known.  Then it has no position. -/
theorem check_positioned (hheader : GoodHeader words) (hread : Module.ofWords words = .error failure)
    (hnested : failure ≠ .nestedForm) (horder : ∀ fault, failure ≠ .malformed fault) :
    ∃ k ≤ words.length, Spirv.Misread words failure k ∧
      ∃ report, fullReport words = .ok report ∧
        (words.length ≤ Limits.spirvWords → check words = .error (.report report)) ∧
        ∃ position, report.errors = [⟨.error, position, unreadMessage failure⟩] ∧
          (¬ failure.IsUnknownValue → position = some k) ∧
          (failure.IsUnknownValue → position = none) := by
  have hfull := fullReport_of_unread hheader hread hnested
  -- neither the order of the instructions nor a nested form is at fault, so reading fails at a word
  obtain ⟨k, hk, hmisread⟩ : ∃ k ≤ words.length, Spirv.Misread words failure k := by
    rcases Module.ofWords_located hheader.complete hheader.magic hread with ⟨fault, hfault⟩ | hgiven | hfails
    · exact absurd hfault (horder fault)
    · exact absurd hgiven hnested
    · exact hfails
  obtain ⟨start, first, _, _, hfails⟩ := id hmisread
  refine ⟨k, hk, hmisread, _, hfull, fun hsize => ?_, failure.position?, ?_, hfails.position?_eq⟩
  · exact check_eq_error_iff.2 (.inr ⟨hsize, .inr ⟨_, hfull, by simp, rfl⟩⟩)
  -- the header is good, so the only error is the one that reading adds
  · rw [Report.errors_append, Report.errors_of_passes (headerReport_passes_iff.2 hheader)]
    rfl

/-- An accepted header and these words behind it. -/
def behindHeader (body : List Word) : List Word :=
  [Spirv.magicNumber, 0x00010300, 1, 50, 0] ++ body

theorem goodHeader_behindHeader (body : List Word) : GoodHeader (behindHeader body) where
  complete := Nat.le_add_left 5 body.length
  magic := rfl
  version := ⟨0x00010300, rfl, by decide, by decide⟩
  bound := ⟨50, rfl, by decide⟩

/-- An integer type of four words that ends after three: the error is behind the last word. -/
theorem check_positioned_truncated :
    Module.ofWords (behindHeader [0x00040015, 1, 32]) = .error (.operand (.streamEnd 32)) ∧
    Spirv.Misread (behindHeader [0x00040015, 1, 32]) (.operand (.streamEnd 32)) 8 ∧
    ∃ report, check (behindHeader [0x00040015, 1, 32]) = .error (.report report) ∧
      report.errors = [⟨.error, some 8, unreadMessage (.operand (.streamEnd 32))⟩] := by
  have hread : Module.ofWords (behindHeader [0x00040015, 1, 32]) = .error (.operand (.streamEnd 32)) := rfl
  have hknown : ¬ (ReadFailure.operand (.streamEnd 32)).IsUnknownValue := by
    rintro ⟨e, value, offset, ⟨⟩⟩
  obtain ⟨k, _, hmisread, report, _, hcheck, position, herrors, hposition, _⟩ :=
    check_positioned (goodHeader_behindHeader _) hread nofun nofun
  -- the value is known, so the error has the position at which reading fails
  obtain rfl : position = some k := hposition hknown
  obtain ⟨_, _, _, _, hfails⟩ := id hmisread
  cases (hfails.position?_eq.1 hknown : some 8 = some k)
  exact ⟨hread, hmisread, report, hcheck (by decide), herrors⟩

/-- The second word of a capability is not known.  That is where reading fails, and the error has no position. -/
theorem capability_unplaced :
    GoodHeader (behindHeader [0x00020011, 9999]) ∧
    Module.ofWords (behindHeader [0x00020011, 9999]) =
      .error (.operand (.unknownValue .capability 9999 24)) ∧
    Spirv.Misread (behindHeader [0x00020011, 9999]) (.operand (.unknownValue .capability 9999 24)) 6 ∧
    check (behindHeader [0x00020011, 9999]) = .error (.report ⟨[⟨.error, none,
      unreadMessage (.operand (.unknownValue .capability 9999 24))⟩]⟩) := by
  refine ⟨goodHeader_behindHeader _, rfl, ⟨5, 0x00020011, .header, rfl, ?_⟩, by decide +kernel⟩
  exact .unknownValue (by decide) (by decide) rfl (by decide)

end ShaderKit.Validation
