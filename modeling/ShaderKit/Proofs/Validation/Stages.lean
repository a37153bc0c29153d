import ShaderKit.Proofs.Std.Except
import ShaderKit.Validation.Check

/-!
# Which modules pass the check, and what the report says

A check has four stages.  A stage runs if no stage before it found an error, and the report is what the
stages that run have to say, one after the other.  So nothing that a stage said is lost when a later one
finds an error, and a module passes exactly if no stage finds one.

Reading and lifting can give up on a module without a verdict.  Then there is no report either.

## Key results

- `headerReport_passes_iff`, `structureReport_passes_iff`, `semanticReport_passes_iff`: what a module needs to
  get through each stage
- `fullReport_eq_ok_iff`: the full report is what the stages that run have to say
- `check_exact`: which modules pass, and every outcome of the others
- `check_silent_iff`: which of those that pass have nothing odd about them
-/

namespace ShaderKit.Validation

open Spirv (Word Module)

/-! ## Reports -/

namespace Report

variable {a b r : Report} {position : Option Nat} {message : String}

@[simp] theorem hasErrors_append (a b : Report) :
    (a ++ b).hasErrors = (a.hasErrors || b.hasErrors) :=
  List.any_append

@[simp] theorem append_empty (a : Report) : a ++ ({} : Report) = a :=
  congrArg Report.mk (List.append_nil _)

@[simp] theorem empty_append (a : Report) : ({} : Report) ++ a = a := rfl

theorem append_assoc (a b c : Report) : a ++ b ++ c = a ++ (b ++ c) :=
  congrArg Report.mk (List.append_assoc ..)

@[simp] theorem hasErrors_empty : ({} : Report).hasErrors = false := rfl

@[simp] theorem hasErrors_error : (error position message).hasErrors = true := rfl

@[simp] theorem hasErrors_warning : (warning position message).hasErrors = false := rfl

@[simp] theorem hasErrors_info : (info position message).hasErrors = false := rfl

@[simp] theorem hasErrors_when (condition : Bool) (r : Report) :
    (when condition r).hasErrors = (condition && r.hasErrors) := by
  cases condition <;> rfl

/-- After an error nothing else runs. -/
theorem andThen_of_errors {ε : Type} {next : Unit → Except ε Report} (ha : a.hasErrors = true) :
    a.andThen next = .ok a :=
  if_pos ha

/-- Without an error the next stage runs, and the report goes on with what it says. -/
theorem andThen_of_no_errors {ε : Type} {next : Unit → Except ε Report}
    (ha : a.hasErrors = false) : a.andThen next = (a ++ ·) <$> next () :=
  if_neg (by simp [ha])

theorem map_append_eq_ok_iff {ε : Type} {x : Except ε Report} :
    (a ++ ·) <$> x = .ok r ↔ ∃ b, x = .ok b ∧ r = a ++ b := by
  cases x <;> simp [Functor.map, Except.map, eq_comm]

@[simp] theorem append_eq_empty_iff : a ++ b = ({} : Report) ↔ a = {} ∧ b = {} := by
  cases a
  cases b
  show Report.mk (_ ++ _) = _ ↔ _
  simp

@[simp] theorem when_eq_empty_iff {condition : Bool} :
    when condition r = ({} : Report) ↔ (condition = true → r = {}) := by
  cases condition <;> simp [when]

@[simp] theorem error_ne_empty : error position message ≠ {} := by simp [error]

@[simp] theorem warning_ne_empty : warning position message ≠ {} := by simp [warning]

@[simp] theorem info_ne_empty : info position message ≠ {} := by simp [info]

/-- Nothing is said by a stage and those behind it exactly if neither of them says anything. -/
theorem andThen_eq_empty_iff {ε : Type} {next : Unit → Except ε Report} :
    a.andThen next = .ok {} ↔ a = {} ∧ next () = .ok {} := by
  cases ha : a.hasErrors with
  | true =>
    rw [andThen_of_errors ha, Except.ok.injEq]
    refine iff_of_false (fun hempty => ?_) fun h => ?_
    · simp [hempty] at ha
    · simp [h.1] at ha
  | false =>
    rw [andThen_of_no_errors ha, map_append_eq_ok_iff]
    constructor
    · rintro ⟨b, hb, hempty⟩
      obtain ⟨ha, rfl⟩ := append_eq_empty_iff.1 hempty.symm
      exact ⟨ha, hb⟩
    · rintro ⟨rfl, hb⟩
      exact ⟨{}, hb, rfl⟩

end Report

/-! ## What each stage asks for -/

/-- The header is there, and it is one of those that are accepted. -/
structure GoodHeader (words : List Word) : Prop where
  complete : 5 ≤ words.length
  magic : words[0]? = some 0x07230203
  /-- Of the four bytes of the version the second is 1, and the third is at most 3. -/
  version : ∃ version, words[1]? = some version ∧ version.toNat / 65536 % 256 = 1 ∧
    version.toNat / 256 % 256 ≤ 3
  bound : ∃ bound, words[3]? = some bound ∧ bound ≠ 0

/-- The module declares what every shader must, and has no id that is not below its bound. -/
structure WellDeclared (m : Module) : Prop where
  memoryModel : ∃ inst, m.memoryModel = some inst ∧
    inst.operands[0]? = some (.value .addressingModel Spirv.AddressingModel.logical)
  shader : ∃ inst ∈ m.capabilities,
    inst.operands[0]? = some (.value .capability Spirv.Capability.shader)
  entryPoint : m.entryPoints ≠ []
  bounded : ∀ inst ∈ m.instructions, ∀ id ∈ inst.plainIds, id < m.bound

/-- The module has a typed representation, and that is refused. -/
def IllTyped (words : List Word) : Prop :=
  ∃ instructions m fault, Module.instructionsOf words = .ok instructions ∧
    Spirv.liftInstructions instructions = .ok m ∧ m.check = .error fault

/-- Lifting gives up on the module without a verdict. -/
def LiftingBreaks (words : List Word) (rule : Spirv.BrokenRule) : Prop :=
  ∃ instructions, Module.instructionsOf words = .ok instructions ∧
    Spirv.liftInstructions instructions = .error (.rule rule)

/-- The module is not too large, and meets what every stage asks for. -/
structure Acceptable (words : List Word) : Prop where
  size : words.length ≤ Limits.spirvWords
  header : GoodHeader words
  declarations : ∃ m, Module.ofWords words = .ok m ∧ WellDeclared m
  judged : ∀ rule, ¬ LiftingBreaks words rule
  typed : ¬ IllTyped words

theorem versionIsAccepted_iff {version : Word} : versionIsAccepted version = true ↔
    version.toNat / 65536 % 256 = 1 ∧ version.toNat / 256 % 256 ≤ 3 := by
  rw [versionIsAccepted, Bool.and_eq_true, beq_iff_eq, decide_eq_true_eq]
  rfl

theorem headerReport_passes_iff {words : List Word} :
    (headerReport words).hasErrors = false ↔ GoodHeader words := by
  match words with
  | magic :: version :: generator :: bound :: schema :: rest =>
    -- on five words and more the fields are at hand, so the conditions on the header become
    -- conditions on them
    have hgood : GoodHeader (magic :: version :: generator :: bound :: schema :: rest) ↔
        magic = Spirv.magicNumber ∧
          versionIsAccepted version = true ∧ bound ≠ 0 := by
      rw [versionIsAccepted_iff]
      constructor
      · rintro ⟨_, hmagic, ⟨v, hv, hversion⟩, ⟨b, hb, hbound⟩⟩
        simp only [List.getElem?_cons_succ, List.getElem?_cons_zero, Option.some.injEq] at *
        subst hv hb
        exact ⟨hmagic, hversion, hbound⟩
      · rintro ⟨rfl, hversion, hbound⟩
        exact ⟨by simp, rfl, ⟨version, rfl, hversion⟩, ⟨bound, rfl, hbound⟩⟩
    have hswapped : Spirv.magicNumber ≠ Spirv.swappedMagicNumber := by decide
    rw [hgood, headerReport]
    -- the magic number is looked at first, and a swapped one ends the report; what is left is the
    -- version and the bound
    by_cases hmagic : magic = Spirv.magicNumber
    · subst hmagic
      simp [hswapped]
    · by_cases hwrong : magic = Spirv.swappedMagicNumber
      · simp [hwrong, hswapped.symm]
      · simp [hmagic, hwrong]
  -- fewer words are refused, and are no header
  | [] | [_] | [_, _] | [_, _, _] | [_, _, _, _] =>
    refine ⟨fun h => (nomatch h), fun h => ?_⟩
    have hcomplete := h.complete
    simp at hcomplete

theorem headerReport_errors {words : List Word} (h : ¬ GoodHeader words) :
    (headerReport words).hasErrors = true := by
  simpa using mt headerReport_passes_iff.1 h

private theorem memoryModelReport_passes_iff {m : Module} :
    (memoryModelReport m).hasErrors = false ↔ ∃ inst, m.memoryModel = some inst ∧
      inst.operands[0]? = some (.value .addressingModel Spirv.AddressingModel.logical) := by
  unfold memoryModelReport
  cases m.memoryModel with
  | none => simp
  | some inst => simp [Spirv.Instruction.hasOperand]

private theorem entryPointReport_passes_iff {m : Module} :
    (entryPointReport m).hasErrors = false ↔ m.entryPoints ≠ [] := by
  unfold entryPointReport
  match m.entryPoints with
  | [] => simp
  | [_] => simp
  | _ :: _ :: _ => simp

private theorem boundReport_passes_iff {m : Module} : (boundReport m).hasErrors = false ↔
    ∀ inst ∈ m.instructions, ∀ id ∈ inst.plainIds, id < m.bound := by
  have hnone : unboundedId? m = none ↔
      ∀ inst ∈ m.instructions, ∀ id ∈ inst.plainIds, id < m.bound := by
    simp only [unboundedId?, List.find?_eq_none, List.mem_flatMap, decide_eq_true_eq,
      UInt32.not_le]
    exact ⟨fun h inst hinst id hid => h id ⟨inst, hinst, hid⟩,
      fun h id ⟨inst, hinst, hid⟩ => h inst hinst id hid⟩
  rw [← hnone, boundReport]
  cases unboundedId? m <;> simp

theorem structureReport_passes_iff {m : Module} :
    (structureReport m).hasErrors = false ↔ WellDeclared m := by
  have hshader : (capabilityReport m).hasErrors = false ↔ ∃ inst ∈ m.capabilities,
      inst.operands[0]? = some (.value .capability Spirv.Capability.shader) := by
    simp [capabilityReport, Spirv.Instruction.hasOperand]
  simp only [structureReport, Report.hasErrors_append, Bool.or_eq_false_iff,
    memoryModelReport_passes_iff, hshader, entryPointReport_passes_iff, boundReport_passes_iff]
  exact ⟨fun ⟨⟨⟨hmodel, hshader⟩, hentry⟩, hbound⟩ => ⟨hmodel, hshader, hentry, hbound⟩,
    fun ⟨hmodel, hshader, hentry, hbound⟩ => ⟨⟨⟨hmodel, hshader⟩, hentry⟩, hbound⟩⟩

theorem structureReport_errors {m : Module} (h : ¬ WellDeclared m) :
    (structureReport m).hasErrors = true := by
  simpa using mt structureReport_passes_iff.1 h

theorem semanticReport_passes_iff {words : List Word} :
    (∃ report, semanticReport words = .ok report ∧ report.hasErrors = false) ↔
      (∀ rule, ¬ LiftingBreaks words rule) ∧ ¬ IllTyped words := by
  unfold semanticReport LiftingBreaks IllTyped
  cases Module.instructionsOf words with
  | error e => simp
  | ok instructions =>
    cases hlift : Spirv.liftInstructions instructions with
    | ok m => cases hcheck : m.check <;> simp [hlift, hcheck]
    | error e => cases e <;> simp [hlift]

/-! ## Stages -/

/-- The stages of a check. -/
inductive CheckStage
  | header | reading | declarations | semantics

namespace CheckStage

/-- What a stage has to say of a module, if it gives a verdict. -/
def report (words : List Word) : CheckStage → Except CheckFailure Report
  | header => .ok (headerReport words)
  | reading => match Module.ofWords words with
    | .error .nestedForm => .error .nestedForm
    | .error failure => .ok (.error failure.position? s!"failed to parse module: {failure.message}")
    | .ok _ => .ok {}
  | declarations => match Module.ofWords words with
    | .error _ => .ok {}
    | .ok m => .ok (structureReport m)
  | semantics => semanticReport words

/-- The stages before a stage. -/
def before : CheckStage → List CheckStage
  | header => []
  | reading => [header]
  | declarations => [header, reading]
  | semantics => [header, reading, declarations]

/-- A stage finds no error. -/
def Passes (words : List Word) (stage : CheckStage) : Prop :=
  ∃ a, stage.report words = .ok a ∧ a.hasErrors = false

/-- A stage runs: no stage before it found an error. -/
def Runs (words : List Word) (stage : CheckStage) : Prop :=
  ∀ earlier ∈ stage.before, earlier.Passes words

variable {words : List Word}

theorem passes_reading_iff : reading.Passes words ↔ ∃ m, Module.ofWords words = .ok m := by
  unfold Passes report
  cases Module.ofWords words with
  | ok m => simp
  | error e => cases e <;> simp

theorem passes_header_iff : header.Passes words ↔ GoodHeader words := by
  simp [Passes, report, headerReport_passes_iff]

theorem runs_header : header.Runs words :=
  fun _ h => nomatch h

theorem runs_reading_iff : reading.Runs words ↔ GoodHeader words := by
  simp [Runs, before, passes_header_iff]

theorem runs_declarations_iff :
    declarations.Runs words ↔ GoodHeader words ∧ ∃ m, Module.ofWords words = .ok m := by
  simp [Runs, before, passes_header_iff, passes_reading_iff]

theorem runs_semantics_iff :
    semantics.Runs words ↔
      GoodHeader words ∧ ∃ m, Module.ofWords words = .ok m ∧ WellDeclared m := by
  -- the stage before has passed, which says that its report, that on the declarations of the
  -- module, has no errors
  have hdeclared : (∃ m, Module.ofWords words = .ok m) ∧ declarations.Passes words ↔
      ∃ m, Module.ofWords words = .ok m ∧ WellDeclared m := by
    constructor
    · rintro ⟨⟨m, hm⟩, a, hreport, hpasses⟩
      obtain rfl : structureReport m = a := by simpa [report, hm] using hreport
      exact ⟨m, hm, structureReport_passes_iff.1 hpasses⟩
    · rintro ⟨m, hm, hwell⟩
      exact ⟨⟨m, hm⟩, structureReport m, by simp [report, hm],
        structureReport_passes_iff.2 hwell⟩
  rw [← hdeclared]
  simp [Runs, before, passes_header_iff, passes_reading_iff]

/-- What a stage adds to the report: what it has to say if it runs, and nothing otherwise. -/
def Adds (words : List Word) (stage : CheckStage) (a : Report) : Prop :=
  (stage.Runs words → stage.report words = .ok a) ∧ (¬ stage.Runs words → a = {})

theorem adds_of_runs {stage : CheckStage} {a : Report} (h : stage.Runs words) :
    stage.Adds words a ↔ stage.report words = .ok a :=
  ⟨fun hadds => hadds.1 h, fun hreport => ⟨fun _ => hreport, fun hnot => absurd h hnot⟩⟩

theorem adds_of_not_runs {stage : CheckStage} {a : Report} (h : ¬ stage.Runs words) :
    stage.Adds words a ↔ a = {} :=
  ⟨fun hadds => hadds.2 h, fun hempty => ⟨fun hruns => absurd hruns h, fun _ => hempty⟩⟩

end CheckStage

open CheckStage

/-- The report is what the stages add, in their order. -/
def Tells (words : List Word) (r : Report) : Prop :=
  ∃ first read declared meant : Report,
    header.Adds words first ∧ reading.Adds words read ∧ declarations.Adds words declared ∧
      semantics.Adds words meant ∧ r = first ++ read ++ declared ++ meant

variable {words : List Word} {r : Report}

/-- A module that cannot be read has nothing more to be said of it. -/
theorem bodyReport_of_unread {failure : Spirv.ReadFailure}
    (h : Module.ofWords words = .error failure) : bodyReport words = reading.report words := by
  unfold bodyReport report
  rw [h]
  cases failure <;> rfl

theorem bodyReport_of_read {m : Module} (h : Module.ofWords words = .ok m) :
    bodyReport words = (structureReport m).andThen fun _ => semanticReport words := by
  unfold bodyReport
  rw [h]

/-- The report is what the stages that run have to say.  One case for each stage that can be the last. -/
theorem fullReport_eq_ok_iff : fullReport words = .ok r ↔ Tells words r := by
  unfold fullReport Tells
  simp only [adds_of_runs runs_header, show header.report words = .ok (headerReport words) from rfl]
  -- the header is wrong: no other stage runs, and each of them adds nothing
  by_cases hheader : GoodHeader words
  case neg =>
    have hreading : ¬ reading.Runs words := mt runs_reading_iff.1 hheader
    have hdeclarations : ¬ declarations.Runs words := fun h => hheader (runs_declarations_iff.1 h).1
    have hsemantics : ¬ semantics.Runs words := fun h => hheader (runs_semantics_iff.1 h).1
    rw [Report.andThen_of_errors (headerReport_errors hheader)]
    simp [adds_of_not_runs hreading, adds_of_not_runs hdeclarations, adds_of_not_runs hsemantics,
      eq_comm]
  have hreading : reading.Runs words := runs_reading_iff.2 hheader
  simp only [Report.andThen_of_no_errors (headerReport_passes_iff.2 hheader),
    Report.map_append_eq_ok_iff, adds_of_runs hreading]
  -- the words cannot be read: the reading stage is the last
  cases hread : Module.ofWords words with
  | error failure =>
    have hdeclarations : ¬ declarations.Runs words := fun h => by
      simp [runs_declarations_iff, hread] at h
    have hsemantics : ¬ semantics.Runs words := fun h => by simp [runs_semantics_iff, hread] at h
    simp [bodyReport_of_unread hread, adds_of_not_runs hdeclarations, adds_of_not_runs hsemantics]
  | ok m =>
    have hdeclarations : declarations.Runs words := runs_declarations_iff.2 ⟨hheader, m, hread⟩
    have hnothing : reading.report words = .ok {} := by simp [report, hread]
    have hdeclared : declarations.report words = .ok (structureReport m) := by simp [report, hread]
    simp only [bodyReport_of_read hread, adds_of_runs hdeclarations, hnothing, hdeclared]
    -- the module is read, so the declarations are looked at, and the semantics only if these are in
    -- order
    by_cases hwell : WellDeclared m
    · have hsemantics : semantics.Runs words := runs_semantics_iff.2 ⟨hheader, m, hread, hwell⟩
      have hmeant : semantics.report words = semanticReport words := rfl
      simp only [Report.andThen_of_no_errors (structureReport_passes_iff.2 hwell),
        Report.map_append_eq_ok_iff, adds_of_runs hsemantics, hmeant]
      constructor
      · rintro ⟨_, ⟨meant, hsaid, rfl⟩, rfl⟩
        exact ⟨_, _, _, meant, rfl, rfl, rfl, hsaid, by simp [Report.append_assoc]⟩
      · rintro ⟨_, _, _, meant, ⟨⟩, ⟨⟩, ⟨⟩, hsaid, rfl⟩
        exact ⟨_, ⟨meant, hsaid, rfl⟩, by simp [Report.append_assoc]⟩
    · have hsemantics : ¬ semantics.Runs words := fun h => by
        simp [runs_semantics_iff, hread, hwell] at h
      simp [Report.andThen_of_errors (structureReport_errors hwell), adds_of_not_runs hsemantics]

/-- No stage finds an error exactly if the module meets what every stage asks for. -/
theorem fullReport_passes_iff : (∃ r, fullReport words = .ok r ∧ r.hasErrors = false) ↔
    GoodHeader words ∧ (∃ m, Module.ofWords words = .ok m ∧ WellDeclared m) ∧
      (∀ rule, ¬ LiftingBreaks words rule) ∧ ¬ IllTyped words := by
  rw [← semanticReport_passes_iff]
  constructor
  · rintro ⟨r, hfull, hnoerrors⟩
    obtain ⟨first, read, declared, meant, hfirst, hread, hdeclared, hmeant, rfl⟩ :=
      fullReport_eq_ok_iff.1 hfull
    simp only [Report.hasErrors_append, Bool.or_eq_false_iff] at hnoerrors
    obtain ⟨⟨⟨hfirst', hread'⟩, hdeclared'⟩, hmeant'⟩ := hnoerrors
    -- each stage runs because those before it pass
    have hheader : header.Passes words := ⟨first, hfirst.1 runs_header, hfirst'⟩
    have hreading : reading.Passes words :=
      ⟨read, hread.1 (runs_reading_iff.2 (passes_header_iff.1 hheader)), hread'⟩
    have hdeclarations : declarations.Passes words :=
      ⟨declared, hdeclared.1 (runs_declarations_iff.2
        ⟨passes_header_iff.1 hheader, passes_reading_iff.1 hreading⟩), hdeclared'⟩
    have hsemantics : semantics.Runs words := by
      simp [Runs, before, hheader, hreading, hdeclarations]
    obtain ⟨hgood, hwell⟩ := runs_semantics_iff.1 hsemantics
    exact ⟨hgood, hwell, meant, hmeant.1 hsemantics, hmeant'⟩
  · rintro ⟨hheader, ⟨m, hm, hwell⟩, meant, hsaid, hmeant⟩
    refine ⟨headerReport words ++ (structureReport m ++ meant), ?_, ?_⟩
    · rw [fullReport, Report.andThen_of_no_errors (headerReport_passes_iff.2 hheader),
        bodyReport_of_read hm, Report.andThen_of_no_errors (structureReport_passes_iff.2 hwell),
        hsaid]
      rfl
    · simp [headerReport_passes_iff.2 hheader, structureReport_passes_iff.2 hwell, hmeant]

theorem acceptable_iff : Acceptable words ↔
    words.length ≤ Limits.spirvWords ∧ ∃ r, fullReport words = .ok r ∧ r.hasErrors = false := by
  rw [fullReport_passes_iff]
  exact ⟨fun ⟨hsize, hheader, hdeclared, hjudged, htyped⟩ =>
      ⟨hsize, hheader, hdeclared, hjudged, htyped⟩,
    fun ⟨hsize, hheader, hdeclared, hjudged, htyped⟩ =>
      ⟨hsize, hheader, hdeclared, hjudged, htyped⟩⟩

private theorem check_of_large (hsize : Limits.spirvWords < words.length) :
    check words = .error (.tooLarge words.length) := by
  rw [check, if_pos hsize]
  rfl

private theorem check_of_small (hsize : words.length ≤ Limits.spirvWords) :
    check words = fullReport words >>= fun r =>
      if r.hasErrors then .error (.report r) else .ok r := by
  rw [check, if_neg (Nat.not_lt.2 hsize)]
  cases fullReport words with
  | error _ => rfl
  | ok r => cases hr : r.hasErrors <;> simp [bind, Except.bind, hr] <;> rfl

theorem check_eq_ok_iff : check words = .ok r ↔
    words.length ≤ Limits.spirvWords ∧ fullReport words = .ok r ∧ r.hasErrors = false := by
  by_cases hsize : words.length ≤ Limits.spirvWords
  -- a module that is too large is refused whatever its report
  case neg =>
    rw [check_of_large (Nat.not_le.1 hsize)]
    exact ⟨nofun, fun h => absurd h.1 hsize⟩
  rw [check_of_small hsize, Except.bind_eq_ok_iff]
  constructor
  · rintro ⟨a, hfull, ha⟩
    cases hr : a.hasErrors with
    | true => simp [hr] at ha
    | false =>
      obtain rfl : a = r := by simpa [hr] using ha
      exact ⟨hsize, hfull, hr⟩
  · rintro ⟨-, hfull, hr⟩
    exact ⟨r, hfull, by simp [hr]⟩

theorem check_eq_error_iff {failure : CheckFailure} : check words = .error failure ↔
    (Limits.spirvWords < words.length ∧ failure = .tooLarge words.length) ∨
      words.length ≤ Limits.spirvWords ∧ (fullReport words = .error failure ∨
        ∃ r, fullReport words = .ok r ∧ r.hasErrors = true ∧ failure = .report r) := by
  by_cases hsize : words.length ≤ Limits.spirvWords
  -- on a module that is too large this is the only error
  case neg =>
    rw [check_of_large (Nat.not_le.1 hsize)]
    constructor
    · rintro ⟨⟩
      exact .inl ⟨Nat.not_le.1 hsize, rfl⟩
    · rintro (⟨-, rfl⟩ | ⟨hsmall, -⟩)
      · rfl
      · exact absurd hsmall hsize
  -- on the others the failure is that of the full report, or the report itself if it has errors
  have hnotlarge : ¬ Limits.spirvWords < words.length := Nat.not_lt.2 hsize
  simp only [check_of_small hsize, hnotlarge, false_and, false_or, hsize, true_and]
  cases fullReport words with
  | error e => simp [bind, Except.bind]
  | ok r =>
    cases hr : r.hasErrors with
    | true =>
      have hsame : CheckFailure.report r = failure ↔ failure = .report r := eq_comm
      simp [bind, Except.bind, hr, hsame]
    | false => simp [bind, Except.bind, hr]

theorem headerReport_eq_empty_iff : headerReport words = {} ↔
    GoodHeader words ∧ words[2]? ≠ some 0 ∧ words[4]? = some 0 := by
  by_cases hgood : GoodHeader words
  case neg =>
    refine iff_of_false (fun hempty => ?_) fun h => hgood h.1
    simpa [hempty] using headerReport_errors hgood
  -- of a good header only the generator and the reserved word can be odd
  have hsame := and_iff_right (b := words[2]? ≠ some 0 ∧ words[4]? = some 0) hgood
  rw [hsame]
  obtain ⟨hcomplete, hmagic, ⟨v, hv, hmajor, hminor⟩, ⟨b, hb, hpositive⟩⟩ := hgood
  match words with
  | magic :: version :: generator :: bound :: schema :: rest =>
    have hswapped : Spirv.magicNumber ≠ Spirv.swappedMagicNumber := by decide
    obtain rfl : magic = Spirv.magicNumber := Option.some.inj hmagic
    obtain rfl : version = v := Option.some.inj hv
    obtain rfl : bound = b := Option.some.inj hb
    have haccepted := versionIsAccepted_iff.2 ⟨hmajor, hminor⟩
    rw [headerReport, if_neg hswapped, if_neg fun h => h rfl]
    simp [haccepted, hpositive]
  | [] | [_] | [_, _] | [_, _, _] | [_, _, _, _] => simp at hcomplete

/-- A header with a zero bound is refused, and what is merely odd about it is still told. -/
example : (headerReport [Spirv.magicNumber, 0x10000, 0, 0, 5]).diagnostics.map (·.level) =
    [.info, .error, .warning] := by decide

/-- The declarations are spoken of for an error only, but for several entry points. -/
theorem structureReport_eq_empty_iff {m : Module} :
    structureReport m = {} ↔ WellDeclared m ∧ m.entryPoints.length = 1 := by
  have hmodel : memoryModelReport m = {} ↔ (memoryModelReport m).hasErrors = false := by
    unfold memoryModelReport
    cases m.memoryModel <;> simp
  have hshader : capabilityReport m = {} ↔ (capabilityReport m).hasErrors = false := by
    simp [capabilityReport]
  have hbound : boundReport m = {} ↔ (boundReport m).hasErrors = false := by
    unfold boundReport
    cases unboundedId? m <;> simp
  have hentry : entryPointReport m = {} ↔
      (entryPointReport m).hasErrors = false ∧ m.entryPoints.length = 1 := by
    unfold entryPointReport
    match m.entryPoints with
    | [] => simp
    | [_] => simp
    | _ :: _ :: _ => simp
  simp only [← structureReport_passes_iff, structureReport, Report.append_eq_empty_iff,
    Report.hasErrors_append, Bool.or_eq_false_iff, hmodel, hshader, hbound, hentry]
  grind

/-- The module has a typed representation, and that is accepted. -/
def Representable (words : List Word) : Prop :=
  ∀ instructions, Module.instructionsOf words = .ok instructions →
    ∃ m, Spirv.liftInstructions instructions = .ok m ∧ m.check = .ok ()

theorem semanticReport_eq_empty_iff : semanticReport words = .ok {} ↔ Representable words := by
  unfold semanticReport Representable
  cases Module.instructionsOf words with
  | error e => simp
  | ok instructions =>
    cases hlift : Spirv.liftInstructions instructions with
    | ok m => cases hcheck : m.check <;> simp [hlift, hcheck]
    | error e => cases e <;> simp [hlift]

theorem bodyReport_eq_empty_iff : bodyReport words = .ok {} ↔
    (∃ m, Module.ofWords words = .ok m ∧ WellDeclared m ∧ m.entryPoints.length = 1) ∧
      Representable words := by
  cases hread : Module.ofWords words with
  | error failure =>
    rw [bodyReport_of_unread hread]
    unfold CheckStage.report
    rw [hread]
    cases failure <;> simp
  | ok m =>
    rw [bodyReport_of_read hread, Report.andThen_eq_empty_iff, structureReport_eq_empty_iff,
      semanticReport_eq_empty_iff]
    simp

/-- A module passes without a word exactly if it meets what every stage asks for and nothing about it
is odd: its generator is registered, the reserved word of its header is zero, it has one entry point
only, and it has a typed representation. -/
theorem check_silent_iff : check words = .ok {} ↔ words.length ≤ Limits.spirvWords ∧
    (GoodHeader words ∧ words[2]? ≠ some 0 ∧ words[4]? = some 0) ∧
      (∃ m, Module.ofWords words = .ok m ∧ WellDeclared m ∧ m.entryPoints.length = 1) ∧
        Representable words := by
  rw [check_eq_ok_iff, and_iff_left (a := fullReport words = .ok {}) Report.hasErrors_empty, fullReport,
    Report.andThen_eq_empty_iff, headerReport_eq_empty_iff, bodyReport_eq_empty_iff]

end ShaderKit.Validation
