import ShaderKit.Proofs.Vertex.Feeding
import ShaderKit.Proofs.Vertex.Pulling

/-!
# Which vertex states pulling accepts

Pulling checks the entry point, the group and the state before it builds anything, and the inputs while it
builds the code that reads them.  Each check is an equivalence here, and pulling succeeds exactly if all of
them do and all words that are read have a number.

## Key results

- `exists_pullingTarget_iff`, `checkPullingGroup_ok_iff`: what the first checks let through
- `pull_ends`: pulling succeeds exactly if nothing stands against it, and the words that are read have a number
- `pull_accepts`: pulling accepts what it can pull, and refuses everything else with an error
-/

namespace ShaderKit.Vertex

open Ir

variable {m : Module} {state : State} {entryPoint : String} {group : Nat}

/-! ### The first checks -/

/-- The target is the first entry point of the name, if that is of the vertex stage. -/
theorem exists_pullingTarget_iff {entry : EntryPoint} :
    (∃ index, pullingTarget m entryPoint = .ok (index, entry)) ↔
      m.entryPoints.find? (·.name == entryPoint) = some entry ∧ entry.stage = .vertex := by
  rw [List.find?_eq_bind_findIdx?_getElem?]
  unfold pullingTarget
  -- the index is found and then looked up; both together are one search for the name
  cases m.entryPoints.findIdx? (·.name == entryPoint) with
  | none => exact iff_of_false nofun nofun
  | some index =>
    cases hfound : m.entryPoints[index]? with
    | none => simp [hfound]
    | some found =>
      -- an entry point of the name that is of another stage is refused, and no later one is tried
      by_cases hstage : found.stage = .vertex
      · simp only [hfound, if_pos hstage, Option.bind_some, Except.ok.injEq, Prod.mk.injEq, exists_eq_left',
          Option.some.injEq]
        exact ⟨fun h => ⟨h, h ▸ hstage⟩, And.left⟩
      · simp only [hfound, if_neg hstage, Option.bind_some]
        refine iff_of_false nofun ?_
        rintro ⟨⟨⟩, h⟩
        exact hstage h

/-- The group has to be below the limit, with no global variable in it. -/
theorem checkPullingGroup_ok_iff :
    checkPullingGroup m group = .ok () ↔
      group < Limits.bindGroups ∧ ∀ g ∈ m.globals, ∀ b, g.binding = some b → b.group ≠ group := by
  -- the search for a variable in the group comes to nothing exactly if there is none
  have hfree : m.globals.find? (fun g => g.binding.any (·.group == group)) = none ↔
      ∀ g ∈ m.globals, ∀ b, g.binding = some b → b.group ≠ group := by
    simp [List.find?_eq_none, Option.any_eq_true]
  rw [← hfree]
  unfold checkPullingGroup
  -- the limit is looked at first
  by_cases hlimit : Limits.bindGroups ≤ group
  · rw [if_pos hlimit]
    exact iff_of_false nofun fun h => Nat.not_lt.2 hlimit h.1
  · rw [if_neg hlimit]
    cases m.globals.find? (fun g => g.binding.any (·.group == group)) with
    | none => exact iff_of_true rfl ⟨Nat.not_le.1 hlimit, rfl⟩
    | some g => exact iff_of_false nofun nofun

/-! ### Errors of the first checks

None of them counts words, so none gives up because a word has no number. -/

theorem not_overflows_pullingTarget {e : PullingError} (h : pullingTarget m entryPoint = .error e) :
    ¬ e.Overflows := by
  rintro ⟨location, rfl⟩
  unfold pullingTarget at h
  split at h
  · cases h
  · split at h
    · cases h
    · split at h <;> cases h

theorem not_overflows_checkPullingGroup {e : PullingError} (h : checkPullingGroup m group = .error e) :
    ¬ e.Overflows := by
  rintro ⟨location, rfl⟩
  unfold checkPullingGroup at h
  split at h
  · cases h
  · split at h <;> cases h

theorem not_overflows_addAttribute {slot : Nat} {l : WordLayout} {a : Attribute} {e : PullingError}
    (h : l.addAttribute slot a = .error e) : ¬ e.Overflows := by
  rintro ⟨location, rfl⟩
  unfold WordLayout.addAttribute at h
  split at h
  · cases h
  · split at h
    · cases h
    · split at h
      · cases h
      · split at h <;> cases h

theorem not_overflows_addBuffer {l : WordLayout} {b : BufferLayout} {e : PullingError}
    (h : l.addBuffer b = .error e) : ¬ e.Overflows := by
  rintro ⟨location, rfl⟩
  unfold WordLayout.addBuffer at h
  simp only at h
  split at h
  · cases h
  · split at h
    · cases h
    · obtain ⟨_, _, _, _, _, _, h⟩ := Except.foldlM_eq_error_iff.1 h
      exact not_overflows_addAttribute h ⟨location, rfl⟩

theorem not_overflows_ofState {e : PullingError} (h : WordLayout.ofState state = .error e) :
    ¬ e.Overflows := by
  rintro ⟨location, rfl⟩
  unfold WordLayout.ofState at h
  split at h
  · cases h
  · obtain ⟨_, _, _, _, _, _, h⟩ := Except.foldlM_eq_error_iff.1 h
    exact not_overflows_addBuffer h ⟨location, rfl⟩

/-! ### All checks -/

/-- The types of a module that pulls its inputs: a word and an array of words are among them. -/
def pullingTypes (m : Module) : List TypeInfo :=
  let (types, wordType) := internType m.types { shape := .scalar .u32 }
  (internType types { shape := .array wordType .dynamic 4 }).1

/-- The module's own types come first. -/
theorem prefix_pullingTypes (m : Module) : m.types <+: pullingTypes m :=
  (internType_spec m.types _).1.trans (internType_spec _ _).1

/-- Nothing stands against pulling the inputs of the entry point from buffers in the group. -/
structure Pullable (m : Module) (types : List TypeInfo) (state : State) (entryPoint : String)
    (group : Nat) : Prop where
  /-- The first entry point of that name is of the vertex stage, and the state feeds its inputs. -/
  entry : ∃ entry, m.entryPoints.find? (·.name == entryPoint) = some entry ∧ entry.stage = .vertex ∧
    ∀ a ∈ entry.function.arguments, State.Feeds types state a.binding a.type
  limit : group < Limits.bindGroups
  free : ∀ g ∈ m.globals, ∀ b, g.binding = some b → b.group ≠ group
  placeable : state.Placeable

/-- The state can be turned into words, and has an attribute with a word that has no number at the location of
an input of the entry point. -/
def ReadsUnnumbered (m : Module) (types : List TypeInfo) (state : State) (entryPoint : String)
    (location : Nat) : Prop :=
  state.Placeable ∧ ∃ entry blend interpolation sampling type,
    m.entryPoints.find? (·.name == entryPoint) = some entry ∧
      IsInput types entry.function.arguments (some (.location location blend interpolation sampling)) type ∧
        state.Unnumbered location

/-- The inputs of an entry point are pulled exactly if the state feeds them, and their words have a number. -/
theorem inputs_ends {s : PullingScope} (hs : s.layout.Placed state (slotted state 0))
    {arguments : List Argument} (start : Builder) :
    Ends (∀ a ∈ arguments, State.Feeds s.types state a.binding a.type)
      (fun location => ∃ a ∈ arguments, PullingScope.ReadsUnnumbered s.types state a.binding a.type location)
      ((arguments.mapM fun a => s.inputValue (s.types.length + 1) a.binding a.type).run start) :=
  Ends.mapM (fun a _ b => PullingScope.inputValue_ends hs (Nat.le_succ _) a.binding a.type b) start

/-- Pulling succeeds exactly if nothing stands against it, and the words that are read have a number. -/
theorem pull_ends (m : Module) (state : State) (entryPoint : String) (group : Nat) :
    Ends (Pullable m (pullingTypes m) state entryPoint group)
      (ReadsUnnumbered m (pullingTypes m) state entryPoint) (pull m state entryPoint group) := by
  unfold pull
  cases htarget : pullingTarget m entryPoint with
  | error e =>
    refine .refused (not_overflows_pullingTarget htarget) fun h => ?_
    obtain ⟨entry, hfound, hstage, _⟩ := h.entry
    obtain ⟨index, hok⟩ := exists_pullingTarget_iff.2 ⟨hfound, hstage⟩
    exact nomatch htarget.symm.trans hok
  | ok target =>
    obtain ⟨index, entry⟩ := target
    obtain ⟨hfound, hstage⟩ := exists_pullingTarget_iff.1 ⟨index, htarget⟩
    cases hgroup : checkPullingGroup m group with
    | error e =>
      refine .refused (not_overflows_checkPullingGroup hgroup) fun h => ?_
      exact nomatch hgroup.symm.trans (checkPullingGroup_ok_iff.2 ⟨h.limit, h.free⟩)
    | ok _ =>
      obtain ⟨hlimit, hfree⟩ := checkPullingGroup_ok_iff.1 hgroup
      cases hlayout : WordLayout.ofState state with
      | error e =>
        refine .refused (not_overflows_ofState hlayout) fun h => ?_
        obtain ⟨layout, hok⟩ := WordLayout.ofState_ok_iff.2 h.placeable
        exact nomatch hlayout.symm.trans hok
      | ok layout =>
        have hplaceable := WordLayout.ofState_ok_iff.1 ⟨layout, hlayout⟩
        -- behind the first checks it is the inputs that decide
        have hinputs := @inputs_ends state ⟨pullingTypes m, layout, m.globals.length, 0, 1⟩
          (WordLayout.placed_of_ofState hlayout) entry.function.arguments
          { expressions := [.argument 0, .argument 1] }
        refine (hinputs.map _).congr ⟨fun hfed => ?_, fun h => ?_⟩ fun location => ⟨?_, ?_⟩
        · exact ⟨⟨entry, hfound, hstage, hfed⟩, hlimit, hfree, hplaceable⟩
        · obtain ⟨entry', hfound', _, hfed⟩ := h.entry
          cases hfound.symm.trans hfound'
          exact hfed
        · rintro ⟨a, ha, ⟨blend, interpolation, sampling, type, hpart⟩, h⟩
          exact ⟨hplaceable, entry, blend, interpolation, sampling, type, hfound, ⟨a, ha, hpart⟩, h⟩
        · rintro ⟨_, entry', blend, interpolation, sampling, type, hfound', ⟨a, ha, hpart⟩, h⟩
          cases hfound.symm.trans hfound'
          exact ⟨a, ha, ⟨blend, interpolation, sampling, type, hpart⟩, h⟩

/-- The types of the module and of the inputs of its entry points are made of types of the module. -/
structure TypesInRange (m : Module) : Prop where
  parts : TypesClosed m.types
  arguments : ∀ e ∈ m.entryPoints, ∀ a ∈ e.function.arguments, a.type < m.types.length

/-- What a state feeds is a matter of the module's own types, if it refers to no others. -/
theorem pullable_own_types_iff (hm : TypesInRange m) :
    Pullable m (pullingTypes m) state entryPoint group ↔ Pullable m m.types state entryPoint group := by
  have hfed {entry : EntryPoint} (hfound : m.entryPoints.find? (·.name == entryPoint) = some entry) :
      (∀ a ∈ entry.function.arguments, State.Feeds (pullingTypes m) state a.binding a.type) ↔
        ∀ a ∈ entry.function.arguments, State.Feeds m.types state a.binding a.type :=
    forall₂_congr fun a ha => State.feeds_iff_of_prefix (prefix_pullingTypes m) hm.parts
      (hm.arguments entry (List.mem_of_find?_eq_some hfound) a ha)
  constructor
  · rintro ⟨⟨entry, hfound, hstage, h⟩, hlimit, hfree, hplaceable⟩
    exact ⟨⟨entry, hfound, hstage, (hfed hfound).1 h⟩, hlimit, hfree, hplaceable⟩
  · rintro ⟨⟨entry, hfound, hstage, h⟩, hlimit, hfree, hplaceable⟩
    exact ⟨⟨entry, hfound, hstage, (hfed hfound).2 h⟩, hlimit, hfree, hplaceable⟩

/-- Where the words of a state have a number, none without one is read. -/
theorem not_readsUnnumbered_of_numbered (h : state.Numbered) {types : List TypeInfo} {location : Nat} :
    ¬ ReadsUnnumbered m types state entryPoint location := by
  rintro ⟨hplaceable, _, _, _, _, _, _, _, _, layout, a, hdeclares, _, hnot⟩
  have ha : a ∈ State.attributes state :=
    List.mem_flatMap.2 ⟨layout, List.mem_of_getElem? hdeclares.slot, hdeclares.mem⟩
  exact hnot (h a ha (hplaceable.attributes a ha).offset.2)

/-- Where the words of the attributes have a number, pulling gives a module exactly if nothing stands against it,
and an error otherwise.  In general it gives a module exactly if nothing stands against it and the words that are
read have a number.  The types that the state has to feed are the module's own, if it refers to no others. -/
theorem pull_accepts (m : Module) (state : State) (entryPoint : String) (group : Nat) :
    (state.Numbered →
      ((∃ m', pull m state entryPoint group = .ok m') ↔
        Pullable m (pullingTypes m) state entryPoint group) ∧
      ((∃ e, pull m state entryPoint group = .error e ∧ ¬ e.Overflows) ↔
        ¬ Pullable m (pullingTypes m) state entryPoint group)) ∧
    ((∃ m', pull m state entryPoint group = .ok m') ↔
      Pullable m (pullingTypes m) state entryPoint group ∧
        ∀ location, ¬ ReadsUnnumbered m (pullingTypes m) state entryPoint location) ∧
    (TypesInRange m →
      (Pullable m (pullingTypes m) state entryPoint group ↔
        Pullable m m.types state entryPoint group)) := by
  -- how pulling ends is known in all cases; what is left is to read the three statements off that
  have hends := pull_ends m state entryPoint group
  refine ⟨fun hstate => ?_, hends.ok_iff, pullable_own_types_iff⟩
  have hnumbered (location : Nat) : ¬ ReadsUnnumbered m (pullingTypes m) state entryPoint location :=
    not_readsUnnumbered_of_numbered hstate
  exact ⟨hends.ok_iff.trans (and_iff_left hnumbered), hends.error_iff hnumbered⟩

/-- Two floats for each vertex feed a struct of the vertex index and a position. -/
theorem pull_accepts_indexedPosition :
    TypesInRange indexedPosition ∧ twoFloats.Numbered ∧
      (∃ m', pull indexedPosition twoFloats "main" 1 = .ok m') ∧
      Pullable indexedPosition indexedPosition.types twoFloats "main" 1 := by
  have hrange : TypesInRange indexedPosition := ⟨by decide, by decide⟩
  have hnumbered : twoFloats.Numbered := by decide
  obtain ⟨haccepts, _, hown⟩ := pull_accepts indexedPosition twoFloats "main" 1
  obtain ⟨m', hpull, _⟩ := Except.exists_eq_ok_of_decide (x := pull indexedPosition twoFloats "main" 1)
    (P := fun _ => True) (by decide +kernel)
  exact ⟨hrange, hnumbered, ⟨m', hpull⟩, (hown hrange).1 ((haccepts hnumbered).1.1 ⟨m', hpull⟩)⟩

end ShaderKit.Vertex
