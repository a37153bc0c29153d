import ShaderKit.Proofs.Vertex.Acceptance

/-!
# What pulling leaves as it was

Pulling adds to a module and changes one entry point.  What was there keeps its place and its meaning: types,
variables and functions are only added, and no other entry point is touched.

## Key results

- `internType_eq`: interning adds a type at the end, and only if it is not there
- `pullingTypes_eq`: pulling adds at most a word and an array of words to the types
- `pull_changes_only`: what pulling adds, what it changes, and what it leaves as it was
-/

namespace ShaderKit.Ir

/-- Interning adds a type at the end, and only if it is not there. -/
theorem internType_eq (types : List TypeInfo) (t : TypeInfo) :
    ∃ added, (internType types t).1 = types ++ added ∧ added.Sublist [t] ∧ ∀ x ∈ added, x ∉ types := by
  unfold internType
  cases h : types.findIdx? (· == t) with
  | some i => exact ⟨[], by simp, List.nil_sublist _, by simp⟩
  | none =>
    refine ⟨[t], rfl, List.Sublist.refl _, fun x hx hmem => ?_⟩
    simpa [List.mem_singleton.1 hx] using List.findIdx?_eq_none_iff.1 h x hmem

/-- Interning keeps types free of repetition. -/
theorem nodup_internType {types : List TypeInfo} (t : TypeInfo) (h : types.Nodup) :
    (internType types t).1.Nodup := by
  obtain ⟨added, heq, hadded, hnew⟩ := internType_eq types t
  rw [heq]
  exact h.append (hadded.nodup (List.nodup_singleton t)) fun x hx hmem => hnew x hmem hx

end ShaderKit.Ir

namespace ShaderKit.Vertex

open Ir

/-- Pulling adds at most a word and an array of words to the types, and neither if it is there. -/
theorem pullingTypes_eq (m : Module) : ∃ wordType added, pullingTypes m = m.types ++ added ∧
    added.Sublist [{ shape := .scalar .u32 }, { shape := .array wordType .dynamic 4 }] ∧
    ∀ t ∈ added, t ∉ m.types := by
  let interned := internType m.types { shape := .scalar .u32 }
  obtain ⟨first, hfirst, hword, hnew⟩ := internType_eq m.types { shape := .scalar .u32 }
  obtain ⟨second, hsecond, hwords, hnew'⟩ :=
    internType_eq interned.1 { shape := .array interned.2 .dynamic 4 }
  refine ⟨interned.2, first ++ second, ?_, hword.append hwords, fun t ht => ?_⟩
  · rw [← List.append_assoc, ← hfirst]
    exact hsecond
  · rcases List.mem_append.1 ht with ht | ht
    · exact hnew t ht
    · exact fun hmem => hnew' t ht (hfirst ▸ List.mem_append_left _ hmem)

/-- Pulling keeps types free of repetition. -/
theorem nodup_pullingTypes {m : Module} (h : m.types.Nodup) : (pullingTypes m).Nodup :=
  nodup_internType _ (nodup_internType _ h)

/-- What pulling does to the parts of a module that it has no code for, and where it puts its buffers. -/
theorem untouched_of_pull {m m' : Module} {state : State} {entryPoint : String} {group : Nat}
    (h : pull m state entryPoint group = .ok m') :
    m'.types = pullingTypes m ∧ m'.constants = m.constants ∧ m'.overrides = m.overrides ∧
      m'.globalExpressions = m.globalExpressions ∧
      ∀ g ∈ m.globals, ∀ b, g.binding = some b → b.group ≠ group := by
  unfold pull at h
  simp only [Except.bind_eq_ok_iff] at h
  obtain ⟨⟨index, entry⟩, _, ⟨⟩, hgroup, layout, _, ⟨arguments, built⟩, _, h⟩ := h
  cases h
  exact ⟨rfl, rfl, rfl, rfl, (checkPullingGroup_ok_iff.1 hgroup).2⟩

/-- The bindings of buffers in a free group repeat none. -/
theorem nodup_bindings_append {globals : List GlobalVariable} {group : Nat} (wordsType : TypeId)
    (count : Nat) (hfree : ∀ g ∈ globals, ∀ b, g.binding = some b → b.group ≠ group)
    (h : (globals.filterMap (·.binding)).Nodup) :
    ((globals ++ (List.range count).map (bufferGlobal group wordsType)).filterMap (·.binding)).Nodup := by
  -- the new bindings are one for each slot, all in the group
  have hbuffers : ((List.range count).map (bufferGlobal group wordsType)).filterMap (·.binding) =
      (List.range count).map (ResourceBinding.mk group) := by
    rw [List.filterMap_map, ← List.filterMap_eq_map]
    rfl
  rw [List.filterMap_append, hbuffers]
  refine h.append (List.Nodup.map (fun _ _ heq => (ResourceBinding.mk.inj heq).2) List.nodup_range) ?_
  -- a binding of before is not in the group, as it was free
  intro b hold hnew
  obtain ⟨g, hg, hb⟩ := List.mem_filterMap.1 hold
  obtain ⟨slot, _, rfl⟩ := List.mem_map.1 hnew
  exact hfree g hg _ hb rfl

/-- Pulling the inputs of `entry`, which stands at `index`, changes only what it must.  There are `buffers`
vertex buffers, and `entry'` stands in place of `entry` afterwards. -/
structure ChangesOnly (m m' : Module) (entryPoint : String) (group buffers index : Nat)
    (entry entry' : EntryPoint) : Prop where
  types : m.types <+: m'.types
  fewTypes : m'.types.length ≤ m.types.length + 2
  newTypes : ∀ t ∈ m'.types.drop m.types.length, t ∉ m.types
  distinctTypes : m.types.Nodup → m'.types.Nodup
  constants : m'.constants = m.constants
  overrides : m'.overrides = m.overrides
  globalExpressions : m'.globalExpressions = m.globalExpressions
  globals : m.globals <+: m'.globals
  newGlobals : m'.globals.length = m.globals.length + buffers
  /-- The new variables are arrays of words that can only be loaded, one binding after another. -/
  buffer : ∀ slot < buffers, ∃ g wordType, m'.globals[m.globals.length + slot]? = some g ∧
    g.space = .storage { load := true } ∧ g.binding = some ⟨group, slot⟩ ∧ g.init = none ∧
    m'.shape? g.type = some (.array wordType .dynamic 4) ∧ m'.shape? wordType = some (.scalar .u32)
  distinctBindings : (m.globals.filterMap (·.binding)).Nodup → (m'.globals.filterMap (·.binding)).Nodup
  functions : m'.functions = m.functions ++ [{ entry.function with
    name := some (entryPoint ++ "_inner")
    arguments := entry.function.arguments.map fun a => { a with binding := none }
    result := entry.function.result.map fun r => { r with binding := none } }]
  original : m.entryPoints[index]? = some entry ∧ entry.name = entryPoint ∧ entry.stage = .vertex
  replaced : m'.entryPoints[index]? = some entry'
  others : ∀ i ≠ index, m'.entryPoints[i]? = m.entryPoints[i]?
  /-- All but the function of the entry point stays. -/
  header : entry' = { entry with function := entry'.function }
  result : entry'.function.result = entry.function.result
  /-- The two indices are words, and the only inputs. -/
  inputs : ∃ wordType, m'.shape? wordType = some (.scalar .u32) ∧
    entry'.function.arguments.map (fun a => (a.type, a.binding)) =
      [(wordType, some (.builtIn .vertexIndex)), (wordType, some (.builtIn .instanceIndex))]

/-- Pulling adds types, variables and one function at the end, replaces the function of the entry point by one
that takes the two indices only, and leaves everything else as it was. -/
theorem pull_changes_only {m m' : Module} {state : State} {entryPoint : String} {group : Nat}
    (h : pull m state entryPoint group = .ok m') :
    ∃ index entry entry', pullingTarget m entryPoint = .ok (index, entry) ∧
      ChangesOnly m m' entryPoint group state.length index entry entry' := by
  obtain ⟨htypes, hconstants, hoverrides, hexpressions, hfree⟩ := untouched_of_pull h
  obtain ⟨index, entry, layout, wordType, wordsType, arguments, built, hp⟩ := pulled_of_pull h
  obtain ⟨_, added, hadded, hsub, hnew⟩ := pullingTypes_eq m
  obtain ⟨hentry, hname, hstage⟩ := pullingTarget_spec hp.target
  have hword : m'.shape? wordType = some (.scalar .u32) := by rw [Module.shape?, hp.word]; rfl
  have hwords : m'.shape? wordsType = some (.array wordType .dynamic 4) := by
    rw [Module.shape?, hp.words]
    rfl
  -- each field is one of the facts above, about one part of the module
  refine ⟨index, entry, pullingEntry entryPoint entry wordType m.functions.length arguments built,
    hp.target, ?_⟩
  exact {
    types := htypes ▸ prefix_pullingTypes m
    fewTypes := by
      have hlength := hsub.length_le
      rw [htypes, hadded, List.length_append]
      exact Nat.add_le_add_left hlength _
    newTypes := by
      rw [htypes, hadded, List.drop_left]
      exact hnew
    distinctTypes := fun hdistinct => htypes ▸ nodup_pullingTypes hdistinct
    constants := hconstants
    overrides := hoverrides
    globalExpressions := hexpressions
    globals := hp.globals ▸ List.prefix_append _ _
    newGlobals := by simp [hp.globals]
    buffer := fun slot hslot => ⟨bufferGlobal group wordsType slot, wordType, hp.buffer_eq hslot, rfl, rfl,
      rfl, hwords, hword⟩
    distinctBindings := fun hdistinct => hp.globals ▸ nodup_bindings_append _ _ hfree hdistinct
    functions := hp.functions
    original := ⟨hentry, hname, hstage⟩
    replaced := hp.entryPoint_eq
    others := fun i hi => by rw [hp.entryPoints, List.getElem?_set_ne (Ne.symm hi)]
    header := rfl
    result := rfl
    inputs := ⟨wordType, hword, rfl⟩ }

theorem pull_changes_only_tintedPosition :
    tintedPosition.types.Nodup ∧ (tintedPosition.globals.filterMap (·.binding)).Nodup ∧
      ∃ m', pull tintedPosition interleaved "main" 1 = .ok m' ∧
        ∃ index entry entry', pullingTarget tintedPosition "main" = .ok (index, entry) ∧
          ChangesOnly tintedPosition m' "main" 1 1 index entry entry' := by
  obtain ⟨m', h, _⟩ := Except.exists_eq_ok_of_decide (x := pull tintedPosition interleaved "main" 1)
    (P := fun _ => True) (by decide +kernel)
  exact ⟨by decide, by decide, m', h, pull_changes_only h⟩

end ShaderKit.Vertex
