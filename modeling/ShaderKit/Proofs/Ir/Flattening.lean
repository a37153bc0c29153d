import ShaderKit.Proofs.Resource.Order
import ShaderKit.Proofs.Std.Depth
import ShaderKit.Reflection.Typed

/-!
# What types are made of

Three things are read off a type by going into its parts: what one binding of an array of bindings is, which
scalars a value is made of, and what a struct without a location passes between stages.  Here each is given
by rules that say nothing about the order in which types stand in their list.  Where the rules give an
answer, the walks find it in as many steps as there are types.

## Key results

- `Inside.stripBindingArrays_eq`: the type inside all arrays of bindings
- `HasComponent.componentFrom_eq`: the component type of the scalars that a type is made of
- `Flattens.map_slot_varyingsFrom`: the locations and component types that a value passes
-/

namespace ShaderKit.Ir

open Depth (Within)
open Resource (Varying)
open Texture (ComponentType)

variable {types : List TypeInfo} {t u : TypeId} {n : Nat}

/-! ## Going into a type -/

/-- From a type to what comes next on the way into it, `none` being the end of the way. -/
def Leads (next : TypeId → List (Option TypeId)) (x y : Option TypeId) : Prop :=
  ∃ t, x = some t ∧ y ∈ next t

theorem leads_some {next : TypeId → List (Option TypeId)} {y : Option TypeId} :
    Leads next (some t) y ↔ y ∈ next t := by
  simp [Leads]

/-- A way that ends is not longer than there are types to go on from. -/
theorem within_leads {next : TypeId → List (Option TypeId)} {x : Option TypeId}
    (h : Acc (fun y x => Leads next x y) x) (hnext : ∀ t, types[t]? = none → next t = []) :
    Within (Leads next) types.length x := by
  have hlength : ((List.range types.length).map some).length = types.length := by simp
  rw [← hlength]
  refine Within.of_acc h ?_
  rintro v w _ ⟨t, rfl, hw⟩
  have hlt : t < types.length := by
    by_contra hge
    rw [hnext t (List.getElem?_eq_none (Nat.not_lt.1 hge))] at hw
    exact List.not_mem_nil hw
  exact List.mem_map_of_mem (List.mem_range.2 hlt)

/-- Where something comes next, there is one step less to go from there. -/
theorem within_next {next : TypeId → List (Option TypeId)} (h : Within (Leads next) n (some t))
    {y : Option TypeId} (hy : y ∈ next t) : ∃ k, n = k + 1 ∧ Within (Leads next) k y := by
  cases n with
  | zero => exact absurd (leads_some.2 hy) (h y)
  | succ k => exact ⟨k, rfl, h y (leads_some.2 hy)⟩

/-! ## Arrays of bindings -/

/-- `u` is the type of one binding of an array `t` of bindings, or `t` if that is none. -/
inductive Inside (types : List TypeInfo) : TypeId → TypeId → Prop
  | self {t : TypeId}
      (h : ∀ name base size, types[t]? ≠ some ⟨name, .bindingArray base size⟩) : Inside types t t
  | array {t base u : TypeId} {name : Option String} {size : ArraySize}
      (h : types[t]? = some ⟨name, .bindingArray base size⟩) (hbase : Inside types base u) :
      Inside types t u

/-- What an array of bindings is made of. -/
def bindingNext (types : List TypeInfo) (t : TypeId) : List (Option TypeId) :=
  match types[t]? with
  | some ⟨_, .bindingArray base _⟩ => [some base]
  | _ => []

private theorem bindingNext_of_not_array
    (h : ∀ name base size, types[t]? ≠ some ⟨name, .bindingArray base size⟩) :
    bindingNext types t = [] := by
  unfold bindingNext
  split
  · rename_i heq
    exact absurd heq (h _ _ _)
  · rfl

theorem Inside.acc (h : Inside types t u) :
    Acc (fun y x => Leads (bindingNext types) x y) (some t) := by
  -- the derivation says where the way into the arrays ends
  induction h with
  | self h =>
    refine ⟨_, fun y hy => ?_⟩
    rw [leads_some, bindingNext_of_not_array h] at hy
    exact absurd hy List.not_mem_nil
  | array h _ ih =>
    refine ⟨_, fun y hy => ?_⟩
    simp only [leads_some, bindingNext, h, List.mem_singleton] at hy
    exact hy ▸ ih

private theorem Inside.strip_of_within (h : Inside types t u)
    (hn : Within (Leads (bindingNext types)) n (some t)) : stripBindingArrays types n t = u := by
  induction h generalizing n with
  | self h =>
    cases n with
    | zero => rfl
    | succ n =>
      unfold stripBindingArrays
      split
      · rename_i heq
        exact absurd heq (h _ _ _)
      · rfl
  | @array t base u name size h _ ih =>
    -- each step into an array takes one from the bound on the way
    obtain ⟨n, rfl, hrest⟩ := within_next hn (y := some base) (by simp [bindingNext, h])
    simp only [stripBindingArrays, h]
    exact ih hrest

/-- The walk into arrays of bindings ends at the type inside all of them. -/
theorem Inside.stripBindingArrays_eq (h : Inside types t u) :
    stripBindingArrays types types.length t = u :=
  h.strip_of_within (within_leads h.acc fun t ht => by simp [bindingNext, ht])

/-! ## Component types -/

/-- Scalars, vectors, matrices and arrays, which are made of scalars of one kind. -/
def Shape.Uniform : Shape → Prop
  | .scalar _ | .vector .. | .matrix .. | .array .. => True
  | _ => False

/-- The component type that scalars of a kind are declared with.  Truth values and abstract numbers have
none. -/
inductive ScalarKind.DeclaredAs : ScalarKind → ComponentType → Prop
  | float : DeclaredAs .float .float
  | sint : DeclaredAs .sint .sint
  | uint : DeclaredAs .uint .uint
  | other {kind : ScalarKind} (h : kind ∉ [float, sint, uint]) : DeclaredAs kind .other

theorem ScalarKind.DeclaredAs.component_eq {kind : ScalarKind} {c : ComponentType}
    (h : kind.DeclaredAs c) : kind.component = c := by
  cases h with
  | float | sint | uint => rfl
  | other h => cases kind <;> first | rfl | simp at h

/-- The component type of the scalars that a type is made of. -/
inductive HasComponent (types : List TypeInfo) : TypeId → ComponentType → Prop
  | scalar {t : TypeId} {name : Option String} {s : Scalar} {c : ComponentType}
      (h : types[t]? = some ⟨name, .scalar s⟩) (hc : s.kind.DeclaredAs c) : HasComponent types t c
  | vector {t : TypeId} {name : Option String} {size : VectorSize} {s : Scalar} {c : ComponentType}
      (h : types[t]? = some ⟨name, .vector size s⟩) (hc : s.kind.DeclaredAs c) :
      HasComponent types t c
  | matrix {t : TypeId} {name : Option String} {columns rows : VectorSize} {s : Scalar}
      {c : ComponentType} (h : types[t]? = some ⟨name, .matrix columns rows s⟩)
      (hc : s.kind.DeclaredAs c) : HasComponent types t c
  | array {t base : TypeId} {name : Option String} {size : ArraySize} {stride : Nat}
      {c : ComponentType} (h : types[t]? = some ⟨name, .array base size stride⟩)
      (hbase : HasComponent types base c) : HasComponent types t c
  | other {t : TypeId} (h : ∀ info, types[t]? = some info → ¬ info.shape.Uniform) :
      HasComponent types t .other

/-- What an array is made of, and the end of the way for any other type. -/
def componentNext (types : List TypeInfo) (t : TypeId) : List (Option TypeId) :=
  match types[t]? with
  | some ⟨_, .array base _ _⟩ => [some base]
  | some _ => [none]
  | none => []

private theorem acc_none {next : TypeId → List (Option TypeId)} :
    Acc (fun y x => Leads next x y) none :=
  ⟨_, fun _ ⟨_, hnone, _⟩ => nomatch hnone⟩

private theorem acc_of_last {next : TypeId → List (Option TypeId)} (h : ∀ y ∈ next t, y = none) :
    Acc (fun y x => Leads next x y) (some t) :=
  ⟨_, fun y hy => h y (leads_some.1 hy) ▸ acc_none⟩

theorem HasComponent.acc {c : ComponentType} (h : HasComponent types t c) :
    Acc (fun y x => Leads (componentNext types) x y) (some t) := by
  induction h with
  | scalar h _ => exact acc_of_last (by simp [componentNext, h])
  | vector h _ => exact acc_of_last (by simp [componentNext, h])
  | matrix h _ => exact acc_of_last (by simp [componentNext, h])
  | array h _ ih =>
    refine ⟨_, fun y hy => ?_⟩
    simp only [leads_some, componentNext, h, List.mem_singleton] at hy
    exact hy ▸ ih
  | other h =>
    -- a type without a component ends the way, if it is there at all
    refine acc_of_last fun y hy => ?_
    unfold componentNext at hy
    split at hy
    · rename_i heq
      exact absurd trivial (h _ heq)
    · exact List.mem_singleton.1 hy
    · exact absurd hy List.not_mem_nil

private theorem HasComponent.component_of_within {c : ComponentType} (h : HasComponent types t c)
    (hn : Within (Leads (componentNext types)) n (some t)) : componentFrom types n t = c := by
  -- the bound leaves a step for each type on the way
  induction h generalizing n with
  | scalar h hc =>
    obtain ⟨n, rfl, _⟩ := within_next hn (y := none) (by simp [componentNext, h])
    simp only [componentFrom, h, hc.component_eq]
  | vector h hc =>
    obtain ⟨n, rfl, _⟩ := within_next hn (y := none) (by simp [componentNext, h])
    simp only [componentFrom, h, hc.component_eq]
  | matrix h hc =>
    obtain ⟨n, rfl, _⟩ := within_next hn (y := none) (by simp [componentNext, h])
    simp only [componentFrom, h, hc.component_eq]
  | @array t base name size stride c h _ ih =>
    obtain ⟨n, rfl, hrest⟩ := within_next hn (y := some base) (by simp [componentNext, h])
    simp only [componentFrom, h]
    exact ih hrest
  | other h =>
    cases n with
    | zero => rfl
    | succ n =>
      unfold componentFrom
      split
      all_goals first
        | rfl
        | (rename_i heq; exact absurd trivial (h _ heq))

/-- The walk into arrays, vectors and matrices finds the component type. -/
theorem HasComponent.componentFrom_eq {c : ComponentType} (h : HasComponent types t c) :
    componentFrom types types.length t = c :=
  h.component_of_within (within_leads h.acc fun t ht => by simp [componentNext, ht])

/-! ## Interfaces -/

/-- The locations and component types that a value passes between stages: its own, unless it is a builtin,
or those of its members if it is a struct without a binding of its own. -/
inductive Flattens (types : List TypeInfo) :
    Option IoBinding → TypeId → List (Option Nat × ComponentType) → Prop
  | builtIn (b : BuiltIn) (t : TypeId) : Flattens types (some (.builtIn b)) t []
  | location {t : TypeId} {c : ComponentType} (location : Nat) (second : Bool)
      (interpolation : Option Interpolation) (sampling : Option Sampling)
      (h : HasComponent types t c) :
      Flattens types (some (.location location second interpolation sampling)) t [(some location, c)]
  | single {t : TypeId} {c : ComponentType}
      (hstruct : ∀ name members span, types[t]? ≠ some ⟨name, .struct members span⟩)
      (h : HasComponent types t c) : Flattens types none t [(none, c)]
  | members {t : TypeId} {name : Option String} {members : List StructMember} {span : Nat}
      (h : types[t]? = some ⟨name, .struct members span⟩)
      (slots : StructMember → List (Option Nat × ComponentType))
      (hmembers : ∀ m ∈ members, Flattens types m.binding m.type (slots m)) :
      Flattens types none t (members.flatMap slots)

/-- Where the way into a value starts: a value with a binding has no members of its own. -/
def wayInto (binding : Option IoBinding) (t : TypeId) : Option TypeId :=
  match binding with
  | none => some t
  | some _ => none

/-- What a struct is made of. -/
def memberNext (types : List TypeInfo) (t : TypeId) : List (Option TypeId) :=
  match types[t]? with
  | some ⟨_, .struct members _⟩ => members.map fun m => wayInto m.binding m.type
  | _ => []

variable {binding : Option IoBinding} {slots : List (Option Nat × ComponentType)}

private theorem memberNext_of_not_struct
    (h : ∀ name members span, types[t]? ≠ some ⟨name, .struct members span⟩) :
    memberNext types t = [] := by
  unfold memberNext
  split
  · rename_i heq
    exact absurd heq (h _ _ _)
  · rfl

theorem Flattens.acc (h : Flattens types binding t slots) :
    Acc (fun y x => Leads (memberNext types) x y) (wayInto binding t) := by
  induction h with
  | builtIn b t => exact acc_none
  | location location second interpolation sampling h => exact acc_none
  | single hstruct h => exact acc_of_last (by simp [memberNext_of_not_struct hstruct])
  | members h slots _ ih =>
    -- a member with a binding is the end of the way, any other one is flattened in turn
    refine ⟨_, fun y hy => ?_⟩
    simp only [wayInto, leads_some, memberNext, h, List.mem_map] at hy
    obtain ⟨m, hm, rfl⟩ := hy
    exact ih m hm

private theorem Flattens.varyings_of_within (h : Flattens types binding t slots)
    (hn : Within (Leads (memberNext types)) n (wayInto binding t)) (name : Option String) :
    (varyingsFrom types (n + 1) binding t name).map Varying.slot = slots := by
  -- on the derivation: a value is a builtin, at a location, on its own, or made of members
  induction h generalizing n name with
  | builtIn b t => rfl
  | location location second interpolation sampling h =>
    simp [varyingsFrom, Varying.slot, h.componentFrom_eq]
  | single hstruct h =>
    unfold varyingsFrom
    dsimp only
    split
    · rename_i heq
      exact absurd heq (hstruct _ _ _)
    · simp [Varying.slot, h.componentFrom_eq]
  | @members t _ members _ h slots _ ih =>
    simp only [varyingsFrom, h, List.map_flatMap]
    refine List.flatMap_congr fun m hm => ?_
    -- going on to a member takes one step, which the bound has left
    have hnext : wayInto m.binding m.type ∈ memberNext types t := by
      simp only [memberNext, h]
      exact List.mem_map_of_mem hm
    obtain ⟨n, rfl, hrest⟩ := within_next hn hnext
    exact ih m hm hrest m.name

/-- Going through the members finds what a value passes between stages. -/
theorem Flattens.map_slot_varyingsFrom (h : Flattens types binding t slots) (name : Option String) :
    (varyingsFrom types (types.length + 1) binding t name).map Varying.slot = slots :=
  h.varyings_of_within (within_leads h.acc fun t ht => by simp [memberNext, ht]) name

end ShaderKit.Ir
