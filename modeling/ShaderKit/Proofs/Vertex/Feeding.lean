import Mathlib.Data.List.Nodup
import Mathlib.Data.List.Perm.Subperm
import ShaderKit.Ir.Compact
import ShaderKit.Proofs.Std.Except
import ShaderKit.Proofs.Vertex.Placement
import ShaderKit.Vertex.Pulling.EntryPoint

/-!
# Which inputs a vertex state can feed

The inputs of a vertex shader form a tree: a struct without a binding stands for its members, and what has a
binding is a leaf.  A state feeds an input if it feeds all leaves of its tree.  Taking the tree apart stops at
a depth that no tree of types without loops can have, so nothing is refused for its depth.

What a state feeds can still have words that are too far behind the start of their element for a number of 32
bits.  Pulling gives up at the first of them that it comes to.

## Key results

- `State.feeds_iff_within`: the number of types is deep enough for every input
- `State.feeds_iff_of_prefix`: further types change nothing of what is fed
- `Ends.mapM`: how one action after another ends
- `PullingScope.inputValue_ends`: an input can be pulled exactly if the state feeds it, and the words that are
  read have a number
-/

namespace ShaderKit.Vertex

open Ir

/-- Types that are made of each other only. -/
def TypesClosed (types : List TypeInfo) : Prop :=
  ∀ info ∈ types, ∀ u ∈ info.shape.parts, u < types.length

instance (types : List TypeInfo) : Decidable (TypesClosed types) :=
  inferInstanceAs (Decidable (∀ info ∈ types, ∀ u ∈ info.shape.parts, u < types.length))

/-- The input with the second binding and type is the one with the first, or part of it. -/
inductive IsPart (types : List TypeInfo) :
    Option IoBinding → TypeId → Option IoBinding → TypeId → Prop
  | whole {binding : Option IoBinding} {type : TypeId} : IsPart types binding type binding type
  | member {type : TypeId} {name : Option String} {members : List StructMember} {span : Nat}
      {m : StructMember} {binding : Option IoBinding} {part : TypeId}
      (htype : types[type]? = some ⟨name, .struct members span⟩) (hm : m ∈ members)
      (hpart : IsPart types m.binding m.type binding part) : IsPart types none type binding part

/-- The inputs that arguments are made of: the arguments, and the members of structs among them. -/
def IsInput (types : List TypeInfo) (arguments : List Argument) (binding : Option IoBinding)
    (type : TypeId) : Prop :=
  ∃ a ∈ arguments, IsPart types a.binding a.type binding type

/-- All words of the attribute have a number of 32 bits in their element. -/
def Attribute.Numbered (a : Attribute) : Prop := a.offset.toNat / 4 + a.format.words ≤ UInt32.size

instance (a : Attribute) : Decidable a.Numbered :=
  inferInstanceAs (Decidable (a.offset.toNat / 4 + a.format.words ≤ UInt32.size))

namespace State

/-- An input with a binding is fed if it is one of the two indices, or a scalar or vector of four byte numbers
at the location of an attribute of the same kind of numbers. -/
inductive FeedsLeaf (types : List TypeInfo) (state : State) : IoBinding → TypeId → Prop
  | vertexIndex {t : TypeId} : FeedsLeaf types state (.builtIn .vertexIndex) t
  | instanceIndex {t : TypeId} : FeedsLeaf types state (.builtIn .instanceIndex) t
  | location {location : Nat} {blend : Bool} {interpolation : Option Interpolation}
      {sampling : Option Sampling} {t : TypeId} {info : TypeInfo} {scalar : Scalar} {slot : Nat}
      {layout : BufferLayout} {a : Attribute} (type : types[t]? = some info)
      (shape : info.shape = .scalar scalar ∨ ∃ size, info.shape = .vector size scalar)
      (width : scalar.width = 4) (declares : Declares state slot layout a)
      (declared : a.location.toNat = location) (kind : scalar.kind = a.format.kind.scalarKind) :
    FeedsLeaf types state (.location location blend interpolation sampling) t

/-- At the location there is an attribute with a word that has no number. -/
def Unnumbered (state : State) (location : Nat) : Prop :=
  ∃ slot layout a, Declares state slot layout a ∧ a.location.toNat = location ∧ ¬ a.Numbered

/-- Where the first word of an attribute has a number, all of its words do. -/
def Numbered (state : State) : Prop :=
  ∀ a ∈ state.attributes, a.offset.toNat / 4 < UInt32.size → a.Numbered

instance (state : State) : Decidable state.Numbered :=
  inferInstanceAs (Decidable (∀ a ∈ state.attributes, a.offset.toNat / 4 < UInt32.size → a.Numbered))

/-- An input is fed if it is a leaf that is, or a struct whose members are. -/
inductive Feeds (types : List TypeInfo) (state : State) : Option IoBinding → TypeId → Prop
  | leaf {binding : IoBinding} {t : TypeId} (leaf : FeedsLeaf types state binding t) :
    Feeds types state (some binding) t
  | struct {t : TypeId} {name : Option String} {members : List StructMember} {span : Nat}
      (type : types[t]? = some ⟨name, .struct members span⟩)
      (each : ∀ m ∈ members, Feeds types state m.binding m.type) :
    Feeds types state none t

/-- An input is fed, and its structs are nested at most this deep. -/
inductive FeedsWithin (types : List TypeInfo) (state : State) : Nat → Option IoBinding → TypeId → Prop
  | leaf {depth : Nat} {binding : IoBinding} {t : TypeId} (leaf : FeedsLeaf types state binding t) :
    FeedsWithin types state depth (some binding) t
  | struct {depth : Nat} {t : TypeId} {name : Option String} {members : List StructMember} {span : Nat}
      (type : types[t]? = some ⟨name, .struct members span⟩)
      (each : ∀ m ∈ members, FeedsWithin types state depth m.binding m.type) :
    FeedsWithin types state (depth + 1) none t

variable {types : List TypeInfo} {state : State} {binding : Option IoBinding} {t : TypeId}
  {depth depth' : Nat}

/-! ### Depth -/

/-- A leaf is nested in no struct. -/
theorem feedsWithin_some_iff {binding : IoBinding} :
    FeedsWithin types state depth (some binding) t ↔ FeedsLeaf types state binding t := by
  constructor
  · intro h
    cases h with
    | leaf leaf => exact leaf
  · exact .leaf

/-- What has no binding is a struct, and its members are nested less deep. -/
theorem feedsWithin_none_iff : FeedsWithin types state (depth + 1) none t ↔
    ∃ name members span, types[t]? = some ⟨name, .struct members span⟩ ∧
      ∀ m ∈ members, FeedsWithin types state depth m.binding m.type := by
  constructor
  · intro h
    cases h with
    | struct type each => exact ⟨_, _, _, type, each⟩
  · rintro ⟨_, _, _, type, each⟩
    exact .struct type each

theorem FeedsWithin.feeds (h : FeedsWithin types state depth binding t) : Feeds types state binding t := by
  induction h with
  | leaf leaf => exact .leaf leaf
  | struct type _ ih => exact .struct type ih

theorem FeedsWithin.succ (h : FeedsWithin types state depth binding t) :
    FeedsWithin types state (depth + 1) binding t := by
  induction h with
  | leaf leaf => exact .leaf leaf
  | struct type _ ih => exact .struct type ih

theorem FeedsWithin.mono (h : FeedsWithin types state depth binding t) (hle : depth ≤ depth') :
    FeedsWithin types state depth' binding t := by
  induction hle with
  | refl => exact h
  | step _ ih => exact ih.succ

/-- Finitely many inputs are nested at most as deep as one of them. -/
theorem exists_within_all {members : List StructMember}
    (h : ∀ m ∈ members, ∃ depth, FeedsWithin types state depth m.binding m.type) :
    ∃ depth, ∀ m ∈ members, FeedsWithin types state depth m.binding m.type := by
  induction members with
  | nil => exact ⟨0, nofun⟩
  | cons m members ih =>
    obtain ⟨first, hfirst⟩ := h m List.mem_cons_self
    obtain ⟨rest, hrest⟩ := ih fun m' hm' => h m' (List.mem_cons_of_mem _ hm')
    refine ⟨max first rest, List.forall_mem_cons.2 ⟨?_, fun m' hm' => ?_⟩⟩
    · exact hfirst.mono (Nat.le_max_left ..)
    · exact (hrest m' hm').mono (Nat.le_max_right ..)

/-- What is fed is nested finitely deep. -/
theorem Feeds.exists_within (h : Feeds types state binding t) :
    ∃ depth, FeedsWithin types state depth binding t := by
  induction h with
  | leaf leaf => exact ⟨0, .leaf leaf⟩
  | struct type _ ih =>
    obtain ⟨depth, hdepth⟩ := exists_within_all ih
    exact ⟨depth + 1, .struct type hdepth⟩

/-- Where a struct is nested this deep and no less, there are as many structs, each inside the one before. -/
theorem exists_nested (h : FeedsWithin types state (depth + 1) none t)
    (hnot : ¬ FeedsWithin types state depth none t) :
    ∃ l : List TypeId, l.length = depth + 1 ∧ l.Nodup ∧
      ∀ u ∈ l, u < types.length ∧ FeedsWithin types state (depth + 1) none u := by
  have hlt : t < types.length := by
    cases h with
    | struct type _ => exact (List.getElem?_eq_some_iff.1 type).1
  induction depth generalizing t with
  | zero => exact ⟨[t], rfl, List.nodup_singleton t, by simpa using ⟨hlt, h⟩⟩
  | succ depth ih =>
    cases h with
    | @struct _ _ name members span type each =>
      -- some member is nested no less deep, and it is a struct
      obtain ⟨m, hm, hmember⟩ : ∃ m ∈ members, ¬ FeedsWithin types state depth m.binding m.type := by
        by_contra hall
        exact hnot (.struct type fun m hm => not_not.1 fun hmember => hall ⟨m, hm, hmember⟩)
      have heach := each m hm
      cases hbinding : m.binding with
      | some binding =>
        rw [hbinding, feedsWithin_some_iff] at heach hmember
        exact absurd heach hmember
      | none =>
        rw [hbinding] at heach hmember
        have hmemberLt : m.type < types.length := by
          cases heach with
          | struct type _ => exact (List.getElem?_eq_some_iff.1 type).1
        obtain ⟨l, hlength, hnodup, hl⟩ := ih heach hmember hmemberLt
        have ht : t ∉ l := fun hmem => hnot (hl t hmem).2
        refine ⟨t :: l, by rw [List.length_cons, hlength], List.nodup_cons.2 ⟨ht, hnodup⟩, ?_⟩
        intro u hu
        rcases List.mem_cons.1 hu with rfl | hu
        · exact ⟨hlt, .struct type each⟩
        · exact ⟨(hl u hu).1, (hl u hu).2.succ⟩

/-- Nothing is nested deeper than there are types. -/
theorem FeedsWithin.le_length (h : FeedsWithin types state depth binding t) :
    FeedsWithin types state types.length binding t := by
  cases binding with
  | some binding => exact feedsWithin_some_iff.2 (feedsWithin_some_iff.1 h)
  | none =>
    induction depth with
    | zero => exact nomatch h
    | succ depth ih =>
      by_cases hless : FeedsWithin types state depth none t
      · exact ih hless
      · obtain ⟨l, hlength, hnodup, hl⟩ := exists_nested h hless
        -- the structs are types, and all different
        have hsub : l ⊆ List.range types.length := fun u hu => List.mem_range.2 (hl u hu).1
        have hle := (hnodup.subperm hsub).length_le
        rw [List.length_range, hlength] at hle
        exact h.mono hle

/-- The number of types is deep enough for every input. -/
theorem feeds_iff_within (hdepth : types.length ≤ depth) :
    Feeds types state binding t ↔ FeedsWithin types state depth binding t := by
  constructor
  · intro h
    obtain ⟨deep, hdeep⟩ := h.exists_within
    exact hdeep.le_length.mono hdepth
  · exact FeedsWithin.feeds

/-! ### More types -/

/-- What is fed depends on the types that the input is made of only. -/
theorem Feeds.of_agree {types' : List TypeInfo} {n : Nat} (hsame : ∀ u < n, types'[u]? = types[u]?)
    (hparts : ∀ u < n, ∀ info, types[u]? = some info → ∀ v ∈ info.shape.parts, v < n) (ht : t < n)
    (h : Feeds types state binding t) : Feeds types' state binding t := by
  induction h with
  | leaf leaf =>
    cases leaf with
    | vertexIndex => exact .leaf .vertexIndex
    | instanceIndex => exact .leaf .instanceIndex
    | location type shape width declares declared kind =>
      exact .leaf (.location ((hsame _ ht).trans type) shape width declares declared kind)
  | struct type _ ih =>
    exact .struct ((hsame _ ht).trans type) fun m hm =>
      ih m hm (hparts _ ht _ type _ (List.mem_map_of_mem hm))

/-- Types that come after others change nothing of what is fed, as long as nothing refers to them. -/
theorem feeds_iff_of_prefix {types' : List TypeInfo} (h : types <+: types') (hclosed : TypesClosed types)
    (ht : t < types.length) : Feeds types' state binding t ↔ Feeds types state binding t := by
  have hsame : ∀ u < types.length, types'[u]? = types[u]? := by
    obtain ⟨more, rfl⟩ := h
    exact fun u hu => List.getElem?_append_left hu
  have hparts : ∀ u < types.length, ∀ info, types[u]? = some info →
      ∀ v ∈ info.shape.parts, v < types.length :=
    fun u _ info hu => hclosed info (List.mem_of_getElem? hu)
  constructor
  · exact .of_agree (fun u hu => (hsame u hu).symm)
      (fun u hu info hinfo => hparts u hu info ((hsame u hu).symm.trans hinfo)) ht
  · exact .of_agree hsame hparts ht

end State

/-! ### How pulling ends -/

/-- The failure is that a word has no number. -/
def PullingError.Overflows (e : PullingError) : Prop := ∃ location, e = .wordOverflow location

/-- How an action that pulls something ends: well, if the state feeds it and all words that are read for it have
a number; by giving up, at a location where a word has none; and with another error, if the state does not feed
it. -/
inductive Ends {α : Type} (fed : Prop) (unnumbered : Nat → Prop) : Except PullingError α → Prop
  | ok {r : α} (hfed : fed) (hnumbered : ∀ location, ¬ unnumbered location) :
    Ends fed unnumbered (.ok r)
  | overflow {location : Nat} (h : unnumbered location) :
    Ends fed unnumbered (.error (.wordOverflow location))
  | refused {e : PullingError} (he : ¬ e.Overflows) (h : ¬ fed) : Ends fed unnumbered (.error e)

namespace Ends

variable {α ι : Type} {fed fed' : Prop} {unnumbered unnumbered' : Nat → Prop}
  {x : Except PullingError α}

/-- It ends well exactly if nothing is in the way. -/
theorem ok_iff (h : Ends fed unnumbered x) :
    (∃ r, x = .ok r) ↔ fed ∧ ∀ location, ¬ unnumbered location := by
  cases h with
  | ok hfed hnumbered => exact iff_of_true ⟨_, rfl⟩ ⟨hfed, hnumbered⟩
  | overflow h => exact iff_of_false nofun fun hall => hall.2 _ h
  | refused _ h => exact iff_of_false nofun fun hall => h hall.1

/-- What is given up at a location is a word that has no number. -/
theorem unnumbered_of_overflow {location : Nat} (h : Ends fed unnumbered x)
    (hx : x = .error (.wordOverflow location)) : unnumbered location := by
  subst hx
  cases h with
  | overflow h => exact h
  | refused he _ => exact absurd ⟨location, rfl⟩ he

/-- What is fed is given up exactly if a word has no number. -/
theorem overflow_iff (h : Ends fed unnumbered x) (hfed : fed) :
    (∃ location, x = .error (.wordOverflow location)) ↔ ∃ location, unnumbered location := by
  cases h with
  | ok _ hnumbered => exact iff_of_false nofun fun ⟨location, h⟩ => hnumbered location h
  | overflow h => exact iff_of_true ⟨_, rfl⟩ ⟨_, h⟩
  | refused _ h => exact absurd hfed h

/-- Where all words have a number, the only errors are those of what is not fed. -/
theorem error_iff (h : Ends fed unnumbered x) (hnumbered : ∀ location, ¬ unnumbered location) :
    (∃ e, x = .error e ∧ ¬ e.Overflows) ↔ ¬ fed := by
  cases h with
  | ok hfed _ => exact iff_of_false (fun ⟨_, h, _⟩ => nomatch h) fun h => h hfed
  | overflow h => exact absurd h (hnumbered _)
  | refused he h => exact iff_of_true ⟨_, rfl, he⟩ h

theorem congr (h : Ends fed unnumbered x) (hfed : fed ↔ fed')
    (hunnumbered : ∀ location, unnumbered location ↔ unnumbered' location) :
    Ends fed' unnumbered' x := by
  cases h with
  | ok h hnumbered => exact .ok (hfed.1 h) fun location => mt (hunnumbered location).2 (hnumbered location)
  | overflow h => exact .overflow ((hunnumbered _).1 h)
  | refused he h => exact .refused he (mt hfed.2 h)

/-- What follows the action cannot fail. -/
theorem map {β : Type} (h : Ends fed unnumbered x) (f : α → β) :
    Ends fed unnumbered (x >>= fun a => .ok (f a)) := by
  cases h with
  | ok h hnumbered => exact .ok h hnumbered
  | overflow h => exact .overflow h
  | refused he h => exact .refused he h

/-- One action after another ends well if each does, and otherwise like the first that does not. -/
theorem mapM {f : ι → StateT Builder (Except PullingError) α} {fed : ι → Prop}
    {unnumbered : ι → Nat → Prop} {l : List ι}
    (hf : ∀ i ∈ l, ∀ b, Ends (fed i) (unnumbered i) (f i b)) (b : Builder) :
    Ends (∀ i ∈ l, fed i) (fun location => ∃ i ∈ l, unnumbered i location) (l.mapM f b) := by
  induction l generalizing b with
  | nil => exact .ok nofun nofun
  | cons i l ih =>
    rw [List.mapM_cons]
    show Ends _ _ (f i b >>= fun (a, b') => l.mapM f b' >>= fun (as, b'') => .ok (a :: as, b''))
    cases hfirst : f i b with
    | error e =>
      have hi := hfirst ▸ hf i List.mem_cons_self b
      cases hi with
      | overflow h => exact .overflow ⟨i, List.mem_cons_self, h⟩
      | refused he h => exact .refused he fun hall => h (hall i List.mem_cons_self)
    | ok r =>
      obtain ⟨a, b'⟩ := r
      have hi := hfirst ▸ hf i List.mem_cons_self b
      have hrest := ih (fun j hj => hf j (List.mem_cons_of_mem _ hj)) b'
      cases hi with
      | ok hfed hnumbered =>
        -- the first action changes nothing of how the rest ends
        refine (hrest.map fun (as, b'') => (a :: as, b'')).congr ?_ fun location => ?_
        · rw [List.forall_mem_cons, and_iff_right hfed]
        · rw [List.exists_mem_cons_iff, or_iff_right (hnumbered location)]

end Ends

namespace PullingScope

open State

variable {s : PullingScope} {state : State} {b : Builder}

/-- Scalars and vectors have components. -/
theorem inputComponents?_eq_some_iff {shape : Shape} {scalar : Scalar} :
    (∃ count, inputComponents? shape = some (count, scalar)) ↔
      shape = .scalar scalar ∨ ∃ size, shape = .vector size scalar := by
  cases shape <;> simp [inputComponents?]

/-- A location is fed exactly if the input has components, the attribute is there, and they are of the same
kind. -/
theorem feedsLeaf_location_iff (hs : s.layout.Placed state (slotted state 0)) {location : Nat}
    {blend : Bool} {interpolation : Option Interpolation} {sampling : Option Sampling} {type : TypeId}
    {info : TypeInfo} (htype : s.types[type]? = some info) :
    FeedsLeaf s.types state (.location location blend interpolation sampling) type ↔
      ∃ count scalar p, inputComponents? info.shape = some (count, scalar) ∧
        s.layout.attributes.lookup location = some p ∧ scalar.kind = p.format.kind.scalarKind ∧
        scalar.width = 4 := by
  constructor
  -- the placement at the location is that of an attribute that the state declares, and the other
  -- way round
  · intro h
    cases h with
    | location type shape width declares declared kind =>
      cases htype.symm.trans type
      obtain ⟨count, hshape⟩ := inputComponents?_eq_some_iff.2 shape
      obtain ⟨p, hp, hformat⟩ := hs.lookup_of_declares declares
      exact ⟨count, _, p, hshape, declared ▸ hp, hformat ▸ kind, width⟩
  · rintro ⟨count, scalar, p, hshape, hp, hkind, hwidth⟩
    obtain ⟨layout, a, hdeclares, hlocation, hformat, _⟩ := hs.lookup_eq_some hp
    exact .location htype (inputComponents?_eq_some_iff.1 ⟨count, hshape⟩) hwidth hdeclares hlocation
      (hformat ▸ hkind)

/-- The attribute found at a location is numbered if its placement is. -/
theorem unnumbered_iff (hs : s.layout.Placed state (slotted state 0)) {location : Nat} {p : Placement}
    (hp : s.layout.attributes.lookup location = some p) :
    state.Unnumbered location ↔ p.words? = none := by
  obtain ⟨layout, a, hdeclares, hlocation, hformat, hfirst⟩ := hs.lookup_eq_some hp
  -- offsets are whole words, so the first word of the placement is a quarter of the offset
  have hwords := (hs.offsets _ (mem_slotted.2 ⟨layout, hdeclares⟩)).toNat_eq
  have hnumbered : a.Numbered ↔ p.firstWord.toNat + p.format.words ≤ UInt32.size := by
    unfold Attribute.Numbered
    rw [hformat, hfirst, ← hwords, Nat.mul_div_cancel_left _ (by decide)]
  rw [Placement.words?_eq_none_iff, ← hnumbered]
  constructor
  · rintro ⟨slot, layout', a', hdeclares', hlocation', hnot⟩
    -- a location has one attribute only
    obtain ⟨_, _, rfl⟩ :=
      hs.declares_unique hdeclares hdeclares' (UInt32.toNat_inj.1 (hlocation.trans hlocation'.symm))
    exact hnot
  · exact fun hnot => ⟨_, layout, a, hdeclares, hlocation, hnot⟩

/-- An attribute is pulled exactly if the state feeds the location, and its words have a number. -/
theorem pullAttribute_ends (hs : s.layout.Placed state (slotted state 0)) {location : Nat} {blend : Bool}
    {interpolation : Option Interpolation} {sampling : Option Sampling} {type : TypeId} {info : TypeInfo}
    (htype : s.types[type]? = some info) :
    Ends (FeedsLeaf s.types state (.location location blend interpolation sampling) type)
      (fun location' => location' = location ∧ state.Unnumbered location')
      (s.pullAttribute location type info.shape b) := by
  have hfeeds : FeedsLeaf s.types state (.location location blend interpolation sampling) type ↔ _ :=
    feedsLeaf_location_iff hs htype
  -- the checks in their order: each that fails is one that feeding the location needs
  unfold pullAttribute
  cases hshape : inputComponents? info.shape with
  | none =>
    refine .refused nofun fun h => ?_
    obtain ⟨_, _, _, hshape', _⟩ := hfeeds.1 h
    exact nomatch hshape.symm.trans hshape'
  | some input =>
    obtain ⟨count, scalar⟩ := input
    cases hp : s.layout.attributes.lookup location with
    | none =>
      refine .refused nofun fun h => ?_
      obtain ⟨_, _, _, _, hp', _⟩ := hfeeds.1 h
      exact nomatch hp.symm.trans hp'
    | some p =>
      by_cases hkind : scalar.kind ≠ p.format.kind.scalarKind ∨ scalar.width ≠ 4
      · simp only [if_pos hkind]
        refine .refused nofun fun h => ?_
        obtain ⟨_, _, _, hshape', hp', hsame, hwidth⟩ := hfeeds.1 h
        cases hshape.symm.trans hshape'
        cases hp.symm.trans hp'
        exact hkind.elim (· hsame) (· hwidth)
      · simp only [if_neg hkind]
        -- all checks pass, and what is left is whether the words have numbers
        obtain ⟨hsame, hwidth⟩ := not_or.1 hkind
        have hunnumbered := unnumbered_iff hs hp
        cases hwords : p.words? with
        | none => exact .overflow ⟨rfl, hunnumbered.2 hwords⟩
        | some words =>
          refine .ok (hfeeds.2 ⟨count, scalar, p, hshape, hp, not_not.1 hsame, not_not.1 hwidth⟩) ?_
          rintro _ ⟨rfl, h⟩
          exact nomatch hwords.symm.trans (hunnumbered.1 h)

/-- A part of the input is at the location, and an attribute there has a word without a number. -/
def ReadsUnnumbered (types : List TypeInfo) (state : State) (binding : Option IoBinding) (type : TypeId)
    (location : Nat) : Prop :=
  (∃ blend interpolation sampling part,
    IsPart types binding type (some (.location location blend interpolation sampling)) part) ∧
      state.Unnumbered location

/-- A leaf reads at its location only. -/
theorem readsUnnumbered_location_iff {types : List TypeInfo} {location location' : Nat} {blend : Bool}
    {interpolation : Option Interpolation} {sampling : Option Sampling} {type : TypeId} :
    ReadsUnnumbered types state (some (.location location blend interpolation sampling)) type location' ↔
      location' = location ∧ state.Unnumbered location' := by
  refine and_congr_left fun _ => ⟨?_, ?_⟩
  · rintro ⟨_, _, _, _, ⟨⟩⟩
    rfl
  · rintro rfl
    exact ⟨blend, interpolation, sampling, type, .whole⟩

/-- An index reads nothing. -/
theorem not_readsUnnumbered_builtIn {types : List TypeInfo} {builtIn : BuiltIn} {type : TypeId}
    {location : Nat} : ¬ ReadsUnnumbered types state (some (.builtIn builtIn)) type location := by
  rintro ⟨⟨_, _, _, _, ⟨⟩⟩, _⟩

/-- A struct reads what its members do. -/
theorem readsUnnumbered_struct_iff {types : List TypeInfo} {type : TypeId} {name : Option String}
    {members : List StructMember} {span location : Nat}
    (htype : types[type]? = some ⟨name, .struct members span⟩) :
    ReadsUnnumbered types state none type location ↔
      ∃ m ∈ members, ReadsUnnumbered types state m.binding m.type location := by
  constructor
  · rintro ⟨⟨blend, interpolation, sampling, part, hpart⟩, h⟩
    cases hpart with
    | member htype' hm hpart =>
      cases htype.symm.trans htype'
      exact ⟨_, hm, ⟨blend, interpolation, sampling, part, hpart⟩, h⟩
  · rintro ⟨m, hm, ⟨blend, interpolation, sampling, part, hpart⟩, h⟩
    exact ⟨⟨blend, interpolation, sampling, part, .member htype hm hpart⟩, h⟩

/-- A leaf is pulled exactly if the state feeds it, and its words have a number. -/
theorem inputValue_leaf_ends (hs : s.layout.Placed state (slotted state 0)) (fuel : Nat)
    (binding : IoBinding) (type : TypeId) :
    Ends (FeedsLeaf s.types state binding type) (ReadsUnnumbered s.types state (some binding) type)
      (s.inputValue fuel (some binding) type b) := by
  unfold inputValue
  cases binding with
  | builtIn builtIn =>
    -- the two indices are at hand and read no attribute, any other builtin is refused
    cases builtIn with
    | vertexIndex => exact .ok .vertexIndex fun _ => not_readsUnnumbered_builtIn
    | instanceIndex => exact .ok .instanceIndex fun _ => not_readsUnnumbered_builtIn
    | _ => exact .refused nofun nofun
  | location location blend interpolation sampling =>
    cases htype : s.types[type]? with
    | none =>
      simp only [htype]
      refine .refused nofun fun h => ?_
      cases h with
      | location type _ _ _ _ _ => exact nomatch htype.symm.trans type
    | some info =>
      simp only [htype]
      exact (pullAttribute_ends hs htype).congr Iff.rfl fun _ => readsUnnumbered_location_iff.symm

/-- An input without a binding is pulled exactly if it is a struct whose members are. -/
theorem inputValue_struct_ends {fuel : Nat}
    (hmember : ∀ (m : StructMember) (b : Builder),
      Ends (FeedsWithin s.types state fuel m.binding m.type)
        (ReadsUnnumbered s.types state m.binding m.type) (s.inputValue fuel m.binding m.type b))
    (type : TypeId) (b : Builder) :
    Ends (FeedsWithin s.types state (fuel + 1) none type) (ReadsUnnumbered s.types state none type)
      (s.inputValue (fuel + 1) none type b) := by
  unfold inputValue
  cases htype : s.types[type]? with
  | none =>
    refine .refused nofun fun h => ?_
    obtain ⟨_, _, _, hstruct, _⟩ := feedsWithin_none_iff.1 h
    cases htype.symm.trans hstruct
  | some info =>
    obtain ⟨name, shape⟩ := info
    cases shape with
    | struct members span =>
      -- the members end one after the other, and composing them changes nothing of how that ends
      have hmembers := Ends.mapM (l := members) (fun m _ => hmember m) b
      refine (hmembers.map fun made => Builder.push (.compose type made.1) made.2).congr
        ⟨FeedsWithin.struct htype, fun h => ?_⟩ fun location => (readsUnnumbered_struct_iff htype).symm
      obtain ⟨_, _, _, hstruct, each⟩ := feedsWithin_none_iff.1 h
      cases htype.symm.trans hstruct
      exact each
    | _ =>
      refine .refused nofun fun h => ?_
      obtain ⟨_, _, _, hstruct, _⟩ := feedsWithin_none_iff.1 h
      cases htype.symm.trans hstruct

/-- An input is pulled exactly if the state feeds it, its words have a number, and the fuel is enough. -/
theorem inputValue_ends_within (hs : s.layout.Placed state (slotted state 0)) (fuel : Nat)
    (binding : Option IoBinding) (type : TypeId) (b : Builder) :
    Ends (FeedsWithin s.types state fuel binding type) (ReadsUnnumbered s.types state binding type)
      (s.inputValue fuel binding type b) := by
  -- a leaf needs no fuel
  have hleaf (fuel : Nat) (binding : IoBinding) (type : TypeId) (b : Builder) :
      Ends (FeedsWithin s.types state fuel (some binding) type)
        (ReadsUnnumbered s.types state (some binding) type)
        (s.inputValue fuel (some binding) type b) :=
    (inputValue_leaf_ends hs fuel binding type).congr feedsWithin_some_iff.symm fun _ => Iff.rfl
  -- induction on the fuel, one step for the members of a struct
  induction fuel generalizing binding type b with
  | zero =>
    cases binding with
    | some binding => exact hleaf 0 binding type b
    | none => exact .refused nofun nofun
  | succ fuel ih =>
    cases binding with
    | some binding => exact hleaf (fuel + 1) binding type b
    | none => exact inputValue_struct_ends (fun m => ih m.binding m.type) type b

/-- An input is pulled exactly if the state feeds it, and its words have a number. -/
theorem inputValue_ends (hs : s.layout.Placed state (slotted state 0)) {fuel : Nat}
    (hfuel : s.types.length ≤ fuel) (binding : Option IoBinding) (type : TypeId) (b : Builder) :
    Ends (Feeds s.types state binding type) (ReadsUnnumbered s.types state binding type)
      (s.inputValue fuel binding type b) :=
  (inputValue_ends_within hs fuel binding type b).congr (feeds_iff_within hfuel).symm fun _ => Iff.rfl

end PullingScope

end ShaderKit.Vertex
