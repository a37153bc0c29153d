import ShaderKit.Proofs.Reflection.TypedInventory
import ShaderKit.Proofs.Resource.Contents
import ShaderKit.Reflection.Backend

/-!
# When the backends agree

Both backends start from what the words declare.  The reflection service extracts metadata from that; the
cross compiler extracts it from what the typed representation shows.  They agree exactly where both views
break the same rule first, or break none and say the same of every slot, attribute and color target.

## Key results

- `reflect_eq_reflect_iff`: the words for which the two backends have the same outcome
-/

namespace ShaderKit.Reflection

open Spirv (Word)
open Resource (Inventory)

/-- The typed representation adds nothing to what the words declare and takes nothing from it. -/
def ShowsDeclared (declared : Inventory) : Except ReflectionError (Option Ir.Module) → Prop
  | .error _ => False
  | .ok none => True
  | .ok (some m) => ∃ entry, m.entryPoints.head? = some entry ∧
      (∀ v ∈ m.globals, m.sizeFault? declared v = none) ∧
      declared.SameOutcome (m.shown declared entry)

/-- The typed representation is never refused by a rule of extraction. -/
private theorem lift?_ne_extraction (words : List Word) (rule : ExtractionError) :
    lift? words ≠ .error (.extraction rule) := by
  unfold lift?
  split
  · exact nofun
  · split <;> exact nofun

/-- Outcomes of extraction are distinct from failures that come before it. -/
private theorem mapError_extraction_eq_iff {x y : Except ExtractionError EntryPointMetadata} :
    x.mapError ReflectionError.extraction = y.mapError ReflectionError.extraction ↔ x = y := by
  cases x <;> cases y <;> simp [Except.mapError]

private theorem error_ne_mapError_extraction {e : ReflectionError}
    (h : ∀ rule, e ≠ .extraction rule) (x : Except ExtractionError EntryPointMetadata) :
    Except.error e ≠ x.mapError ReflectionError.extraction := by
  cases x with
  | error rule => exact fun heq => h rule (Except.error.inj heq)
  | ok m => exact nofun

/-- Words that are too many are refused before a backend sees them. -/
private theorem reflect_of_large {words : List Word} (h : Limits.spirvWords < words.length)
    (backend : ReflectionBackend) : reflect backend words = .error (.tooLarge words.length) := by
  simp only [reflect, if_pos h]
  rfl

/-- The reflection service extracts what the words declare. -/
private theorem reflect_service {words : List Word} {declared : Inventory}
    (hsmall : ¬ Limits.spirvWords < words.length)
    (hdeclared : Spirv.declaredInventory words = .ok declared) :
    reflect .reflectionService words = declared.extract.mapError .extraction := by
  simp only [reflect, if_neg hsmall, collect, hdeclared]
  rfl

/-- The cross compiler extracts what the typed representation shows, if there is one. -/
private theorem reflect_cross {words : List Word} {declared : Inventory}
    (hsmall : ¬ Limits.spirvWords < words.length)
    (hdeclared : Spirv.declaredInventory words = .ok declared) :
    reflect .crossCompiler words = match lift? words with
      | .error e => .error e
      | .ok none => declared.extract.mapError .extraction
      | .ok (some m) => match m.inventory declared with
        | .error e => .error e
        | .ok t => t.extract.mapError .extraction := by
  simp only [reflect, if_neg hsmall, collect, crossCompiled, hdeclared]
  cases lift? words with
  | error e => rfl
  | ok typed =>
    -- without a typed representation the cross compiler falls back on what is declared
    cases typed with
    | none => rfl
    | some m => cases hinventory : m.inventory declared <;> simp [bind, Except.bind, hinventory]

/-- What a typed representation shows is extracted like what is declared exactly if it shows that. -/
private theorem inventory_extract_eq_iff (declared : Inventory) (m : Ir.Module) :
    (match m.inventory declared with
      | .error e => .error e
      | .ok t => t.extract.mapError .extraction) = declared.extract.mapError .extraction ↔
      ShowsDeclared declared (.ok (some m)) := by
  cases hinventory : m.inventory declared with
  | error e =>
    -- a failure before extraction is none of extraction, so the service cannot have it
    have hne (rule : ExtractionError) : e ≠ .extraction rule := by
      rintro rfl
      exact m.inventory_ne_extraction rule hinventory
    refine iff_of_false (error_ne_mapError_extraction hne _) ?_
    rintro ⟨entry, hentry, hsized, _⟩
    exact nomatch hinventory.symm.trans
      (Ir.Module.inventory_eq_ok_iff.2 ⟨entry, hentry, hsized, rfl⟩)
  | ok t =>
    -- what is shown is extracted alike exactly if it agrees with what is declared
    obtain ⟨entry, hentry, hsized, rfl⟩ := Ir.Module.inventory_eq_ok_iff.1 hinventory
    dsimp only
    rw [mapError_extraction_eq_iff, eq_comm, Inventory.extract_eq_extract_iff]
    constructor
    · exact fun h => ⟨entry, hentry, hsized, h⟩
    · rintro ⟨entry', hentry', _, h⟩
      rw [hentry] at hentry'
      cases hentry'
      exact h

/-- The backends have the same outcome exactly for words that are too many, that declare no inventory, or
whose typed representation shows what they declare. -/
theorem reflect_eq_reflect_iff (words : List Word) :
    reflect .crossCompiler words = reflect .reflectionService words ↔
      ∀ declared, words.length ≤ Limits.spirvWords →
        Spirv.declaredInventory words = .ok declared → ShowsDeclared declared (lift? words) := by
  -- the backends share the limit and what is declared; after that they part
  by_cases hlarge : Limits.spirvWords < words.length
  · rw [reflect_of_large hlarge, reflect_of_large hlarge]
    exact iff_of_true rfl fun _ hle => absurd hle (Nat.not_le.2 hlarge)
  cases hdeclared : Spirv.declaredInventory words with
  | error e =>
    simp only [reflect, if_neg hlarge, collect, crossCompiled, hdeclared]
    simp [bind, Except.bind]
  | ok declared =>
    simp only [Except.ok.injEq, forall_eq', Nat.not_lt.1 hlarge, true_implies]
    rw [reflect_cross hlarge hdeclared, reflect_service hlarge hdeclared]
    cases hlift : lift? words with
    | error e =>
      have hne (rule : ExtractionError) : e ≠ .extraction rule := by
        rintro rfl
        exact lift?_ne_extraction words rule hlift
      exact iff_of_false (error_ne_mapError_extraction hne _) id
    | ok typed =>
      cases typed with
      | none => exact iff_of_true rfl trivial
      | some m => exact inventory_extract_eq_iff declared m

/-- A fragment shader with an image to sample from, of which it gives the texel format all the same. -/
def formattedSampledImage : List Word :=
  [0x07230203, 0x00010300, 7, 9, 0, 0x00020011, 1, 0x00020011, 43, 0x00020011, 44, 0x00020011, 46,
   0x00020011, 47, 0x00020011, 49, 0x00020011, 50, 0x0003000e, 0, 1, 0x0005000f, 4, 7, 0x6e69616d, 0,
   0x00030010, 7, 7, 0x00030005, 4, 0x00676d69, 0x00040047, 4, 34, 0, 0x00040047, 4, 33, 0,
   0x00030016, 1, 32, 0x00090019, 2, 1, 1, 0, 0, 0, 1, 4, 0x00040020, 3, 0, 2, 0x0004003b, 3, 4, 0,
   0x00020013, 5, 0x00030021, 6, 5, 0x00050036, 5, 7, 0, 6, 0x000200f8, 8, 0x000100fd, 0x00010038]

-- The format alone makes it a storage image in the typed representation.
example : reflect .crossCompiler formattedSampledImage ≠
    reflect .reflectionService formattedSampledImage := by
  decide +kernel

end ShaderKit.Reflection
