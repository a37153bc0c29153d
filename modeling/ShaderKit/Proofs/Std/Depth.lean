import Mathlib.Data.List.Basic
import Mathlib.Logic.Relation

/-!
# Depth

The number of steps that can be taken from an element, one to any of the elements that it leads to.  Where
no path goes on for ever, none comes back to an element that it has left, so there are no more steps than
elements to take them from.

## Key results

- `Within.of_acc`: paths that end have at most as many steps as there are elements to step from
-/

namespace ShaderKit.Depth

universe u

variable {α : Type u} {r : α → α → Prop}

/-- No path from `t` has more than `n` steps. -/
def Within (r : α → α → Prop) : Nat → α → Prop
  | 0, t => ∀ u, ¬ r t u
  | n + 1, t => ∀ u, r t u → Within r n u

/-- No path comes back to an element from which all paths end. -/
theorem not_back_of_acc {t : α} (h : Acc (fun u t => r t u) t) {u : α} (hstep : r t u) :
    ¬ Relation.ReflTransGen r u t := by
  induction h generalizing u with
  | intro t _ ih =>
    intro hback
    rcases Relation.ReflTransGen.cases_head hback with rfl | ⟨v, hv, hrest⟩
    · exact ih u hstep hstep .refl
    · exact ih u hstep hv (hrest.tail hstep)

/-- Paths that end have at most as many steps as there are elements to step from. -/
theorem Within.of_acc [DecidableEq α] {t : α} (h : Acc (fun u t => r t u) t) {l : List α}
    (hl : ∀ v w, Relation.ReflTransGen r t v → r v w → v ∈ l) : Within r l.length t := by
  induction h generalizing l with
  | intro t hacc ih =>
    have hstart : ∀ u, r t u → t ∈ l := fun u hu => hl t u .refl hu
    cases hlength : l.length with
    | zero =>
      intro u hu
      rw [List.length_eq_zero_iff.1 hlength] at hstart
      exact List.not_mem_nil (hstart u hu)
    | succ n =>
      intro u hu
      have herase : (l.erase t).length = n := by
        rw [List.length_erase_of_mem (hstart u hu), hlength, Nat.add_sub_cancel]
      rw [← herase]
      -- after the first step `t` is behind
      refine ih u hu fun v w hv hw => (List.mem_erase_of_ne ?_).2 (hl v w (hv.head hu) hw)
      rintro rfl
      exact not_back_of_acc ⟨v, hacc⟩ hu hv

end ShaderKit.Depth
