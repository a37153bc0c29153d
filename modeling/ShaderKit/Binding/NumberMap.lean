/-!
# Maps keyed by number

`NumberMap α` holds values under numbers, in ascending order of the number.  The order is part of the
type, so two maps with the same contents are equal.

* `find?_insert_self`  what was inserted is found
* `find?_insert_of_ne`  other keys are untouched
* `find?_eq_some_iff`  looking up is membership in `entries`
-/

namespace ShaderKit

universe u

/-- Values under numbers, ascending. -/
structure NumberMap (α : Type u) where
  entries : List (Nat × α)
  ascending : entries.Pairwise (fun a b => a.1 < b.1)

namespace NumberMap

variable {α : Type u}

@[ext] theorem ext {m n : NumberMap α} (h : m.entries = n.entries) : m = n := by
  cases m; cases n; simp_all

instance [DecidableEq α] : DecidableEq (NumberMap α) := fun m n =>
  if h : m.entries = n.entries then isTrue (ext h) else isFalse (fun e => h (by rw [e]))

/-- The map of no keys. -/
def empty : NumberMap α := ⟨[], .nil⟩

instance : Inhabited (NumberMap α) := ⟨empty⟩

/-- No key has a value. -/
def isEmpty (m : NumberMap α) : Bool := m.entries.isEmpty

/-- How many keys have a value. -/
def size (m : NumberMap α) : Nat := m.entries.length

/-- The keys in ascending order. -/
def keys (m : NumberMap α) : List Nat := m.entries.map (·.1)

/-- The value under `k`. -/
def find? (m : NumberMap α) (k : Nat) : Option α :=
  (m.entries.find? (·.1 == k)).map (·.2)

/-- The key has a value. -/
def contains (m : NumberMap α) (k : Nat) : Bool := (m.find? k).isSome

/-- Puts `v` under `k` into an ascending list, in place of an older value. -/
def place (k : Nat) (v : α) : List (Nat × α) → List (Nat × α)
  | [] => [(k, v)]
  | e :: rest =>
    if k < e.1 then (k, v) :: e :: rest
    else if k = e.1 then (k, v) :: rest
    else e :: place k v rest

theorem mem_place {k : Nat} {v : α} {l : List (Nat × α)} {x : Nat × α} (h : x ∈ place k v l) :
    x = (k, v) ∨ x ∈ l := by
  induction l with
  | nil => simpa [place] using h
  | cons e rest ih =>
    unfold place at h
    split at h
    · simpa using h
    · split at h
      · simp only [List.mem_cons] at h ⊢
        exact h.imp_right .inr
      · simp only [List.mem_cons] at h ⊢
        rcases h with h | h
        · exact .inr (.inl h)
        · exact (ih h).imp_right .inr

theorem pairwise_place (k : Nat) (v : α) {l : List (Nat × α)}
    (h : l.Pairwise (fun a b => a.1 < b.1)) : (place k v l).Pairwise (fun a b => a.1 < b.1) := by
  induction l with
  | nil => simp [place]
  | cons e rest ih =>
    obtain ⟨he, hr⟩ := List.pairwise_cons.1 h
    unfold place
    split
    · rename_i hk
      refine List.pairwise_cons.2 ⟨fun x hx => ?_, h⟩
      rcases List.mem_cons.1 hx with rfl | hx
      · exact hk
      · exact Nat.lt_trans hk (he x hx)
    · split
      · rename_i hk
        exact List.pairwise_cons.2 ⟨fun x hx => hk ▸ he x hx, hr⟩
      · refine List.pairwise_cons.2 ⟨fun x hx => ?_, ih hr⟩
        rcases mem_place hx with rfl | hx
        · omega
        · exact he x hx

/-- Puts `v` under `k`, in place of an older value. -/
def insert (m : NumberMap α) (k : Nat) (v : α) : NumberMap α :=
  ⟨place k v m.entries, pairwise_place k v m.ascending⟩

/-- Takes out the value under `k`, if there is one. -/
def erase (m : NumberMap α) (k : Nat) : NumberMap α :=
  ⟨m.entries.filter (·.1 != k), m.ascending.filter _⟩

/-- The map of a list of pairs; of two values of one key the later one counts. -/
def ofList (l : List (Nat × α)) : NumberMap α :=
  l.foldl (fun m e => m.insert e.1 e.2) empty

@[simp] theorem find?_empty (k : Nat) : (empty : NumberMap α).find? k = none := rfl

@[simp] theorem find?_insert_self (m : NumberMap α) (k : Nat) (v : α) :
    (m.insert k v).find? k = some v := by
  obtain ⟨l, h⟩ := m
  simp only [find?, insert]
  induction l with
  | nil => simp [place]
  | cons e rest ih =>
    unfold place
    split
    · simp
    · split
      · simp
      · rename_i h1 h2
        rw [List.find?_cons_of_neg (by simpa using fun h => h2 h.symm)]
        exact ih (List.pairwise_cons.1 h).2

theorem find?_insert_of_ne (m : NumberMap α) {k j : Nat} (v : α) (hne : j ≠ k) :
    (m.insert k v).find? j = m.find? j := by
  obtain ⟨l, h⟩ := m
  simp only [find?, insert]
  induction l with
  | nil => simp [place, Ne.symm hne]
  | cons e rest ih =>
    unfold place
    split
    · simp [Ne.symm hne]
    · split
      · rename_i h2
        have : ¬ e.1 = j := h2 ▸ Ne.symm hne
        simp [Ne.symm hne, this]
      · have := ih (List.pairwise_cons.1 h).2
        simp only [List.find?_cons]
        split
        · rfl
        · exact this

theorem find?_eq_some_iff (m : NumberMap α) {k : Nat} {v : α} :
    m.find? k = some v ↔ (k, v) ∈ m.entries := by
  obtain ⟨l, h⟩ := m
  simp only [find?]
  induction l with
  | nil => simp
  | cons e rest ih =>
    obtain ⟨he, hr⟩ := List.pairwise_cons.1 h
    by_cases hk : e.1 = k
    · have hne : (k, v) ∉ rest := fun hm => by
        have := he _ hm
        omega
      rw [List.find?_cons_of_pos (by simpa using hk)]
      subst hk
      simp only [Option.map_some, Option.some.injEq, List.mem_cons, hne, or_false]
      exact ⟨fun hv => hv ▸ rfl, fun hv => hv ▸ rfl⟩
    · rw [List.find?_cons_of_neg (by simpa using hk), ih hr]
      have hne : (k, v) ≠ e := fun hv => hk (hv ▸ rfl)
      simp [hne]

end NumberMap

end ShaderKit
