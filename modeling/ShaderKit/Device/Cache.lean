import ShaderKit.Spirv.Grammar.Kind

/-!
# The module cache

Modules filed under the hash of their words.  The cache keeps no module alive: it knows modules by
their number only, and an entry goes when its module goes.
-/

namespace ShaderKit

open Spirv (Word)

/-- A module's number.  No number is used twice. -/
abbrev ModuleId := Nat

/-- What the cache counts. -/
structure CacheStats where
  hits : Nat := 0
  misses : Nat := 0
  /-- Misses that found another module under the same hash. -/
  collisions : Nat := 0
  removals : Nat := 0
  deriving DecidableEq

/-- The modules of a device by the hash of their code. -/
structure ModuleCache where
  /-- The modules under each hash, oldest first.  No bucket is empty. -/
  buckets : List (UInt64 × List ModuleId) := []
  stats : CacheStats := {}
  deriving DecidableEq

namespace ModuleCache

/-- The modules under `hash`. -/
def bucket (c : ModuleCache) (hash : UInt64) : List ModuleId := (c.buckets.lookup hash).getD []

/-- All modules in the cache. -/
def entries (c : ModuleCache) : List ModuleId := c.buckets.flatMap (·.2)

/-- The number of modules in the cache. -/
def size (c : ModuleCache) : Nat := c.entries.length

/-- The live module under `hash` that has the given words, where `wordsOf` knows the words of live
modules.  Counts the hit or the miss. -/
def lookup (c : ModuleCache) (wordsOf : ModuleId → Option (List Word)) (hash : UInt64)
    (words : List Word) : Option ModuleId × ModuleCache :=
  let live := (c.bucket hash).filterMap fun id => (wordsOf id).map (id, ·)
  match live.find? fun (_, w) => w == words with
  | some (id, _) => (some id, { c with stats.hits := c.stats.hits + 1 })
  | none =>
    let collisions := if live.isEmpty then c.stats.collisions else c.stats.collisions + 1
    (none, { c with stats := { c.stats with misses := c.stats.misses + 1, collisions } })

/-- The buckets with one more entry under `hash`. -/
def file (hash : UInt64) (id : ModuleId) :
    List (UInt64 × List ModuleId) → List (UInt64 × List ModuleId)
  | [] => [(hash, [id])]
  | (h, ids) :: rest => if h = hash then (h, ids ++ [id]) :: rest else (h, ids) :: file hash id rest

/-- Files a module under a hash. -/
def insert (c : ModuleCache) (hash : UInt64) (id : ModuleId) : ModuleCache :=
  { c with buckets := file hash id c.buckets }

/-- The buckets without the entry `id` under `hash`. -/
def unfile (hash : UInt64) (id : ModuleId) :
    List (UInt64 × List ModuleId) → List (UInt64 × List ModuleId)
  | [] => []
  | (h, ids) :: rest =>
    if h = hash then
      let left := ids.filter (· != id)
      if left.isEmpty then rest else (h, left) :: rest
    else (h, ids) :: unfile hash id rest

/-- Removes a module's entry, and counts it if there was one. -/
def remove (c : ModuleCache) (hash : UInt64) (id : ModuleId) : ModuleCache :=
  let removals := if (c.bucket hash).contains id then c.stats.removals + 1 else c.stats.removals
  ⟨unfile hash id c.buckets, { c.stats with removals }⟩

end ModuleCache

end ShaderKit
