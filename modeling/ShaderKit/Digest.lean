/-!
# Content hash

The hash that names a word sequence in the module cache.
-/

namespace ShaderKit.Digest

/-- Mixes `value` into `seed`.  The order of mixing matters, so permuted words hash differently. -/
def combine (seed value : UInt64) : UInt64 :=
  seed ^^^ (value + 0x9e3779b97f4a7c15 + (seed <<< (6 : UInt64)) + (seed >>> (2 : UInt64)))

/-- Hash of a word sequence, seeded with its length. -/
def ofWords (words : List UInt32) : UInt64 :=
  words.foldl (fun seed w => combine seed w.toUInt64) (UInt64.ofNat words.length)

end ShaderKit.Digest
