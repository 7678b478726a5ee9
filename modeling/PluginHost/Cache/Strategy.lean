/-!
# Key strategies

How a cache tells keys apart. A strategy hashes keys and compares a stored key with a probe; the
cache itself does neither.
-/
namespace PluginHost

/-- Hashing and equality of keys. `H` is what keys are hashed to. -/
structure KeyStrategy (H K : Type) where
  /-- The hash of a key. It is taken when the key is inserted and again on every probe. -/
  hash : K → H
  /-- Whether a stored key and a probe name the same entry. -/
  equal : (stored probe : K) → Bool

/-- How a cache behaves. -/
structure CacheConfig (H K : Type) where
  strategy : KeyStrategy H K
  /-- The least number of operations between two full sweeps. -/
  sweepFloor : UInt64 := 64

end PluginHost
