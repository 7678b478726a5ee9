import PluginHost.Cache.Basic

/-!
# Memoized calls

A memoized call asks the cache first and makes the value only where none is stored. What makes the
value may itself use the cache, let keys die and make others, so the call runs in the surroundings
of the cache: whatever holds the cache and knows which keys are alive.
-/
namespace PluginHost.Cache

/-- Where a cache lives. `W` is the state of everything around it. -/
structure Surroundings (W H K V : Type) where
  cache : W → Cache H K V
  alive : W → K → Bool
  /-- The state after an operation of the cache, which replaces the cache and destroys values. -/
  absorb : Outcome H K V Unit → W → W

variable {W H K V ι : Type} [DecidableEq H] [DecidableEq K]

/-- The value stored under a living key, or else the one that `make` returns, which is then stored.
`make` runs between two operations of the cache; should it have stored a value under an equal key
itself, that one wins. Beside the value stands what else `make` returned, if it ran. -/
def getOrInsert (around : Surroundings W H K V) (config : CacheConfig H K) (key : K)
    (make : W → (V × ι) × W) (start : W) : (V × Option ι) × W :=
  let found := (around.cache start).get config (around.alive start) key
  let asked := around.absorb (found.map fun _ => ()) start
  match found.answer with
  | some value => ((value, none), asked)
  | none =>
    let ((made, extra), state) := make asked
    -- `make` may have changed everything around, so nothing found before it ran is used
    let settled := (around.cache state).settle config (around.alive state) key made
    ((settled.answer, some extra), around.absorb (settled.map fun _ => ()) state)

end PluginHost.Cache
